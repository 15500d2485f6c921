import Tincture.Text.Digit

/-!
The size of numbers in JSON documents.

A number may be written with any exponent. `Json.withinRange` says whether it rounds to a finite
number of double precision.
-/

namespace Tincture.Json

/-- The least number that rounds to infinity in double precision. -/
def firstInfinite : Nat := Nat.pow 2 1024 - Nat.pow 2 970

/-- Splits a literal without sign into its digits, how many of them stand behind the point, and its
exponent. -/
def decimalParts (literal : List Char) : List Char × Nat × Int :=
  let whole := literal.takeWhile Char.isDigit
  let rest := literal.drop whole.length
  let part := match rest with
    | '.' :: more => more.takeWhile Char.isDigit
    | _ => []
  let power := (rest.dropWhile fun c => c != 'e' && c != 'E').drop 1
  let exponent : Int := match power with
    | '-' :: ds => -(numeral 10 ds : Int)
    | '+' :: ds => numeral 10 ds
    | ds => numeral 10 ds
  (whole ++ part, part.length, exponent)

/-- Whether the number of a literal rounds to a finite one. -/
def withinRange (literal : String) : Bool :=
  let cs := literal.toList
  let (ds, behind, exponent) := decimalParts (if cs.head? = some '-' then cs.tail else cs)
  let ds := ds.dropWhile (· == '0')
  let scale := exponent - behind
  if ds.isEmpty then true
  else if 310 < ds.length + scale then false
  else if ds.length + scale < 300 then true
  else if 0 ≤ scale then numeral 10 ds * Nat.pow 10 scale.toNat < firstInfinite
  else numeral 10 ds < firstInfinite * Nat.pow 10 (-scale).toNat

end Tincture.Json
