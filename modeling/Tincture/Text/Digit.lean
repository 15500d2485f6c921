/-!
Digits and the numbers they write.
-/

namespace Tincture

/-- The value of a digit in the given radix, letters of either case standing for ten and more. -/
def digitValue? (radix : Nat) (c : Char) : Option Nat :=
  let n := c.toNat
  let value? :=
    if 48 ≤ n ∧ n ≤ 57 then some (n - 48)
    else if 97 ≤ n ∧ n ≤ 122 then some (n - 87)
    else if 65 ≤ n ∧ n ≤ 90 then some (n - 55)
    else none
  value?.filter (· < radix)

/-- Whether the character is a digit in the given radix. -/
def isDigitIn (radix : Nat) (c : Char) : Bool :=
  (digitValue? radix c).isSome

/-- The number the digits write in the given radix, a character that is no digit counting as
zero. -/
def numeral (radix : Nat) (cs : List Char) : Nat :=
  cs.foldl (fun n c => n * radix + (digitValue? radix c).getD 0) 0

/-- The digits a text begins with, at most `most` of them. -/
def leadingDigits (radix most : Nat) (cs : List Char) : List Char :=
  (cs.take most).takeWhile (isDigitIn radix)

/-- At least `width` digits of a number, zeros leading. -/
def digits (radix width n : Nat) : List Char :=
  let ds := Nat.toDigits radix n
  List.replicate (width - ds.length) '0' ++ ds

end Tincture
