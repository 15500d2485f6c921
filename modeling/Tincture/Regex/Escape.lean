import Tincture.Regex.Fault
import Tincture.Text.Digit

/-!
Escapes that stand for a code point.

The escapes have the same forms inside and outside brackets. An escape is read from the characters
after its letter, and the reader says how many of them belong to it.

A hexadecimal or octal escape names a byte. Bytes below 128 are characters; the others must make up
the UTF-8 form of one, and `Escape.sequence?` joins them.
-/

namespace Tincture.Regex

/-- What an escape stands for. -/
inductive Escaped where
  | code (n : Nat)
  /-- A byte, and the radix it is written in. -/
  | byte (n radix : Nat)
deriving DecidableEq

namespace Escape

/-- The control characters that have a letter. -/
def control? : Char → Option Nat
  | 'n' => some 10
  | 't' => some 9
  | 'r' => some 13
  | 'f' => some 12
  | 'a' => some 7
  | 'e' => some 27
  | 'v' => some 11
  | 'b' => some 8
  | _ => none

/-- The code point of `\c` followed by the characters, and how many belong to it. -/
def controlCode : List Char → Except Fault (Nat × Nat)
  | [] => .error .endAtControl
  | '?' :: _ => .ok (0x7f, 1)
  | '\\' :: 'c' :: rest => do
    let (n, used) ← controlCode rest
    return (n % 32 + n / 128 % 2 * 128, used + 2)
  | '\\' :: c :: _ =>
    let n := (control? c).getD c.toNat
    .ok (n % 32 + n / 128 % 2 * 128, 2)
  | '\\' :: [] => .error .endAtEscape
  | c :: _ => .ok (c.toNat % 32 + c.toNat / 128 % 2 * 128, 1)

/-- The octal number the characters begin with, of at most `most` digits, and their number. -/
def octal (most : Nat) (cs : List Char) : Nat × Nat :=
  let ds := leadingDigits 8 most cs
  (numeral 8 ds, ds.length)

/-- The escape with letter `c`, of the forms that are common to both places, followed by `rest`. -/
def read (c : Char) (rest : List Char) : Except Fault (Escaped × Nat) :=
  if c == 'x' && !rest.isEmpty then
    let ds := leadingDigits 16 2 rest
    .ok (.byte (numeral 16 ds) 16, ds.length)
  else if c == 'u' && !rest.isEmpty then
    let ds := leadingDigits 16 4 rest
    if ds.length = 4 then .ok (.code (numeral 16 ds), 4) else .error .invalidCodePoint
  else if c == 'c' then do
    let (n, used) ← controlCode rest
    return (.code n, used)
  else .ok (.code ((control? c).getD c.toNat), 0)

/-! ### Bytes -/

/-- How many bytes follow the first byte of a character. -/
def followers (lead : Nat) : Nat :=
  if lead < 0xc0 then 0
  else if lead < 0xe0 then 1
  else if lead < 0xf0 then 2
  else if lead < 0xf5 then 3
  else 0

/-- Whether the byte goes on with a character. -/
def isFollower (b : Nat) : Bool := 0x80 ≤ b && b < 0xc0

/-- The code point of a first byte and the bytes that follow it; `none` when they are not the UTF-8
form of one. -/
def sequence? (lead : Nat) (bytes : List Nat) : Option Nat :=
  if bytes.all isFollower then
    let high := match bytes.length with
      | 1 => lead - 0xc0
      | 2 => lead - 0xe0
      | _ => lead - 0xf0
    let n := bytes.foldl (fun n b => n * 64 + (b - 0x80)) high
    let least := match bytes.length with
      | 1 => 0x80
      | 2 => 0x800
      | _ => 0x10000
    if least ≤ n && n < 0x110000 && !(0xd800 ≤ n && n < 0xe000) then some n else none
  else none

/-- The byte escape at the front of the characters, if there is one: its byte, its radix and its
length. -/
def byte? : List Char → Option (Nat × Nat × Nat)
  | '\\' :: c :: rest =>
    if c == 'x' && !rest.isEmpty then
      let ds := leadingDigits 16 2 rest
      some (numeral 16 ds, 16, ds.length + 2)
    else if isDigitIn 8 c then
      let (n, used) := octal 3 (c :: rest)
      some (n % 256, 8, used + 1)
    else none
  | _ => none

/-- The next `count` byte escapes the characters begin with, all in the radix if one is given, and
their length; `none` when there are fewer. -/
def bytes? (radix : Option Nat) : Nat → List Char → Option (List Nat × Nat)
  | 0, _ => some ([], 0)
  | count + 1, cs => do
    let (b, r, used) ← byte? cs
    if radix.all (· == r) then
      let (bs, more) ← bytes? radix count (cs.drop used)
      return (b :: bs, used + more)
    else none

end Escape

end Tincture.Regex
