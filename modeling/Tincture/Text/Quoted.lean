import Tincture.Text.Property.Graphic
import Tincture.Text.Property.Space

/-!
Quoted texts.

A quoted text stands between double quotes on one line: quotes, backslashes and the common control
characters are written as escapes, and so is every character without a shape of its own.
-/

namespace Tincture.Quoted

/-- Code points that can be shown: assigned, and neither control, format, private use nor surrogate
nor a separator other than the space. -/
def shown (c : Char) : Bool :=
  c == ' ' ||
    ((Property.assigned.holds c || Property.recentlyAssigned.holds c)
      && !Property.control.holds c && !Property.format.holds c && !Property.privateUse.holds c
      && !Property.surrogate.holds c && !Property.spaceSeparator.holds c
      && !Property.lineSeparator.holds c)

/-- One character between the quotes. -/
def char (c : Char) : List Char :=
  match c with
  | '\x00' => ['\\', '0']
  | '\t' => ['\\', 't']
  | '\r' => ['\\', 'r']
  | '\n' => ['\\', 'n']
  | '\\' => ['\\', '\\']
  | '"' => ['\\', '"']
  | _ =>
    if c.toNat < 127 && 32 ≤ c.toNat then [c]
    else if Property.graphemeExtend.holds c || !shown c then
      ['\\', 'u', '{'] ++ Nat.toDigits 16 c.toNat ++ ['}']
    else [c]

/-- The text between quotes. -/
def text (s : String) : String :=
  String.ofList ('"' :: s.toList.flatMap char ++ ['"'])

/-- A list of quoted texts in brackets. -/
def texts (ss : List String) : String :=
  "[" ++ ", ".intercalate (ss.map text) ++ "]"

end Tincture.Quoted
