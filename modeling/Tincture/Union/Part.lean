import Tincture.Text.Digit

/-!
The parts of a pattern.

To join patterns it is enough to know their bracket classes, escapes, groups and carets; everything
else is literal. `Part.split` cuts the text of a pattern into such parts without losing any of it.
-/

namespace Tincture.Union

/-- A part of the text of a pattern. -/
inductive Part where
  /-- A bracket class, brackets included. -/
  | bracket (text : List Char)
  /-- An escape that is not made of digits. -/
  | escape (text : List Char)
  /-- A backslash and digits, and their value. -/
  | numeric (text : List Char) (value : Nat)
  /-- The opening of a group that does not capture. -/
  | nonCapturing (text : List Char)
  | group
  | close
  | caret
  | literal (text : List Char)
deriving DecidableEq

namespace Part

/-- The text of a part. -/
def text : Part → List Char
  | .bracket text | .escape text | .numeric text _ | .nonCapturing text | .literal text => text
  | .group => ['(']
  | .close => [')']
  | .caret => ['^']

/-- The number of characters of a class up to its closing bracket, the opening one not counted;
`none` when it is never closed. -/
def classLength? : List Char → Option Nat
  | [] => none
  | ']' :: _ => some 1
  | '\\' :: _ :: rest => (classLength? rest).map (· + 2)
  | _ :: rest => (classLength? rest).map (· + 1)

/-- The escape whose backslash stands before the characters. The value of one made of digits is not
bounded by a machine word: one beyond all groups and beyond `\uffff` is written in the same way
however large it is (`codePoint`). -/
def ofEscape (rest : List Char) : Part :=
  match rest with
  | [] => .literal ['\\']
  | c :: more =>
    if c == 'u' && (leadingDigits 16 4 more).length == 4 then .escape ('\\' :: c :: more.take 4)
    else if c == 'x' && (leadingDigits 16 2 more).length == 2 then
      .escape ('\\' :: c :: more.take 2)
    else if c.isDigit then
      let ds := c :: more.takeWhile Char.isDigit
      .numeric ('\\' :: ds) (numeral 10 ds)
    else .escape ['\\', c]

/-- The group whose parenthesis stands before the characters. -/
def ofParenthesis : List Char → Part
  | '?' :: '<' :: '=' :: _ => .nonCapturing ['(', '?', '<', '=']
  | '?' :: '<' :: '!' :: _ => .nonCapturing ['(', '?', '<', '!']
  | '?' :: ':' :: _ => .nonCapturing ['(', '?', ':']
  | '?' :: '=' :: _ => .nonCapturing ['(', '?', '=']
  | '?' :: '!' :: _ => .nonCapturing ['(', '?', '!']
  | '?' :: '>' :: _ => .nonCapturing ['(', '?', '>']
  | _ => .group

/-- Whether a character ends a run of literal text. -/
def isSpecial (c : Char) : Bool :=
  c == '[' || c == '\\' || c == '(' || c == ')' || c == '^'

/-- The part that begins with `c`. -/
def first (c : Char) (rest : List Char) : Part :=
  match c with
  | '[' =>
    match classLength? rest with
    | some n => .bracket ('[' :: rest.take n)
    | none => .literal ['[']
  | '\\' => ofEscape rest
  | '(' => ofParenthesis rest
  | ')' => .close
  | '^' => .caret
  | _ => .literal (c :: rest.takeWhile (!isSpecial ·))

/-- Cuts the text of a pattern into parts. -/
def split : List Char → List Part
  | [] => []
  | c :: rest =>
    let part := first c rest
    part :: split (rest.drop (part.text.length - 1))
termination_by cs => cs.length

end Part

end Tincture.Union
