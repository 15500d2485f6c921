import Tincture.Json.Value
import Tincture.Text.Digit

/-!
Tokens of JSON documents.

The tokens are the brackets, the separators and the atomic values; blanks between them are dropped.
The reader is strict: no leading zeros, no raw control characters in strings, no comments.
-/

namespace Tincture.Json

/-- A token of a document. -/
inductive Token where
  | openList
  | closeList
  | openRecord
  | closeRecord
  | comma
  | colon
  /-- A string, with the text it stands for if there is one. -/
  | text (content : Option String)
  /-- A value that is neither a string nor has parts. -/
  | atom (value : Json)

namespace Token

/-- Blanks that may stand between tokens. -/
def isBlank (c : Char) : Bool :=
  c == ' ' || c == '\t' || c == '\n' || c == '\r'

/-! ### Numbers -/

/-- A fraction at the front of the characters, or nothing, and the rest; `none` for a point without
digits. -/
def fraction? : List Char → Option (List Char × List Char)
  | '.' :: rest =>
    let ds := rest.takeWhile Char.isDigit
    if ds.isEmpty then none else some ('.' :: ds, rest.dropWhile Char.isDigit)
  | rest => some ([], rest)

/-- An exponent at the front of the characters, or nothing, and the rest; `none` for a mark without
digits. -/
def exponent? : List Char → Option (List Char × List Char)
  | [] => some ([], [])
  | c :: rest =>
    if c == 'e' || c == 'E' then
      let (sign, rest) :=
        match rest with
        | '+' :: rest => (['+'], rest)
        | '-' :: rest => (['-'], rest)
        | _ => ([], rest)
      let ds := rest.takeWhile Char.isDigit
      if ds.isEmpty then none else some (c :: sign ++ ds, rest.dropWhile Char.isDigit)
    else some ([], c :: rest)

/-- The digits before the point, and the rest: a lone zero or digits that begin with another. -/
def integer? : List Char → Option (List Char × List Char)
  | '0' :: rest =>
    match rest with
    | c :: _ => if c.isDigit then none else some (['0'], rest)
    | [] => some (['0'], [])
  | cs =>
    let ds := cs.takeWhile Char.isDigit
    if ds.isEmpty then none else some (ds, cs.dropWhile Char.isDigit)

/-- A number at the front of the characters. -/
def number? (cs : List Char) : Option (Token × List Char) := do
  let (sign, cs) :=
    match cs with
    | '-' :: rest => (['-'], rest)
    | _ => ([], cs)
  let (whole, cs) ← integer? cs
  let (part, cs) ← fraction? cs
  let (power, cs) ← exponent? cs
  return (.atom (.number (String.ofList (sign ++ whole ++ part ++ power))), cs)

/-! ### Strings -/

/-- The text of a string while it is read: its characters in reverse, or nothing once an escape has
named half of a pair; and the first half of a pair that still waits for its second. -/
structure Draft where
  chars : Option (List Char) := some []
  half : Option Nat := none

namespace Draft

/-- Adds a character; a half that still waits is left alone. -/
def push (d : Draft) (c : Char) : Draft :=
  { chars := if d.half.isSome then none else d.chars.map (c :: ·) }

/-- Adds a UTF-16 unit, which joins the half that waits for it. -/
def pushUnit (d : Draft) (u : Nat) : Draft :=
  match d.half with
  | some high =>
    if 0xDC00 ≤ u ∧ u < 0xE000 then
      let n := 0x10000 + (high - 0xD800) * 0x400 + (u - 0xDC00)
      { chars := d.chars.map (Char.ofNat n :: ·) }
    else { chars := none }
  | none =>
    if 0xD800 ≤ u ∧ u < 0xDC00 then { d with half := some u }
    else if 0xDC00 ≤ u ∧ u < 0xE000 then { chars := none }
    else d.push (Char.ofNat u)

/-- The text, if there is one. -/
def finish (d : Draft) : Option String :=
  if d.half.isSome then none else d.chars.map fun cs => String.ofList cs.reverse

end Draft

/-- What a one-letter escape stands for. -/
def unescape? : Char → Option Char
  | '"' => some '"'
  | '\\' => some '\\'
  | '/' => some '/'
  | 'b' => some '\x08'
  | 'f' => some '\x0c'
  | 'n' => some '\n'
  | 'r' => some '\r'
  | 't' => some '\t'
  | _ => none

/-- The rest of a string, up to the closing quote, and what follows it. -/
def text? (d : Draft) : List Char → Option (Token × List Char)
  | [] => none
  | '"' :: rest => some (.text d.finish, rest)
  | '\\' :: 'u' :: a :: b :: c :: e :: rest =>
    if [a, b, c, e].all (isDigitIn 16) then text? (d.pushUnit (numeral 16 [a, b, c, e])) rest
    else none
  | '\\' :: c :: rest =>
    match unescape? c with
    | some c => text? (d.push c) rest
    | none => none
  | c :: rest => if c.toNat < 32 || c == '\\' then none else text? (d.push c) rest

/-! ### The whole document -/

/-- Drops a word from the front of the characters. -/
def word? : List Char → List Char → Option (List Char)
  | [], cs => some cs
  | w :: ws, c :: cs => if w == c then word? ws cs else none
  | _ :: _, [] => none

/-- The token at the front of the characters, which begin with no blank, and the rest. -/
def next? : List Char → Option (Token × List Char)
  | [] => none
  | '[' :: rest => some (.openList, rest)
  | ']' :: rest => some (.closeList, rest)
  | '{' :: rest => some (.openRecord, rest)
  | '}' :: rest => some (.closeRecord, rest)
  | ',' :: rest => some (.comma, rest)
  | ':' :: rest => some (.colon, rest)
  | '"' :: rest => text? {} rest
  | 'n' :: rest => (word? "ull".toList rest).map (.atom .null, ·)
  | 't' :: rest => (word? "rue".toList rest).map (.atom (.bool true), ·)
  | 'f' :: rest => (word? "alse".toList rest).map (.atom (.bool false), ·)
  | cs => number? cs

/-- The tokens of a document, `none` when some part of it is no token. -/
def scan (cs : List Char) : Option (List Token) :=
  match cs.dropWhile isBlank with
  | [] => some []
  | c :: rest =>
    match next? (c :: rest) with
    | none => none
    | some (token, after) =>
      if after.length < cs.length then (scan after).map (token :: ·) else none
termination_by cs.length

end Token

end Tincture.Json
