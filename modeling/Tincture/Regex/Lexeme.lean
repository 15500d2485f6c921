import Tincture.Regex.Bracket
import Tincture.Regex.Node

/-!
The lexemes of regular expressions.

A lexeme is read from its first character and the characters after it; the reader says how many of
those belong to it. What a backslash with digits means depends on how many groups have been opened.
-/

namespace Tincture.Regex

/-- What can be switched within an expression. -/
structure Flags where
  ignoreCase : Bool := false
  /-- Whether the dot matches a line feed too. -/
  dotAll : Bool := false
  /-- Whether the caret and the dollar look at lines. -/
  lines : Bool := false
  /-- Whether blanks and comments may stand between lexemes. -/
  spaced : Bool := false
deriving DecidableEq, Inhabited

/-- How a group is opened. -/
inductive Opening where
  | plain
  | capture
  | atomic
  | ahead (negated : Bool)
  | behind (negated : Bool)
  /-- A group with its own flags. -/
  | flagged (flags : Flags)
  /-- Flags for the rest of the group around. -/
  | flags (flags : Flags)
  | comment

/-- A lexeme. -/
inductive Lexeme where
  /-- A code point to match. -/
  | code (n : Nat)
  /-- A byte that belongs to no text. -/
  | never
  /-- Code points to match, written between quotes. -/
  | quoted (codes : List Nat)
  | dot
  | set (s : CodeSet)
  | bracket (text : ClassText)
  | anchor (a : Anchor)
  | reference (group : Nat)
  | opening (o : Opening)
  | close
  | bar
  | quantifier (least : Nat) (most : Option Nat) (greedy possessive : Bool)
  | blank

namespace Lexeme

/-! ### Quantifiers -/

/-- The greatest bound of a quantifier. -/
def greatestBound : Nat := 100000

/-- The quantifier with the bounds, and what the mark after it makes of it. -/
def marked (least : Nat) (most : Option Nat) (used : Nat) : List Char → Lexeme × Nat
  | '?' :: _ => (.quantifier least most false false, used + 1)
  | '+' :: _ => (.quantifier least most true true, used + 1)
  | _ => (.quantifier least most true false, used)

/-- What an opening brace is, followed by the characters: a quantifier if they are bounds and the
closing brace, else itself. -/
def interval (cs : List Char) : Except Fault (Lexeme × Nat) :=
  let low := cs.takeWhile Char.isDigit
  let rest := cs.drop low.length
  if greatestBound < numeral 10 low then .error .bigRepeat
  else if low.isEmpty then .ok (.code 123, 0)
  else
    match rest with
    | ',' :: rest =>
      let high := rest.takeWhile Char.isDigit
      if greatestBound < numeral 10 high then .error .bigRepeat
      else
        match rest.drop high.length with
        | '}' :: rest =>
          let used := low.length + high.length + 2
          if high.isEmpty then .ok (marked (numeral 10 low) none used rest)
          else if numeral 10 high < numeral 10 low then .error .reversedBounds
          else .ok (marked (numeral 10 low) (some (numeral 10 high)) used rest)
        | _ => .ok (.code 123, 0)
    | '}' :: rest =>
      .ok (marked (numeral 10 low) (some (numeral 10 low)) (low.length + 1) rest)
    | _ => .ok (.code 123, 0)

/-! ### Groups -/

/-- Flags read after `(?`, up to the colon or the closing parenthesis; `on` says whether letters
switch flags on. -/
def flagged (flags : Flags) (on : Bool) (used : Nat) : List Char → Except Fault (Lexeme × Nat)
  | [] => .error .endInGroup
  | ')' :: _ => .ok (.opening (.flags flags), used + 1)
  | ':' :: _ => .ok (.opening (.flagged flags), used + 1)
  | '-' :: rest => flagged flags false (used + 1) rest
  | 'i' :: rest => flagged { flags with ignoreCase := on } on (used + 1) rest
  | 's' :: rest => flagged { flags with dotAll := on } on (used + 1) rest
  | 'm' :: rest => flagged { flags with lines := on } on (used + 1) rest
  | 'x' :: rest => flagged { flags with spaced := on } on (used + 1) rest
  | _ => .error .undefinedGroupOption

/-- The length of a comment's text and its closing parenthesis. -/
def comment (used : Nat) : List Char → Except Fault Nat
  | [] => .error .endInGroup
  | ')' :: _ => .ok (used + 1)
  | '\\' :: _ :: rest => comment (used + 2) rest
  | _ :: rest => comment (used + 1) rest

/-- What an opening parenthesis is, followed by the characters. -/
def group (flags : Flags) : List Char → Except Fault (Lexeme × Nat)
  | [] => .error .unmatchedOpen
  | '?' :: rest =>
    match rest with
    | [] => .error .endInGroup
    | '#' :: rest => (comment 2 rest).map fun used => (.opening .comment, used)
    | ':' :: _ => .ok (.opening .plain, 2)
    | '=' :: _ => .ok (.opening (.ahead false), 2)
    | '!' :: _ => .ok (.opening (.ahead true), 2)
    | '>' :: _ => .ok (.opening .atomic, 2)
    | '<' :: [] => .error .unmatchedOpen
    | '<' :: '=' :: _ => .ok (.opening (.behind false), 3)
    | '<' :: '!' :: _ => .ok (.opening (.behind true), 3)
    | rest => (flagged flags true 1 rest)
  | _ => .ok (.opening .capture, 0)

/-! ### Escapes -/

/-- The condition a one-letter escape stands for. -/
def anchor? : Char → Option Anchor
  | 'b' => some .wordEdge
  | 'B' => some .noWordEdge
  | 'A' => some .start
  | 'Z' => some .finishOrNewline
  | 'z' => some .finish
  | 'G' => some .origin
  | _ => none

/-- The text quoted by `\Q`, up to `\E` or the end, and how many characters it takes. -/
def quotation : List Char → List Nat × Nat
  | [] => ([], 0)
  | '\\' :: 'E' :: _ => ([], 2)
  | c :: rest =>
    let (codes, used) := quotation rest
    (c.toNat :: codes, used + 1)

/-- The lexeme of an escaped code point or byte, of which `used` characters after the letter have
been read and `rest` follow. A byte takes along the byte escapes that complete its character. -/
def ofEscaped (rest : List Char) (used : Nat) : Escaped → Except Fault (Lexeme × Nat)
  | .code n => .ok (.code n, used)
  | .byte n _ =>
    if n < 0x80 then .ok (.code n, used)
    else if n < 0xc0 then .error .invalidCodePoint
    else
      let count := Escape.followers n
      if count = 0 then .ok (.never, used)
      else
        match Escape.bytes? none count rest with
        | none => .error .shortSequence
        | some (bytes, more) =>
          match Escape.sequence? n bytes with
          | some point => .ok (.code point, used + more)
          | none => .error .invalidCodePoint

/-- What a backslash and a digit mean, followed by the characters. Up to nine, or up to the number
of groups opened, the number is that of a group; otherwise the digits are an octal byte, whose
excess is dropped, or eight and nine themselves. -/
def numbered (groups : Nat) (d : Char) (rest : List Char) : Except Fault (Lexeme × Nat) :=
  let ds := (d :: rest).takeWhile Char.isDigit
  let n := numeral 10 ds
  if d != '0' && n ≤ 1000 && (n ≤ groups || n ≤ 9) then .ok (.reference n, ds.length - 1)
  else if d == '8' || d == '9' then .ok (.code d.toNat, 0)
  else
    let (n, used) := Escape.octal 3 (d :: rest)
    ofEscaped (rest.drop (used - 1)) (used - 1) (.byte (n % 256) 8)

/-- What a backslash and a letter mean, followed by the characters. -/
def escape (groups : Nat) (c : Char) (rest : List Char) : Except Fault (Lexeme × Nat) :=
  match Class.ofLetter? c, anchor? c with
  | some named, _ => .ok (.set named, 0)
  | none, some a => .ok (.anchor a, 0)
  | none, none =>
    if c.isDigit then numbered groups c rest
    else if c == 'Q' then
      let (codes, used) := quotation rest
      .ok (.quoted codes, used)
    else if (c == 'p' || c == 'P') && rest.head? == some '{' then
      let name := rest.tail.takeWhile (· != '}')
      match Class.ofProperty? name with
      | some named => .ok (.set (if c == 'P' then named.complement else named), name.length + 2)
      | none => .error (.invalidProperty (String.ofList name))
    else
      match Escape.read c rest with
      | .ok (e, used) => ofEscaped (rest.drop used) used e
      | .error fault => .error fault

/-! ### Lexemes -/

/-- The lexeme that begins with `c`, and how many of the characters after it belong to it. -/
def read (flags : Flags) (groups : Nat) (c : Char) (cs : List Char) :
    Except Fault (Lexeme × Nat) :=
  match c with
  | '\\' =>
    match cs with
    | [] => .error .endAtEscape
    | e :: rest => (escape groups e rest).map fun (lexeme, used) => (lexeme, used + 1)
  | '[' => (ClassText.read cs).map fun (text, used) => (.bracket text, used)
  | '(' => group flags cs
  | ')' => .ok (.close, 0)
  | '|' => .ok (.bar, 0)
  | '.' => .ok (.dot, 0)
  | '^' => .ok (.anchor (if flags.lines then .lineStart else .start), 0)
  | '$' => .ok (.anchor (if flags.lines then .lineFinish else .finishOrNewline), 0)
  | '*' => .ok (marked 0 none 0 cs)
  | '+' => .ok (marked 1 none 0 cs)
  | '?' => .ok (marked 0 (some 1) 0 cs)
  | '{' => interval cs
  | _ =>
    if flags.spaced && Property.space.holds c then .ok (.blank, 0)
    else if flags.spaced && c == '#' then
      .ok (.blank, (cs.takeWhile (· != '\n')).length + 1)
    else .ok (.code c.toNat, 0)

end Lexeme

end Tincture.Regex
