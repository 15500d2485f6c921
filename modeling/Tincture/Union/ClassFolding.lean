import Tincture.Text.Digit

/-!
Spelling out both cases.

Where a pattern that ignores case has to live among others that do not, its letters are written in
both cases: a letter outside brackets becomes a class of two, and a bracket class is read as named
classes and ranges of code points, closed under exchanging the cases of ASCII letters, and written
again with its ranges merged.
-/

namespace Tincture.Union

/-! ### Members of a class -/

/-- The number of characters of the escape whose backslash stands before the given ones. -/
def escapeLength : List Char → Nat
  | [] => 1
  | c :: rest =>
    if c == 'u' && (leadingDigits 16 4 rest).length == 4 then 6
    else if c == 'x' && (leadingDigits 16 2 rest).length == 2 then 4
    else if '0' ≤ c && c ≤ '3' then 2 + (leadingDigits 8 2 rest).length
    else if '4' ≤ c && c ≤ '7' then 2 + (leadingDigits 8 1 rest).length
    else 2

/-- Cuts the inside of a class into members: escapes and single characters. -/
def members : List Char → List (List Char)
  | [] => []
  | c :: rest =>
    let extra := if c == '\\' then escapeLength rest - 1 else 0
    (c :: rest.take extra) :: members (rest.drop extra)
termination_by cs => cs.length

/-- The code point a member stands for. -/
def memberCode : List Char → Nat
  | [] => 0
  | ['\\'] => 0x5c
  | '\\' :: c :: rest =>
    match c with
    | 'b' => 0x08
    | 't' => 0x09
    | 'n' => 0x0a
    | 'v' => 0x0b
    | 'f' => 0x0c
    | 'r' => 0x0d
    | 'u' => numeral 16 (rest.takeWhile (isDigitIn 16))
    | 'x' => numeral 16 (rest.takeWhile (isDigitIn 16))
    | _ =>
      if isDigitIn 8 c then numeral 8 ((c :: rest).takeWhile (isDigitIn 8)) else c.toNat
  | c :: _ => c.toNat

/-- Whether a member is a named class. -/
def isNamedClass : List Char → Bool
  | ['\\', c] => ['b', 'B', 'd', 'D', 's', 'S', 'w', 'W'].contains c
  | _ => false

/-- Writes a code point so that it stands for itself in a class. -/
def encodeMember (n : Nat) : List Char :=
  if n < 0x20 then ['\\', 'x'] ++ digits 16 2 n
  else if n.isValidChar then
    let c := Char.ofNat n
    if ['\\', '-', '[', ']', '^', '&'].contains c then ['\\', c] else [c]
  else ['\\', 'u'] ++ digits 16 4 n

/-! ### Ranges -/

/-- The part of a range that lies among the letters from `first` to `last`, moved to the other case.
-/
def otherCase (first last : Nat) (move : Nat → Nat) (range : Nat × Nat) : List (Nat × Nat) :=
  if range.2 < first || last < range.1 then []
  else [(move (max range.1 first), move (min range.2 last))]

/-- A range, and its ASCII letters in the other case. -/
def bothCases (range : Nat × Nat) : List (Nat × Nat) :=
  range :: (otherCase 65 90 (· + 32) range ++ otherCase 97 122 (· - 32) range)

/-- Joins a range to the ranges already merged, the last of which comes first. -/
def join : List (Nat × Nat) → Nat × Nat → List (Nat × Nat)
  | [], range => [range]
  | last :: merged, range =>
    if range.1 ≤ last.2 + 1 then (last.1, max last.2 range.2) :: merged
    else range :: last :: merged

/-- Whether a range comes first: it begins earlier, or at the same place and ends later. -/
def precedes (a b : Nat × Nat) : Bool :=
  a.1 < b.1 || (a.1 == b.1 && b.2 ≤ a.2)

/-- Puts a range in its place among sorted ones. -/
def place (range : Nat × Nat) : List (Nat × Nat) → List (Nat × Nat)
  | [] => [range]
  | other :: rest =>
    if precedes range other then range :: other :: rest else other :: place range rest

/-- Sorts ranges and merges those that overlap or touch. -/
def consolidate (ranges : List (Nat × Nat)) : List (Nat × Nat) :=
  ((ranges.foldr place []).foldl join []).reverse

/-- What the members of a class are: its named classes and its ranges, each in order. -/
structure Contents where
  named : List (List Char)
  ranges : List (Nat × Nat)
deriving DecidableEq

namespace Contents

/-- Puts a member that is no end of a range in front: a named class or a single code point. -/
def add (member : List Char) (c : Contents) : Contents :=
  if isNamedClass member then { c with named := member :: c.named }
  else { c with ranges := (memberCode member, memberCode member) :: c.ranges }

/-- Reads a list of members. A dash between two members makes a range of them, unless the first is a
named class. -/
def ofMembers : List (List Char) → Contents
  | [] => ⟨[], []⟩
  | member :: dash :: last :: rest =>
    if dash = ['-'] ∧ !isNamedClass member then
      let c := ofMembers rest
      { c with ranges := (memberCode member, memberCode last) :: c.ranges }
    else (ofMembers (dash :: last :: rest)).add member
  | member :: rest => (ofMembers rest).add member

end Contents

/-- Writes a range. -/
def encodeRange (range : Nat × Nat) : List Char :=
  encodeMember range.1 ++ if range.1 < range.2 then '-' :: encodeMember range.2 else []

/-- What stands between the brackets of a class. -/
def classBody (text : List Char) : List Char :=
  match text with
  | '[' :: rest => if rest.getLast? == some ']' then rest.dropLast else text
  | _ => text

/-- Writes a class so that it holds both cases of its ASCII letters. -/
def foldClass (text : List Char) : List Char :=
  let all := members (classBody text)
  let inverted := all.head? == some ['^']
  let contents := Contents.ofMembers (if inverted then all.tail else all)
  let written := (consolidate (contents.ranges.flatMap bothCases)).flatMap encodeRange
  ['['] ++ (if inverted then ['^'] else []) ++ contents.named.flatten ++ written ++ [']']

/-- Replaces each ASCII letter by a class of its two cases. -/
def foldLetters (text : List Char) : List Char :=
  text.flatMap fun c => if c.isAlpha then ['[', c.toUpper, c.toLower, ']'] else [c]

end Tincture.Union
