import Tincture.Pattern
import Tincture.Union.ClassFolding
import Tincture.Union.Part

/-!
Patterns as alternatives of a union.

A group keeps capturing only if its own pattern refers back to it; those that do are numbered
through all the patterns. A caret is dropped, since the union is matched at a given position anyway,
but the last of two in a row, which means the start of the text in earnest. Letters are written in
both cases where the mode of the union asks for it.
-/

namespace Tincture.Union

/-- Whether ASCII letters are left in the text of a pattern once its escapes are removed. -/
def hasBareLetters : List Char → Bool
  | [] => false
  | '\\' :: rest =>
    match rest with
    | [] => false
    | c :: more =>
      if (c == 'u' || c == 'U') && (leadingDigits 16 4 more).length == 4 then
        hasBareLetters (more.drop 4)
      else if (c == 'x' || c == 'X') && (leadingDigits 16 2 more).length == 2 then
        hasBareLetters (more.drop 2)
      else if c == 'u' || c == 'U' || c == 'x' || c == 'X' then true
      else hasBareLetters more
  | c :: rest => if c.isAlpha then true else hasBareLetters rest
termination_by cs => cs.length

/-- How a union treats case. -/
structure CaseMode where
  /-- The union as a whole ignores case. -/
  ignoreCase : Bool
  /-- Patterns that ignore case spell out both cases. -/
  foldCase : Bool
deriving DecidableEq

namespace CaseMode

/-- Looks at the patterns one by one. The first that minds case and has letters settles the mode:
case is not ignored and has to be spelt out. -/
def detectFrom (ignoreCase : Bool) : List Pattern → CaseMode
  | [] => ⟨ignoreCase, false⟩
  | p :: rest =>
    if p.ignoreCase then detectFrom true rest
    else if hasBareLetters p.source.toList then ⟨false, true⟩
    else detectFrom ignoreCase rest

/-- The mode of a union of patterns. -/
def detect (patterns : List Pattern) : CaseMode := detectFrom false patterns

end CaseMode

namespace Part

/-- The groups that numeric escapes refer to, `opened` groups having been opened before. -/
def references (opened : Nat) : List Part → List Nat
  | [] => []
  | .group :: rest => references (opened + 1) rest
  | .numeric _ value :: rest =>
    if value ≠ 0 ∧ value ≤ opened then value :: references opened rest
    else references opened rest
  | _ :: rest => references opened rest

/-- The code point a numeric escape stands for when it refers to no group. -/
def codePoint (value : Nat) : List Char :=
  if value ≤ 0xff then ['\\', 'x'] ++ digits 16 2 value
  else ['\\', 'u'] ++ digits 16 4 (min value 0xffff)

end Part

/-- The number of a group in the union: the groups kept so far, and those of the pattern that are
kept up to it. -/
def newNumber (captured : Nat) (kept : List Nat) (group : Nat) : Nat :=
  captured + (List.range (group + 1)).countP kept.contains

/-- Writes the parts of a pattern as an alternative. `captured` groups are captured before the
pattern, those in `kept` go on capturing, and `opened` have been opened so far. -/
def writeParts (foldCase : Bool) (captured : Nat) (kept : List Nat) (opened : Nat) :
    List Part → List Char
  | [] => []
  | .group :: rest =>
    (if kept.contains (opened + 1) then ['('] else ['(', '?', ':'])
      ++ writeParts foldCase captured kept (opened + 1) rest
  | .numeric text value :: rest =>
    (if value = 0 then text
      else if value ≤ opened then '\\' :: Nat.toDigits 10 (newNumber captured kept value)
      else Part.codePoint value)
      ++ writeParts foldCase captured kept opened rest
  | .caret :: rest =>
    (if rest.head? = some .caret then ['^'] else [])
      ++ writeParts foldCase captured kept opened rest
  | .bracket text :: rest =>
    (if foldCase then foldClass text else text) ++ writeParts foldCase captured kept opened rest
  | .literal text :: rest =>
    (if foldCase then foldLetters text else text) ++ writeParts foldCase captured kept opened rest
  | part :: rest => part.text ++ writeParts foldCase captured kept opened rest

/-- The alternative for a pattern, `captured` groups being captured before it; and the number
captured after it. -/
def alternativeOf (foldCase : Bool) (captured : Nat) (source : List Char) : List Char × Nat :=
  let parts := Part.split source
  let kept := (Part.references 0 parts).eraseDups
  (writeParts foldCase captured kept 0 parts, captured + kept.length)

/-- The alternatives of a union of patterns. -/
def alternativesOf (mode : CaseMode) (captured : Nat) : List Pattern → List (List Char)
  | [] => []
  | p :: rest =>
    let (text, captured) := alternativeOf (p.ignoreCase && mode.foldCase) captured p.source.toList
    text :: alternativesOf mode captured rest

end Tincture.Union
