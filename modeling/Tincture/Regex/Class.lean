import Tincture.Text.Property.Letter
import Tincture.Text.Property.Number
import Tincture.Text.Property.Space
import Tincture.Text.Property.Case
import Tincture.Text.Property.Graphic

/-!
The character classes that have a name.

All of them are those of Unicode: a word character may be a letter of any script, and a digit may
be written in any of them.
-/

namespace Tincture.Regex.Class

/-- Every code point. -/
def all : CodeSet := .range 0 0x10ffff

/-- Everything but the line feed. -/
def notNewline : CodeSet := all.diff (.single 10)

/-- Characters that words consist of: letters, marks, digits and connecting punctuation. -/
def word : CodeSet :=
  ((Property.alphabetic.union Property.mark).union Property.digit).union Property.connector

/-- Decimal digits. -/
def digit : CodeSet := Property.digit

/-- White space. -/
def space : CodeSet := Property.space

/-- Blanks within a line. -/
def blank : CodeSet := Property.spaceSeparator.union (.single 9)

/-- Characters with a visible form. -/
def graph : CodeSet :=
  ((Property.assigned.diff Property.space).diff Property.control).diff Property.surrogate

/-- Punctuation, and the symbols that stand among it in ASCII. -/
def punct : CodeSet :=
  Property.punctuation.union (.ofList [0x24, 0x2b, 0x3c, 0x3d, 0x3e, 0x5e, 0x60, 0x7c, 0x7e])

/-- Hexadecimal digits. -/
def hexDigit : CodeSet := ⟨#[0x30, 0x3a, 0x41, 0x47, 0x61, 0x67]⟩

/-- The classes by the names they have as properties. -/
def named : List (String × CodeSet) :=
  [("alnum", Property.alphabetic.union Property.digit), ("alpha", Property.alphabetic),
    ("blank", blank), ("cntrl", Property.control), ("digit", digit), ("graph", graph),
    ("lower", Property.lowercase), ("print", graph.union Property.spaceSeparator),
    ("punct", punct), ("space", space), ("upper", Property.uppercase), ("xdigit", hexDigit),
    ("ascii", .range 0 127), ("word", word)]

/-- The class a one-letter escape stands for; a capital letter stands for the complement. -/
def ofLetter? : Char → Option CodeSet
  | 'w' => some word
  | 'W' => some word.complement
  | 'd' => some digit
  | 'D' => some digit.complement
  | 's' => some space
  | 'S' => some space.complement
  | _ => none

/-- The class of a property, looked up without regard to case, blanks, dashes and underscores; a
caret in front stands for the complement. -/
def ofProperty? (name : List Char) : Option CodeSet :=
  let (negated, name) :=
    match name with
    | '^' :: rest => (true, rest)
    | _ => (false, name)
  let key := (name.filter fun c => c != ' ' && c != '-' && c != '_').map Char.toLower
  let found := if key = "any".toList then some all else named.lookup (String.ofList key)
  found.map fun set => if negated then set.complement else set

end Tincture.Regex.Class
