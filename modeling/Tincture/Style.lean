/-!
Styles.

A tag is what a renderer is told about a piece of text. A style is what a rule assigns: a tag, or
the language in which the first group of the rule's pattern is written.
-/

namespace Tincture

/-- The classification of a piece of text. -/
inductive Tag where
  | string
  | keyword
  | comment
  | typeName
  | literal
  | punctuation
  | plain
  /-- A tag of a markup language. -/
  | markup
  /-- A declaration of a markup language. -/
  | declaration
  /-- Embedded text that no language takes. -/
  | source
  | attributeName
  | attributeValue
  /-- Text that is no code at all. -/
  | noCode
deriving DecidableEq, Inhabited

namespace Tag

/-- All tags, in the order in which they are documented. -/
def all : List Tag :=
  [.string, .keyword, .comment, .typeName, .literal, .punctuation, .plain, .markup, .declaration,
    .source, .attributeName, .attributeValue, .noCode]

/-- The short name of a tag. -/
def name : Tag → String
  | .string => "str"
  | .keyword => "kwd"
  | .comment => "com"
  | .typeName => "typ"
  | .literal => "lit"
  | .punctuation => "pun"
  | .plain => "pln"
  | .markup => "tag"
  | .declaration => "dec"
  | .source => "src"
  | .attributeName => "atn"
  | .attributeValue => "atv"
  | .noCode => "nocode"

/-- The tag with a short name. -/
def ofName? (s : String) : Option Tag :=
  all.find? (·.name == s)

end Tag

/-- What a rule assigns to its tokens. -/
inductive Style where
  | terminal (tag : Tag)
  /-- The first group is written in the language; the empty name leaves it to be guessed. -/
  | embedded (language : String)
deriving DecidableEq, Inhabited

namespace Style

/-- What the name of an embedded style begins with. -/
def embeddedMark : String := "lang-"

/-- The name of a style. -/
def name : Style → String
  | .terminal tag => tag.name
  | .embedded language => embeddedMark ++ language

/-- The style with a name. -/
def ofName? (s : String) : Option Style :=
  match embeddedMark.toList.isPrefixOf? s.toList with
  | some language => some (.embedded (String.ofList language))
  | none => (Tag.ofName? s).map .terminal

/-- Whether the style hands text to another language. -/
def isEmbedded : Style → Bool
  | .embedded _ => true
  | .terminal _ => false

/-- The language of an embedded style. -/
def language? : Style → Option String
  | .embedded language => some language
  | .terminal _ => none

end Style

end Tincture
