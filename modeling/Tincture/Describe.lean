import Tincture.Lexer
import Tincture.Text.Quoted

/-!
Descriptions of patterns, rules and lexers on one line, for people to read.
-/

namespace Tincture

/-- A pattern between slashes, and the letters of its flags. -/
def Pattern.description (p : Pattern) : String :=
  "/" ++ p.source ++ "/" ++ (if p.global then "g" else "") ++ (if p.ignoreCase then "i" else "")
    ++ (if p.multiline then "m" else "")

/-- The name of a tag in words. -/
def Tag.title : Tag → String
  | .string => "String"
  | .keyword => "Keyword"
  | .comment => "Comment"
  | .typeName => "Type"
  | .literal => "Literal"
  | .punctuation => "Punctuation"
  | .plain => "Plain"
  | .markup => "Tag"
  | .declaration => "Declaration"
  | .source => "Source"
  | .attributeName => "AttribName"
  | .attributeValue => "AttribValue"
  | .noCode => "NoCode"

/-- A style with its kind. -/
def Style.description : Style → String
  | .terminal tag => "Terminal(" ++ tag.title ++ ")"
  | .embedded language => "Embedded(" ++ Quoted.text language ++ ")"

/-- A value that may be missing. -/
def describeOption {α : Type} (f : α → String) : Option α → String
  | some a => "Some(" ++ f a ++ ")"
  | none => "None"

/-- A list in brackets. -/
def describeList {α : Type} (f : α → String) (as : List α) : String :=
  "[" ++ ", ".intercalate (as.map f) ++ "]"

/-- A rule with all its parts. -/
def Rule.description (r : Rule) : String :=
  "Rule \x7b style: " ++ r.style.description ++ ", pattern: " ++ r.pattern.description
    ++ ", context: " ++ describeOption Pattern.description r.context
    ++ ", shortcut: " ++ describeOption Quoted.text r.shortcut ++ " \x7d"

/-- A rule set with all its rules. -/
def RuleSet.description (s : RuleSet) : String :=
  "RuleSet \x7b shortcuts: " ++ describeList Rule.description s.shortcuts
    ++ ", fallbacks: " ++ describeList Rule.description s.fallbacks ++ " \x7d"

/-- A lexer with its rules and the number of alternatives of its union. -/
def Lexer.description {E : Type} (l : Lexer E) : String :=
  "Lexer \x7b rules: " ++ l.rules.description ++ ", matcher: " ++ l.union.description ++ ", .. \x7d"

end Tincture
