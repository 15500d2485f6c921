import Tincture.Pattern
import Tincture.Style

/-!
Rules and rule sets.

All rules of a set take part in cutting a text into tokens, the shortcuts first. A token is then
classified by the rule that has its first character as a shortcut, or else by the first fallback
rule that finds its pattern in the token.
-/

namespace Tincture

/-- Gives a style to the tokens of a pattern. -/
structure Rule where
  style : Style
  pattern : Pattern
  /-- A pattern that is checked for flags and otherwise unused. -/
  context : Option Pattern := none
  /-- First characters whose tokens the rule classifies directly. -/
  shortcut : Option String := none
deriving DecidableEq, Inhabited

namespace Rule

/-- A rule that gives a tag. -/
def tagged (tag : Tag) (source : String) : Rule :=
  { style := .terminal tag, pattern := { source } }

/-- A rule that gives a tag regardless of case. -/
def taggedIgnoringCase (tag : Tag) (source : String) : Rule :=
  { style := .terminal tag, pattern := { source, ignoreCase := true } }

/-- A rule whose first group is written in a language. -/
def embedding (language source : String) : Rule :=
  { style := .embedded language, pattern := { source } }

/-- A rule whose first group is written in a language, found regardless of case. -/
def embeddingIgnoringCase (language source : String) : Rule :=
  { style := .embedded language, pattern := { source, ignoreCase := true } }

/-- The rule with first characters that lead to it directly. -/
def withShortcut (r : Rule) (chars : String) : Rule := { r with shortcut := some chars }

/-- The rule with a context. -/
def withContext (r : Rule) (context : Pattern) : Rule := { r with context := some context }

/-- The first characters that lead to the rule directly. -/
def shortcutChars (r : Rule) : List Char := (r.shortcut.getD "").toList

/-- Refuses flags in the pattern, then in the context. -/
def check (r : Rule) : Except Error Unit := do
  r.pattern.check
  match r.context with
  | some context => context.check
  | none => return

end Rule

/-- The rules of a language. -/
structure RuleSet where
  shortcuts : List Rule := []
  fallbacks : List Rule := []
deriving DecidableEq, Inhabited

namespace RuleSet

/-- All rules, in order of priority. -/
def rules (s : RuleSet) : List Rule := s.shortcuts ++ s.fallbacks

/-- Refuses flags in any rule. -/
def check (s : RuleSet) : Except Error Unit :=
  s.rules.forM Rule.check

end RuleSet

end Tincture
