import Tincture.Rule
import Tincture.Union.Tokens

/-!
Lexers: compiled rule sets.

A lexer cuts a text into tokens with the union of its patterns, and classifies each token on its
own. The rule is found by the token's first character if that is a shortcut of some rule, the last
rule with that shortcut winning, and otherwise by searching the token for the patterns of the
fallback rules in order.
-/

namespace Tincture

/-- A rule and its compiled pattern. -/
structure CompiledRule (E : Type := Regex) where
  rule : Rule
  regex : E

/-- A compiled rule set. -/
structure Lexer (E : Type := Regex) where
  rules : RuleSet
  union : Union E
  fallbacks : List (CompiledRule E)
  /-- The rule each shortcut leads to; for a repeated one the first entry counts. -/
  table : List (Char × CompiledRule E)

/-- What a token is. -/
inductive Classification where
  | terminal (tag : Tag)
  /-- The characters of the token from `start` to `stop` are written in the language. -/
  | embedded (language : String) (start stop : Nat)
deriving DecidableEq

namespace Lexer

variable {E : Type} [Engine E]

/-- Compiles a rule. -/
def compileRule (r : Rule) : Except Error (CompiledRule E) := do
  return ⟨r, ← r.pattern.compile⟩

/-- Enters the shortcuts of a rule, which take over those of earlier rules. -/
def enter (table : List (Char × CompiledRule E)) (r : CompiledRule E) :
    List (Char × CompiledRule E) :=
  r.rule.shortcutChars.foldl (fun table c => (c, r) :: table) table

/-- Compiles a rule set: first the flags of all patterns are checked, then the union is compiled,
then each pattern on its own. -/
def compile (rules : RuleSet) : Except Error (Lexer E) := do
  rules.check
  let union ← Union.compile (rules.rules.map (·.pattern))
  let shortcuts ← rules.shortcuts.mapM compileRule
  let fallbacks ← rules.fallbacks.mapM compileRule
  return { rules, union, fallbacks, table := (shortcuts ++ fallbacks).foldl enter [] }

/-- The tokens of a text. -/
def tokens (l : Lexer E) (text : List Char) : List (List Char) := l.union.tokens text

/-- The first of the rules whose pattern is found in the token, and where. -/
def firstFound (token : Array Char) :
    List (CompiledRule E) → Option (CompiledRule E × Regex.Spot)
  | [] => none
  | r :: rest =>
    match Engine.search? r.regex token with
    | some spot => some (r, spot)
    | none => firstFound token rest

/-- What a rule makes of a token in which its pattern was found, or not found, as `spot` says. -/
def apply (r : Rule) (spot : Option Regex.Spot) : Classification :=
  match r.style with
  | .terminal tag => .terminal tag
  | .embedded language =>
    match spot.bind (·.group? 1) with
    | some (start, stop) =>
      if start < stop then .embedded language start stop else .terminal .source
    | none => .terminal .source

/-- Classifies a token. -/
def classify (l : Lexer E) (token : List Char) : Classification :=
  match token.head?.bind (l.table.lookup ·) with
  | some r => apply r.rule (Engine.search? r.regex token.toArray)
  | none =>
    match firstFound token.toArray l.fallbacks with
    | some (r, spot) => apply r.rule (some spot)
    | none => .terminal .plain

end Lexer

end Tincture
