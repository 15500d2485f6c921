import Tincture.Language.Options

/-!
Definitions of languages: names, and either options or rules.
-/

namespace Tincture

/-- A language as it is written down. -/
structure Definition where
  names : List String
  options : Option Options := none
  rules : Option RuleSet := none
deriving DecidableEq, Inhabited

/-- The rules of a language. Exactly one of options and rules must be given. -/
def Definition.ruleSet (d : Definition) : Except Error RuleSet :=
  match d.options, d.rules with
  | some options, none => .ok options.rules
  | none, some rules => .ok rules
  | some _, some _ => .error (.overdefined d.names)
  | none, none => .error (.undefined d.names)

end Tincture
