import Tincture.Error
import Tincture.Regex.Compiled

/-!
Patterns: regular expressions as they are written in rules, with flags.

Only the flag that ignores case has a meaning. The other two are known so that rules which use them
can be refused.
-/

namespace Tincture

/-- A regular expression with flags. -/
structure Pattern where
  source : String
  ignoreCase : Bool := false
  global : Bool := false
  multiline : Bool := false
deriving DecidableEq, Inhabited

namespace Pattern

/-- Sets the flag with a letter. -/
def setFlag (p : Pattern) (flag : Char) : Except Error Pattern :=
  match flag with
  | 'i' => .ok { p with ignoreCase := true }
  | 'g' => .ok { p with global := true }
  | 'm' => .ok { p with multiline := true }
  | _ => .error (.invalidPattern p.source (.unknownFlag flag))

/-- The pattern with the flags of all the letters. -/
def withFlags (source flags : String) : Except Error Pattern :=
  flags.toList.foldlM setFlag { source }

/-- The flag for which rules may not use the pattern. -/
def forbiddenFlag? (p : Pattern) : Option Char :=
  if p.global then some 'g' else if p.multiline then some 'm' else none

/-- Refuses a flag that rules may not use. -/
def check (p : Pattern) : Except Error Unit :=
  match p.forbiddenFlag? with
  | some flag => .error (.forbiddenFlag p.source flag)
  | none => .ok ()

variable {E : Type} [Engine E]

/-- Compiles a regular expression. -/
def compileSource (source : String) (ignoreCase nonEmpty : Bool) : Except Error E :=
  match Engine.compile source ignoreCase nonEmpty with
  | .ok regex => .ok regex
  | .error fault => .error (.invalidPattern source (.regex fault))

/-- Compiles the pattern on its own. -/
def compile (p : Pattern) : Except Error E := do
  p.check
  compileSource p.source p.ignoreCase false

end Pattern

end Tincture
