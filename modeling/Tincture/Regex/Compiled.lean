import Tincture.Regex.Parser
import Tincture.Regex.Matcher

/-!
Compiled regular expressions: `Regex.compile` reads one and `Regex.matchFrom?` matches it at one
position. `Engine` is what the rest of the library uses of them.
-/

namespace Tincture

/-- A compiled regular expression. -/
structure Regex where
  node : Regex.Node
  /-- Whether a match of nothing at all is refused. -/
  nonEmpty : Bool := false

namespace Regex

/-- Compiles the text of a regular expression. -/
def compile (source : String) (ignoreCase nonEmpty : Bool) : Except Fault Regex :=
  (Node.parse ignoreCase source.toList).map fun (node, _) => { node, nonEmpty }

/-- The preferred match that begins at a position of the text, for a search that began at `origin`.
-/
def matchFrom? (r : Regex) (text : Array Char) (origin pos : Nat) : Option Spot :=
  r.node.run { text, origin } (fun s => if r.nonEmpty && s.pos == pos then none else some s) { pos }

/-- The preferred match at a position of the text. -/
def matchAt? (r : Regex) (text : Array Char) (pos : Nat) : Option Spot :=
  r.matchFrom? text pos pos

end Regex

/-- Compiles and matches regular expressions of a kind. -/
class Engine (E : Type) where
  /-- Reads an expression, which may ignore case, and may be refused to match nothing at all. -/
  compile (source : String) (ignoreCase nonEmpty : Bool) : Except Regex.Fault E
  /-- The preferred match that begins at `pos`, for a search that began at `origin`. -/
  matchFrom? (e : E) (text : Array Char) (origin pos : Nat) : Option Regex.Spot

@[default_instance] instance : Engine Regex := ⟨Regex.compile, Regex.matchFrom?⟩

namespace Engine

variable {E : Type} [Engine E]

/-- The preferred match at a position of the text. -/
def matchAt? (e : E) (text : Array Char) (pos : Nat) : Option Regex.Spot :=
  matchFrom? e text pos pos

/-- The preferred match at the first position from `pos` on, among the next `room`, that has one. -/
def searchFrom? (e : E) (text : Array Char) (pos : Nat) : Nat → Option Regex.Spot
  | 0 => none
  | room + 1 =>
    match matchFrom? e text 0 pos with
    | some s => some s
    | none => searchFrom? e text (pos + 1) room

/-- The preferred match at the first position of the text that has one. -/
def search? (e : E) (text : Array Char) : Option Regex.Spot :=
  searchFrom? e text 0 (text.size + 1)

theorem compile_regex (source : String) (ignoreCase nonEmpty : Bool) :
    (compile source ignoreCase nonEmpty : Except Regex.Fault Regex) =
      Regex.compile source ignoreCase nonEmpty := rfl

end Engine

end Tincture
