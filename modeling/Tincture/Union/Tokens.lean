import Tincture.Text.Utf8
import Tincture.Union.Alternative

/-!
Cutting texts into tokens.

The patterns of a language are joined into one regular expression in order of priority, with an
alternative for any single character at the end. Matching it at the end of each token gives the next
one, so every character belongs to exactly one token.
-/

namespace Tincture

/-- The pattern of least priority, which takes any single character. -/
def catchAll : Pattern := { source := "[\\s\\S]" }

/-- The regular expression of several patterns. -/
structure Union (E : Type := Regex) where
  source : String
  /-- How many alternatives it has, that for any character included. -/
  alternatives : Nat
  regex : E

namespace Union

variable {E : Type} [Engine E]

/-- The regular expression that joins the alternatives. -/
def sourceOf (patterns : List Pattern) : String :=
  let mode := CaseMode.detect patterns
  "|".intercalate ((alternativesOf mode 0 patterns).map fun text =>
    "(?:" ++ String.ofList text ++ ")")

/-- Joins patterns; all flags are checked before anything is compiled. -/
def compile (patterns : List Pattern) : Except Error (Union E) := do
  let patterns := patterns ++ [catchAll]
  patterns.forM Pattern.check
  let source := sourceOf patterns
  let regex ← Pattern.compileSource source (CaseMode.detect patterns).ignoreCase true
  return { source, alternatives := patterns.length, regex }

/-- Cuts the positions from `pos` to `size` into consecutive ranges. Each ends where `reach` says,
or after a single position when it says nothing or does not advance. -/
def cuts (reach : Nat → Option Nat) (size pos : Nat) : List (Nat × Nat) :=
  if pos < size then
    let stop := match reach pos with
      | some stop => if pos < stop then stop else pos + 1
      | none => pos + 1
    (pos, stop) :: cuts reach size (max stop (pos + 1))
  else []
termination_by size - pos

/-- The tokens of a text. -/
def tokens (u : Union E) (text : List Char) : List (List Char) :=
  let chars := text.toArray
  (cuts (fun pos => (Engine.matchAt? u.regex chars pos).map (·.pos)) chars.size 0).map
    fun (start, stop) => (chars.extract start stop).toList

/-- The ranges of consecutive tokens in bytes, the first of which begins at `start`. -/
def byteRanges (start : Nat) : List (List Char) → List (Nat × Nat)
  | [] => []
  | token :: rest =>
    (start, start + byteLength token) :: byteRanges (start + byteLength token) rest

/-- How a union shows itself. -/
def description (u : Union E) : String :=
  "CombinedMatcher(" ++ toString u.alternatives ++ " alternatives)"

end Union

end Tincture
