import Tincture.Language.Builtin
import Tincture.Language.Document
import Tincture.Lexer

/-!
Registries.

A registry holds the lexers of languages by name. Languages are registered until the registry is
frozen; a name that is taken keeps its first language. Only a frozen registry scans.
-/

namespace Tincture

/-- The lexers of languages. -/
structure Registry (E : Type := Regex) where
  lexers : Array (Lexer E) := #[]
  /-- The index of each name's lexer; several names may share one. -/
  ids : List (String × Nat) := []
  frozen : Bool := false

/-- A lexer, and its index if it belongs to the registry at hand. -/
structure KeyedLexer (E : Type := Regex) where
  key : Option Nat
  lexer : Lexer E

namespace Registry

variable {E : Type} [Engine E]

/-! ### Names -/

/-- Whether a name is taken. -/
def contains (r : Registry E) (name : String) : Bool := (r.ids.lookup name).isSome

/-- Sorts texts by their code points. -/
def sorted (names : List String) : List String := names.mergeSort (· ≤ ·)

/-- All names, sorted. -/
def languages (r : Registry E) : List String := sorted (r.ids.map (·.1))

/-- The lexer of a name, with its index. -/
def find? (r : Registry E) (name : String) : Option (KeyedLexer E) :=
  (r.ids.lookup name).bind fun id => r.lexers[id]?.map (⟨some id, ·⟩)

/-- The lexer of a name. -/
def lexer? (r : Registry E) (name : String) : Option (Lexer E) := (r.find? name).map (·.lexer)

/-- The lexer for text in a language. For a language that is not known, text that begins with an
angle bracket is taken as markup, and other text as code. -/
def embedded? (r : Registry E) (language : String) (text : List Char) : Option (KeyedLexer E) :=
  match r.find? language with
  | some l => some l
  | none =>
    if (text.dropWhile Property.space.holds).head? = some '<' then r.find? Builtin.defaultMarkup
    else r.find? Builtin.defaultCode

/-! ### Registration -/

/-- What came of a registration, and the registry after it. -/
abbrev Attempt (E : Type := Regex) := Except Error Unit × Registry E

/-- The registry after a registration that succeeded. -/
def Attempt.result : Attempt E → Except Error (Registry E)
  | (.ok (), r) => .ok r
  | (.error e, _) => .error e

/-- Gives a name to a lexer if it is free, and notes that one was. -/
def claim (id : Nat) : List (String × Nat) × Bool → String → List (String × Nat) × Bool
  | (ids, used), name =>
    if (ids.lookup name).isSome then (ids, used) else (ids ++ [(name, id)], true)

/-- Enters rules under names. The lexer is kept only if some name was free. -/
def enter (r : Registry E) (names : List String) (rules : RuleSet) : Attempt E :=
  if r.frozen then (.error .frozen, r)
  else
    match Lexer.compile rules with
    | .error e => (.error e, r)
    | .ok lexer =>
      let (ids, used) := names.foldl (claim r.lexers.size) (r.ids, false)
      (.ok (), { r with ids, lexers := if used then r.lexers.push lexer else r.lexers })

/-- Enters a definition. -/
def enterDefinition (r : Registry E) (d : Definition) : Attempt E :=
  match d.ruleSet with
  | .error e => (.error e, r)
  | .ok rules => r.enter d.names rules

/-- Enters the definition in a document that was to be read. -/
def enterDocument (r : Registry E) (document : Except Error String) : Attempt E :=
  match document.bind Definition.ofDocument with
  | .error e => (.error e, r)
  | .ok d => r.enterDefinition d

/-- Enters definitions one after the other, up to the first that fails. -/
def enterAll (r : Registry E) : List Definition → Attempt E
  | [] => (.ok (), r)
  | d :: rest =>
    match r.enterDefinition d with
    | (.ok (), r) => enterAll r rest
    | failed => failed

/-- Registers rules under names. -/
def register (r : Registry E) (names : List String) (rules : RuleSet) : Except Error (Registry E) :=
  (r.enter names rules).result

/-- Registers a language described by options. -/
def registerOptions (r : Registry E) (names : List String) (options : Options) :
    Except Error (Registry E) :=
  r.register names options.rules

/-- Registers a definition. -/
def registerDefinition (r : Registry E) (d : Definition) : Except Error (Registry E) :=
  (r.enterDefinition d).result

/-- Registers the definition in a document that was to be read. -/
def registerDocument (r : Registry E) (document : Except Error String) :
    Except Error (Registry E) :=
  (r.enterDocument document).result

/-- Registers the languages that come with the library. -/
def registerBuiltins (r : Registry E) : Except Error (Registry E) :=
  (r.enterAll Builtin.definitions).result

/-- Ends registration. -/
def freeze (r : Registry E) : Registry E := { r with frozen := true }

/-- The frozen registry of the languages that come with the library. -/
def builtin : Except Error (Registry E) := do
  return (← registerBuiltins {}).freeze

/-- Every language with all its names, in order of registration. -/
def definitions (r : Registry E) : List Definition :=
  r.lexers.toList.zipIdx.map fun (lexer, id) =>
    { names := sorted ((r.ids.filter (·.2 == id)).map (·.1)), rules := some lexer.rules }

/-- The frozen registry of definitions. -/
def ofDefinitions (ds : List Definition) : Except Error (Registry E) := do
  return (← (enterAll {} ds).result).freeze

theorem frozen_of_ofDefinitions {ds : List Definition} {r : Registry E}
    (h : ofDefinitions ds = .ok r) : r.frozen = true := by
  unfold ofDefinitions at h
  cases entered : (enterAll ({} : Registry E) ds).result with
  | error e =>
    rw [entered] at h
    cases h
  | ok r =>
    rw [entered] at h
    cases h
    rfl

end Registry

end Tincture
