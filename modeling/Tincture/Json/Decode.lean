import Tincture.Json.Number
import Tincture.Json.Value

/-!
Taking JSON values apart.

A structure is written as an object or, with its fields in order, as a list. An object may hold
fields that are not known; a known one stands at most once. `Json.known?` gives the known fields of
either form.
-/

namespace Tincture.Json

/-- The text of a string. -/
def asString? : Json → Option String
  | .text content => content
  | _ => none

/-- A truth value. -/
def asBool? : Json → Option Bool
  | .bool value => some value
  | _ => none

/-- The items of a list, each read by `f`. -/
def asList? {α : Type} (f : Json → Option α) : Json → Option (List α)
  | .list items => items.mapM f
  | _ => none

/-- A value that may be null. -/
def orNull? {α : Type} (f : Json → Option α) : Json → Option (Option α)
  | .null => some none
  | value => (f value).map some

/-- The fields of an object whose keys are known. Every key must stand for a text, and no known one
may be repeated. -/
def knownOf? (names : List String) (fields : List (Option String × Json)) :
    Option (List (String × Json)) := do
  let named ← fields.mapM fun (key, value) => key.map fun key => (key, value)
  let known := named.filter fun (key, _) => names.contains key
  if (known.map (·.1)).Nodup then some known else none

/-- The fields of a structure, by name. -/
def known? (names : List String) : Json → Option (List (String × Json))
  | .record fields => knownOf? names fields
  | .list items => if items.length ≤ names.length then some (names.zip items) else none
  | _ => none

/-- A field that must be there. -/
def field? {α : Type} (f : Json → Option α) (fields : List (String × Json)) (name : String) :
    Option α :=
  (fields.lookup name).bind f

/-- A field that may be left out, and its value then. -/
def fieldOr? {α : Type} (absent : α) (f : Json → Option α) (fields : List (String × Json))
    (name : String) : Option α :=
  match fields.lookup name with
  | some value => f value
  | none => some absent

/-- The name of a choice: a string, or an object with that key alone and null. -/
def choice? : Json → Option String
  | .text content => content
  | .record [(key, .null)] => key
  | _ => none

mutual

/-- Whether all strings in the value, keys included, stand for texts, and no number is too large. -/
def isDefinite : Json → Bool
  | .text content => content.isSome
  | .number literal => withinRange literal
  | .list items => itemsDefinite items
  | .record fields => fieldsDefinite fields
  | _ => true

/-- Whether all items of a list are definite. -/
def itemsDefinite : List Json → Bool
  | [] => true
  | item :: rest => isDefinite item && itemsDefinite rest

/-- Whether all fields of an object are definite. -/
def fieldsDefinite : List (Option String × Json) → Bool
  | [] => true
  | (key, value) :: rest => key.isSome && isDefinite value && fieldsDefinite rest

end

end Tincture.Json
