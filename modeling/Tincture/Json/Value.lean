/-!
JSON values.

A value keeps what a document says and nothing more: fields in the order and number in which they
are written, numbers as their literal. A string whose escapes name half of a surrogate pair is well
formed but stands for no text; `none` marks it, so that only a reader of that text has to refuse it.
-/

namespace Tincture

/-- A JSON value. -/
inductive Json where
  | null
  | bool (value : Bool)
  /-- A number, as written. -/
  | number (literal : String)
  /-- A string and the text it stands for. -/
  | text (content : Option String)
  | list (items : List Json)
  /-- An object: its keys and values in order, repeated keys included. -/
  | record (fields : List (Option String × Json))
deriving Inhabited

namespace Json

/-- The string that stands for a text. -/
def string (s : String) : Json := .text (some s)

/-- A natural number. -/
def nat (n : Nat) : Json := .number (toString n)

/-- A whole number. -/
def int (n : Int) : Json := .number (toString n)

/-- An object with the given fields. -/
def object (fields : List (String × Json)) : Json :=
  .record (fields.map fun (key, value) => (some key, value))

/-- A list of strings. -/
def strings (ss : List String) : Json := .list (ss.map string)

mutual

/-- How many lists and objects enclose one another. -/
def height : Json → Nat
  | .list items => heightOfItems items + 1
  | .record fields => heightOfFields fields + 1
  | _ => 0

/-- The greatest height among the items of a list. -/
def heightOfItems : List Json → Nat
  | [] => 0
  | item :: rest => max (height item) (heightOfItems rest)

/-- The greatest height among the values of an object. -/
def heightOfFields : List (Option String × Json) → Nat
  | [] => 0
  | (_, value) :: rest => max (height value) (heightOfFields rest)

end

end Json

end Tincture
