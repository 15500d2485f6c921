import Mathlib.Data.List.Nodup
import Tincture.Language.Document
import Tincture.Proofs.Json.Reading

/-!
Structures that are written as objects and read again.

An object is written with its fields in the order of the structure, some of which may be left out.
So its keys are a sublist of the names of all fields, and as these differ from one another the
object has known fields only and none of them twice (`known?_object`). A field that is left out is
read as what it stands for then (`fieldOr?_flag`, `fieldOr?_optional`).
-/

namespace Tincture.Json

/-! ### Fields of an object -/

theorem mapM_named (fields : List (String × Json)) :
    (fields.map fun (key, value) => ((some key, value) : Option String × Json)).mapM
      (fun (key, value) => key.map fun key => (key, value)) = some fields := by
  induction fields with
  | nil => rfl
  | cons field rest ih =>
    rw [List.map_cons, List.mapM_cons, ih]
    rfl

/-- All fields of an object are known if its keys stand among the names in order. -/
theorem known?_object {names : List String} {fields : List (String × Json)} (nodup : names.Nodup)
    (keys : (fields.map (·.1)).Sublist names) : (object fields).known? names = some fields := by
  have known : fields.filter (fun field => names.contains field.1) = fields := by
    refine List.filter_eq_self.mpr fun field mem => ?_
    exact List.contains_iff_mem.mpr (keys.subset (List.mem_map_of_mem mem))
  have once : (fields.map (·.1)).Nodup := nodup.sublist keys
  rw [object, known?, knownOf?, mapM_named, Option.bind_eq_bind, Option.bind_some, known,
    if_pos once]

theorem flag_keys (name : String) (value : Bool) :
    ((flag name value).map (·.1)).Sublist [name] := by
  cases value
  · exact List.nil_sublist _
  · exact .refl _

theorem optional_keys {α : Type} (name : String) (f : α → Json) (value : Option α) :
    ((optional name f value).map (·.1)).Sublist [name] := by
  cases value
  · exact List.nil_sublist _
  · exact .refl _

/-! ### Single fields -/

theorem lookup_flag (name other : String) (value : Bool) :
    (flag other value).lookup name =
      if name = other then (if value then some (.bool true) else none) else none := by
  by_cases own : name = other
  · subst own
    cases value <;> simp [flag]
  · have differ : (name == other) = false := beq_eq_false_iff_ne.mpr own
    cases value <;> simp [flag, List.lookup_cons, own, differ]

theorem lookup_optional {α : Type} (name other : String) (f : α → Json) (value : Option α) :
    (optional other f value).lookup name = if name = other then value.map f else none := by
  by_cases own : name = other
  · subst own
    cases value <;> simp [optional]
  · have differ : (name == other) = false := beq_eq_false_iff_ne.mpr own
    cases value <;> simp [optional, List.lookup_cons, own, differ]

variable {α : Type} {fields : List (String × Json)} {name : String}

theorem field?_of_lookup {f : Json → Option α} {value : Json}
    (found : fields.lookup name = some value) : field? f fields name = f value := by
  rw [field?, found, Option.bind_some]

theorem fieldOr?_of_lookup {absent : α} {f : Json → Option α} {value : Json}
    (found : fields.lookup name = some value) : fieldOr? absent f fields name = f value := by
  rw [fieldOr?, found]

/-- A flag that is left out is not set. -/
theorem fieldOr?_flag {value : Bool}
    (found : fields.lookup name = if value then some (.bool true) else none) :
    fieldOr? false asBool? fields name = some value := by
  rw [fieldOr?, found]
  cases value <;> rfl

theorem orNull?_eq_some {f : Json → Option α} {j : Json} {a : α} (written : j ≠ .null)
    (read : f j = some a) : orNull? f j = some (some a) := by
  unfold orNull?
  split
  · exact absurd rfl written
  · rw [read, Option.map_some]

/-- A field that is left out has no value. -/
theorem fieldOr?_optional {f : α → Json} {g : Json → Option α} {value : Option α}
    (found : fields.lookup name = value.map f)
    (read : ∀ a ∈ value, f a ≠ .null ∧ g (f a) = some a) :
    fieldOr? none (orNull? g) fields name = some value := by
  rw [fieldOr?, found]
  cases value with
  | none => rfl
  | some a => exact orNull?_eq_some (read a rfl).1 (read a rfl).2

/-! ### Lists -/

theorem asList?_map {f : α → Json} {g : Json → Option α} {as : List α}
    (read : ∀ a ∈ as, g (f a) = some a) : asList? g (.list (as.map f)) = some as := by
  rw [asList?]
  induction as with
  | nil => rfl
  | cons a as ih =>
    obtain ⟨first, others⟩ := List.forall_mem_cons.mp read
    rw [List.map_cons, List.mapM_cons, first, ih others]
    rfl

theorem asList?_strings (ss : List String) : asList? asString? (strings ss) = some ss :=
  asList?_map fun _ _ => rfl

/-! ### Words -/

theorem wordy_flag (name : String) (value : Bool) : ∀ field ∈ flag name value, Wordy field.2 := by
  cases value
  · exact List.forall_mem_nil _
  · exact List.forall_mem_singleton.mpr (.bool true)

theorem wordy_optional {α : Type} {f : α → Json} {value : Option α} (name : String)
    (h : ∀ a, Wordy (f a)) : ∀ field ∈ optional name f value, Wordy field.2 := by
  cases value
  · exact List.forall_mem_nil _
  · exact List.forall_mem_singleton.mpr (h _)

theorem wordy_map {α : Type} {f : α → Json} (h : ∀ a, Wordy (f a)) (as : List α) :
    Wordy (.list (as.map f)) :=
  .list (List.forall_mem_map.mpr fun a _ => h a)

end Tincture.Json
