import Mathlib.Data.List.Forall2

/-!
Computations that may fail.

What a sequence of steps gives is told step by step: it gives a result if each of its steps does
(`ok_of_bind`), and otherwise the fault of the first step that fails (`error_of_bind`). So a check
of a list, or a computation that goes through one, ends with the first fault in it (`FirstFault`).
-/

namespace Tincture

variable {ε α β : Type}

theorem ok_of_map {x : Except ε α} {f : α → β} {b : β} (h : x.map f = .ok b) :
    ∃ a, x = .ok a ∧ f a = b := by
  cases x with
  | error e => cases h
  | ok a =>
    cases h
    exact ⟨a, rfl, rfl⟩

theorem map_pair_eq_ok_iff {x : Except ε α} {b : β} {result : α × β} :
    x.map (·, b) = .ok result ↔ x = .ok result.1 ∧ result.2 = b := by
  cases x with
  | error e => simp [Except.map]
  | ok a => simp [Except.map, Prod.ext_iff, eq_comm]

/-- A computation that goes on gives a result only if its first part does. -/
theorem ok_of_bind {x : Except ε α} {f : α → Except ε β} {b : β} (h : x.bind f = .ok b) :
    ∃ a, x = .ok a ∧ f a = .ok b := by
  cases x with
  | error e => cases h
  | ok a => exact ⟨a, rfl, h⟩

theorem error_of_bind {x : Except ε α} {f : α → Except ε β} {e : ε} :
    x.bind f = .error e ↔ x = .error e ∨ ∃ a, x = .ok a ∧ f a = .error e := by
  cases x with
  | error e' => simp [Except.bind]
  | ok a => simp [Except.bind]

/-! ### The first fault in a list -/

variable {f : α → Except ε β} {xs ys : List α} {e : ε}

/-- Something in the list has the fault, and what stands before it has none. -/
def FirstFault (f : α → Except ε β) (xs : List α) (e : ε) : Prop :=
  ∃ before x after, xs = before ++ x :: after ∧ (∀ y ∈ before, ∃ b, f y = .ok b) ∧
    f x = .error e

theorem not_firstFault_nil : ¬ FirstFault f [] e := by
  rintro ⟨before, x, after, eq, -⟩
  cases before <;> cases eq

theorem firstFault_cons {x : α} :
    FirstFault f (x :: xs) e ↔ f x = .error e ∨ (∃ b, f x = .ok b) ∧ FirstFault f xs e := by
  constructor
  · rintro ⟨before, y, after, eq, fine, fault⟩
    cases before with
    | nil =>
      cases eq
      exact .inl fault
    | cons z before =>
      cases eq
      obtain ⟨here, others⟩ := List.forall_mem_cons.mp fine
      exact .inr ⟨here, before, y, after, rfl, others, fault⟩
  · rintro (fault | ⟨here, before, y, after, rfl, others, fault⟩)
    · exact ⟨[], x, xs, rfl, by simp, fault⟩
    · exact ⟨x :: before, y, after, rfl, List.forall_mem_cons.mpr ⟨here, others⟩, fault⟩

theorem firstFault_append :
    FirstFault f (xs ++ ys) e ↔
      FirstFault f xs e ∨ (∀ x ∈ xs, ∃ b, f x = .ok b) ∧ FirstFault f ys e := by
  induction xs with
  | nil => simp [not_firstFault_nil]
  | cons x xs ih =>
    rw [List.cons_append, firstFault_cons, firstFault_cons, ih, List.forall_mem_cons, and_or_left,
      or_assoc, and_assoc]

/-- Where nothing has a fault there is no first one, and the other way round. -/
theorem forall_ok_iff : (∀ x ∈ xs, ∃ b, f x = .ok b) ↔ ∀ e, ¬ FirstFault f xs e := by
  induction xs with
  | nil => simp [not_firstFault_nil]
  | cons x xs ih =>
    simp only [List.forall_mem_cons, firstFault_cons, not_or, not_and, forall_and, ih]
    cases f x <;> simp

/-- A check of a list reports the first fault. -/
theorem forM_eq_error_iff {f : α → Except ε Unit} :
    xs.forM f = .error e ↔ FirstFault f xs e := by
  induction xs with
  | nil => exact iff_of_false (fun h => nomatch h) not_firstFault_nil
  | cons x xs ih =>
    rw [firstFault_cons, ← ih, ← exists_and_right]
    exact error_of_bind

/-- It succeeds just if all of the list passes. -/
theorem forM_eq_ok_iff {f : α → Except ε Unit} : xs.forM f = .ok () ↔ ∀ x ∈ xs, f x = .ok () :=
  calc xs.forM f = .ok ()
    _ ↔ ∀ e, ¬ xs.forM f = .error e := by cases xs.forM f <;> simp
    _ ↔ ∀ x ∈ xs, ∃ b, f x = .ok b := by simp only [forM_eq_error_iff, forall_ok_iff]
    _ ↔ ∀ x ∈ xs, f x = .ok () := forall₂_congr fun x _ => ⟨fun ⟨(), h⟩ => h, fun h => ⟨(), h⟩⟩

/-- A computation that goes through a list reports the first fault, too. -/
theorem mapM_eq_error_iff : xs.mapM f = .error e ↔ FirstFault f xs e := by
  induction xs with
  | nil => exact iff_of_false (fun h => nomatch h) not_firstFault_nil
  | cons x xs ih =>
    rw [firstFault_cons, ← ih, ← exists_and_right, List.mapM_cons]
    refine error_of_bind.trans (or_congr_right (exists_congr fun b => and_congr_right fun _ => ?_))
    refine error_of_bind.trans (or_iff_left ?_)
    rintro ⟨_, -, made⟩
    cases made

theorem exists_mapM_iff : (∃ bs, xs.mapM f = .ok bs) ↔ ∀ x ∈ xs, ∃ b, f x = .ok b := by
  simp only [forall_ok_iff, ← mapM_eq_error_iff]
  cases xs.mapM f <;> simp

/-- What it gives is the results one by one. -/
theorem forall₂_of_mapM {bs : List β} (h : xs.mapM f = .ok bs) :
    List.Forall₂ (fun x b => f x = .ok b) xs bs := by
  induction xs generalizing bs with
  | nil =>
    cases h
    exact .nil
  | cons x xs ih =>
    rw [List.mapM_cons] at h
    obtain ⟨first, here, h⟩ := ok_of_bind h
    obtain ⟨others, there, h⟩ := ok_of_bind h
    cases h
    exact .cons here (ih there)

end Tincture
