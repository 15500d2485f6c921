import Mathlib.Data.List.Sort
import Tincture.Proofs.Regex.Confinement
import Tincture.Proofs.Regex.NamedClass
import Tincture.Regex.Compiled

/-!
Expressions that refuse white space.

Most expressions ask for a character that is no white space, or for the edge of a word, whichever
way they match. In a text of white space there is no such thing, so they match nowhere in it.
`Node.refusesSpace` finds this out by looking at the expression; that it is right is proved for each
way `Node.run` goes (`run_of_refusesSpace`). What an expression is built of decides whether it
refuses white space, also where neighbouring parts are joined (`refusesSpace_sequence`).
-/

namespace Tincture.Regex

/-! ### White space -/

namespace Class

/-- The code points of white space. -/
def spaces : List Nat :=
  List.range' 9 5 ++ [0x20, 0x85, 0xa0, 0x1680] ++ List.range' 0x2000 11 ++
    [0x2028, 0x2029, 0x202f, 0x205f, 0x3000]

theorem mem_spaces (n : Nat) : space.contains n = true ↔ n ∈ spaces := by
  have sorted : spaces.mergeSort (· ≤ ·) = spaces := List.mergeSort_eq_self _ (by decide)
  have eq : space = CodeSet.ofList spaces := by
    rw [CodeSet.ofList, sorted]
    decide
  rw [eq, CodeSet.contains_ofList]

/-- No word has white space. -/
theorem word_spaces : ∀ n ∈ spaces, word.contains n = false := by
  have tables : spaces.all (fun n => !Property.alphabetic.contains n && !Property.mark.contains n &&
      !Property.digit.contains n && !Property.connector.contains n) = true := by
    decide +kernel
  intro n mem
  have here := List.all_eq_true.mp tables n mem
  simp only [Bool.and_eq_true, Bool.not_eq_true'] at here
  simp [word, here]

/-- What folds otherwise is no white space, and folds to none. -/
theorem changed_spaces {n : Nat} {run : List Nat} (h : (n, run) ∈ Fold.changed) :
    n ∉ spaces ∧ run ≠ [] ∧ ∀ k ∈ run, k ∉ spaces := by
  have singles : ∀ r ∈ Fold.runs.toList, r.first ≤ r.last ∧ ∀ m ∈ spaces,
      (m < r.first ∨ r.last < m) ∧ (m < r.target ∨ r.target + (r.last - r.first) < m) := by
    decide +kernel
  have several : ∀ e ∈ Fold.sequences, e.1 ∉ spaces ∧ e.2 ≠ [] ∧ ∀ k ∈ e.2, k ∉ spaces := by
    decide +kernel
  rcases Fold.mem_changed h with ⟨r, mem, low, high, rfl⟩ | mem
  · obtain ⟨upright, apart⟩ := singles r mem
    refine ⟨fun own => ?_, List.cons_ne_nil _ _, fun k image own => ?_⟩
    · have := (apart n own).1
      omega
    · rw [List.mem_singleton.mp image] at own
      have := (apart _ own).2
      omega
  · exact several _ mem

/-- White space folds to itself. -/
theorem fold_spaces {n : Nat} (mem : n ∈ spaces) : fold n = [n] :=
  (Fold.spells_fold n).resolve_right fun changed => (changed_spaces changed).1 mem

/-- A set that is closed under folding has no more white space than before. -/
theorem contains_closure_spaces {s : CodeSet} {n : Nat} (mem : n ∈ spaces) :
    (Fold.closure s).contains n = s.contains n := by
  rw [Bool.eq_iff_iff]
  refine ⟨fun h => ?_, fun h => (Fold.contains_closure s n).mpr (.inl h)⟩
  obtain ⟨m, run, holds, spells, own⟩ := Fold.spells_of_closure h
  rcases own with rfl | changed
  · rcases spells with same | changed
    · rwa [List.singleton_inj.mp same]
    · exact absurd mem ((changed_spaces changed).2.2 n (List.mem_singleton_self n))
  · exact absurd mem (changed_spaces changed).1

end Class

open Tincture.Regex.Class

/-! ### Refusing white space -/

namespace Node

/-- The expression asks for something that no white space has, whichever way it matches. -/
def refusesSpace : Node → Bool
  | .text codes _ => codes.any (!spaces.contains ·)
  | .one set => spaces.all (!set.contains ·)
  | .seq a b => b.refusesSpace || a.refusesSpace
  | .alt a b => a.refusesSpace && b.refusesSpace
  | .capture _ a | .atomic a | .ahead false a => a.refusesSpace
  | .repetition least _ _ a => 0 < least && a.refusesSpace
  | .anchor .wordEdge => true
  | _ => false

theorem refusesSpace_before (a b : Node) :
    (a.before b).refusesSpace = (a.refusesSpace || b.refusesSpace) := by
  unfold before
  split
  · split
    · simp [refusesSpace]
    · simp [refusesSpace, Bool.or_comm]
  · split
    · simp [refusesSpace, Bool.or_left_comm]
    · simp [refusesSpace, Bool.or_comm]
  · simp [refusesSpace, Bool.or_comm]

theorem refusesSpace_sequence (as : List Node) :
    (sequence as).refusesSpace = as.any refusesSpace := by
  induction as with
  | nil => rfl
  | cons a as ih =>
    cases as with
    | nil => simp [sequence]
    | cons b as =>
      rw [List.any_cons, ← ih]
      exact refusesSpace_before a _

theorem refusesSpace_alternatives {as : List Node} (nonempty : as ≠ []) :
    (alternatives as).refusesSpace = as.all refusesSpace := by
  induction as with
  | nil => exact absurd rfl nonempty
  | cons a as ih =>
    cases as with
    | nil => simp [alternatives]
    | cons b as =>
      rw [List.all_cons, ← ih (List.cons_ne_nil b as)]
      rfl

end Node

/-- A class of several characters without white space refuses it, whether case is ignored or not. -/
theorem refusesSpace_classNode (d : Draft) {c : ClassText} (positive : c.negated = false)
    (several : c.members.set.only? = none)
    (apart : ∀ n ∈ spaces, c.members.set.contains n = false) :
    (d.classNode c).refusesSpace = true := by
  unfold Draft.classNode
  split
  · simpa [Node.refusesSpace, ClassText.set, positive] using apart
  · rw [if_neg (by simp [positive]), several]
    rw [Node.refusesSpace_alternatives (List.cons_ne_nil _ _), List.all_eq_true]
    refine List.forall_mem_cons.mpr ⟨?_, fun a mem => ?_⟩
    · simp only [Node.refusesSpace, List.all_eq_true, Bool.not_eq_true']
      exact fun n mem => (contains_closure_spaces mem).trans (apart n mem)
    · obtain ⟨run, listed, rfl⟩ := List.mem_map.mp mem
      have image : run ∈ Fold.sequences.map (·.2) := by
        split at listed
        · cases listed
        · rw [Fold.sequencesIn, List.mem_eraseDups] at listed
          obtain ⟨e, own, rfl⟩ := List.mem_map.mp listed
          exact List.mem_map_of_mem (List.mem_of_mem_filter own)
      obtain ⟨⟨n, run⟩, own, rfl⟩ := List.mem_map.mp image
      obtain ⟨-, filled, others⟩ := changed_spaces (List.mem_append_right _ own)
      obtain ⟨k, rest, rfl⟩ := List.exists_cons_of_ne_nil filled
      simpa [Node.refusesSpace] using Or.inl (others k List.mem_cons_self)

/-! ### Texts of white space -/

namespace Subject

/-- The text has nothing but white space. -/
def Spaced (t : Subject) : Prop := ∀ c ∈ t.text, space.holds c = true

variable {t : Subject} {p : Nat}

theorem Spaced.mem_spaces (h : t.Spaced) {c : Char} (found : t.text[p]? = some c) :
    c.toNat ∈ spaces :=
  (Class.mem_spaces c.toNat).mp (h c (Array.mem_of_getElem? found))

/-- Sets without white space hold nowhere. -/
theorem Spaced.not_holdsAt (h : t.Spaced) {set : CodeSet}
    (apart : ∀ n ∈ spaces, set.contains n = false) (p : Nat) : t.holdsAt set p = false := by
  unfold holdsAt
  split
  · rename_i c found
    exact apart c.toNat (h.mem_spaces found)
  · rfl

theorem Spaced.not_isWordEdge (h : t.Spaced) (p : Nat) : t.isWordEdge p = false := by
  simp [isWordEdge, h.not_holdsAt word_spaces]

theorem Spaced.of_literal? (h : t.Spaced) {codes : List Nat} {u : Nat}
    (found : t.literal? codes p = some u) : ∀ n ∈ codes, n ∈ spaces := by
  fun_induction t.literal? codes p with
  | case1 => exact fun _ mem => absurd mem List.not_mem_nil
  | case2 rest p c here ih =>
    exact List.forall_mem_cons.mpr ⟨h.mem_spaces here, ih found⟩
  | case3 => cases found
  | case4 => cases found

theorem Spaced.of_foldedIn? (h : t.Spaced) {room : Nat} {codes : List Nat} {u : Nat}
    (found : t.foldedIn? room codes p = some u) : ∀ n ∈ codes, n ∈ spaces := by
  fun_induction t.foldedIn? room codes p with
  | case1 => exact fun _ mem => absurd mem List.not_mem_nil
  | case2 => cases found
  | case3 room codes p nonempty c here rest dropped ih =>
    have own := h.mem_spaces here
    rw [fold_spaces own] at dropped
    cases codes with
    | nil => exact absurd rfl nonempty
    | cons n codes =>
      simp only [dropRun?] at dropped
      split at dropped
      · rename_i same
        cases dropped
        exact List.forall_mem_cons.mpr ⟨same ▸ own, ih found⟩
      · cases dropped
  | case4 => cases found
  | case5 => cases found

end Subject

namespace Node

/-- An expression that refuses white space does not match in a text of white space. -/
theorem run_of_refusesSpace {t : Subject} (spaced : t.Spaced) {a : Node}
    (refuses : a.refusesSpace = true) (k : Next) {s : Spot} (within : s.Within t.text.size) :
    a.run t k s = none := by
  induction a using Node.run.induct generalizing k s with
  | case2 codes folded =>
    obtain ⟨n, mem, foreign⟩ := List.any_eq_true.mp refuses
    have foreign : n ∉ spaces := by simpa using foreign
    simp only [run]
    split
    · rename_i u found
      cases folded
      · exact absurd (spaced.of_literal? found n mem) foreign
      · exact absurd (spaced.of_foldedIn? found n mem) foreign
    · rfl
  | case3 set =>
    have apart : ∀ n ∈ spaces, set.contains n = false := by simpa [refusesSpace] using refuses
    simp only [run, spaced.not_holdsAt apart, Bool.false_eq_true, if_false]
  | case4 a b iha ihb =>
    rw [refusesSpace, Bool.or_eq_true] at refuses
    rcases refuses with later | first
    · -- Wherever the first part ends, the second one fails.
      refine Option.eq_none_iff_forall_ne_some.mpr fun r found => ?_
      obtain ⟨u, inside, found⟩ := run_confined t a _ s r within found
      rw [ihb later k inside] at found
      cases found
    · exact iha first _ within
  | case5 a b iha ihb =>
    rw [refusesSpace, Bool.and_eq_true] at refuses
    simp only [run, iha refuses.1 k within]
    exact ihb refuses.2 k within
  | case6 group a ih => exact ih refuses _ (within.openGroup group)
  | case7 least most greedy set =>
    simp only [refusesSpace, Bool.and_eq_true, decide_eq_true_iff, List.all_eq_true,
      Bool.not_eq_true'] at refuses
    have short (room : Nat) : t.reach set s.pos room < least := by
      rw [Subject.reach_of_not_holdsAt (spaced.not_holdsAt refuses.2 _)]
      exact refuses.1
    rw [run]
    cases most <;> exact if_pos (short _)
  | case8 least greedy set other ih =>
    simp only [refusesSpace, Bool.and_eq_true, decide_eq_true_iff, List.all_eq_true,
      Bool.not_eq_true'] at refuses
    obtain ⟨positive, apart, refuses⟩ := refuses
    obtain ⟨n, rfl⟩ := Nat.exists_eq_succ_of_ne_zero (Nat.ne_of_gt positive)
    simp only [run, times, choice, spaced.not_holdsAt apart, Bool.false_eq_true, if_false,
      ih refuses _ within]
  | case9 least most greedy a notOne notChoice ih =>
    simp only [refusesSpace, Bool.and_eq_true, decide_eq_true_iff] at refuses
    obtain ⟨n, rfl⟩ := Nat.exists_eq_succ_of_ne_zero (Nat.ne_of_gt refuses.1)
    rw [run.eq_9 t _ most greedy a notOne notChoice]
    exact ih refuses.2 _ within
  | case10 a ih => simp only [run, ih refuses some within]
  | case11 negated a ih =>
    cases negated with
    | false => simp only [run, ih refuses some within, Bool.false_eq_true, if_false]
    | true => cases refuses
  | case13 a =>
    cases a with
    | wordEdge =>
      simp only [run, Subject.satisfies, spaced.not_isWordEdge, Bool.false_eq_true, if_false]
    | _ => cases refuses
  | case1 | case12 | case14 => cases refuses

end Node

/-! ### Searching -/

variable {text : List Char} {r : Regex}

/-- Nothing that refuses white space is found in it. -/
theorem search?_of_refusesSpace (spaced : ∀ c ∈ text, space.holds c = true)
    (refuses : r.node.refusesSpace = true) : Engine.search? r text.toArray = none := by
  have subject : Subject.Spaced { text := text.toArray } := fun c mem =>
    spaced c (List.mem_toArray.mp mem)
  have none_from {pos room : Nat} (le : pos + room ≤ text.length + 1) :
      Engine.searchFrom? r text.toArray pos room = none := by
    induction room generalizing pos with
    | zero => rfl
    | succ room ih =>
      have inside : pos ≤ text.toArray.size := by
        rw [List.size_toArray]
        omega
      have here := Node.run_of_refusesSpace subject refuses
        (fun s => if r.nonEmpty && s.pos == pos then none else some s) (.start inside)
      have missed : Engine.matchFrom? r text.toArray 0 pos = none := here
      rw [Engine.searchFrom?, missed]
      exact ih (by omega)
  exact none_from (by simp)

end Tincture.Regex
