import Mathlib.Data.Set.Insert
import Tincture.Union.ClassFolding

/-!
Sorted and merged ranges.

Ranges cover the code points from their first to their last. Merged ranges ascend and neither
overlap nor touch (`Separated`), and such ranges are known from what they cover (`Separated.ext`),
so merging gives the one list of this form that covers the same (`covered_consolidate`,
`separated_consolidate`).

Merging goes through sorted ranges and keeps the merged ones in reverse. Of the sorted ranges it
only matters that none begins before the one in front of it.
-/

namespace Tincture.Union

/-- The code points in ranges. -/
def covered (ranges : List (Nat × Nat)) : Set Nat := {n | ∃ r ∈ ranges, r.1 ≤ n ∧ n ≤ r.2}

/-- The ranges ascend, none is reversed, and there are code points between any two. -/
structure Separated (ranges : List (Nat × Nat)) : Prop where
  upright : ∀ r ∈ ranges, r.1 ≤ r.2
  apart : ranges.Pairwise fun a b => a.2 + 1 < b.1

variable {ranges : List (Nat × Nat)}

/-! ### What ranges cover -/

@[simp] theorem covered_nil : covered [] = ∅ := by simp [covered]

theorem mem_covered_cons {r : Nat × Nat} {n : Nat} :
    n ∈ covered (r :: ranges) ↔ (r.1 ≤ n ∧ n ≤ r.2) ∨ n ∈ covered ranges := by
  simp [covered]

theorem covered_perm {others : List (Nat × Nat)} (h : ranges.Perm others) :
    covered ranges = covered others := by
  simp [covered, h.mem_iff]

theorem covered_reverse : covered ranges.reverse = covered ranges :=
  covered_perm ranges.reverse_perm

/-! ### Separated ranges are known from what they cover -/

namespace Separated

variable {r : Nat × Nat} {n : Nat}

theorem tail (h : Separated (r :: ranges)) : Separated ranges :=
  ⟨fun _ mem => h.upright _ (List.mem_cons_of_mem r mem), (List.pairwise_cons.mp h.apart).2⟩

theorem first_mem (h : Separated (r :: ranges)) : r.1 ∈ covered (r :: ranges) :=
  ⟨r, List.mem_cons_self, Nat.le_refl _, h.upright r List.mem_cons_self⟩

/-- The code point behind the first range is not covered, nor are further ranges before it. -/
theorem lt_of_mem_tail (h : Separated (r :: ranges)) (mem : n ∈ covered ranges) : r.2 + 1 < n := by
  obtain ⟨other, later, first, -⟩ := mem
  exact Nat.lt_of_lt_of_le ((List.pairwise_cons.mp h.apart).1 other later) first

theorem first_le (h : Separated (r :: ranges)) (mem : n ∈ covered (r :: ranges)) : r.1 ≤ n := by
  rcases mem_covered_cons.mp mem with within | later
  · exact within.1
  · have := h.lt_of_mem_tail later
    have := h.upright r List.mem_cons_self
    omega

theorem mem_tail_iff (h : Separated (r :: ranges)) :
    n ∈ covered ranges ↔ n ∈ covered (r :: ranges) ∧ r.2 < n := by
  rw [mem_covered_cons]
  constructor
  · intro mem
    have := h.lt_of_mem_tail mem
    exact ⟨.inr mem, by omega⟩
  · rintro ⟨within | mem, beyond⟩
    · omega
    · exact mem

/-- The first range of the one list does not end before that of the other. -/
theorem last_le {s : Nat × Nat} {others : List (Nat × Nat)} (h : Separated (r :: ranges))
    (first : r.1 = s.1) (same : covered (r :: ranges) = covered (s :: others)) : s.2 ≤ r.2 := by
  by_contra further
  have behind : r.2 + 1 ∈ covered (s :: others) := by
    have := h.upright r List.mem_cons_self
    exact mem_covered_cons.mpr (.inl (by omega))
  rw [← same, mem_covered_cons] at behind
  rcases behind with within | later
  · omega
  · exact Nat.lt_irrefl _ (h.lt_of_mem_tail later)

theorem ext {others : List (Nat × Nat)} (h : Separated ranges) (h' : Separated others)
    (same : covered ranges = covered others) : ranges = others := by
  induction ranges generalizing others with
  | nil =>
    cases others with
    | nil => rfl
    | cons s others =>
      have mem := h'.first_mem
      rw [← same, covered_nil] at mem
      cases mem
  | cons r ranges ih =>
    cases others with
    | nil =>
      have mem := h.first_mem
      rw [same, covered_nil] at mem
      cases mem
    | cons s others =>
      have first : r.1 = s.1 :=
        Nat.le_antisymm (h.first_le (same ▸ h'.first_mem)) (h'.first_le (same ▸ h.first_mem))
      have last : r.2 = s.2 :=
        Nat.le_antisymm (h'.last_le first.symm same.symm) (h.last_le first same)
      obtain rfl : r = s := Prod.ext first last
      have rest : covered ranges = covered others :=
        Set.ext fun n => by rw [h.mem_tail_iff, h'.mem_tail_iff, same]
      rw [ih h.tail h'.tail rest]

end Separated

/-! ### Sorting -/

theorem place_perm (r : Nat × Nat) (ranges : List (Nat × Nat)) :
    (place r ranges).Perm (r :: ranges) := by
  induction ranges with
  | nil => exact .refl _
  | cons other rest ih =>
    rw [place]
    split
    · exact .refl _
    · exact (ih.cons other).trans (.swap r other rest)

theorem place_ascending (r : Nat × Nat) (h : ranges.Pairwise (·.1 ≤ ·.1)) :
    (place r ranges).Pairwise (·.1 ≤ ·.1) := by
  induction ranges with
  | nil => exact List.pairwise_singleton _ r
  | cons other rest ih =>
    obtain ⟨first, others⟩ := List.pairwise_cons.mp h
    rw [place]
    split
    · rename_i before
      have le : r.1 ≤ other.1 := by
        simp only [precedes, Bool.or_eq_true, decide_eq_true_eq, Bool.and_eq_true, beq_iff_eq]
          at before
        omega
      refine List.pairwise_cons.mpr ⟨fun s mem => ?_, h⟩
      rcases List.mem_cons.mp mem with rfl | mem
      · exact le
      · exact Nat.le_trans le (first s mem)
    · rename_i after
      have le : other.1 ≤ r.1 := by
        simp only [precedes, Bool.or_eq_true, decide_eq_true_eq, Bool.and_eq_true, beq_iff_eq]
          at after
        omega
      refine List.pairwise_cons.mpr ⟨fun s mem => ?_, ih others⟩
      rcases List.mem_cons.mp ((place_perm r rest).mem_iff.mp mem) with rfl | mem
      · exact le
      · exact first s mem

theorem sorted_perm (ranges : List (Nat × Nat)) : (ranges.foldr place []).Perm ranges := by
  induction ranges with
  | nil => exact .refl _
  | cons r rest ih => exact (place_perm r _).trans (ih.cons r)

theorem sorted_ascending (ranges : List (Nat × Nat)) :
    (ranges.foldr place []).Pairwise (·.1 ≤ ·.1) := by
  induction ranges with
  | nil => exact .nil
  | cons r rest ih => exact place_ascending r ih

/-! ### Merging -/

/-- The merged ranges so far, the last one first, and where those begin that are still to come. -/
structure Merging (merged : List (Nat × Nat)) (next : Nat) : Prop where
  separated : Separated merged.reverse
  first_le : ∀ last ∈ merged.head?, last.1 ≤ next

/-- One step of merging covers the further range as well. -/
theorem covered_join {merged : List (Nat × Nat)} {r : Nat × Nat} (h : Merging merged r.1)
    (n : Nat) : n ∈ covered (join merged r) ↔ (r.1 ≤ n ∧ n ≤ r.2) ∨ n ∈ covered merged := by
  cases merged with
  | nil => rw [join, mem_covered_cons]
  | cons last merged =>
    have le := h.first_le last rfl
    have upright := h.separated.upright last (by simp)
    rw [join]
    split
    · simp only [mem_covered_cons]
      rw [← or_assoc]
      refine or_congr_left ?_
      omega
    · rw [mem_covered_cons]

theorem Merging.join {merged : List (Nat × Nat)} {r : Nat × Nat} (h : Merging merged r.1)
    (upright : r.1 ≤ r.2) {next : Nat} (le : r.1 ≤ next) :
    Merging (Union.join merged r) next := by
  cases merged with
  | nil => exact ⟨⟨by simpa [Union.join] using upright, by simp [Union.join]⟩,
      by simpa [Union.join] using le⟩
  | cons last merged =>
    have before := h.first_le last rfl
    obtain ⟨all, apart⟩ := h.separated
    rw [List.pairwise_reverse, List.pairwise_cons] at apart
    obtain ⟨apart, others⟩ := apart
    rw [Union.join]
    split
    · -- The last range becomes longer, which takes it away from none of those before it.
      have longer : last.1 ≤ max last.2 r.2 :=
        Nat.le_trans (all last (by simp)) (Nat.le_max_left ..)
      refine ⟨⟨fun s mem => ?_, List.pairwise_reverse.mpr (.cons apart others)⟩,
        by simpa using Nat.le_trans before le⟩
      rcases List.mem_cons.mp (List.mem_reverse.mp mem) with rfl | mem
      · exact longer
      · exact all s (by simp [mem])
    · rename_i beyond
      refine ⟨⟨fun s mem => ?_, List.pairwise_reverse.mpr (.cons ?_ (.cons apart others))⟩,
        by simpa using le⟩
      · rcases List.mem_cons.mp (List.mem_reverse.mp mem) with rfl | mem
        · exact upright
        · exact all s (by simpa [or_comm] using mem)
      · intro s mem
        rcases List.mem_cons.mp mem with rfl | mem
        · omega
        · have := apart s mem
          omega

/-- Merging sorted ranges, some having been merged before. -/
theorem merging_foldl {merged : List (Nat × Nat)} (ascending : ranges.Pairwise (·.1 ≤ ·.1))
    (upright : ∀ r ∈ ranges, r.1 ≤ r.2) (h : ∀ r ∈ ranges, Merging merged r.1)
    (separated : Separated merged.reverse) :
    Separated (ranges.foldl join merged).reverse ∧
      ∀ n, n ∈ covered (ranges.foldl join merged) ↔ n ∈ covered ranges ∨ n ∈ covered merged := by
  induction ranges generalizing merged with
  | nil => exact ⟨separated, by simp⟩
  | cons r rest ih =>
    obtain ⟨first, ascending⟩ := List.pairwise_cons.mp ascending
    obtain ⟨own, upright⟩ := List.forall_mem_cons.mp upright
    have here := h r List.mem_cons_self
    have further : ∀ s ∈ rest, Merging (join merged r) s.1 := fun s mem =>
      here.join own (first s mem)
    obtain ⟨separated, covers⟩ := ih ascending upright further (here.join own le_rfl).separated
    refine ⟨separated, fun n => ?_⟩
    rw [List.foldl_cons, covers, covered_join here, mem_covered_cons, or_left_comm, or_assoc]

theorem merging_sorted (upright : ∀ r ∈ ranges, r.1 ≤ r.2) :
    Separated (consolidate ranges) ∧
      ∀ n, n ∈ covered (consolidate ranges) ↔ n ∈ covered ranges := by
  have perm := sorted_perm ranges
  have empty : Separated ([] : List (Nat × Nat)).reverse := ⟨by simp, .nil⟩
  obtain ⟨separated, covers⟩ := merging_foldl (sorted_ascending ranges)
    (fun r mem => upright r (perm.mem_iff.mp mem)) (fun _ _ => ⟨empty, by simp⟩) empty
  refine ⟨separated, fun n => ?_⟩
  rw [consolidate, covered_reverse, covers, covered_perm perm]
  simp

/-- Consolidated ranges cover the same code points. -/
theorem covered_consolidate (upright : ∀ r ∈ ranges, r.1 ≤ r.2) :
    covered (consolidate ranges) = covered ranges :=
  Set.ext (merging_sorted upright).2

theorem separated_consolidate (upright : ∀ r ∈ ranges, r.1 ≤ r.2) :
    Separated (consolidate ranges) :=
  (merging_sorted upright).1

end Tincture.Union
