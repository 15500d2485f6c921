import Mathlib.Data.List.Basic
import Tincture.Text.CodeSet

/-!
What sets of code points hold.

A look-up searches the bounds of a set for the first one that is too great. If the bounds ascend, it
counts those that are not (`Sorted.contains_eq`), so membership goes on and off with each of them.
Unions, intersections and differences are made of the bounds at which they change, and that is the
same set even if the bounds they are made of do not ascend: what a search finds depends only on
which bounds are too great, and that changes at no other points (`contains_ofPoints`).
-/

namespace Tincture

/-! ### Searching -/

section Searching

variable {key : Nat → Nat} {m n low high : Nat}

/-- What is found depends only on which keys are too great. -/
theorem firstAbove_congr (same : ∀ i < high, key i ≤ m ↔ key i ≤ n) :
    firstAbove key m low high = firstAbove key n low high := by
  fun_induction firstAbove key m low high with
  | case1 low high lt middle le ih =>
    have below : middle < high := by omega
    rw [firstAbove.eq_def key n, if_pos lt]
    dsimp only
    rw [if_pos ((same middle below).mp le), ih same]
  | case2 low high lt middle above ih =>
    have below : middle < high := by omega
    rw [firstAbove.eq_def key n, if_pos lt]
    dsimp only
    rw [if_neg (mt (same middle below).mpr above), ih fun i lt => same i (by omega)]
  | case3 low high le =>
    rw [firstAbove, if_neg le]

/-- If all keys are too great, the first one is found. -/
theorem firstAbove_of_lt (above : ∀ i < high, n < key i) : firstAbove key n low high = low := by
  fun_induction firstAbove key n low high with
  | case1 low high lt middle le ih =>
    have := above middle (by omega)
    omega
  | case2 low high lt middle _ ih => exact ih fun i lt => above i (by omega)
  | case3 low high le => rfl

/-- Among ascending keys, those before the one that is found are at most `n`, and the others are
not. -/
theorem firstAbove_spec (ascending : ∀ i j, i ≤ j → j < high → key i ≤ key j) (le : low ≤ high) :
    low ≤ firstAbove key n low high ∧ firstAbove key n low high ≤ high ∧
      (∀ i, low ≤ i → i < firstAbove key n low high → key i ≤ n) ∧
      ∀ i, firstAbove key n low high ≤ i → i < high → n < key i := by
  fun_induction firstAbove key n low high with
  | case1 low high lt middle small ih =>
    obtain ⟨first, last, before, after⟩ := ih ascending (by omega)
    refine ⟨by omega, last, fun i ge lt => ?_, after⟩
    by_cases further : middle + 1 ≤ i
    · exact before i further lt
    · exact Nat.le_trans (ascending i middle (by omega) (by omega)) small
  | case2 low high lt middle great ih =>
    obtain ⟨first, last, before, after⟩ :=
      ih (fun i j le lt => ascending i j le (by omega)) (by omega)
    refine ⟨first, by omega, before, fun i ge lt => ?_⟩
    by_cases earlier : i < middle
    · exact after i ge earlier
    · have := ascending middle i (by omega) lt
      omega
  | case3 low high none =>
    exact ⟨Nat.le_refl _, le, fun i ge lt => by omega, fun i ge lt => by omega⟩

end Searching

namespace CodeSet

variable {s t : CodeSet} {m n : Nat}

/-! ### Bounds -/

/-- The bounds ascend. -/
def Sorted (s : CodeSet) : Prop := s.bounds.toList.Pairwise (· ≤ ·)

/-- It is enough to compare neighbours. -/
instance (s : CodeSet) : Decidable s.Sorted :=
  decidable_of_iff (s.bounds.toList.IsChain (· ≤ ·)) List.isChain_iff_pairwise

theorem getD_mem {i : Nat} (lt : i < s.bounds.size) : s.bounds.getD i 0 ∈ s.bounds.toList := by
  rw [Array.getD_eq_getD_getElem?, Array.getElem?_eq_getElem lt, Option.getD_some]
  exact Array.getElem_mem_toList lt

/-- Code points that no bound separates belong to the set together. -/
theorem contains_congr (same : ∀ b ∈ s.bounds.toList, b ≤ m ↔ b ≤ n) :
    s.contains m = s.contains n := by
  rw [contains, contains, crossings, crossings,
    firstAbove_congr fun i lt => same _ (getD_mem lt)]

/-- What comes before all bounds is not in the set. -/
theorem contains_of_lt (below : ∀ b ∈ s.bounds.toList, n < b) : s.contains n = false := by
  rw [contains, crossings, firstAbove_of_lt fun i lt => below _ (getD_mem lt)]
  rfl

/-- Ascending bounds at most `n` are counted. -/
theorem Sorted.contains_eq (sorted : s.Sorted) (n : Nat) :
    s.contains n = (s.bounds.toList.countP (· ≤ n) % 2 == 1) := by
  have key (i : Nat) (lt : i < s.bounds.toList.length) :
      s.bounds.getD i 0 = s.bounds.toList[i] := by
    rw [Array.getD_eq_getD_getElem?, Array.getElem?_eq_getElem (by simpa using lt)]
    rfl
  have ascending (i j : Nat) (le : i ≤ j) (lt : j < s.bounds.size) :
      s.bounds.getD i 0 ≤ s.bounds.getD j 0 := by
    rw [key i (by simpa using by omega), key j (by simpa using lt)]
    rcases Nat.lt_or_eq_of_le le with before | rfl
    · exact List.pairwise_iff_getElem.mp sorted i j _ _ before
    · exact Nat.le_refl _
  obtain ⟨-, inside, before, after⟩ := @firstAbove_spec _ n 0 _ ascending (Nat.zero_le _)
  have count : s.bounds.toList.countP (· ≤ n) = s.crossings n := by
    rw [crossings]
    generalize firstAbove _ n 0 s.bounds.size = r at inside before after
    have small : (s.bounds.toList.take r).countP (· ≤ n) = r := by
      have length : (s.bounds.toList.take r).length = r := by
        rw [List.length_take, Array.length_toList, Nat.min_eq_left inside]
      conv_rhs => rw [← length]
      refine List.countP_eq_length.mpr fun b mem => ?_
      obtain ⟨i, lt, rfl⟩ := List.getElem_of_mem mem
      rw [List.getElem_take, ← key i]
      exact decide_eq_true (before i (Nat.zero_le i) (by simpa [length] using lt))
    have great : (s.bounds.toList.drop r).countP (· ≤ n) = 0 := by
      refine List.countP_eq_zero.mpr fun b mem => ?_
      obtain ⟨i, lt, rfl⟩ := List.getElem_of_mem mem
      have lt : r + i < s.bounds.size := by
        rw [List.length_drop, Array.length_toList] at lt
        omega
      rw [List.getElem_drop, ← key (r + i)]
      have := after (r + i) (by omega) lt
      simpa using this
    rw [← List.take_append_drop r s.bounds.toList, List.countP_append, small, great, Nat.add_zero]
  rw [contains, count]

/-- Only bounds below a limit matter below it. -/
theorem Sorted.contains_below (sorted : s.Sorted) {limit : Nat} (lt : n < limit) :
    s.contains n = ((s.bounds.toList.takeWhile (· < limit)).countP (· ≤ n) % 2 == 1) := by
  have above : ∀ b ∈ s.bounds.toList.dropWhile (· < limit), limit ≤ b := by
    intro b mem
    have rest : (s.bounds.toList.dropWhile (· < limit)).Pairwise (· ≤ ·) :=
      sorted.sublist (List.dropWhile_sublist _)
    have first := List.head?_dropWhile_not (p := (· < limit)) s.bounds.toList
    cases dropped : s.bounds.toList.dropWhile (· < limit) with
    | nil => simp [dropped] at mem
    | cons c cs =>
      rw [dropped] at rest mem first
      have ge : limit ≤ c := by simpa using first
      rcases List.mem_cons.mp mem with rfl | mem
      · exact ge
      · exact Nat.le_trans ge ((List.pairwise_cons.mp rest).1 b mem)
  have none : (s.bounds.toList.dropWhile (· < limit)).countP (· ≤ n) = 0 := by
    refine List.countP_eq_zero.mpr fun b mem => ?_
    have := above b mem
    simp
    omega
  rw [sorted.contains_eq]
  conv_lhs => rw [← List.takeWhile_append_dropWhile (p := (· < limit)) (l := s.bounds.toList)]
  rw [List.countP_append, none, Nat.add_zero]

/-! ### Points of change -/

theorem changes_sublist (member : Nat → Bool) (before : Bool) (points : List Nat) :
    (changes member before points).Sublist points := by
  induction points generalizing before with
  | nil => exact .slnil
  | cons p rest ih =>
    rw [changes]
    split
    · exact (ih before).cons p
    · exact (ih (member p)).cons_cons p

/-- The function changes only at points, as far as `n`. -/
structure ChangesAt (member : Nat → Bool) (before : Bool) (points : List Nat) (n : Nat) : Prop where
  first : (∀ p ∈ points, n < p) → member n = before
  last : ∀ p ∈ points, p ≤ n → (∀ q ∈ points, q ≤ n → q ≤ p) → member n = member p

theorem parity_succ (count : Nat) : ((count + 1) % 2 == 1) = !(count % 2 == 1) := by
  rcases Nat.mod_two_eq_zero_or_one count with even | odd
  · simp [Nat.add_mod, even]
  · simp [Nat.add_mod, odd]

/-- Among the points that are kept, each changes membership. -/
theorem countP_changes {member : Nat → Bool} {before : Bool} {points : List Nat}
    (sorted : points.Pairwise (· ≤ ·)) (h : ChangesAt member before points n) :
    ((changes member before points).countP (· ≤ n) % 2 == 1) = (member n != before) := by
  induction points generalizing before with
  | nil =>
    rw [h.first (by simp)]
    simp [changes]
  | cons p rest ih =>
    obtain ⟨least, sorted⟩ := List.pairwise_cons.mp sorted
    by_cases below : n < p
    · -- Nothing has changed yet.
      have none : ∀ q ∈ p :: rest, n < q := by
        intro q mem
        rcases List.mem_cons.mp mem with rfl | mem
        · exact below
        · exact Nat.lt_of_lt_of_le below (least q mem)
      have count : (changes member before (p :: rest)).countP (· ≤ n) = 0 := by
        refine List.countP_eq_zero.mpr fun q mem => ?_
        have := none q ((changes_sublist member before _).subset mem)
        simpa using this
      rw [count, h.first none]
      simp
    · have inherits : ChangesAt member (member p) rest n := by
        refine ⟨fun above => ?_, fun q mem le greatest => ?_⟩
        · refine h.last p List.mem_cons_self (Nat.le_of_not_lt below) fun q mem le => ?_
          rcases List.mem_cons.mp mem with rfl | mem
          · exact Nat.le_refl _
          · have := above q mem
            omega
        · refine h.last q (List.mem_cons_of_mem p mem) le fun r mem' le' => ?_
          rcases List.mem_cons.mp mem' with rfl | mem'
          · exact least q mem
          · exact greatest r mem' le'
      have later := ih sorted inherits
      rw [changes]
      split
      · rename_i same
        rw [beq_iff_eq] at same
        rwa [same] at later
      · rename_i changed
        rw [List.countP_cons_of_pos (by simpa using below)]
        generalize (changes member (member p) rest).countP (· ≤ n) = count at later ⊢
        rw [parity_succ, later]
        revert changed
        cases member n <;> cases member p <;> cases before <;> decide

/-- The points in ascending order. -/
theorem sorted_mergeSort (points : List Nat) :
    (points.mergeSort (· ≤ ·)).Pairwise (· ≤ ·) := by
  have sorted : (points.mergeSort (· ≤ ·)).Pairwise fun a b => decide (a ≤ b) = true :=
    List.pairwise_mergeSort (by simp; omega) (by simp; omega) points
  simpa using sorted

theorem sorted_ofPoints (member : Nat → Bool) (points : List Nat) :
    (ofPoints member points).Sorted := by
  have sub := changes_sublist member false (points.mergeSort (· ≤ ·))
  exact (sorted_mergeSort points).sublist sub

/-- A function that changes at no other points, and holds of nothing before them, is membership in
the set of those points. -/
theorem contains_ofPoints {member : Nat → Bool} {points : List Nat}
    (start : (∀ p ∈ points, n < p) → member n = false)
    (constant : ∀ m ≤ n, (∀ p ∈ points, p ≤ n → p ≤ m) → member n = member m) :
    (ofPoints member points).contains n = member n := by
  have changesAt : ChangesAt member false (points.mergeSort (· ≤ ·)) n :=
    ⟨fun above => start fun p mem => above p (List.mem_mergeSort.mpr mem),
      fun p _ le greatest => constant p le fun q mem => greatest q (List.mem_mergeSort.mpr mem)⟩
  have count := countP_changes (sorted_mergeSort points) changesAt
  rw [(sorted_ofPoints member points).contains_eq, ofPoints, List.toList_toArray, count,
    Bool.bne_false]

/-! ### Operations -/

@[simp] theorem contains_empty (n : Nat) : empty.contains n = false :=
  contains_of_lt fun _ mem => absurd mem List.not_mem_nil

theorem contains_of_isEmpty (none : s.bounds.isEmpty = true) (n : Nat) : s.contains n = false := by
  refine contains_of_lt fun b mem => ?_
  rw [Array.isEmpty_iff] at none
  simp [none] at mem

/-- What is made of two sets, code point by code point, as long as nothing is made of nothing. -/
theorem contains_ofPoints_both (f : Bool → Bool → Bool) (nothing : f false false = false)
    (n : Nat) :
    (ofPoints (fun m => f (s.contains m) (t.contains m))
      (s.bounds.toList ++ t.bounds.toList)).contains n = f (s.contains n) (t.contains n) := by
  refine contains_ofPoints (fun above => ?_) fun m le none => ?_
  · rw [contains_of_lt fun b mem => above b (List.mem_append_left _ mem),
      contains_of_lt fun b mem => above b (List.mem_append_right _ mem), nothing]
  · have first : s.contains n = s.contains m := contains_congr fun b mem =>
      ⟨none b (List.mem_append_left _ mem), fun small => Nat.le_trans small le⟩
    have second : t.contains n = t.contains m := contains_congr fun b mem =>
      ⟨none b (List.mem_append_right _ mem), fun small => Nat.le_trans small le⟩
    rw [first, second]

@[simp] theorem contains_union (s t : CodeSet) (n : Nat) :
    (s.union t).contains n = (s.contains n || t.contains n) := by
  unfold union
  split
  · rename_i none
    rw [contains_of_isEmpty none, Bool.false_or]
  · split
    · rename_i none
      rw [contains_of_isEmpty none, Bool.or_false]
    · exact contains_ofPoints_both (· || ·) rfl n

@[simp] theorem contains_inter (s t : CodeSet) (n : Nat) :
    (s.inter t).contains n = (s.contains n && t.contains n) :=
  contains_ofPoints_both (· && ·) rfl n

@[simp] theorem contains_diff (s t : CodeSet) (n : Nat) :
    (s.diff t).contains n = (s.contains n && !t.contains n) :=
  contains_ofPoints_both (fun a b => a && !b) rfl n

theorem Sorted.union (sorted : s.Sorted) (sorted' : t.Sorted) : (s.union t).Sorted := by
  unfold CodeSet.union
  split
  · exact sorted'
  · split
    · exact sorted
    · exact sorted_ofPoints _ _

theorem sorted_diff (s t : CodeSet) : (s.diff t).Sorted := sorted_ofPoints _ _

theorem sorted_inter (s t : CodeSet) : (s.inter t).Sorted := sorted_ofPoints _ _

theorem sorted_range (first last : Nat) : (range first last).Sorted := by
  unfold range Sorted
  split
  · simp
    omega
  · exact .nil

@[simp] theorem contains_range (first last n : Nat) :
    (range first last).contains n = (decide (first ≤ n) && decide (n ≤ last)) := by
  rw [(sorted_range first last).contains_eq]
  unfold range
  split
  · rename_i le
    by_cases low : first ≤ n
    · by_cases high : last + 1 ≤ n
      · have above : ¬ n ≤ last := by omega
        simp [low, high, above]
      · have within : n ≤ last := by omega
        simp [low, high, within]
    · have above : ¬ last + 1 ≤ n := by omega
      simp [low, above]
  · have none : ¬ (first ≤ n ∧ n ≤ last) := by omega
    simp only [empty, List.countP_nil]
    simpa using none

@[simp] theorem contains_single (m n : Nat) : (single m).contains n = decide (n = m) := by
  rw [single, contains_range, Bool.eq_iff_iff]
  simp
  omega

/-- A complement begins at zero, unless the set does. -/
theorem complement_cases (s : CodeSet) :
    s.bounds.toList = 0 :: s.complement.bounds.toList ∨
      s.complement.bounds.toList = 0 :: s.bounds.toList := by
  obtain ⟨⟨bounds⟩⟩ := s
  cases bounds with
  | nil => exact .inr rfl
  | cons b bounds =>
    by_cases zero : b = 0
    · subst zero
      exact .inl (by simp [complement])
    · exact .inr (by simp [complement, zero])

theorem Sorted.complement (sorted : s.Sorted) : s.complement.Sorted := by
  unfold Sorted at sorted ⊢
  rcases s.complement_cases with eq | eq
  · rw [eq] at sorted
    exact sorted.of_cons
  · rw [eq]
    exact .cons (fun _ _ => Nat.zero_le _) sorted

theorem Sorted.contains_complement (sorted : s.Sorted) (n : Nat) :
    s.complement.contains n = !s.contains n := by
  have zero (bounds : List Nat) : (0 :: bounds).countP (· ≤ n) = bounds.countP (· ≤ n) + 1 :=
    List.countP_cons_of_pos (by simp)
  rw [sorted.complement.contains_eq, sorted.contains_eq]
  rcases s.complement_cases with eq | eq
  · rw [eq, zero, parity_succ, Bool.not_not]
  · rw [eq, zero, parity_succ]

/-! ### Lists of code points -/

theorem lt_of_mem_runsFrom {last : Nat} {ns : List Nat} (sorted : (last :: ns).Pairwise (· ≤ ·)) :
    ∀ b ∈ runsFrom last ns, last < b := by
  induction ns generalizing last with
  | nil => simp [runsFrom]
  | cons m rest ih =>
    obtain ⟨least, sorted⟩ := List.pairwise_cons.mp sorted
    have le := least m List.mem_cons_self
    intro b mem
    rw [runsFrom] at mem
    split at mem
    · exact Nat.lt_of_le_of_lt le (ih sorted b mem)
    · rcases List.mem_cons.mp mem with rfl | mem
      · exact Nat.lt_succ_self last
      · rcases List.mem_cons.mp mem with rfl | mem
        · omega
        · exact Nat.lt_of_le_of_lt le (ih sorted b mem)

theorem pairwise_runsFrom {last : Nat} {ns : List Nat} (sorted : (last :: ns).Pairwise (· ≤ ·)) :
    (runsFrom last ns).Pairwise (· ≤ ·) := by
  induction ns generalizing last with
  | nil => exact List.pairwise_singleton _ _
  | cons m rest ih =>
    obtain ⟨-, sorted⟩ := List.pairwise_cons.mp sorted
    rw [runsFrom]
    split
    · exact ih sorted
    · have later := lt_of_mem_runsFrom sorted
      refine .cons (fun b mem => ?_) (.cons (fun b mem => Nat.le_of_lt (later b mem)) (ih sorted))
      rcases List.mem_cons.mp mem with rfl | mem
      · omega
      · have := later b mem
        omega

/-- From the last member so far on, a code point is a member if the run it is in has not ended. -/
theorem countP_runsFrom {last : Nat} {ns : List Nat} (sorted : (last :: ns).Pairwise (· ≤ ·))
    (le : last ≤ n) : (runsFrom last ns).countP (· ≤ n) % 2 = 0 ↔ n ∈ last :: ns := by
  induction ns generalizing last with
  | nil =>
    by_cases further : last + 1 ≤ n
    · have ne : n ≠ last := by omega
      simp [runsFrom, further, ne]
    · have same : n = last := by omega
      simp [runsFrom, same]
  | cons m rest ih =>
    obtain ⟨least, sorted⟩ := List.pairwise_cons.mp sorted
    have later := lt_of_mem_runsFrom sorted
    -- Before the next member, none of the bounds from there on counts.
    have before (lt : n < m) : (runsFrom m rest).countP (· ≤ n) = 0 ∧ n ∉ m :: rest := by
      refine ⟨List.countP_eq_zero.mpr fun b mem => ?_, fun mem => ?_⟩
      · have := later b mem
        simp
        omega
      · rcases List.mem_cons.mp mem with rfl | mem
        · exact Nat.lt_irrefl _ lt
        · have := (List.pairwise_cons.mp sorted).1 n mem
          omega
    rw [runsFrom, List.mem_cons]
    split
    · rename_i joined
      by_cases lt : n < m
      · obtain ⟨none, absent⟩ := before lt
        have same : n = last := by omega
        rw [none]
        simp [same]
      · have := least m List.mem_cons_self
        rw [ih sorted (Nat.le_of_not_lt lt)]
        refine ⟨.inr, fun h => h.elim (fun same => ?_) id⟩
        have : n = m := by omega
        simp [this]
    · rename_i apart
      by_cases lt : n < m
      · obtain ⟨none, absent⟩ := before lt
        have outside : ¬ m ≤ n := Nat.not_le_of_lt lt
        rw [List.countP_cons, List.countP_cons, none]
        by_cases further : last + 1 ≤ n
        · have ne : n ≠ last := by omega
          simp [further, outside, ne, absent]
        · have same : n = last := by omega
          subst same
          simp [outside, further]
      · have ge : m ≤ n := Nat.le_of_not_lt lt
        have far : last + 1 ≤ n := by omega
        have ne : n ≠ last := by omega
        have both : ((last + 1) :: m :: runsFrom m rest).countP (· ≤ n) =
            (runsFrom m rest).countP (· ≤ n) + 2 := by
          rw [List.countP_cons_of_pos (by simpa using far),
            List.countP_cons_of_pos (by simpa using ge)]
        rw [both, Nat.add_mod_right, ih sorted ge]
        simp [ne]

theorem sorted_ofList (ns : List Nat) : (ofList ns).Sorted := by
  have sorted := sorted_mergeSort ns
  unfold ofList
  cases ordered : ns.mergeSort (· ≤ ·) with
  | nil => exact .nil
  | cons first rest =>
    rw [ordered] at sorted
    exact .cons (fun b mem => Nat.le_of_lt (lt_of_mem_runsFrom sorted b mem))
      (pairwise_runsFrom sorted)

theorem contains_ofList (ns : List Nat) (n : Nat) :
    (ofList ns).contains n = true ↔ n ∈ ns := by
  have sorted := sorted_mergeSort ns
  have mem : n ∈ ns.mergeSort (· ≤ ·) ↔ n ∈ ns := List.mem_mergeSort
  rw [(sorted_ofList ns).contains_eq]
  unfold ofList
  cases ordered : ns.mergeSort (· ≤ ·) with
  | nil =>
    rw [ordered] at mem
    simpa [empty] using mem
  | cons first rest =>
    rw [ordered] at mem sorted
    have later := lt_of_mem_runsFrom sorted
    rw [← mem, List.toList_toArray]
    by_cases le : first ≤ n
    · rw [← countP_runsFrom sorted le, List.countP_cons_of_pos (by simpa using le), beq_iff_eq]
      omega
    · have none : (first :: runsFrom first rest).countP (· ≤ n) = 0 := by
        refine List.countP_eq_zero.mpr fun b mem => ?_
        rcases List.mem_cons.mp mem with rfl | mem
        · simpa using le
        · have := later b mem
          simp
          omega
      have absent : n ∉ first :: rest := by
        intro mem
        rcases List.mem_cons.mp mem with rfl | mem
        · exact le (Nat.le_refl _)
        · exact le ((List.pairwise_cons.mp sorted).1 n mem)
      simpa [none] using absent

/-- The only member makes up the set. -/
theorem eq_single_of_only? (h : s.only? = some m) : s = single m := by
  obtain ⟨⟨bounds⟩⟩ := s
  unfold only? at h
  split at h
  · rename_i two
    match bounds, two with
    | [a, b], _ =>
      simp at h
      obtain ⟨rfl, rfl⟩ := h
      simp [single, range]
  · cases h

end CodeSet

end Tincture
