import Mathlib.Data.List.Induction
import Tincture.Proofs.Text.Ascii
import Tincture.Proofs.Text.CodeSet
import Tincture.Text.Fold

/-!
Case folding of ASCII.

A set is closed under folding by adding whole classes of code points that fold alike. Each class is
gathered from a sorted table, but what a class holds does not depend on the order: code points in
one class have the same spelling (`spells_of_mem_classes`), and a code point is in some class with
what it folds to (`exists_class`).

Of ASCII, only letters fold to something else, and beyond ASCII only the few `strays` fold to ASCII.
So the closure of a set has an ASCII character just if it has one that folds alike, unless a stray
brings one in (`contains_closure_iff`); and only where a stray is in the set, some run of ASCII
letters is matched by a single character (`exists_stray_of_ligature`).
-/

namespace Tincture

/-- An ASCII character folds to one. -/
theorem fold_of_lt {n : Nat} (lt : n < 128) :
    fold n = [if 65 ≤ n ∧ n ≤ 90 then n + 32 else n] := by
  rw [fold, if_pos lt]

theorem fold_lt {n : Nat} (lt : n < 128) : ∀ k ∈ fold n, k < 128 := by
  intro k mem
  rw [fold_of_lt lt, List.mem_singleton] at mem
  split at mem <;> omega

/-- ASCII characters that fold alike are the same or a letter in its two cases. -/
theorem fold_eq_cases {m n : Nat} (lt : m < 128) (lt' : n < 128) (h : fold m = fold n) :
    m = n ∨ (65 ≤ m ∧ m ≤ 90 ∧ n = m + 32) ∨ (65 ≤ n ∧ n ≤ 90 ∧ m = n + 32) := by
  rw [fold_of_lt lt, fold_of_lt lt', List.singleton_inj] at h
  split_ifs at h <;> omega

namespace Fold

/-! ### Classes -/

/-- The folding of the code point is the run, or the code point is the whole run itself. -/
def Spells (n : Nat) (run : List Nat) : Prop := run = [n] ∨ (n, run) ∈ changed

/-- Every member of a class that has been gathered folds to its image, and every entry is found. -/
theorem gather_spec (entries : List (Nat × List Nat)) :
    (∀ c ∈ entries.foldl gather [], ∀ n ∈ c.2, (n, c.1) ∈ entries) ∧
      ∀ e ∈ entries, ∃ c ∈ entries.foldl gather [], c.1 = e.2 ∧ e.1 ∈ c.2 := by
  induction entries using List.reverseRec with
  | nil => simp
  | append_singleton entries e ih =>
    rw [List.foldl_concat]
    obtain ⟨sound, complete⟩ := ih
    generalize entries.foldl gather [] = classes at sound complete
    have old : ∀ c ∈ classes, ∀ n ∈ c.2, (n, c.1) ∈ entries ++ [e] := fun c mem n own =>
      List.mem_append_left _ (sound c mem n own)
    have last : e ∈ entries ++ [e] := by simp
    -- A class of its own for the entry.
    have alone : (∀ c ∈ (e.2, [e.1]) :: classes, ∀ n ∈ c.2, (n, c.1) ∈ entries ++ [e]) ∧
        ∀ f ∈ entries ++ [e], ∃ c ∈ (e.2, [e.1]) :: classes, c.1 = f.2 ∧ f.1 ∈ c.2 := by
      refine ⟨List.forall_mem_cons.mpr ⟨fun n own => ?_, old⟩, fun f mem => ?_⟩
      · rw [List.mem_singleton.mp own]
        exact last
      · rcases List.mem_append.mp mem with mem | mem
        · obtain ⟨c, memc, found⟩ := complete f mem
          exact ⟨c, List.mem_cons_of_mem _ memc, found⟩
        · rw [List.mem_singleton.mp mem]
          exact ⟨_, List.mem_cons_self, rfl, List.mem_singleton_self _⟩
    unfold gather
    split
    · rename_i image members rest
      split
      · rename_i same
        subst same
        obtain ⟨first, others⟩ := List.forall_mem_cons.mp old
        refine ⟨List.forall_mem_cons.mpr ⟨List.forall_mem_cons.mpr ⟨last, first⟩, others⟩,
          fun f mem => ?_⟩
        rcases List.mem_append.mp mem with mem | mem
        · obtain ⟨c, memc, found⟩ := complete f mem
          rcases List.mem_cons.mp memc with rfl | memc
          · exact ⟨_, List.mem_cons_self, found.1, List.mem_cons_of_mem _ found.2⟩
          · exact ⟨c, List.mem_cons_of_mem _ memc, found⟩
        · rw [List.mem_singleton.mp mem]
          exact ⟨_, List.mem_cons_self, rfl, List.mem_cons_self⟩
      · exact alone
    · exact alone

/-- The members of one class fold alike. -/
theorem spells_of_mem_classes {ms : List Nat} (h : ms ∈ classes) :
    ∃ run, ∀ n ∈ ms, Spells n run := by
  obtain ⟨⟨image, members⟩, mem, rfl⟩ := List.mem_map.mp h
  have sound := (gather_spec _).1 _ mem
  have each : ∀ n ∈ members, Spells n image := fun n own =>
    .inr (List.mem_mergeSort.mp (sound n own))
  refine ⟨image, ?_⟩
  dsimp only
  split
  · exact List.forall_mem_cons.mpr ⟨.inl rfl, each⟩
  · exact each

/-- A code point that folds to another one is in a class with it. -/
theorem exists_class {n k : Nat} (h : (n, [k]) ∈ changed) : ∃ ms ∈ classes, n ∈ ms ∧ k ∈ ms := by
  obtain ⟨⟨image, members⟩, mem, same, own⟩ := (gather_spec _).2 _ (List.mem_mergeSort.mpr h)
  dsimp only at same own
  subst same
  exact ⟨k :: members, List.mem_map.mpr ⟨_, mem, rfl⟩, List.mem_cons_of_mem k own,
    List.mem_cons_self⟩

theorem contains_closure (s : CodeSet) (n : Nat) :
    (closure s).contains n = true ↔
      s.contains n = true ∨ ∃ ms ∈ classes, (∃ m ∈ ms, s.contains m = true) ∧ n ∈ ms := by
  rw [closure, CodeSet.contains_union, Bool.or_eq_true, CodeSet.contains_ofList, List.mem_flatten]
  simp only [List.mem_filter, List.any_eq_true, and_assoc]

/-- What the closure adds folds like some member. -/
theorem spells_of_closure {s : CodeSet} {n : Nat} (h : (closure s).contains n = true) :
    ∃ m run, s.contains m = true ∧ Spells m run ∧ Spells n run := by
  rcases (contains_closure s n).mp h with own | ⟨ms, mem, ⟨m, mem', holds⟩, mem''⟩
  · exact ⟨n, [n], own, .inl rfl, .inl rfl⟩
  · obtain ⟨run, spells⟩ := spells_of_mem_classes mem
    exact ⟨m, run, holds, spells m mem', spells n mem''⟩

/-! ### Folding to ASCII -/

/-- The code points beyond ASCII that fold to ASCII letters. -/
def strays : List Nat :=
  [0x17f, 0x212a, 0xdf, 0x1e9e, 0xfb00, 0xfb01, 0xfb02, 0xfb03, 0xfb04, 0xfb05, 0xfb06]

/-- The runs of several ASCII letters to which a single character folds. -/
def ligatures : List (List Nat) := (sequences.map (·.2)).filter (·.all (· < 128))

theorem mem_changed {n : Nat} {run : List Nat} (h : (n, run) ∈ changed) :
    (∃ r ∈ runs.toList, r.first ≤ n ∧ n - r.first ≤ r.last - r.first ∧
      run = [r.target + (n - r.first)]) ∨
      (n, run) ∈ sequences := by
  rcases List.mem_append.mp h with single | several
  · obtain ⟨r, mem, own⟩ := List.mem_flatMap.mp single
    obtain ⟨m, source, same⟩ := List.mem_map.mp own
    obtain ⟨rfl, rfl⟩ := Prod.mk.inj same
    obtain ⟨k, within, eq⟩ := List.mem_filterMap.mp source
    rw [List.mem_range] at within
    split at eq
    · cases eq
      exact .inl ⟨r, mem, by omega, by omega, rfl⟩
    · cases eq
  · exact .inr several

/-- The runs of the table: the capital letters, two strays, and what lies beyond ASCII and strays.
-/
theorem runs_cases : ∀ r ∈ runs.toList, r.first ≤ r.last ∧
    (∀ m ∈ strays, m < r.target ∨ r.target + (r.last - r.first) < m) ∧
      ((r.first = 65 ∧ r.last = 90 ∧ r.target = 97) ∨
        (128 ≤ r.first ∧ 128 ≤ r.target ∧ ∀ m ∈ strays, m < r.first ∨ r.last < m) ∨
        (r.first = 0x17f ∧ r.last = 0x17f ∧ r.target = 0x73) ∨
        (r.first = 0x212a ∧ r.last = 0x212a ∧ r.target = 0x6b)) := by
  decide +kernel

theorem sequences_cases : ∀ e ∈ sequences, (∀ k ∈ e.2, k ∉ strays) ∧
    ((128 ≤ e.1 ∧ e.1 ∉ strays ∧ ∃ k ∈ e.2, 128 ≤ k) ∨
      (128 ≤ e.1 ∧ e.1 ∈ strays ∧ (∀ k ∈ e.2, 97 ≤ k ∧ k ≤ 122) ∧ 2 ≤ e.2.length)) := by
  decide +kernel

/-- What folds to another code point or several: of ASCII, the capital letters; strays fold to small
letters, most of them to several, and nothing else beyond ASCII folds to ASCII. Nothing folds to a
stray. -/
theorem changed_cases {n : Nat} {run : List Nat} (h : (n, run) ∈ changed) :
    (∀ k ∈ run, k ∉ strays) ∧
      ((65 ≤ n ∧ n ≤ 90 ∧ run = [n + 32]) ∨ (128 ≤ n ∧ n ∉ strays ∧ ∃ k ∈ run, 128 ≤ k) ∨
        (128 ≤ n ∧ n ∈ strays ∧ (∀ k ∈ run, 97 ≤ k ∧ k ≤ 122) ∧
          (n = 0x17f ∨ n = 0x212a ∨ 2 ≤ run.length))) := by
  rcases mem_changed h with ⟨r, mem, low, high, rfl⟩ | mem
  · obtain ⟨upright, images, cases⟩ := runs_cases r mem
    refine ⟨fun k own stray => ?_, ?_⟩
    · rw [List.mem_singleton.mp own] at stray
      have := images _ stray
      omega
    rcases cases with ⟨first, last, target⟩ | ⟨first, target, others⟩ | ⟨first, last, target⟩ |
      ⟨first, last, target⟩
    · exact .inl ⟨by omega, by omega, List.singleton_inj.mpr (by omega)⟩
    · refine .inr (.inl ⟨by omega, fun stray => ?_, _, List.mem_singleton_self _, by omega⟩)
      have := others n stray
      omega
    · obtain rfl : n = 0x17f := by omega
      rw [first, target]
      exact .inr (.inr (by decide))
    · obtain rfl : n = 0x212a := by omega
      rw [first, target]
      exact .inr (.inr (by decide))
  · obtain ⟨images, cases⟩ := sequences_cases _ mem
    refine ⟨images, .inr (cases.imp_right fun ⟨wide, stray, letters, several⟩ => ?_)⟩
    exact ⟨wide, stray, letters, .inr (.inr several)⟩

theorem spells_of_lt {n : Nat} {run : List Nat} (lt : n < 128) (h : Spells n run) :
    run = [n] ∨ (65 ≤ n ∧ n ≤ 90 ∧ run = [n + 32]) := by
  rcases h with same | mem
  · exact .inl same
  · rcases (changed_cases mem).2 with image | ⟨beyond, -⟩ | ⟨beyond, -⟩
    · exact .inr image
    all_goals exact absurd beyond (Nat.not_le_of_lt lt)

theorem fold_of_capital {n : Nat} (low : 65 ≤ n) (high : n ≤ 90) : fold n = [n + 32] := by
  rw [fold_of_lt (by omega), if_pos ⟨low, high⟩]

theorem fold_of_small {n : Nat} (low : 91 ≤ n) (high : n < 128) : fold n = [n] := by
  rw [fold_of_lt high, if_neg (by omega)]

/-- A code point that folds like an ASCII one is ASCII itself, or a stray that folds to a small
letter. -/
theorem spells_cases {m n : Nat} {run : List Nat} (lt : n < 128) (spells : Spells m run)
    (spells' : Spells n run) :
    (m < 128 ∧ fold m = fold n) ∨ (m ∈ strays ∧ ∃ k, fold n = [k] ∧ 97 ≤ k ∧ k ≤ 122) := by
  obtain ⟨k, rfl, image⟩ : ∃ k, run = [k] ∧ (k = n ∨ (65 ≤ n ∧ n ≤ 90 ∧ k = n + 32)) := by
    rcases spells_of_lt lt spells' with rfl | ⟨low, high, rfl⟩
    · exact ⟨n, rfl, .inl rfl⟩
    · exact ⟨n + 32, rfl, .inr ⟨low, high, rfl⟩⟩
  rcases spells with same | mem
  · obtain rfl : k = m := List.singleton_inj.mp same
    rcases image with rfl | ⟨low, high, rfl⟩
    · exact .inl ⟨lt, rfl⟩
    · refine .inl ⟨by omega, ?_⟩
      rw [fold_of_small (by omega) (by omega), fold_of_capital low high]
  · rcases (changed_cases mem).2 with
      ⟨low, high, same⟩ | ⟨-, -, j, mem, beyond⟩ | ⟨-, stray, all, -⟩
    · obtain rfl : k = m + 32 := List.singleton_inj.mp same
      refine .inl ⟨by omega, ?_⟩
      rcases image with rfl | ⟨-, -, same⟩
      · rw [fold_of_small (by omega) lt]
        exact fold_of_capital low high
      · obtain rfl : m = n := by omega
        rfl
    · obtain rfl := List.mem_singleton.mp mem
      omega
    · have letter := all k (List.mem_singleton_self k)
      refine .inr ⟨stray, k, ?_, letter⟩
      rcases image with rfl | ⟨low, high, rfl⟩
      · exact fold_of_small (by omega) lt
      · exact fold_of_capital low high

theorem mem_changed_of_capital {n : Nat} (low : 65 ≤ n) (high : n ≤ 90) :
    (n, [n + 32]) ∈ changed := by
  have all : ∀ k < 26, (65 + k, [65 + k + 32]) ∈ changed := by decide +kernel
  have mem := all (n - 65) (by omega)
  rwa [Nat.add_sub_cancel' low] at mem

/-- What a run maps is among its sources. -/
theorem mem_sources {r : CaseRun} {n : Nat} (h : r.holds n = true) : n ∈ r.sources := by
  simp only [CaseRun.holds, Bool.and_eq_true, decide_eq_true_eq] at h
  obtain ⟨⟨low, high⟩, stepped⟩ := h
  refine List.mem_filterMap.mpr ⟨n - r.first, List.mem_range.mpr (by omega), ?_⟩
  rw [if_pos stepped, Nat.add_sub_cancel' low]

theorem mem_changed_of_imageIn {n k : Nat} (h : imageIn runs n = some k) : (n, [k]) ∈ changed := by
  unfold imageIn at h
  dsimp only at h
  split at h
  · rename_i r found
    split at h
    · rename_i own
      cases h
      have mem := Array.mem_toList_iff.mpr (Array.mem_of_getElem? found)
      exact List.mem_append_left _
        (List.mem_flatMap.mpr ⟨r, mem, List.mem_map.mpr ⟨n, mem_sources own, rfl⟩⟩)
    · cases h
  · cases h

/-- A code point spells its folding. -/
theorem spells_fold (n : Nat) : Spells n (fold n) := by
  unfold fold
  split_ifs with low capital several
  · exact .inr (mem_changed_of_capital capital.1 capital.2)
  · exact .inl rfl
  · cases image : sequences.lookup n with
    | none => exact .inl rfl
    | some run =>
      obtain ⟨before, after, split, -⟩ := List.lookup_eq_some_iff.mp image
      exact .inr (List.mem_append_right _ (split ▸ List.mem_append_right before List.mem_cons_self))
  · cases image : imageIn runs n with
    | none => exact .inl rfl
    | some k => exact .inr (mem_changed_of_imageIn image)

/-- The closure of a set has an ASCII character if the set has one that folds alike, provided that
with a stray it has all small letters. -/
theorem contains_closure_iff {s : CodeSet}
    (letters : ∀ m ∈ strays, s.contains m = true → ∀ k, 97 ≤ k → k ≤ 122 → s.contains k = true)
    {n : Nat} (lt : n < 128) :
    (closure s).contains n = true ↔ ∃ m < 128, s.contains m = true ∧ fold m = fold n := by
  constructor
  · intro h
    obtain ⟨m, run, holds, spells, spells'⟩ := spells_of_closure h
    rcases spells_cases lt spells spells' with ⟨small, same⟩ | ⟨stray, k, eq, low, high⟩
    · exact ⟨m, small, holds, same⟩
    · refine ⟨k, by omega, letters m stray holds k low high, ?_⟩
      rw [eq, fold_of_small (by omega) (by omega)]
  · rintro ⟨m, small, holds, same⟩
    refine (contains_closure s n).mpr ?_
    rcases fold_eq_cases small lt same with rfl | ⟨low, high, rfl⟩ | ⟨low, high, rfl⟩
    · exact .inl holds
    · obtain ⟨ms, mem, own, image⟩ := exists_class (mem_changed_of_capital low high)
      exact .inr ⟨ms, mem, ⟨m, own, holds⟩, image⟩
    · obtain ⟨ms, mem, own, image⟩ := exists_class (mem_changed_of_capital low high)
      exact .inr ⟨ms, mem, ⟨n + 32, image, holds⟩, own⟩

/-- What folds to ASCII letters, several of them, is a stray. -/
theorem mem_strays {n : Nat} {run : List Nat} (entry : (n, run) ∈ changed) (two : 2 ≤ run.length)
    (ascii : ∀ k ∈ run, k < 128) : n ∈ strays := by
  rcases (changed_cases entry).2 with ⟨-, -, one⟩ | ⟨-, -, k, mem, beyond⟩ | ⟨-, stray, -⟩
  · rw [one] at two
    exact absurd two (by simp)
  · exact absurd (ascii k mem) (Nat.not_lt_of_le beyond)
  · exact stray

/-- A character that folds to a run of ASCII letters folds to several and to nothing else. -/
theorem several_of_ligature {n : Nat} {run image : List Nat} (mem : (n, run) ∈ sequences)
    (ascii : ∀ k ∈ run, k < 128) (entry : (n, image) ∈ changed) :
    2 ≤ image.length ∧ ∀ k ∈ image, k < 128 := by
  have others : ∀ e ∈ sequences, 128 ≤ e.1 ∧ e.1 ≠ 0x17f ∧ e.1 ≠ 0x212a := by decide +kernel
  obtain ⟨wide, notLong, notKelvin⟩ := others _ mem
  have stray : n ∈ strays := by
    rcases (sequences_cases _ mem).2 with ⟨-, -, k, own, beyond⟩ | ⟨-, stray, -⟩
    · exact absurd (ascii k own) (Nat.not_lt_of_le beyond)
    · exact stray
  rcases (changed_cases entry).2 with ⟨-, small, -⟩ | ⟨-, other, -⟩ | ⟨-, -, letters, several⟩
  · dsimp only at wide
    omega
  · exact absurd stray other
  · refine ⟨(several.resolve_left notLong).resolve_left notKelvin, fun k own => ?_⟩
    have := letters k own
    omega

/-- If the closure of a set has a character that folds to a run of ASCII letters, the set has a
stray. -/
theorem exists_stray_of_ligature {s : CodeSet} {run : List Nat}
    (h : run ∈ sequencesIn (closure s)) (ascii : ∀ k ∈ run, k < 128) :
    run ∈ ligatures ∧ ∃ m ∈ strays, s.contains m = true := by
  rw [sequencesIn, List.mem_eraseDups, List.mem_map] at h
  obtain ⟨⟨n, run⟩, mem, rfl⟩ := h
  obtain ⟨mem, holds⟩ := List.mem_filter.mp mem
  dsimp only at ascii holds ⊢
  refine ⟨List.mem_filter.mpr ⟨List.mem_map_of_mem mem, by simpa using ascii⟩, ?_⟩
  obtain ⟨m, image, own, spells, spells'⟩ := spells_of_closure holds
  have entry : (n, run) ∈ changed := List.mem_append_right _ mem
  rcases spells' with rfl | spells'
  · -- The character itself is in the set, for nothing else folds to it.
    obtain ⟨two, small⟩ := several_of_ligature mem ascii entry
    have stray := mem_strays entry two small
    rcases spells with same | mem
    · obtain rfl := List.singleton_inj.mp same
      exact ⟨n, stray, own⟩
    · exact absurd stray ((changed_cases mem).1 n (List.mem_singleton_self n))
  · obtain ⟨two, small⟩ := several_of_ligature mem ascii spells'
    rcases spells with rfl | mem
    · exact absurd two (by simp)
    · exact ⟨m, mem_strays mem two small, own⟩

end Fold

end Tincture
