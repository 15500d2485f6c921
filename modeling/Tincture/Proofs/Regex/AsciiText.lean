import Mathlib.Data.List.Infix
import Tincture.Proofs.Regex.Phrase
import Tincture.Proofs.Text.Fold

/-!
Matching in ASCII text.

Every character of an ASCII text folds to a single one, so a folded run is compared with the text
character by character and runs can be joined where case is ignored as well
(`Subject.Ascii.single`). An expression that ignores case is then the same way through the text as
one that does not: a character with a letter's case is a class of two (`agree_fold`), one without is
itself (`alike_of_caseless`), and a class is the class of what folds like its members
(`classNode_alike`).

A class that has a character beyond ASCII which folds to several letters also matches these. It has
to be ruled out that they occur in the text, as far as the match can read it: from its origin on.
-/

namespace Tincture.Regex

open Node Way

namespace Subject

/-- The text has ASCII characters only. -/
def Ascii (t : Subject) : Prop := ∀ c ∈ t.text, isAscii c = true

/-- The text folded, from the origin on. -/
def folding (t : Subject) : List Nat :=
  (t.text.toList.drop t.origin).flatMap fun c => fold c.toNat

variable {t : Subject} {n p u : Nat} {codes more : List Nat}

theorem holdsAt_eq (t : Subject) (set : CodeSet) (p : Nat) :
    t.holdsAt set p = t.text[p]?.any set.holds := by
  unfold holdsAt
  split <;> simp_all

theorem Ascii.lt (ascii : t.Ascii) {c : Char} (found : t.text[p]? = some c) : c.toNat < 128 :=
  isAscii_iff.mp (ascii c (Array.mem_of_getElem? found))

/-- Every character of an ASCII text folds to a single one. -/
theorem Ascii.single (ascii : t.Ascii) : t.Single := by
  intro c mem
  have own := Array.mem_toList_iff.mp (List.mem_of_mem_drop mem)
  rw [fold_of_lt (isAscii_iff.mp (ascii c own)), List.length_singleton]

/-- What is matched behind the origin occurs in the folded text. -/
theorem Ascii.infix_of_folded? (ascii : t.Ascii) (le : t.origin ≤ p)
    (h : t.folded? codes p = some u) : codes <:+: t.folding := by
  suffices prefixed : codes <+: (t.text.toList.drop p).flatMap fun c => fold c.toNat by
    obtain ⟨front, eq⟩ : t.text.toList.drop p <:+ t.text.toList.drop t.origin :=
      List.drop_suffix_drop_left _ le
    refine prefixed.isInfix.trans (List.IsSuffix.isInfix ?_)
    rw [folding, ← eq, List.flatMap_append]
    exact List.suffix_append _ _
  induction codes generalizing p with
  | nil => exact List.nil_prefix
  | cons n codes ih =>
    rw [ascii.single.folded?_cons le] at h
    split at h
    · rename_i first
      obtain ⟨c, found, same⟩ := (Option.any_eq_true _ _).mp first
      have lt : p < t.text.toList.length := by
        rw [Array.length_toList]
        exact (Array.getElem?_eq_some_iff.mp found).1
      have here : t.text.toList[p] = c := by
        rw [Array.getElem_toList]
        exact (Array.getElem?_eq_some_iff.mp found).2
      rw [List.drop_eq_getElem_cons lt, here, List.flatMap_cons, of_decide_eq_true same,
        List.singleton_append]
      exact List.cons_prefix_cons.mpr ⟨rfl, ih (Nat.le_succ_of_le le) h⟩
    · cases h

theorem Ascii.folding_lt (ascii : t.Ascii) : ∀ n ∈ t.folding, n < 128 := by
  intro n mem
  obtain ⟨c, own, mem⟩ := List.mem_flatMap.mp mem
  have within := Array.mem_toList_iff.mp (List.mem_of_mem_drop own)
  exact fold_lt (isAscii_iff.mp (ascii c within)) n mem

end Subject

/-! ### Characters -/

/-- The case of the code point makes no difference in ASCII text: it is no letter and does not fold
to any. -/
def caseless (n : Nat) : Bool :=
  if n < 128 then !(65 ≤ n && n ≤ 90) && !(97 ≤ n && n ≤ 122) else (fold n).any (128 ≤ ·)

variable {t : Subject} {n : Nat} {s : CodeSet}

/-- An ASCII character, whatever its case, is a class. -/
theorem agree_fold (ascii : t.Ascii) (lt : n < 128)
    (same : ∀ m < 128, s.contains m = true ↔ fold m = fold n) :
    AgreeFrom t.origin ((Node.text (fold n) true).walk t) ((Node.one s).walk t) := by
  obtain ⟨k, eq⟩ : ∃ k, fold n = [k] := ⟨_, fold_of_lt lt⟩
  rw [eq] at same ⊢
  intro goal p le
  simp only [walk, if_true, ascii.single.folded?_cons le, Subject.folded?_nil, Subject.holdsAt_eq]
  cases found : t.text[p]? with
  | none => rfl
  | some c =>
    have own := same c.toNat (ascii.lt found)
    rw [Option.any_some, Option.any_some, CodeSet.holds]
    by_cases alike : fold c.toNat = [k]
    · simp [alike, own.mpr alike]
    · simp [alike, Bool.eq_false_iff.mpr (mt own.mp alike)]

/-- A run that does not occur in the text matches nowhere. -/
theorem agree_absent (ascii : t.Ascii) {codes : List Nat} (absent : ¬ codes <:+: t.folding) :
    AgreeFrom t.origin ((Node.text codes true).walk t) fun _ _ => none := by
  intro goal p le
  simp only [walk, if_true]
  cases found : t.folded? codes p with
  | none => rfl
  | some u => exact absurd (ascii.infix_of_folded? le found) absent

/-- A run that leaves ASCII does not occur. -/
theorem absent_of_wide (ascii : t.Ascii) {codes : List Nat} {k : Nat} (mem : k ∈ codes)
    (wide : 128 ≤ k) : ¬ codes <:+: t.folding := fun occurs =>
  absurd (ascii.folding_lt k (occurs.subset mem)) (Nat.not_lt_of_le wide)

theorem alike_of_caseless (ascii : t.Ascii) (h : caseless n = true) :
    AlikeOn t true false (.text (fold n) true) (.text [n] false) := by
  refine ⟨rfl, rfl, ?_⟩
  unfold caseless at h
  split at h
  · rename_i lt
    have single (m : Nat) (small : m < 128) : fold m = fold n ↔ m = n := by
      simp only [Bool.and_eq_true, Bool.not_eq_true', Bool.and_eq_false_iff,
        decide_eq_false_iff_not] at h
      rw [fold_of_lt small, fold_of_lt lt, List.singleton_inj]
      constructor
      · intro same
        split_ifs at same <;> omega
      · rintro rfl
        rfl
    refine (agree_fold ascii lt (s := .single n) fun m small => by simp [single m small]).trans ?_
    intro goal p _
    simp only [walk, Bool.false_eq_true, if_false, Subject.literal?, Subject.holdsAt_eq]
    cases t.text[p]? with
    | none => rfl
    | some c => by_cases same : c.toNat = n <;> simp [same, CodeSet.holds]
  · rename_i large
    obtain ⟨k, mem, wide⟩ := List.any_eq_true.mp h
    refine (agree_absent ascii (absent_of_wide ascii mem (of_decide_eq_true wide))).trans ?_
    intro goal p _
    simp only [walk, Bool.false_eq_true, if_false, Subject.literal?]
    cases found : t.text[p]? with
    | none => rfl
    | some c =>
      have ne : c.toNat ≠ n := fun same => large (same ▸ ascii.lt found)
      simp [ne]

/-! ### Classes -/

/-- Of ASCII the second set has what folds like a member of the first, which has all small letters
if it has a character beyond ASCII that folds to some. -/
structure Doubled (s s' : CodeSet) : Prop where
  sorted : s.Sorted
  sorted' : s'.Sorted
  letters : ∀ m ∈ Fold.strays, s.contains m = true → ∀ k, 97 ≤ k → k ≤ 122 → s.contains k = true
  doubled : ∀ n < 128, s'.contains n = true ↔ ∃ m < 128, s.contains m = true ∧ fold m = fold n
  filled : ∃ n < 128, s.contains n = true

theorem Doubled.closure {s' : CodeSet} (h : Doubled s s') {n : Nat} (lt : n < 128) :
    (Fold.closure s).contains n = s'.contains n := by
  rw [Bool.eq_iff_iff, Fold.contains_closure_iff h.letters lt, h.doubled n lt]

/-- Sets that have the same ASCII characters are the same in ASCII text. -/
theorem walk_one_congr (ascii : t.Ascii) {s s' : CodeSet}
    (same : ∀ n < 128, s.contains n = s'.contains n) :
    (Node.one s).walk t = (Node.one s').walk t := by
  funext goal p
  simp only [walk, Subject.holdsAt_eq]
  cases found : t.text[p]? with
  | none => rfl
  | some c => rw [Option.any_some, Option.any_some, CodeSet.holds, CodeSet.holds,
      same _ (ascii.lt found)]

/-- What a class of no bytes excludes. -/
theorem Members.excluded_spec {m : Members} (sorted : m.set.Sorted)
    (bytes : ∀ b, m.bytes.contains b = false) :
    m.excluded.Sorted ∧ ∀ n, m.excluded.contains n = m.set.contains n := by
  unfold excluded
  split
  · exact ⟨sorted, fun n => rfl⟩
  · have none (count : Nat) (lead : Nat → Nat) (piece : Nat → CodeSet) :
        (List.range count).filterMap (fun k =>
          if m.bytes.contains (lead k) = true then some (piece k) else none) = [] := by
      simp [bytes]
    simp only [ledBy, none, List.foldl_nil]
    refine ⟨sorted.union (((CodeSet.sorted_diff _ _).union (CodeSet.sorted_diff _ _)).union
      (CodeSet.sorted_diff _ _)), fun n => ?_⟩
    simp

theorem sorted_closure {s : CodeSet} (sorted : s.Sorted) : (Fold.closure s).Sorted :=
  sorted.union (CodeSet.sorted_ofList _)

/-- The class that is left out of a text if the runs to which its characters fold do not occur. -/
theorem agree_alternatives_absent (ascii : t.Ascii) {runs : List (List Nat)} (a : Node)
    (absent : ∀ run ∈ runs, ¬ run <:+: t.folding) :
    AgreeFrom t.origin ((Node.alternatives (a :: runs.map (.text · true))).walk t) (a.walk t) := by
  induction runs generalizing a with
  | nil => exact .of_eq rfl
  | cons run runs ih =>
    obtain ⟨first, others⟩ := List.forall_mem_cons.mp absent
    intro goal p le
    have rest := (ih (.text run true) others).trans (agree_absent ascii first) goal p le
    change (a.walk t goal p).or
      ((Node.alternatives (.text run true :: runs.map (.text · true))).walk t goal p) = _
    rw [rest, Option.or_none]

variable {c c' : ClassText}

/-- A class that ignores case and one with both cases match alike, unless the text has several
letters to which a single character of the first folds. -/
theorem classNode_alike (ascii : t.Ascii) (negated : c.negated = c'.negated)
    (doubled : Doubled c.members.set c'.members.set)
    (bytes : ∀ b, c.members.bytes.contains b = false)
    (bytes' : ∀ b, c'.members.bytes.contains b = false)
    (absent : c.negated = false → (∃ m ∈ Fold.strays, c.members.set.contains m = true) →
      ∀ run ∈ Fold.ligatures, ¬ run <:+: t.folding) :
    AlikeOn t true false ((Lexeme.bracket c).node true) ((Lexeme.bracket c').node false) := by
  have plain : ((Lexeme.bracket c).node true).Plain true := Lexeme.node_plain true _
  refine ⟨plain, trivial, ?_⟩
  change AgreeFrom t.origin _ ((Node.one c'.set).walk t)
  simp only [Lexeme.node, Draft.classNode, Bool.not_true, Bool.false_eq_true, if_false]
  cases inverted : c.negated with
  | true =>
    rw [if_pos rfl]
    have outside := Members.excluded_spec
      (m := { c.members with set := Fold.closure c.members.set })
      (sorted_closure doubled.sorted) bytes
    have outside' := Members.excluded_spec doubled.sorted' bytes'
    refine .of_eq (walk_one_congr ascii fun n lt => ?_)
    simp only [ClassText.set, ← negated, inverted, if_true]
    rw [outside.1.contains_complement, outside'.1.contains_complement, outside.2, outside'.2,
      doubled.closure lt]
  | false =>
    simp only [Bool.false_eq_true, if_false, ClassText.set, ← negated, inverted]
    split
    · -- A class of a single member is read as that.
      rename_i n only
      have eq := CodeSet.eq_single_of_only? only
      obtain ⟨m, lt, holds⟩ := doubled.filled
      have same (k : Nat) : c.members.set.contains k = true ↔ k = n := by
        rw [eq, CodeSet.contains_single, decide_eq_true_iff]
      obtain rfl := (same m).mp holds
      refine agree_fold ascii lt fun k small => ?_
      rw [doubled.doubled k small]
      constructor
      · rintro ⟨j, -, own, alike⟩
        rw [← alike, (same j).mp own]
      · exact fun alike => ⟨m, lt, holds, alike.symm⟩
    · refine (agree_alternatives_absent ascii _ ?_).trans
        (.of_eq (walk_one_congr ascii fun n lt => doubled.closure lt))
      intro run mem
      by_cases wide : ∃ k ∈ run, 128 ≤ k
      · obtain ⟨k, own, le⟩ := wide
        exact absent_of_wide ascii own le
      · have small : ∀ k ∈ run, k < 128 := fun k own =>
          Nat.lt_of_not_le fun le => wide ⟨k, own, le⟩
        obtain ⟨ligature, stray⟩ := Fold.exists_stray_of_ligature mem small
        exact absent inverted stray run ligature

end Tincture.Regex
