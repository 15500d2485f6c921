import Tincture.Proofs.Text.Fold
import Tincture.Regex.Class

/-!
The named classes and ASCII.

The classes that escapes name are those of Unicode, but of ASCII they hold what one expects: words
are made of letters, digits and the underscore, and so on (`Class.contains_word`,
`Class.contains_digit`, `Class.contains_space`). None of them has a letter in one case only, and
only those with all small letters have characters beyond ASCII that fold to some (`Caseless`).
-/

namespace Tincture

/-- The set has both cases of a letter or none, and with a character beyond ASCII that folds to
ASCII all small letters. It has some ASCII character. -/
structure CodeSet.Caseless (s : CodeSet) : Prop where
  sorted : s.Sorted
  even : ∀ m < 128, ∀ n < 128, fold m = fold n → s.contains m = s.contains n
  letters : ∀ m ∈ Fold.strays, s.contains m = true → ∀ k, 97 ≤ k → k ≤ 122 → s.contains k = true
  filled : ∃ n < 128, s.contains n = true

namespace Regex.Class

open CodeSet

/-! ### The tables -/

/-- The bounds of the tables ascend. -/
theorem sorted_tables :
    Property.alphabetic.Sorted ∧ Property.mark.Sorted ∧ Property.connector.Sorted ∧
      digit.Sorted ∧ space.Sorted := by
  decide +kernel

/-- What the tables say of ASCII. -/
theorem low_tables :
    Property.alphabetic.bounds.toList.takeWhile (· < 128) = [65, 91, 97, 123] ∧
      Property.mark.bounds.toList.takeWhile (· < 128) = [] ∧
      Property.connector.bounds.toList.takeWhile (· < 128) = [95, 96] ∧
      digit.bounds.toList.takeWhile (· < 128) = [48, 58] ∧
      space.bounds.toList.takeWhile (· < 128) = [9, 14, 32, 33] := by
  decide +kernel

theorem sorted_digit : digit.Sorted := sorted_tables.2.2.2.1

theorem sorted_space : space.Sorted := sorted_tables.2.2.2.2

theorem sorted_word : word.Sorted := by
  obtain ⟨letters, marks, connectors, digits, -⟩ := sorted_tables
  exact ((letters.union marks).union digits).union connectors

theorem contains_digit {n : Nat} (lt : n < 128) :
    digit.contains n = true ↔ 48 ≤ n ∧ n ≤ 57 := by
  obtain ⟨-, -, -, low, -⟩ := low_tables
  rw [sorted_digit.contains_below lt, low]
  grind

theorem contains_space {n : Nat} (lt : n < 128) :
    space.contains n = true ↔ (9 ≤ n ∧ n ≤ 13) ∨ n = 32 := by
  obtain ⟨-, -, -, -, low⟩ := low_tables
  rw [sorted_space.contains_below lt, low]
  grind

theorem contains_word {n : Nat} (lt : n < 128) :
    word.contains n = true ↔
      (48 ≤ n ∧ n ≤ 57) ∨ (65 ≤ n ∧ n ≤ 90) ∨ n = 95 ∨ (97 ≤ n ∧ n ≤ 122) := by
  obtain ⟨sorted, sorted', sorted'', -⟩ := sorted_tables
  obtain ⟨low, low', low'', -⟩ := low_tables
  have letters : Property.alphabetic.contains n = true ↔
      (65 ≤ n ∧ n ≤ 90) ∨ (97 ≤ n ∧ n ≤ 122) := by
    rw [sorted.contains_below lt, low]
    grind
  have marks : Property.mark.contains n = false := by
    rw [sorted'.contains_below lt, low']
    rfl
  have underscore : Property.connector.contains n = true ↔ n = 95 := by
    rw [sorted''.contains_below lt, low'']
    grind
  have digits : Property.digit.contains n = true ↔ 48 ≤ n ∧ n ≤ 57 := contains_digit lt
  rw [word, contains_union, contains_union, contains_union, marks]
  simp only [Bool.or_eq_true, letters, digits, underscore, Bool.false_eq_true, or_false]
  omega

/-- The characters beyond ASCII that fold to ASCII are letters. -/
theorem strays_named : ∀ m ∈ Fold.strays, word.contains m = true ∧
    digit.contains m = false ∧ space.contains m = false := by
  have all : Fold.strays.all (fun m => Property.alphabetic.contains m && !digit.contains m &&
      !space.contains m) = true := by
    decide +kernel
  intro m mem
  have own := List.all_eq_true.mp all m mem
  simp only [Bool.and_eq_true, Bool.not_eq_true'] at own
  obtain ⟨⟨letter, others⟩, other⟩ := own
  refine ⟨?_, others, other⟩
  rw [word, contains_union, contains_union, contains_union, letter]
  rfl

/-! ### Classes without case -/

theorem caseless_word : word.Caseless where
  sorted := sorted_word
  even m lt n lt' same := by
    have cases := fold_eq_cases lt lt' same
    rw [Bool.eq_iff_iff, contains_word lt, contains_word lt']
    omega
  letters _ _ _ k low high := (contains_word (by omega)).mpr (by omega)
  filled := ⟨48, by decide, (contains_word (by decide)).mpr (by decide)⟩

theorem caseless_digit : digit.Caseless where
  sorted := sorted_digit
  even m lt n lt' same := by
    have cases := fold_eq_cases lt lt' same
    rw [Bool.eq_iff_iff, contains_digit lt, contains_digit lt']
    omega
  letters m mem holds := by
    rw [(strays_named m mem).2.1] at holds
    cases holds
  filled := ⟨48, by decide, (contains_digit (by decide)).mpr (by decide)⟩

theorem caseless_space : space.Caseless where
  sorted := sorted_space
  even m lt n lt' same := by
    have cases := fold_eq_cases lt lt' same
    rw [Bool.eq_iff_iff, contains_space lt, contains_space lt']
    omega
  letters m mem holds := by
    rw [(strays_named m mem).2.2] at holds
    cases holds
  filled := ⟨32, by decide, (contains_space (by decide)).mpr (by decide)⟩

theorem caseless_single {n : Nat} (lt : n < 65) : (CodeSet.single n).Caseless where
  sorted := sorted_range n n
  even m lt k lt' same := by
    have cases := fold_eq_cases lt lt' same
    rw [Bool.eq_iff_iff, contains_single, contains_single, decide_eq_true_iff, decide_eq_true_iff]
    omega
  letters m mem holds := by
    rw [contains_single, decide_eq_true_iff] at holds
    have beyond : ∀ m ∈ Fold.strays, 128 ≤ m := by decide
    have := beyond m mem
    omega
  filled := ⟨n, by omega, by rw [contains_single, decide_eq_true_iff]⟩

/-- The complement has no case either, if it has all small letters or nothing that folds to some. -/
theorem caseless_complement {s : CodeSet} (h : s.Caseless)
    (letters : (∀ k, 97 ≤ k → k ≤ 122 → s.contains k = false) ∨
      ∀ m ∈ Fold.strays, s.contains m = true)
    (filled : ∃ n < 128, s.contains n = false) : s.complement.Caseless where
  sorted := h.sorted.complement
  even m lt n lt' same := by
    rw [h.sorted.contains_complement, h.sorted.contains_complement, h.even m lt n lt' same]
  letters m mem holds k low high := by
    rw [h.sorted.contains_complement, Bool.not_eq_true'] at holds ⊢
    rcases letters with absent | present
    · exact absent k low high
    · rw [present m mem] at holds
      cases holds
  filled := by
    obtain ⟨n, lt, absent⟩ := filled
    exact ⟨n, lt, by rw [h.sorted.contains_complement, absent, Bool.not_false]⟩

/-- No class that an escape names has case. -/
theorem caseless_of_ofLetter? {c : Char} {s : CodeSet} (h : ofLetter? c = some s) :
    s.Caseless := by
  have not_space : space.contains 48 = false :=
    Bool.eq_false_iff.mpr fun holds => absurd ((contains_space (by decide)).mp holds) (by decide)
  have not_digit : digit.contains 32 = false :=
    Bool.eq_false_iff.mpr fun holds => absurd ((contains_digit (by decide)).mp holds) (by decide)
  have not_word : word.contains 32 = false :=
    Bool.eq_false_iff.mpr fun holds => absurd ((contains_word (by decide)).mp holds) (by decide)
  unfold ofLetter? at h
  split at h
  all_goals simp only [Option.some.injEq, reduceCtorEq] at h
  all_goals subst h
  · exact caseless_word
  · exact caseless_complement caseless_word (.inr fun m mem => (strays_named m mem).1)
      ⟨32, by decide, not_word⟩
  · exact caseless_digit
  · refine caseless_complement caseless_digit (.inl fun k low high => ?_) ⟨32, by decide, not_digit⟩
    refine Bool.eq_false_iff.mpr fun holds => ?_
    have := (contains_digit (by omega)).mp holds
    omega
  · exact caseless_space
  · refine caseless_complement caseless_space (.inl fun k low high => ?_) ⟨48, by decide, not_space⟩
    refine Bool.eq_false_iff.mpr fun holds => ?_
    have := (contains_space (by omega)).mp holds
    omega

/-- Which of them have characters beyond ASCII that fold to ASCII. -/
theorem wide_of_stray {c : Char} {s : CodeSet} (h : ofLetter? c = some s) {m : Nat}
    (mem : m ∈ Fold.strays) (holds : s.contains m = true) : c ∈ ['w', 'D', 'S'] := by
  obtain ⟨letter, digit, space⟩ := strays_named m mem
  unfold ofLetter? at h
  split at h
  all_goals simp only [Option.some.injEq, reduceCtorEq] at h
  all_goals subst h
  · decide
  · simp [sorted_word.contains_complement, letter] at holds
  · simp [digit] at holds
  · decide
  · simp [space] at holds
  · decide

end Regex.Class

end Tincture
