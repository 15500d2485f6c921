import Mathlib.Order.Bounds.Basic
import Tincture.Proofs.Union.ClassReading
import Tincture.Proofs.Union.Ranges

/-!
Bracket classes with both cases of their letters.

Folding a class adds to the ranges that are read of it those of its letters in the other case,
merges them and writes the class anew. The ranges then cover the least set with the code points of
the class in it that is closed under exchanging the cases of ASCII letters, and since separated
ranges are known from what they cover, folding once more finds the same ranges (`foldClass_exact`).
-/

namespace Tincture.Union

/-- Exchanges the cases of an ASCII letter. -/
def swapCase (n : Nat) : Nat :=
  if 65 ≤ n ∧ n ≤ 90 then n + 32 else if 97 ≤ n ∧ n ≤ 122 then n - 32 else n

theorem swapCase_swapCase (n : Nat) : swapCase (swapCase n) = n := by
  unfold swapCase
  split_ifs <;> omega

theorem swapCase_lt {n : Nat} (h : n < 0x110000) : swapCase n < 0x110000 := by
  unfold swapCase
  split_ifs <;> omega

/-! ### Ranges in both cases -/

variable {ranges : List (Nat × Nat)}

theorem mem_covered_otherCase (r : Nat × Nat) (n : Nat) :
    n ∈ covered (otherCase 65 90 (· + 32) r ++ otherCase 97 122 (· - 32) r) ↔
      swapCase n ≠ n ∧ r.1 ≤ swapCase n ∧ swapCase n ≤ r.2 := by
  simp only [covered, Set.mem_ofPred_eq, List.mem_append, or_and_right, exists_or]
  have upper : (∃ s, s ∈ otherCase 65 90 (· + 32) r ∧ s.1 ≤ n ∧ n ≤ s.2) ↔
      (97 ≤ n ∧ n ≤ 122) ∧ r.1 ≤ n - 32 ∧ n - 32 ≤ r.2 := by
    unfold otherCase
    split_ifs with none
    · simp only [Bool.or_eq_true, decide_eq_true_eq] at none
      simp only [List.not_mem_nil, false_and, exists_false, false_iff]
      omega
    · simp only [List.mem_singleton, exists_eq_left]
      omega
  have lower : (∃ s, s ∈ otherCase 97 122 (· - 32) r ∧ s.1 ≤ n ∧ n ≤ s.2) ↔
      (65 ≤ n ∧ n ≤ 90) ∧ r.1 ≤ n + 32 ∧ n + 32 ≤ r.2 := by
    unfold otherCase
    split_ifs with none
    · simp only [Bool.or_eq_true, decide_eq_true_eq] at none
      simp only [List.not_mem_nil, false_and, exists_false, false_iff]
      omega
    · simp only [List.mem_singleton, exists_eq_left]
      omega
  rw [upper, lower]
  unfold swapCase
  split_ifs <;> omega

/-- With both cases of their letters, ranges cover what they did, with its cases exchanged or not.
-/
theorem mem_covered_bothCases (ranges : List (Nat × Nat)) (n : Nat) :
    n ∈ covered (ranges.flatMap bothCases) ↔ n ∈ covered ranges ∨ swapCase n ∈ covered ranges := by
  induction ranges with
  | nil => simp
  | cons r rest ih =>
    have parts (xs ys : List (Nat × Nat)) :
        n ∈ covered (xs ++ ys) ↔ n ∈ covered xs ∨ n ∈ covered ys := by
      simp [covered, or_and_right, exists_or]
    rw [List.flatMap_cons, parts, bothCases, mem_covered_cons, mem_covered_otherCase, ih,
      mem_covered_cons, mem_covered_cons]
    by_cases fixed : swapCase n = n
    · simp only [fixed, ne_eq, not_true, false_and, or_false, or_self]
    · simp only [ne_eq, fixed, not_false_eq_true, true_and]
      rw [or_or_or_comm]

theorem upright_bothCases (upright : ∀ r ∈ ranges, r.1 ≤ r.2) :
    ∀ r ∈ ranges.flatMap bothCases, r.1 ≤ r.2 := by
  intro s mem
  obtain ⟨r, own, mem⟩ := List.mem_flatMap.mp mem
  have le := upright r own
  have other (first last : Nat) (move : Nat → Nat) (mono : ∀ a b, a ≤ b → move a ≤ move b)
      (ordered : first ≤ last) (mem : s ∈ otherCase first last move r) : s.1 ≤ s.2 := by
    unfold otherCase at mem
    split_ifs at mem with none
    · cases mem
    · simp only [Bool.or_eq_true, decide_eq_true_eq] at none
      rw [List.mem_singleton.mp mem]
      exact mono _ _ (by omega)
  rcases List.mem_cons.mp mem with rfl | mem
  · exact le
  · rcases List.mem_append.mp mem with mem | mem
    · exact other 65 90 (· + 32) (fun a b h => Nat.add_le_add_right h 32) (by decide) mem
    · exact other 97 122 (· - 32) (fun a b h => Nat.sub_le_sub_right h 32) (by decide) mem

/-- The sets with the code points of the ranges in them that are closed under exchanging cases. -/
def closedOver (ranges : List (Nat × Nat)) : Set (Set Nat) :=
  {codes | covered ranges ⊆ codes ∧ ∀ n ∈ codes, swapCase n ∈ codes}

theorem isLeast_bothCases (ranges : List (Nat × Nat)) :
    IsLeast (closedOver ranges) (covered (ranges.flatMap bothCases)) := by
  refine ⟨⟨fun n mem => (mem_covered_bothCases ranges n).mpr (.inl mem), fun n mem => ?_⟩, ?_⟩
  · rw [mem_covered_bothCases] at mem ⊢
    rwa [swapCase_swapCase, or_comm]
  · intro codes closed n mem
    rcases (mem_covered_bothCases ranges n).mp mem with own | other
    · exact closed.1 own
    · have back := closed.2 _ (closed.1 other)
      rwa [swapCase_swapCase] at back

/-! ### Folding -/

namespace ClassReading

/-- The class with both cases of its letters, its ranges merged. -/
def folded (c : ClassReading) : ClassReading :=
  { c with
    contents :=
      { c.contents with ranges := consolidate (c.contents.ranges.flatMap bothCases) } }

theorem of_bounded (text : List Char) :
    (∀ m ∈ (of text).contents.named, isNamedClass m = true) ∧
      ∀ r ∈ (of text).contents.ranges, r.1 < 0x110000 ∧ r.2 < 0x110000 := by
  refine Contents.ofMembers_bounded fun m mem => ?_
  split at mem
  · exact memberCode_lt (List.mem_of_mem_tail mem)
  · exact memberCode_lt mem

variable {c : ClassReading}

theorem isLeast_folded (upright : ∀ r ∈ c.contents.ranges, r.1 ≤ r.2) :
    IsLeast (closedOver c.contents.ranges) (covered c.folded.contents.ranges) := by
  have least := isLeast_bothCases c.contents.ranges
  rwa [← covered_consolidate (upright_bothCases upright)] at least

theorem separated_folded (upright : ∀ r ∈ c.contents.ranges, r.1 ≤ r.2) :
    Separated c.folded.contents.ranges :=
  separated_consolidate (upright_bothCases upright)

/-- A folded class is its own folding, for its ranges cover a set that is closed already. -/
theorem folded_folded (upright : ∀ r ∈ c.contents.ranges, r.1 ≤ r.2) :
    c.folded.folded = c.folded := by
  have separated := separated_folded upright
  have closed := (isLeast_folded upright).1.2
  have again : IsLeast (closedOver c.folded.contents.ranges) (covered c.folded.contents.ranges) :=
    ⟨⟨subset_rfl, closed⟩, fun _ other => other.1⟩
  have same : covered c.folded.folded.contents.ranges = covered c.folded.contents.ranges :=
    (isLeast_folded separated.upright).unique again
  have ranges := (separated_folded separated.upright).ext separated same
  have contents : c.folded.folded.contents = c.folded.contents :=
    congrArg (Contents.mk c.contents.named) ranges
  exact congrArg (ClassReading.mk c.inverted) contents

theorem folded_lt (upright : ∀ r ∈ c.contents.ranges, r.1 ≤ r.2)
    (bounded : ∀ r ∈ c.contents.ranges, r.2 < 0x110000) :
    ∀ n ∈ covered c.folded.contents.ranges, n < 0x110000 := by
  have small : {n | n < 0x110000} ∈ closedOver c.contents.ranges := by
    refine ⟨fun n mem => ?_, fun n => swapCase_lt⟩
    obtain ⟨r, own, -, le⟩ := mem
    exact Nat.lt_of_le_of_lt le (bounded r own)
  exact (isLeast_folded upright).2 small

theorem proper_folded {text : List Char} (upright : ∀ r ∈ (of text).contents.ranges, r.1 ≤ r.2) :
    (of text).folded.Proper := by
  have separated := separated_folded upright
  obtain ⟨named, bounded⟩ := of_bounded text
  refine ⟨named, separated.upright, fun r mem => ?_⟩
  exact folded_lt upright (fun r own => (bounded r own).2) _
    ⟨r, mem, separated.upright r mem, le_rfl⟩

theorem foldClass_eq_write (text : List Char) : foldClass text = (of text).folded.write := by
  have each (r : Nat × Nat) : (rangeMembers r).flatten = encodeRange r := by
    unfold rangeMembers encodeRange
    split_ifs <;> simp
  have ranges (rs : List (Nat × Nat)) :
      (rs.flatMap rangeMembers).flatten = rs.flatMap encodeRange := by
    induction rs with
    | nil => rfl
    | cons r rs ih => rw [List.flatMap_cons, List.flatten_append, each, ih, List.flatMap_cons]
  have caret : (if (of text).inverted = true then [['^']] else []).flatten =
      if (of text).inverted = true then ['^'] else [] := by
    split <;> rfl
  rw [write, written, List.flatten_append, List.flatten_append, folded, ranges, caret]
  simp only [foldClass, of, List.append_assoc, List.cons_append, List.nil_append]
  rfl

/-- What a folded class is read as. -/
theorem of_foldClass {text : List Char} (upright : ∀ r ∈ (of text).contents.ranges, r.1 ≤ r.2) :
    of (foldClass text) = (of text).folded := by
  rw [foldClass_eq_write, (proper_folded upright).of_write]

end ClassReading

/-! ### Main result -/

/-- Fold any class of which no range is reversed. The result is a class that is inverted if the
first one is and has the same named classes in order; its code points are the least set with those
of the first one in it that is closed under exchanging cases; its ranges, as they are written,
ascend and do not even touch; and folding it again gives the same text. For its code points, as for
all others, it holds that each is written as one member that stands for it and for nothing else. -/
theorem foldClass_exact (body : List Char) :
    let text := '[' :: (body ++ [']'])
    let before := ClassReading.of text
    let after := ClassReading.of (foldClass text)
    (∀ r ∈ before.contents.ranges, r.1 ≤ r.2) →
      foldClass text = after.write ∧
      after.inverted = before.inverted ∧
      after.contents.named = before.contents.named ∧
      IsLeast (closedOver before.contents.ranges) (covered after.contents.ranges) ∧
      Separated after.contents.ranges ∧
      foldClass (foldClass text) = foldClass text ∧
      (∀ n ∈ covered after.contents.ranges, n < 0x110000) ∧
      ∀ n < 0x110000, Faithful n (encodeMember n) := by
  intro text before after upright
  have eq : after = before.folded := ClassReading.of_foldClass upright
  have written : foldClass text = after.write := by rw [eq, ClassReading.foldClass_eq_write]
  refine ⟨written, by rw [eq]; rfl, by rw [eq]; rfl, ?_, ?_, ?_, ?_, fun n =>
    faithful_encodeMember⟩
  · rw [eq]
    exact ClassReading.isLeast_folded upright
  · rw [eq]
    exact ClassReading.separated_folded upright
  · have again : after.folded = after := by rw [eq, ClassReading.folded_folded upright]
    rw [ClassReading.foldClass_eq_write (foldClass text), again, ← written]
  · rw [eq]
    exact ClassReading.folded_lt upright fun r own =>
      ((ClassReading.of_bounded text).2 r own).2

/-- An inverted class with a named one, a range of escapes, and characters that are special. -/
theorem foldClass_exact_inverted :
    let text := "[^\\x41-\\x43&\\w-]".toList
    (∀ r ∈ (ClassReading.of text).contents.ranges, r.1 ≤ r.2) ∧
      foldClass text = "[^\\w\\&\\-A-Ca-c]".toList ∧
      IsLeast (closedOver [(65, 67), (38, 38), (45, 45)])
        (covered (ClassReading.of (foldClass text)).contents.ranges) ∧
      foldClass (foldClass text) = foldClass text := by
  intro text
  have read : ClassReading.of text =
      ⟨true, ["\\w".toList], [(65, 67), (38, 38), (45, 45)]⟩ := by decide +kernel
  have upright : ∀ r ∈ (ClassReading.of text).contents.ranges, r.1 ≤ r.2 := by
    rw [read]
    decide
  obtain ⟨-, -, -, least, -, again, -⟩ := foldClass_exact "^\\x41-\\x43&\\w-".toList upright
  have same : '[' :: ("^\\x41-\\x43&\\w-".toList ++ [']']) = text := by decide
  rw [same] at least again
  rw [read] at least
  exact ⟨upright, by decide +kernel, least, again⟩

end Tincture.Union
