import Mathlib.Data.List.TakeWhile
import Tincture.Proofs.Text.Digit
import Tincture.Union.Alternative
import Tincture.Union.ClassFolding

/-!
Octal escapes.

A backslash and digits that refer to no group stand for a code point. In a bracket class the digits
are read as octal ones; where the escape stands outside classes, its code point is written anew, as
the decimal value of the digits. `octal_outside_brackets` says when that makes no difference: for
values below eight only, so zeros and a single digit.
-/

namespace Tincture.Union

variable {ds : List Char}

/-- An octal digit has the same value in a larger radix. -/
theorem digitValue?_of_octal {d : Char} (octal : isDigitIn 8 d = true) :
    ∃ v < 8, digitValue? 8 d = some v ∧ digitValue? 10 d = some v := by
  obtain ⟨v, value⟩ := Option.isSome_iff_exists.mp octal
  have lt := digitValue?_lt value
  refine ⟨v, lt, value, ?_⟩
  unfold digitValue? at value ⊢
  obtain ⟨read, -⟩ := Option.filter_eq_some_iff.mp value
  exact Option.filter_eq_some_iff.mpr ⟨read, by simpa using Nat.lt_trans lt (by decide)⟩

/-- Octal digits write less than the same digits in the decimal system, but for a single one. -/
theorem numeral_octal (octal : ∀ d ∈ ds, isDigitIn 8 d = true) :
    numeral 8 ds ≤ numeral 10 ds ∧ (numeral 10 ds = numeral 8 ds ↔ numeral 8 ds < 8) := by
  induction ds using List.reverseRec with
  | nil => decide
  | append_singleton ds d ih =>
    obtain ⟨le, eq_iff⟩ := ih fun e mem => octal e (List.mem_append_left [d] mem)
    obtain ⟨v, lt, eight, ten⟩ := digitValue?_of_octal (octal d (by simp))
    rw [numeral_concat, numeral_concat, eight, ten, Option.getD_some]
    omega

/-- A code point that is written is read again. -/
theorem memberCode_codePoint (value : Nat) :
    memberCode (Part.codePoint value) = min value 0xffff := by
  have read (width n : Nat) :
      numeral 16 ((digits 16 width n).takeWhile (isDigitIn 16)) = n := by
    rw [List.takeWhile_eq_self_iff.mpr (isDigitIn_of_mem_digits (by decide) (by decide))]
    exact numeral_digits (by decide) (by decide) width n
  unfold Part.codePoint
  split
  · rename_i byte
    exact (read 2 value).trans (by omega)
  · exact read 4 _

/-- In a class the digits are octal. -/
theorem memberCode_octal (nonempty : ds ≠ []) (octal : ∀ d ∈ ds, isDigitIn 8 d = true) :
    memberCode ('\\' :: ds) = numeral 8 ds := by
  cases ds with
  | nil => exact absurd rfl nonempty
  | cons d ds =>
    have first := octal d List.mem_cons_self
    have all : (d :: ds).takeWhile (isDigitIn 8) = d :: ds := List.takeWhile_eq_self_iff.mpr octal
    simp only [memberCode]
    split
    case h_9 => rw [if_pos first, all]
    all_goals exact absurd first (by decide)

/-- A numeric escape of up to three octal digits that refers to no group is written as the code
point of its decimal value. In a class the same escape stands for its octal value, and that is the
same code point if and only if it is less than eight. -/
theorem octal_outside_brackets {opened : Nat} (nonempty : ds ≠ [])
    (octal : ∀ d ∈ ds, isDigitIn 8 d = true) (few : ds.length ≤ 3)
    (unreferenced : opened < numeral 10 ds) (foldCase : Bool) (captured : Nat) (kept : List Nat)
    (rest : List Part) :
    ∃ written,
      writeParts foldCase captured kept opened (.numeric ('\\' :: ds) (numeral 10 ds) :: rest) =
        written ++ writeParts foldCase captured kept opened rest ∧
      memberCode written = numeral 10 ds ∧ memberCode ('\\' :: ds) = numeral 8 ds ∧
      (memberCode written = memberCode ('\\' :: ds) ↔ numeral 8 ds < 8) := by
  have bounded : numeral 10 ds < 10 ^ ds.length := numeral_lt (by decide) ds
  have small : numeral 10 ds < 1000 :=
    Nat.lt_of_lt_of_le bounded (Nat.pow_le_pow_right (n := 10) (by decide) few)
  have code : memberCode (Part.codePoint (numeral 10 ds)) = numeral 10 ds := by
    rw [memberCode_codePoint]
    omega
  have inside := memberCode_octal nonempty octal
  refine ⟨Part.codePoint (numeral 10 ds), ?_, code, inside, ?_⟩
  · rw [writeParts, if_neg (by omega), if_neg (by omega)]
  · rw [code, inside]
    exact (numeral_octal octal).2

/-- The escape of the letter `A` in a class is that of the letter `e` outside. -/
theorem octal_outside_brackets_letter :
    numeral 10 ['1', '0', '1'] = 101 ∧ ['1', '0', '1'] ≠ [] ∧
      (∀ d ∈ ['1', '0', '1'], isDigitIn 8 d = true) ∧ ['1', '0', '1'].length ≤ 3 ∧
      ∃ written,
        writeParts false 0 [] 0 (.numeric ['\\', '1', '0', '1'] 101 :: []) =
          written ++ writeParts false 0 [] 0 [] ∧
        memberCode written = 101 ∧ memberCode ['\\', '1', '0', '1'] = 65 ∧
        (memberCode written = memberCode ['\\', '1', '0', '1'] ↔ 65 < 8) := by
  have octal : ∀ d ∈ ['1', '0', '1'], isDigitIn 8 d = true := List.all_eq_true.mp (by decide)
  refine ⟨by decide, by decide, octal, by decide, ?_⟩
  exact octal_outside_brackets (by decide) octal (by decide) (by decide) false 0 [] []

end Tincture.Union
