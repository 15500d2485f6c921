import Mathlib.Data.List.Basic
import Mathlib.Data.List.Induction
import Tincture.Text.Digit

/-!
Digits that are written and read.

A number in a radix up to sixteen is the numeral of the digits it is written with, leading zeros
included, and a numeral is less than the power of the radix for the number of its digits.
-/

namespace Tincture

variable {radix : Nat}

theorem digitValue?_digitChar {d : Nat} (small : radix ≤ 16) (lt : d < radix) :
    digitValue? radix d.digitChar = some d := by
  have all : ∀ radix ≤ 16, ∀ d < radix, digitValue? radix d.digitChar = some d := by decide
  exact all radix small d lt

theorem digitValue?_lt {c : Char} {d : Nat} (h : digitValue? radix c = some d) : d < radix := by
  unfold digitValue? at h
  simpa using (Option.filter_eq_some_iff.mp h).2

/-! ### Numerals -/

theorem numeral_concat (radix : Nat) (cs : List Char) (c : Char) :
    numeral radix (cs ++ [c]) = numeral radix cs * radix + (digitValue? radix c).getD 0 := by
  rw [numeral, List.foldl_concat]
  rfl

theorem numeral_cons_zero (radix : Nat) (cs : List Char) :
    numeral radix ('0' :: cs) = numeral radix cs := by
  have zero : 0 * radix + (digitValue? radix '0').getD 0 = 0 := by
    rw [Nat.zero_mul, Nat.zero_add]
    by_cases positive : 0 < radix <;> simp [digitValue?, Option.filter, positive]
  rw [numeral, List.foldl_cons, zero]
  rfl

theorem numeral_lt (positive : 0 < radix) (cs : List Char) :
    numeral radix cs < Nat.pow radix cs.length := by
  induction cs using List.reverseRec with
  | nil => simp [numeral]
  | append_singleton cs c ih =>
    have digit : (digitValue? radix c).getD 0 < radix := by
      cases value : digitValue? radix c with
      | none => exact positive
      | some d => exact digitValue?_lt value
    have next : (numeral radix cs + 1) * radix ≤ Nat.pow radix cs.length * radix :=
      Nat.mul_le_mul_right radix ih
    have power : Nat.pow radix (cs.length + 1) = Nat.pow radix cs.length * radix := rfl
    rw [numeral_concat, List.length_append, List.length_singleton, power]
    rw [Nat.add_mul, Nat.one_mul] at next
    omega

/-! ### Digits -/

/-- The number is the numeral of its digits. -/
theorem numeral_toDigits (two : 1 < radix) (small : radix ≤ 16) (n : Nat) :
    numeral radix (Nat.toDigits radix n) = n := by
  induction n using Nat.strongRecOn with
  | _ n ih =>
    by_cases lt : n < radix
    · rw [Nat.toDigits_of_lt_base lt, ← List.nil_append [n.digitChar], numeral_concat,
        digitValue?_digitChar small lt]
      simp [numeral]
    · have below : n / radix < n := Nat.div_lt_self (by omega) two
      have digit : n % radix < radix := Nat.mod_lt n (by omega)
      rw [Nat.toDigits_of_base_le two (Nat.le_of_not_lt lt), numeral_concat, ih _ below,
        digitValue?_digitChar small digit]
      exact Nat.div_add_mod' n radix

theorem isDigitIn_of_mem_toDigits (two : 1 < radix) (small : radix ≤ 16) {n : Nat} :
    ∀ c ∈ Nat.toDigits radix n, isDigitIn radix c = true := by
  induction n using Nat.strongRecOn with
  | _ n ih =>
    intro c mem
    by_cases lt : n < radix
    · rw [Nat.toDigits_of_lt_base lt, List.mem_singleton] at mem
      rw [mem, isDigitIn, digitValue?_digitChar small lt]
      rfl
    · have digit : n % radix < radix := Nat.mod_lt n (by omega)
      rw [Nat.toDigits_of_base_le two (Nat.le_of_not_lt lt), List.mem_append,
        List.mem_singleton] at mem
      rcases mem with mem | rfl
      · exact ih _ (Nat.div_lt_self (by omega) two) c mem
      · rw [isDigitIn, digitValue?_digitChar small digit]
        rfl

@[simp] theorem numeral_digits (two : 1 < radix) (small : radix ≤ 16) (width n : Nat) :
    numeral radix (digits radix width n) = n := by
  rw [digits]
  generalize width - (Nat.toDigits radix n).length = zeros
  induction zeros with
  | zero => exact numeral_toDigits two small n
  | succ zeros ih => rw [List.replicate_succ, List.cons_append, numeral_cons_zero, ih]

theorem isDigitIn_of_mem_digits (two : 1 < radix) (small : radix ≤ 16) {width n : Nat} :
    ∀ c ∈ digits radix width n, isDigitIn radix c = true := by
  intro c mem
  rcases List.mem_append.mp mem with mem | mem
  · obtain ⟨-, rfl⟩ := List.mem_replicate.mp mem
    exact (congrArg Option.isSome (digitValue?_digitChar small (Nat.zero_lt_of_lt two)) :)
  · exact isDigitIn_of_mem_toDigits two small c mem

theorem length_digits (two : 1 < radix) {width n : Nat} (positive : 0 < width)
    (lt : n < Nat.pow radix width) : (digits radix width n).length = width := by
  have fits := (Nat.length_toDigits_le_iff two positive).mpr lt
  rw [digits, List.length_append, List.length_replicate]
  omega

end Tincture
