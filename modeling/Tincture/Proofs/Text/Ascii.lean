import Mathlib.Data.Bool.AllAny

/-!
ASCII characters.

There are only so many of them that what holds of each can be found by going through them all
(`ascii_all`).
-/

namespace Tincture

/-- Whether a character is an ASCII one. -/
def isAscii (c : Char) : Bool := c.toNat < 128

variable {c : Char}

theorem isAscii_iff : isAscii c = true ↔ c.toNat < 128 := decide_eq_true_iff

/-- What holds of the characters up to the last ASCII one holds of every ASCII character. -/
theorem ascii_all {P : Char → Bool} (all : (List.range 128).all (fun n => P (Char.ofNat n)) = true)
    (h : isAscii c = true) : P c = true := by
  have holds := List.all_eq_true.mp all c.toNat (List.mem_range.mpr (isAscii_iff.mp h))
  rwa [Char.ofNat_toNat] at holds

/-- ASCII letters and digits are ASCII characters. -/
theorem isAscii_of_isAlphanum (h : c.isAlphanum = true) : isAscii c = true := by
  rw [isAscii_iff]
  delta Char.isAlphanum Char.isAlpha Char.isUpper Char.isLower Char.isDigit at h
  simp only [Bool.or_eq_true, Bool.and_eq_true, decide_eq_true_eq, UInt32.le_iff_toNat_le] at h
  change c.val.toNat < 128
  have z : 'z'.val.toNat = 122 := rfl
  have Z : 'Z'.val.toNat = 90 := rfl
  have nine : '9'.val.toNat = 57 := rfl
  omega

theorem isAscii_of_isAlpha (h : c.isAlpha = true) : isAscii c = true :=
  isAscii_of_isAlphanum (by rw [Char.isAlphanum, h, Bool.true_or])

/-- What holds of the ASCII letters among the characters holds of every one. -/
theorem letters_all {P : Char → Bool}
    (all : (List.range 128).all (fun n => !(Char.ofNat n).isAlpha || P (Char.ofNat n)) = true)
    (h : c.isAlpha = true) : P c = true := by
  have holds := ascii_all (P := fun c => !c.isAlpha || P c) all (isAscii_of_isAlpha h)
  simpa [h] using holds

end Tincture
