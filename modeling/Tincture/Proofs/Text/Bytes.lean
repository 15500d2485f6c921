import Tincture.Proofs.Text.Ascii
import Tincture.Proofs.Text.Digit
import Tincture.Proofs.Text.Utf8

/-!
Texts as bytes.

In UTF-8 an ASCII character is a byte of its own, and the bytes of the others are never taken for
one. So a test that asks for certain ASCII characters may be made on bytes (`Agrees`): it finds the
same at a byte position as at the character there (`byteAt_append`), and the runs it finds are as
long (`Agrees.length_takeWhile`).
-/

namespace Tincture

/-- The bytes of characters in UTF-8. -/
def utf8Bytes (cs : List Char) : List UInt8 := cs.flatMap String.utf8EncodeChar

/-- The bytes of a string. -/
def bytesOf (source : String) : List UInt8 := source.toUTF8.data.toList

theorem bytesOf_eq (source : String) : bytesOf source = utf8Bytes source.toList := by
  rw [bytesOf, String.toUTF8, ← String.utf8Encode_toList, List.utf8Encode,
    List.toList_data_toByteArray]
  rfl

theorem utf8Bytes_cons (c : Char) (cs : List Char) :
    utf8Bytes (c :: cs) = String.utf8EncodeChar c ++ utf8Bytes cs := List.flatMap_cons

theorem length_utf8Bytes (cs : List Char) : (utf8Bytes cs).length = byteLength cs := by
  induction cs with
  | nil => rfl
  | cons c cs ih =>
    rw [utf8Bytes_cons, List.length_append, String.length_utf8EncodeChar, ih, byteLength_cons]

theorem exists_bytes (c : Char) (cs : List Char) : ∃ b bs, utf8Bytes (c :: cs) = b :: bs := by
  refine List.exists_cons_of_ne_nil (List.ne_nil_of_length_pos ?_)
  rw [length_utf8Bytes]
  exact byteLength_pos (List.cons_ne_nil c cs)

theorem drop_bytesOf {source : String} {before after : List Char}
    (eq : source.toList = before ++ after) :
    (bytesOf source).drop (byteLength before) = utf8Bytes after := by
  rw [bytesOf_eq, eq, utf8Bytes, List.flatMap_append, ← length_utf8Bytes]
  exact List.drop_left

theorem utf8EncodeChar_of_isAscii {c : Char} (h : isAscii c = true) :
    String.utf8EncodeChar c = [c.toUInt8] := by
  have le : c.val.toNat ≤ 127 := Nat.le_of_lt_succ (isAscii_iff.mp h)
  exact String.utf8EncodeChar_eq_singleton
    (Char.utf8Size_eq_one_iff.mpr (UInt32.le_iff_toNat_le.mpr le))

/-- The first byte of a character that is no ASCII one is none either. -/
theorem utf8EncodeChar_of_not_isAscii {c : Char} (h : isAscii c = false) :
    ∃ b bs, String.utf8EncodeChar c = b :: bs ∧ 128 ≤ b.toNat := by
  have gt : ¬ c.val.toNat ≤ 127 := fun le =>
    Bool.false_ne_true (h.symm.trans (isAscii_iff.mpr (Nat.lt_succ_of_le le)))
  rw [String.utf8EncodeChar]
  simp only [if_neg gt]
  split_ifs
  · exact ⟨_, _, rfl, by simp; omega⟩
  · exact ⟨_, _, rfl, by simp; omega⟩
  · exact ⟨_, _, rfl, by simp; omega⟩

/-! ### Tests on bytes -/

/-- A test on bytes and one on characters that ask for the same ASCII characters. -/
structure Agrees (P : UInt8 → Bool) (Q : Char → Bool) : Prop where
  ascii : ∀ c, isAscii c = true → P c.toUInt8 = Q c
  wide : ∀ c, isAscii c = false → Q c = false
  high : ∀ b : UInt8, 128 ≤ b.toNat → P b = false

/-- Whether there is a byte at the position that passes a test. -/
def byteAt (source : String) (pos : Nat) (P : UInt8 → Bool) : Bool :=
  (bytesOf source)[pos]?.any P

variable {P : UInt8 → Bool} {Q : Char → Bool}

namespace Agrees

/-- A character that passes is a single byte. -/
theorem encode (h : Agrees P Q) {c : Char} (passes : Q c = true) :
    String.utf8EncodeChar c = [c.toUInt8] ∧ c.utf8Size = 1 ∧ P c.toUInt8 = true := by
  cases ascii : isAscii c with
  | true =>
    have single := utf8EncodeChar_of_isAscii ascii
    have size := String.length_utf8EncodeChar c
    rw [single] at size
    exact ⟨single, size.symm, (h.ascii c ascii).trans passes⟩
  | false =>
    rw [h.wide c ascii] at passes
    cases passes

/-- One that does not pass begins with a byte that does not. -/
theorem encode_of_not (h : Agrees P Q) {c : Char} (fails : Q c = false) :
    ∃ b bs, String.utf8EncodeChar c = b :: bs ∧ P b = false := by
  cases ascii : isAscii c with
  | true => exact ⟨_, _, utf8EncodeChar_of_isAscii ascii, (h.ascii c ascii).trans fails⟩
  | false =>
    obtain ⟨b, bs, eq, high⟩ := utf8EncodeChar_of_not_isAscii ascii
    exact ⟨b, bs, eq, h.high b high⟩

theorem head_any (h : Agrees P Q) (cs : List Char) :
    (utf8Bytes cs).head?.any P = cs.head?.any Q := by
  cases cs with
  | nil => rfl
  | cons c cs =>
    rw [utf8Bytes_cons]
    cases passes : Q c with
    | true =>
      obtain ⟨eq, -, own⟩ := h.encode passes
      simp [eq, own, passes]
    | false =>
      obtain ⟨b, bs, eq, own⟩ := h.encode_of_not passes
      simp [eq, own, passes]

/-- A character passes if its first byte does. -/
theorem first (h : Agrees P Q) {c : Char} {cs : List Char} {b : UInt8} {bs : List UInt8}
    (read : utf8Bytes (c :: cs) = b :: bs) : P b = Q c := by
  have heads := h.head_any (c :: cs)
  rw [read] at heads
  exact heads

/-- As many bytes pass as characters. -/
theorem length_takeWhile (h : Agrees P Q) (cs : List Char) :
    ((utf8Bytes cs).takeWhile P).length = (cs.takeWhile Q).length ∧
      byteLength (cs.takeWhile Q) = (cs.takeWhile Q).length := by
  induction cs with
  | nil => exact ⟨rfl, rfl⟩
  | cons c cs ih =>
    rw [utf8Bytes_cons]
    cases passes : Q c with
    | true =>
      obtain ⟨eq, size, own⟩ := h.encode passes
      simp [eq, own, passes, size, ih.1, ih.2, Nat.add_comm]
    | false =>
      obtain ⟨b, bs, eq, own⟩ := h.encode_of_not passes
      simp [eq, own, passes]

end Agrees

theorem byteAt_append {source : String} {before after : List Char} (h : Agrees P Q)
    (eq : source.toList = before ++ after) :
    byteAt source (byteLength before) P = after.head?.any Q := by
  rw [byteAt, ← h.head_any, ← drop_bytesOf eq, List.head?_drop]

theorem toNat_toUInt8 {c : Char} (h : isAscii c = true) : c.toUInt8.toNat = c.toNat := by
  have lt : c.val.toNat < 128 := isAscii_iff.mp h
  rw [Char.toUInt8, UInt32.toNat_toUInt8]
  exact Nat.mod_eq_of_lt (Nat.lt_trans lt (by decide))

/-- The byte of an ASCII character stands for that character only. -/
theorem agrees_char {d : Char} (h : isAscii d = true) : Agrees (· == d.toUInt8) (· == d) where
  ascii c ascii := by
    rw [Bool.eq_iff_iff, beq_iff_eq, beq_iff_eq]
    refine ⟨fun same => ?_, fun same => same ▸ rfl⟩
    rw [← UInt8.toNat_inj, toNat_toUInt8 ascii, toNat_toUInt8 h] at same
    exact Char.toNat_inj.mp same
  wide c wide := by
    refine beq_eq_false_iff_ne.mpr ?_
    rintro rfl
    rw [h] at wide
    cases wide
  high b high := by
    refine beq_eq_false_iff_ne.mpr ?_
    rintro rfl
    rw [toNat_toUInt8 h] at high
    exact absurd (isAscii_iff.mp h) (Nat.not_lt_of_le high)

/-- Whether a byte is a decimal digit. -/
def isDigitByte (b : UInt8) : Bool := 48 ≤ b.toNat && b.toNat ≤ 57

/-- Whether a byte is a hexadecimal digit. -/
def isHexByte (b : UInt8) : Bool :=
  isDigitByte b || (65 ≤ b.toNat && b.toNat ≤ 70) || (97 ≤ b.toNat && b.toNat ≤ 102)

theorem agrees_digit : Agrees isDigitByte Char.isDigit where
  ascii c ascii := by
    refine beq_iff_eq.mp (ascii_all (P := fun c => isDigitByte c.toUInt8 == c.isDigit) ?_ ascii)
    decide +kernel
  wide c wide := by
    by_contra digit
    rw [isAscii_of_isAlphanum (by simp [Char.isAlphanum, digit])] at wide
    cases wide
  high b high := by
    simp only [isDigitByte, Bool.and_eq_false_iff, decide_eq_false_iff_not]
    omega

theorem agrees_hexadecimal : Agrees isHexByte (isDigitIn 16) where
  ascii c ascii := by
    refine beq_iff_eq.mp (ascii_all (P := fun c => isHexByte c.toUInt8 == isDigitIn 16 c) ?_ ascii)
    decide +kernel
  wide c wide := by
    have beyond : 128 ≤ c.toNat := by
      by_contra lt
      rw [isAscii_iff.mpr (by omega)] at wide
      cases wide
    have none : digitValue? 16 c = none := by
      unfold digitValue?
      dsimp only
      split_ifs <;> first | omega | rfl
    rw [isDigitIn, none]
    rfl
  high b high := by
    simp only [isHexByte, isDigitByte, Bool.or_eq_false_iff, Bool.and_eq_false_iff,
      decide_eq_false_iff_not]
    omega

end Tincture
