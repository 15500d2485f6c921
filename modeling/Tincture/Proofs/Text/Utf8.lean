import Tincture.Text.Utf8

/-!
Byte lengths and positions in strings.

The byte length of the characters of a string is its length in UTF-8, and what is a character
boundary of a string is told by cutting its characters in two. A piece of a text is what is found
between the byte lengths of what stands before its ends (`sliceBytes?_append`).
-/

namespace Tincture

theorem byteLength_pos {text : List Char} (h : text ≠ []) : 0 < byteLength text := by
  cases text with
  | nil => exact absurd rfl h
  | cons c cs => exact Nat.add_pos_left c.utf8Size_pos _

theorem utf8ByteSize_ofList (text : List Char) :
    (String.ofList text).utf8ByteSize = byteLength text := by
  induction text with
  | nil => rfl
  | cons c cs ih =>
    rw [← List.singleton_append, String.ofList_append, String.utf8ByteSize_append, ih,
      byteLength_append]
    simp

theorem byteLength_toList (s : String) : byteLength s.toList = s.utf8ByteSize := by
  rw [← utf8ByteSize_ofList, String.ofList_toList]

/-- Behind some characters of a string is its end, unless there are more. -/
theorem byteLength_lt_iff {s : String} {before after : List Char} (h : s.toList = before ++ after) :
    byteLength before < s.utf8ByteSize ↔ after ≠ [] := by
  rw [← byteLength_toList, h, byteLength_append]
  constructor
  · rintro lt rfl
    exact Nat.lt_irrefl _ lt
  · intro more
    exact Nat.lt_add_of_pos_right (byteLength_pos more)

/-- The positions behind some characters of a string are its character boundaries. -/
theorem isValid_of_append {s : String} {before after : List Char} (h : s.toList = before ++ after) :
    String.Pos.Raw.IsValid s ⟨byteLength before⟩ := by
  refine String.Pos.Raw.isValid_iff_exists_append.mpr
    ⟨String.ofList before, String.ofList after, ?_, ?_⟩
  · rw [← String.ofList_append, ← h, String.ofList_toList]
  · rw [String.Pos.Raw.ext_iff, String.byteIdx_rawEndPos, utf8ByteSize_ofList]

/-- The character boundaries of a string are the places where its characters can be divided. -/
theorem isValid_iff_exists {s : String} {pos : Nat} :
    String.Pos.Raw.IsValid s ⟨pos⟩ ↔
      ∃ before after, s.toList = before ++ after ∧ pos = byteLength before := by
  constructor
  · intro valid
    obtain ⟨before, after, eq, at_end⟩ := String.Pos.Raw.isValid_iff_exists_append.mp valid
    refine ⟨before.toList, after.toList, by rw [eq, String.toList_append], ?_⟩
    rw [byteLength_toList]
    exact congrArg String.Pos.Raw.byteIdx at_end
  · rintro ⟨before, after, eq, rfl⟩
    exact isValid_of_append eq

theorem dropBytes?_cons {n : Nat} {c : Char} (le : c.utf8Size ≤ n) (cs : List Char) :
    dropBytes? n (c :: cs) = dropBytes? (n - c.utf8Size) cs := by
  cases n with
  | zero => exact absurd le (Nat.not_le_of_lt c.utf8Size_pos)
  | succ n => rw [dropBytes?, if_pos le]

theorem takeBytes?_cons {n : Nat} {c : Char} (le : c.utf8Size ≤ n) (cs : List Char) :
    takeBytes? n (c :: cs) = (takeBytes? (n - c.utf8Size) cs).map (c :: ·) := by
  cases n with
  | zero => exact absurd le (Nat.not_le_of_lt c.utf8Size_pos)
  | succ n => rw [takeBytes?, if_pos le]

theorem dropBytes?_append (xs ys : List Char) :
    dropBytes? (byteLength xs) (xs ++ ys) = some ys := by
  induction xs with
  | nil => cases ys <;> rfl
  | cons c cs ih =>
    rw [byteLength_cons, List.cons_append, dropBytes?_cons (Nat.le_add_right _ _),
      Nat.add_sub_cancel_left, ih]

theorem takeBytes?_append (xs ys : List Char) :
    takeBytes? (byteLength xs) (xs ++ ys) = some xs := by
  induction xs with
  | nil => cases ys <;> rfl
  | cons c cs ih =>
    rw [byteLength_cons, List.cons_append, takeBytes?_cons (Nat.le_add_right _ _),
      Nat.add_sub_cancel_left, ih, Option.map_some]

theorem sliceBytes?_append (before piece after : List Char) :
    sliceBytes? (before ++ (piece ++ after)) (byteLength before)
      (byteLength before + byteLength piece) = some piece := by
  rw [sliceBytes?, if_pos (Nat.le_add_right _ _), dropBytes?_append, Option.bind_some,
    Nat.add_sub_cancel_left, takeBytes?_append]

end Tincture
