/-!
Frames.

A dump is kept in frames in the format of a common compression program, without compressing
anything. A frame begins with the mark of the format and a descriptor and says twice how many bytes
it holds: in one byte, and in three bytes that also mark the last block of a frame. It holds fewer
than 256 bytes, so longer contents take several frames.
-/

namespace Tincture.Frame

/-- What every frame begins with: the mark of the format, and the descriptor of a frame whose size
is given in one byte. -/
def mark : List UInt8 := [0x28, 0xb5, 0x2f, 0xfd, 0x20]

/-- The greatest number of bytes in a frame. -/
def capacity : Nat := 255

/-- The three bytes, the least significant first, that announce the last block of so many bytes. -/
def blockMark (size : Nat) : List UInt8 :=
  [UInt8.ofNat ((size * 8 + 1) % 256), UInt8.ofNat ((size * 8 + 1) / 256), 0]

/-- One frame of at most `capacity` bytes. -/
def wrap (bytes : List UInt8) : List UInt8 :=
  mark ++ [UInt8.ofNat bytes.length] ++ blockMark bytes.length ++ bytes

/-- The content in frames, at least one. -/
def pack (bytes : List UInt8) : List UInt8 :=
  if bytes.length ≤ capacity then wrap bytes
  else wrap (bytes.take capacity) ++ pack (bytes.drop capacity)
termination_by bytes.length
decreasing_by simp [capacity] at *; omega

/-- The content of the frame at the front, and the bytes after it. -/
def unwrap? (bytes : List UInt8) : Option (List UInt8 × List UInt8) :=
  if bytes.take mark.length = mark then
    match bytes.drop mark.length with
    | size :: rest =>
      let n := size.toNat
      if rest.take 3 = blockMark n ∧ n ≤ (rest.drop 3).length then
        some ((rest.drop 3).take n, (rest.drop 3).drop n)
      else none
    | [] => none
  else none

/-- The contents of so many frames at most, joined, if nothing follows them. -/
def unpackAtMost? : Nat → List UInt8 → Option (List UInt8)
  | 0, _ => none
  | frames + 1, bytes => do
    let (content, rest) ← unwrap? bytes
    if rest.isEmpty then return content
    else return content ++ (← unpackAtMost? frames rest)

/-- The contents of all frames, joined; `none` when the bytes are no sequence of complete frames. -/
def unpack? (bytes : List UInt8) : Option (List UInt8) :=
  unpackAtMost? bytes.length bytes

/-! ### What is in frames -/

theorem unwrap?_wrap {bytes : List UInt8} (fits : bytes.length ≤ capacity) (rest : List UInt8) :
    unwrap? (wrap bytes ++ rest) = some (bytes, rest) := by
  have size : (UInt8.ofNat bytes.length).toNat = bytes.length :=
    UInt8.toNat_ofNat_of_lt' (by simp [UInt8.size, capacity] at fits ⊢; omega)
  have three : (blockMark bytes.length).length = 3 := rfl
  have parts : wrap bytes ++ rest =
      mark ++ (UInt8.ofNat bytes.length :: (blockMark bytes.length ++ (bytes ++ rest))) := by
    simp [wrap]
  have enough : bytes.length ≤ (bytes ++ rest).length := by simp
  rw [parts, unwrap?, if_pos List.take_left, List.drop_left]
  dsimp only
  rw [size, ← three, List.take_left, List.drop_left, if_pos ⟨rfl, enough⟩, List.take_left,
    List.drop_left]

theorem length_wrap_pos (bytes : List UInt8) : 0 < (wrap bytes).length := by
  simp [wrap, mark]

theorem pack_ne_nil (bytes : List UInt8) : pack bytes ≠ [] := by
  refine List.ne_nil_of_length_pos ?_
  rw [pack]
  split
  · exact length_wrap_pos bytes
  · rw [List.length_append]
    exact Nat.add_pos_left (length_wrap_pos _) _

/-- There are not more frames than bytes in them. -/
theorem unpackAtMost?_pack {bytes : List UInt8} {frames : Nat}
    (enough : (pack bytes).length ≤ frames) : unpackAtMost? frames (pack bytes) = some bytes := by
  induction bytes using pack.induct generalizing frames with
  | case1 bytes fits =>
    rw [pack, if_pos fits] at enough ⊢
    obtain ⟨frames, rfl⟩ : ∃ n, frames = n + 1 :=
      Nat.exists_eq_add_one.mpr (Nat.lt_of_lt_of_le (length_wrap_pos bytes) enough)
    have only := unwrap?_wrap fits []
    rw [List.append_nil] at only
    simp [unpackAtMost?, only]
  | case2 bytes long ih =>
    rw [pack, if_neg long] at enough ⊢
    have first : (bytes.take capacity).length ≤ capacity := List.length_take_le ..
    have some_bytes := length_wrap_pos (bytes.take capacity)
    rw [List.length_append] at enough
    obtain ⟨frames, rfl⟩ : ∃ n, frames = n + 1 := Nat.exists_eq_add_one.mpr (by omega)
    have more : (pack (bytes.drop capacity)).isEmpty = false := by simp [pack_ne_nil]
    rw [unpackAtMost?, unwrap?_wrap first]
    simp only [bind, pure, Option.bind_some, more, ih (show _ ≤ frames by omega)]
    simp [List.take_append_drop]

/-- Frames hold their content. -/
theorem unpack?_pack (bytes : List UInt8) : unpack? (pack bytes) = some bytes :=
  unpackAtMost?_pack (Nat.le_refl _)

end Tincture.Frame
