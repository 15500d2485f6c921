/-!
Byte codecs.

A codec writes values as bytes and reads them back from the front of a list of bytes, whatever
follows. Larger codecs are put together from smaller ones; each value says where it ends, so nothing
stands between them.
-/

namespace Tincture

/-- Writes values of a type as bytes, and reads them back with the bytes that follow. -/
structure Codec (α : Type) where
  encode : α → List UInt8
  decode? : List UInt8 → Option (α × List UInt8)
  /-- What is written is read back, and what follows is left. -/
  decode?_encode : ∀ a rest, decode? (encode a ++ rest) = some (a, rest)

namespace Codec

variable {α β : Type}

/-! ### Numbers -/

/-- The bytes of a number: seven bits in each, the least significant first, and a mark in all but
the last. -/
def natBytes (n : Nat) : List UInt8 :=
  if n < 128 then [UInt8.ofNat n] else UInt8.ofNat (n % 128 + 128) :: natBytes (n / 128)

/-- Reads the bytes of a number. -/
def natOf? : List UInt8 → Option (Nat × List UInt8)
  | [] => none
  | b :: rest =>
    if b.toNat < 128 then some (b.toNat, rest)
    else (natOf? rest).map fun (n, rest) => (n * 128 + (b.toNat - 128), rest)

theorem natOf?_natBytes (n : Nat) (rest : List UInt8) :
    natOf? (natBytes n ++ rest) = some (n, rest) := by
  induction n using natBytes.induct with
  | case1 n small =>
    have byte : (UInt8.ofNat n).toNat = n := UInt8.toNat_ofNat_of_lt' (by simp [UInt8.size]; omega)
    rw [natBytes, if_pos small, List.singleton_append, natOf?, byte, if_pos small]
  | case2 n large ih =>
    have byte : (UInt8.ofNat (n % 128 + 128)).toNat = n % 128 + 128 :=
      UInt8.toNat_ofNat_of_lt' (by simp [UInt8.size]; omega)
    have marked : ¬n % 128 + 128 < 128 := by omega
    have value : n / 128 * 128 + (n % 128 + 128 - 128) = n := by omega
    rw [natBytes, if_neg large, List.cons_append, natOf?, byte, if_neg marked, ih, Option.map_some]
    dsimp only
    rw [value]

/-- Numbers. -/
def nat : Codec Nat := ⟨natBytes, natOf?, natOf?_natBytes⟩

/-! ### Codecs put together -/

/-- Values that stand for those of another codec; not every one of the latter needs to stand for
one. -/
def via (c : Codec β) (f : α → β) (g : β → Option α) (back : ∀ a, g (f a) = some a) : Codec α where
  encode a := c.encode (f a)
  decode? bytes := do
    let (b, rest) ← c.decode? bytes
    return (← g b, rest)
  decode?_encode a rest := by
    simp only [c.decode?_encode, back, bind, pure, Option.bind_some]

/-- Two values one after the other. -/
def pair (c : Codec α) (d : Codec β) : Codec (α × β) where
  encode p := c.encode p.1 ++ d.encode p.2
  decode? bytes := do
    let (a, rest) ← c.decode? bytes
    let (b, rest) ← d.decode? rest
    return ((a, b), rest)
  decode?_encode p rest := by
    simp only [List.append_assoc, c.decode?_encode, d.decode?_encode, bind, pure, Option.bind_some]

/-- Reads so many values. -/
def decodeMany? (c : Codec α) : Nat → List UInt8 → Option (List α × List UInt8)
  | 0, bytes => some ([], bytes)
  | n + 1, bytes => do
    let (a, rest) ← c.decode? bytes
    let (as, rest) ← decodeMany? c n rest
    return (a :: as, rest)

theorem decodeMany?_flatMap (c : Codec α) (as : List α) (rest : List UInt8) :
    c.decodeMany? as.length (as.flatMap c.encode ++ rest) = some (as, rest) := by
  induction as with
  | nil => rfl
  | cons a as ih =>
    simp only [List.length_cons, List.flatMap_cons, List.append_assoc, decodeMany?,
      c.decode?_encode, ih, bind, pure, Option.bind_some]

/-- Lists: how many values, and then the values. -/
def list (c : Codec α) : Codec (List α) where
  encode as := natBytes as.length ++ as.flatMap c.encode
  decode? bytes := do
    let (n, rest) ← natOf? bytes
    decodeMany? c n rest
  decode?_encode as rest := by
    simp only [List.append_assoc, natOf?_natBytes, bind, Option.bind_some]
    exact c.decodeMany?_flatMap as rest

/-- Values that may be missing: a list of at most one. -/
def option (c : Codec α) : Codec (Option α) :=
  c.list.via Option.toList
    (fun as =>
      match as with
      | [] => some none
      | [a] => some (some a)
      | _ => none)
    fun a => by cases a <;> rfl

/-! ### Codecs of plain values -/

/-- Truth values. -/
def bool : Codec Bool :=
  nat.via (fun b => if b then 1 else 0)
    (fun n => if n = 0 then some false else if n = 1 then some true else none)
    fun b => by cases b <;> rfl

/-- Characters. -/
def char : Codec Char :=
  nat.via Char.toNat (fun n => if n.isValidChar then some (Char.ofNat n) else none) fun c => by
    have valid : c.toNat.isValidChar := c.valid
    rw [if_pos valid, Char.ofNat_toNat]

/-- Texts. -/
def text : Codec String :=
  char.list.via String.toList (fun cs => some (String.ofList cs)) fun s => by
    rw [String.ofList_toList]

end Codec

end Tincture
