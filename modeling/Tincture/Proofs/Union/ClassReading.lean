import Mathlib.Data.Bool.AllAny
import Mathlib.Data.List.TakeWhile
import Tincture.Proofs.Text.Digit
import Tincture.Union.ClassFolding

/-!
Reading a bracket class that has been written.

`ClassReading.of` reads a class as the folding of cases does: whether it is inverted, its named
classes, and its ranges of code points. A class is written member by member, and each member that is
written is read as one member in front of any text (`Solid`); a code point is read as itself and
never as a dash, an inversion, a bracket or a named class (`faithful_encodeMember`). So what is
written is read back (`ClassReading.of_write`).
-/

namespace Tincture.Union

/-! ### Members in front of a text -/

/-- The characters are one member, whatever comes behind them. -/
def Solid (member : List Char) : Prop :=
  ∀ rest, members (member ++ rest) = member :: members rest

theorem members_nil : members [] = [] := by rw [members]

theorem members_flatten {ms : List (List Char)} (h : ∀ m ∈ ms, Solid m) :
    members ms.flatten = ms := by
  induction ms with
  | nil => exact members_nil
  | cons m ms ih =>
    obtain ⟨first, others⟩ := List.forall_mem_cons.mp h
    rw [List.flatten_cons, first, ih others]

theorem solid_literal {c : Char} (plain : c ≠ '\\') : Solid [c] := by
  intro rest
  rw [List.singleton_append, members]
  simp [plain]

theorem solid_escape {body : List Char}
    (length : ∀ rest, escapeLength (body ++ rest) = body.length + 1) : Solid ('\\' :: body) := by
  intro rest
  rw [List.cons_append, members]
  simp [length]

/-- An escaped character that begins no number. -/
theorem solid_escaped {c : Char} (letter : c ≠ 'u' ∧ c ≠ 'x') (digit : ¬ ('0' ≤ c ∧ c ≤ '7')) :
    Solid ['\\', c] := by
  refine solid_escape fun rest => ?_
  have low : ¬ ('0' ≤ c ∧ c ≤ '3') := fun h => digit ⟨h.1, Char.le_trans h.2 (by decide)⟩
  have high : ¬ ('4' ≤ c ∧ c ≤ '7') := fun h => digit ⟨Char.le_trans (by decide) h.1, h.2⟩
  simp [escapeLength, letter, low, high]

theorem isNamedClass_iff {member : List Char} :
    isNamedClass member = true ↔ ∃ c ∈ ['b', 'B', 'd', 'D', 's', 'S', 'w', 'W'],
      member = ['\\', c] := by
  unfold isNamedClass
  split
  · rename_i c
    simp
  · rename_i other
    simp only [Bool.false_eq_true, false_iff, not_exists, not_and]
    rintro c - rfl
    exact other c rfl

theorem solid_named {member : List Char} (named : isNamedClass member = true) : Solid member := by
  obtain ⟨c, mem, rfl⟩ := isNamedClass_iff.mp named
  have all : ∀ c ∈ ['b', 'B', 'd', 'D', 's', 'S', 'w', 'W'],
      (c ≠ 'u' ∧ c ≠ 'x') ∧ ¬ ('0' ≤ c ∧ c ≤ '7') := List.all_iff_forall_prop.mp (by decide)
  exact solid_escaped (all c mem).1 (all c mem).2

theorem leadingDigits_digits {radix width n : Nat} (two : 1 < radix) (small : radix ≤ 16)
    (positive : 0 < width) (lt : n < Nat.pow radix width) (rest : List Char) :
    leadingDigits radix width (digits radix width n ++ rest) = digits radix width n := by
  have length := length_digits two positive lt
  rw [leadingDigits, List.take_left' length]
  exact List.takeWhile_eq_self_iff.mpr (isDigitIn_of_mem_digits two small)

/-! ### Code points -/

/-- The characters are one member that stands for the code point, in front of any text, and for
nothing else in a class. -/
structure Faithful (n : Nat) (member : List Char) : Prop where
  solid : Solid member
  code : memberCode member = n
  not_named : isNamedClass member = false
  not_special : member ∉ [['-'], ['^'], ['['], [']']]

theorem faithful_literal {c : Char} (plain : c ∉ ['\\', '-', '[', ']', '^', '&']) :
    Faithful c.toNat [c] := by
  simp only [List.mem_cons, List.not_mem_nil, or_false, not_or] at plain
  obtain ⟨backslash, dash, opening, closing, caret, -⟩ := plain
  refine ⟨solid_literal backslash, ?_, ?_, ?_⟩
  · unfold memberCode
    split <;> simp_all
  · unfold isNamedClass
    split <;> simp_all
  · simp [dash, opening, closing, caret]

theorem faithful_escaped {c : Char} (special : c ∈ ['\\', '-', '[', ']', '^', '&']) :
    Faithful c.toNat ['\\', c] := by
  have all : ∀ c ∈ ['\\', '-', '[', ']', '^', '&'],
      ((c ≠ 'u' ∧ c ≠ 'x') ∧ ¬ ('0' ≤ c ∧ c ≤ '7')) ∧ memberCode ['\\', c] = c.toNat ∧
        isNamedClass ['\\', c] = false ∧ ['\\', c] ∉ [['-'], ['^'], ['['], [']']] :=
    List.all_iff_forall_prop.mp (by decide)
  obtain ⟨⟨letter, digit⟩, code, not_named, not_special⟩ := all c special
  exact ⟨solid_escaped letter digit, code, not_named, not_special⟩

/-- A number behind a backslash and its letter. -/
theorem faithful_numbered {mark : Char} {width n : Nat} (letter : mark = 'x' ∨ mark = 'u')
    (length : ∀ rest, escapeLength (mark :: (digits 16 width n ++ rest)) = width + 2)
    (positive : 0 < width) (lt : n < Nat.pow 16 width) :
    Faithful n ('\\' :: mark :: digits 16 width n) := by
  have size := length_digits (by decide) positive lt
  have read : (digits 16 width n).takeWhile (isDigitIn 16) = digits 16 width n :=
    List.takeWhile_eq_self_iff.mpr (isDigitIn_of_mem_digits (by decide) (by decide))
  have value : numeral 16 (digits 16 width n) = n := numeral_digits (by decide) (by decide) ..
  refine ⟨solid_escape fun rest => ?_, ?_, ?_, by simp⟩
  · rw [List.cons_append, length, List.length_cons, size]
  · rcases letter with rfl | rfl <;> simp [memberCode, read, value]
  · refine Bool.eq_false_iff.mpr fun named => ?_
    obtain ⟨c, -, eq⟩ := isNamedClass_iff.mp named
    have short := congrArg List.length eq
    simp [size] at short
    omega

/-- Every code point is written as a member that stands for it. -/
theorem faithful_encodeMember {n : Nat} (lt : n < 0x110000) : Faithful n (encodeMember n) := by
  unfold encodeMember
  by_cases control : n < 0x20
  · rw [if_pos control]
    have lt : n < Nat.pow 16 2 := show n < 256 by omega
    refine faithful_numbered (.inl rfl) (fun rest => ?_) (by decide) lt
    have two : (digits 16 2 n).length = 2 := length_digits (by decide) (by decide) lt
    simp [escapeLength, two, leadingDigits_digits (by decide) (by decide) (by decide) lt]
  · rw [if_neg control]
    by_cases valid : n.isValidChar
    · have code : (Char.ofNat n).toNat = n := by
        rw [Char.ofNat, dif_pos valid]
        rfl
      rw [if_pos valid]
      dsimp only
      split
      · rename_i special
        have faithful := faithful_escaped (List.contains_iff_mem.mp special)
        rwa [code] at faithful
      · rename_i plain
        have faithful := faithful_literal (mt List.contains_iff_mem.mpr plain)
        rwa [code] at faithful
    · -- What is no character is half of a pair, and so has four digits.
      have lt : n < Nat.pow 16 4 := by
        simp only [Nat.isValidChar] at valid
        change n < 0x10000
        omega
      rw [if_neg valid]
      refine faithful_numbered (.inr rfl) (fun rest => ?_) (by decide) lt
      have four : (digits 16 4 n).length = 4 := length_digits (by decide) (by decide) lt
      simp [escapeLength, four, leadingDigits_digits (by decide) (by decide) (by decide) lt]

/-! ### How large code points may be -/

theorem escapeLength_le (cs : List Char) : escapeLength cs ≤ 6 := by
  have two (radix : Nat) (cs : List Char) : (leadingDigits radix 2 cs).length ≤ 2 :=
    ((List.takeWhile_prefix _).length_le).trans (List.length_take_le 2 cs)
  have one (radix : Nat) (cs : List Char) : (leadingDigits radix 1 cs).length ≤ 1 :=
    ((List.takeWhile_prefix _).length_le).trans (List.length_take_le 1 cs)
  cases cs with
  | nil => decide
  | cons c rest =>
    have := two 8 rest
    have := one 8 rest
    simp only [escapeLength]
    split_ifs <;> omega

theorem length_le_of_mem_members {cs member : List Char} (h : member ∈ members cs) :
    member.length ≤ 6 := by
  fun_induction members cs with
  | case1 => cases h
  | case2 c rest extra ih =>
    rcases List.mem_cons.mp h with rfl | mem
    · have := escapeLength_le rest
      have : extra ≤ 5 := by
        dsimp only [extra]
        split <;> omega
      rw [List.length_cons, List.length_take]
      omega
    · exact ih mem

theorem numeral_takeWhile_lt {radix : Nat} (positive : 0 < radix) (small : radix ≤ 16)
    {cs : List Char} (short : cs.length ≤ 5) :
    numeral radix (cs.takeWhile (isDigitIn radix)) < 0x110000 := by
  have le : (cs.takeWhile (isDigitIn radix)).length ≤ 5 :=
    ((List.takeWhile_prefix _).length_le).trans short
  have digits := numeral_lt positive (cs.takeWhile (isDigitIn radix))
  have base : Nat.pow radix (cs.takeWhile (isDigitIn radix)).length ≤
      Nat.pow 16 (cs.takeWhile (isDigitIn radix)).length := Nat.pow_le_pow_left small _
  have power : Nat.pow 16 (cs.takeWhile (isDigitIn radix)).length ≤ Nat.pow 16 5 :=
    Nat.pow_le_pow_right (by decide) le
  have small : Nat.pow 16 5 < 0x110000 := by decide
  exact Nat.lt_trans (Nat.lt_of_lt_of_le digits (base.trans power)) small

theorem toNat_lt (c : Char) : c.toNat < 0x110000 := by
  have valid := c.valid
  simp only [UInt32.isValidChar, Nat.isValidChar] at valid
  change c.val.toNat < _
  omega

theorem memberCode_lt {cs member : List Char} (h : member ∈ members cs) :
    memberCode member < 0x110000 := by
  have short := length_le_of_mem_members h
  unfold memberCode
  split
  · decide
  · decide
  · rename_i c rest _
    rw [List.length_cons, List.length_cons] at short
    split
    any_goals decide
    any_goals exact numeral_takeWhile_lt (by decide) (by decide) (by omega)
    split
    · exact numeral_takeWhile_lt (by decide) (by decide) (by simpa using by omega)
    · exact toNat_lt _
  · exact toNat_lt _

/-! ### Reading and writing -/

/-- What a bracket class is read as. -/
structure ClassReading where
  inverted : Bool
  contents : Contents
deriving DecidableEq

/-- The members of a range that is written. -/
def rangeMembers (range : Nat × Nat) : List (List Char) :=
  encodeMember range.1 :: if range.1 < range.2 then [['-'], encodeMember range.2] else []

namespace ClassReading

/-- Reads a bracket class. -/
def of (text : List Char) : ClassReading :=
  let all := members (classBody text)
  let inverted := all.head? == some ['^']
  ⟨inverted, Contents.ofMembers (if inverted then all.tail else all)⟩

/-- The members of the class when it is written. -/
def written (c : ClassReading) : List (List Char) :=
  (if c.inverted then [['^']] else []) ++ (c.contents.named ++
    c.contents.ranges.flatMap rangeMembers)

/-- Writes the class. -/
def write (c : ClassReading) : List Char := '[' :: (c.written.flatten ++ [']'])

/-- The named classes are such, and the ranges are ranges of code points. -/
structure Proper (c : ClassReading) : Prop where
  named : ∀ m ∈ c.contents.named, isNamedClass m = true
  upright : ∀ r ∈ c.contents.ranges, r.1 ≤ r.2
  bounded : ∀ r ∈ c.contents.ranges, r.2 < 0x110000

end ClassReading

/-- What a list of members is read as has named classes and code points only. -/
theorem Contents.ofMembers_bounded {ms : List (List Char)} {bound : Nat}
    (h : ∀ m ∈ ms, memberCode m < bound) :
    (∀ m ∈ (ofMembers ms).named, isNamedClass m = true) ∧
      ∀ r ∈ (ofMembers ms).ranges, r.1 < bound ∧ r.2 < bound := by
  have added (c : Contents) (m : List Char) (own : memberCode m < bound)
      (h : (∀ m ∈ c.named, isNamedClass m = true) ∧ ∀ r ∈ c.ranges, r.1 < bound ∧ r.2 < bound) :
      (∀ n ∈ (c.add m).named, isNamedClass n = true) ∧
        ∀ r ∈ (c.add m).ranges, r.1 < bound ∧ r.2 < bound := by
    unfold add
    split
    · rename_i named
      exact ⟨List.forall_mem_cons.mpr ⟨named, h.1⟩, h.2⟩
    · exact ⟨h.1, List.forall_mem_cons.mpr ⟨⟨own, own⟩, h.2⟩⟩
  fun_induction ofMembers ms with
  | case1 => simp
  | case2 m dash last rest range c ih =>
    obtain ⟨named, ranges⟩ := ih fun n mem => h n (by simp [mem])
    exact ⟨named, List.forall_mem_cons.mpr ⟨⟨h m (by simp), h last (by simp)⟩, ranges⟩⟩
  | case3 m dash last rest single ih =>
    exact added _ m (h m List.mem_cons_self) (ih fun n mem => h n (List.mem_cons_of_mem m mem))
  | case4 m rest short ih =>
    exact added _ m (h m List.mem_cons_self) (ih fun n mem => h n (List.mem_cons_of_mem m mem))

/-- A member is read on its own if no dash comes behind it, or if it is a named class. -/
theorem Contents.ofMembers_cons {m : List Char} {ms : List (List Char)}
    (single : ms.head? ≠ some ['-'] ∨ isNamedClass m = true) :
    ofMembers (m :: ms) = (ofMembers ms).add m := by
  match ms with
  | [] => rfl
  | [other] => rfl
  | dash :: last :: rest =>
    rw [ofMembers, if_neg]
    rintro ⟨rfl, not_named⟩
    rcases single with none | named
    · exact none rfl
    · rw [named] at not_named
      cases not_named

/-- A dash behind a member that is no named class makes a range. -/
theorem Contents.ofMembers_range {m : List Char} (single : isNamedClass m = false)
    (last : List Char) (rest : List (List Char)) :
    ofMembers (m :: ['-'] :: last :: rest) =
      { ofMembers rest with
        ranges := (memberCode m, memberCode last) :: (ofMembers rest).ranges } := by
  rw [ofMembers, if_pos ⟨rfl, by rw [single]; rfl⟩]

namespace ClassReading

theorem rangeMembers_head (ranges : List (Nat × Nat)) :
    ∀ m ∈ (ranges.flatMap rangeMembers).head?, ∃ r ∈ ranges, m = encodeMember r.1 := by
  intro m first
  cases ranges with
  | nil => cases first
  | cons r rest =>
    cases first
    exact ⟨r, List.mem_cons_self, rfl⟩

variable {c : ClassReading}

theorem Proper.first_bounded (h : c.Proper) {r : Nat × Nat} (mem : r ∈ c.contents.ranges) :
    r.1 < 0x110000 :=
  Nat.lt_of_le_of_lt (h.upright r mem) (h.bounded r mem)

theorem ofMembers_ranges {ranges : List (Nat × Nat)} (upright : ∀ r ∈ ranges, r.1 ≤ r.2)
    (bounded : ∀ r ∈ ranges, r.2 < 0x110000) :
    Contents.ofMembers (ranges.flatMap rangeMembers) = ⟨[], ranges⟩ := by
  induction ranges with
  | nil => rfl
  | cons r rest ih =>
    obtain ⟨le, upright⟩ := List.forall_mem_cons.mp upright
    obtain ⟨lt, bounded⟩ := List.forall_mem_cons.mp bounded
    have first := faithful_encodeMember (Nat.lt_of_le_of_lt le lt)
    rw [List.flatMap_cons, rangeMembers]
    split
    · simp only [List.cons_append, List.nil_append]
      rw [Contents.ofMembers_range first.not_named, ih upright bounded, first.code,
        (faithful_encodeMember lt).code]
    · -- The member that comes next begins another range, so it is no dash.
      have single : (rest.flatMap rangeMembers).head? ≠ some ['-'] := by
        intro dash
        obtain ⟨s, mem, eq⟩ := rangeMembers_head rest _ dash
        have small := Nat.lt_of_le_of_lt (upright s mem) (bounded s mem)
        exact (faithful_encodeMember small).not_special (by simp [← eq])
      have same : (r.1, r.1) = r := Prod.ext rfl (by dsimp only; omega)
      rw [List.cons_append, List.nil_append, Contents.ofMembers_cons (.inl single),
        ih upright bounded, Contents.add, first.not_named, first.code, same]
      rfl

theorem Proper.ofMembers (h : c.Proper) :
    Contents.ofMembers (c.contents.named ++ c.contents.ranges.flatMap rangeMembers) =
      c.contents := by
  obtain ⟨inverted, named, ranges⟩ := c
  have all := h.named
  dsimp only at all ⊢
  induction named with
  | nil => exact ofMembers_ranges h.upright h.bounded
  | cons m named ih =>
    obtain ⟨own, others⟩ := List.forall_mem_cons.mp all
    rw [List.cons_append, Contents.ofMembers_cons (.inr own),
      ih ⟨others, h.upright, h.bounded⟩ others,
      Contents.add, own]
    rfl

/-- Each member that is written is read as one. -/
theorem Proper.solid (h : c.Proper) : ∀ m ∈ c.written, Solid m := by
  intro m mem
  rcases List.mem_append.mp mem with caret | mem
  · have eq : m = ['^'] := by
      split at caret
      · exact List.mem_singleton.mp caret
      · cases caret
    rw [eq]
    exact solid_literal (by decide)
  · rcases List.mem_append.mp mem with named | ranged
    · exact solid_named (h.named m named)
    · obtain ⟨r, own, part⟩ := List.mem_flatMap.mp ranged
      rcases List.mem_cons.mp part with rfl | part
      · exact (faithful_encodeMember (h.first_bounded own)).solid
      · split at part
        · rcases List.mem_cons.mp part with rfl | part
          · exact solid_literal (by decide)
          · rw [List.mem_singleton.mp part]
            exact (faithful_encodeMember (h.bounded r own)).solid
        · cases part

/-- The class begins with a caret only if it is inverted. -/
theorem Proper.caret_iff (h : c.Proper) : c.written.head? = some ['^'] ↔ c.inverted = true := by
  unfold written
  cases c.inverted with
  | true => simp
  | false =>
    simp only [Bool.false_eq_true, if_false, List.nil_append, iff_false]
    intro first
    rw [List.head?_append, Option.or_eq_some_iff] at first
    rcases first with named | ⟨-, ranged⟩
    · have own := h.named _ (List.mem_of_mem_head? named)
      revert own
      decide
    · obtain ⟨r, mem, eq⟩ := rangeMembers_head _ _ ranged
      exact (faithful_encodeMember (h.first_bounded mem)).not_special (by simp [← eq])

/-- What is written is read back. -/
theorem Proper.of_write (h : c.Proper) : of c.write = c := by
  have body : classBody c.write = c.written.flatten := by
    simp [write, classBody, List.getLast?_append]
  have inverted : (c.written.head? == some ['^']) = c.inverted :=
    Bool.eq_iff_iff.mpr (beq_iff_eq.trans h.caret_iff)
  have rest : (if c.inverted = true then c.written.tail else c.written) =
      c.contents.named ++ c.contents.ranges.flatMap rangeMembers := by
    unfold written
    cases c.inverted <;> rfl
  simp only [of, body, members_flatten h.solid, inverted, rest, h.ofMembers]

end ClassReading

end Tincture.Union
