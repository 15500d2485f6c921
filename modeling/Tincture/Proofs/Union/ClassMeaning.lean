import Tincture.Proofs.Regex.AsciiText
import Tincture.Proofs.Union.TameClass

/-!
What a bracket class means to the engine.

A class is opened, its members are read, and it is closed. If its members are tame, the engine
finds what they hold, or the characters they do not hold if the class is inverted (`read_class`);
and so it does with the class that is written with both cases of its letters (`read_folded`), whose
members are without special cases (`tame_written`). In ASCII text, ignoring case in the one is
therefore the same as minding it in the other (`foldClass_alike`).
-/

namespace Tincture.Union

open Regex

/-! ### Whole classes -/

/-- What the engine makes of a class. -/
structure Meant (c : ClassText) (inverted : Bool) (contents : Contents) : Prop where
  negated : c.negated = inverted
  sorted : c.members.set.Sorted
  bytes : ∀ k, c.members.bytes.contains k = false
  contains_iff : ∀ n, c.members.set.contains n = true ↔ contents.Holds n

/-- The members of a class, with the caret of an inverted one. -/
def withCaret (inverted : Bool) (ms : List (List Char)) : List (List Char) :=
  (if inverted then [['^']] else []) ++ ms

/-- What opens a class is the caret of an inverted one. -/
theorem opened_class {inverted : Bool} {ms : List (List Char)} (tame : Tame ms) (filled : ms ≠ [])
    (caret : inverted = false → ms.head? ≠ some ['^']) (more : List Char) :
    ∃ used, Bracket.opened ((withCaret inverted ms).flatten ++ more) =
        .ok ({ negated := inverted }, used) ∧
      ((withCaret inverted ms).flatten ++ more).drop used = ms.flatten ++ more := by
  obtain ⟨m, rest, rfl⟩ := List.exists_cons_of_ne_nil filled
  obtain ⟨d, tail, rfl, closing, kind⟩ := exists_first tame.orderly
  cases inverted with
  | true => exact ⟨1, by simp [withCaret, Bracket.opened, Bracket.openedAfter, closing], rfl⟩
  | false =>
    have ordinary : d ≠ '^' := by
      rintro rfl
      rcases kind with escape | single
      · exact absurd escape (by decide)
      · exact caret rfl (by rw [single]; rfl)
    exact ⟨0, by simp [withCaret, Bracket.opened, Bracket.openedAfter, closing, ordinary], rfl⟩

theorem read_class {inverted : Bool} {ms : List (List Char)} (tame : Tame ms) (filled : ms ≠ [])
    (caret : inverted = false → ms.head? ≠ some ['^']) :
    ∃ c, Meant c inverted (Contents.ofMembers ms) ∧
      ∀ more, ClassText.read ((withCaret inverted ms).flatten ++ ']' :: more) =
        .ok (c, (withCaret inverted ms).flatten.length + 1) := by
  have fine : Bracket.Fine { negated := inverted } :=
    ⟨rfl, .nil, fun _ => CodeSet.contains_empty _, nofun, nofun⟩
  obtain ⟨b, last, negated, read, holds⟩ := reads_members tame fine fun _ => .inl nofun
  have closed : b.close = ⟨b.settle.members, b.negated⟩ := by
    simp [Bracket.close, last.before]
  refine ⟨b.close, ⟨?_, ?_, ?_, fun n => ?_⟩, fun more => ?_⟩
  · rw [closed, negated]
  · rw [closed]
    exact last.settle.1
  · rw [closed]
    exact last.settle.2
  · rw [closed]
    refine (holds n).trans (or_iff_right ?_)
    simp [Bracket.Holds, Bracket.settle]
  · obtain ⟨used, opened, left⟩ := opened_class tame filled caret (']' :: more)
    simp only [ClassText.read, opened, left, read, bind, Except.bind, pure, Except.pure,
      List.length_append, List.length_cons]
    congr 2
    omega

/-! ### Folded classes -/

theorem isOrderly_cons {m : List Char} {ms : List (List Char)} (tame : isTameMember m = true)
    (dash : ms.head? ≠ some ['-']) (orderly : isOrderly ms = true) :
    isOrderly (m :: ms) = true := by
  match ms with
  | [] => simp [isOrderly, tame]
  | [_] => simpa [isOrderly, tame] using orderly
  | next :: last :: rest =>
    have ne : next ≠ ['-'] := fun eq => dash (congrArg some eq)
    rw [isOrderly, if_neg fun range => ne range.1, tame, orderly]
    simp [ne]

theorem isCodeMember_encodeMember {n : Nat} (lt : n < 128) :
    isCodeMember (encodeMember n) = true := by
  have all : ∀ n < 128, isCodeMember (encodeMember n) = true := by decide +kernel
  exact all n lt

theorem orderly_ranges {ranges : List (Nat × Nat)} (upright : ∀ r ∈ ranges, r.1 ≤ r.2)
    (small : ∀ r ∈ ranges, r.2 < 128) :
    isOrderly (ranges.flatMap rangeMembers) = true ∧
      (ranges.flatMap rangeMembers).head? ≠ some ['-'] := by
  induction ranges with
  | nil => exact ⟨rfl, by simp⟩
  | cons r ranges ih =>
    obtain ⟨le, upright⟩ := List.forall_mem_cons.mp upright
    obtain ⟨lt, small⟩ := List.forall_mem_cons.mp small
    obtain ⟨orderly, no_dash⟩ := ih upright small
    have first := faithful_encodeMember (n := r.1) (by omega)
    have last := faithful_encodeMember (n := r.2) (by omega)
    have code := isCodeMember_encodeMember (n := r.1) (by omega)
    rw [List.flatMap_cons, rangeMembers]
    have leading (rest : List (List Char)) : (encodeMember r.1 :: rest).head? ≠ some ['-'] := by
      intro dash
      exact first.not_special (by simp [Option.some.inj dash])
    refine ⟨?_, leading _⟩
    split
    · simp only [List.cons_append, List.nil_append]
      rw [isOrderly, if_pos ⟨rfl, by rw [first.not_named]; rfl⟩, first.code, last.code, code,
        isCodeMember_encodeMember lt, orderly]
      simpa using le
    · exact isOrderly_cons (by rw [isTameMember, code, Bool.true_or]) no_dash orderly

/-- A class of named classes and ranges is written without special cases. -/
theorem tame_written {named : List (List Char)} {ranges : List (Nat × Nat)}
    (known : ∀ m ∈ named, isNamedClass m = true ∧ m ≠ ['\\', 'B'])
    (upright : ∀ r ∈ ranges, r.1 ≤ r.2) (small : ∀ r ∈ ranges, r.2 < 128) :
    Tame (named ++ ranges.flatMap rangeMembers) := by
  obtain ⟨orderly, no_dash⟩ := orderly_ranges upright small
  -- The ampersand is written as an escape.
  have escaped : ∀ m ∈ named ++ ranges.flatMap rangeMembers, m ≠ ['&'] := by
    have all : ∀ n < 128, encodeMember n ≠ ['&'] := by decide +kernel
    intro m mem
    rcases List.mem_append.mp mem with own | part
    · rintro rfl
      exact absurd (known _ own).1 (by decide)
    · obtain ⟨r, own, part⟩ := List.mem_flatMap.mp part
      have le := upright r own
      have lt := small r own
      rcases List.mem_cons.mp part with rfl | part
      · exact all _ (by omega)
      · split at part
        · rcases List.mem_cons.mp part with rfl | part
          · decide
          · rw [List.mem_singleton.mp part]
            exact all _ lt
        · cases part
  have apart : (named ++ ranges.flatMap rangeMembers).Pairwise Apart :=
    List.pairwise_of_forall_mem_list fun m mem _ _ => fun both => escaped m mem both.1
  refine ⟨?_, apart.isChain⟩
  clear escaped apart
  induction named with
  | nil => exact orderly
  | cons m named ih =>
    obtain ⟨⟨own, ne⟩, others⟩ := List.forall_mem_cons.mp known
    refine isOrderly_cons ?_ ?_ (ih others)
    · simp [isTameMember, own, ne]
    · change (named ++ ranges.flatMap rangeMembers).head? ≠ some ['-']
      intro first
      rw [List.head?_append, Option.or_eq_some_iff] at first
      rcases first with head | ⟨-, head⟩
      · exact absurd (others _ (List.mem_of_mem_head? head)).1 (by decide)
      · exact no_dash head

/-! ### What folding a class does -/

/-- What tame members are read as. -/
theorem Contents.of_orderly {ms : List (List Char)} (orderly : isOrderly ms = true) :
    (∀ m ∈ (ofMembers ms).named, isNamedClass m = true ∧ m ≠ ['\\', 'B']) ∧
      ∀ r ∈ (ofMembers ms).ranges, r.1 ≤ r.2 ∧ r.2 < 128 := by
  have added {c : Contents} {m : List Char} (tame : isTameMember m = true)
      (h : (∀ m ∈ c.named, isNamedClass m = true ∧ m ≠ ['\\', 'B']) ∧
        ∀ r ∈ c.ranges, r.1 ≤ r.2 ∧ r.2 < 128) :
      (∀ n ∈ (c.add m).named, isNamedClass n = true ∧ n ≠ ['\\', 'B']) ∧
        ∀ r ∈ (c.add m).ranges, r.1 ≤ r.2 ∧ r.2 < 128 := by
    rw [isTameMember, Bool.or_eq_true, Bool.and_eq_true, bne_iff_ne] at tame
    unfold add
    split
    · rename_i named
      refine ⟨List.forall_mem_cons.mpr ⟨⟨named, ?_⟩, h.1⟩, h.2⟩
      rintro rfl
      rcases tame with code | ⟨-, other⟩
      · revert code
        decide
      · exact other rfl
    · rename_i unnamed
      have code := tame.resolve_right fun own => unnamed own.1
      exact ⟨h.1, List.forall_mem_cons.mpr
        ⟨⟨Nat.le_refl _, memberCode_lt_of_isCodeMember code⟩, h.2⟩⟩
  induction ms using ofMembers.induct with
  | case1 => simp [ofMembers]
  | case2 m dash last rest range ih =>
    rw [isOrderly, if_pos range] at orderly
    simp only [Bool.and_eq_true, decide_eq_true_eq] at orderly
    obtain ⟨⟨⟨-, code⟩, upright⟩, orderly⟩ := orderly
    rw [ofMembers, if_pos range]
    exact ⟨(ih orderly).1, List.forall_mem_cons.mpr
      ⟨⟨upright, memberCode_lt_of_isCodeMember code⟩, (ih orderly).2⟩⟩
  | case3 m dash last rest single ih =>
    have tame := isTameMember_of_orderly orderly
    rw [isOrderly, if_neg single] at orderly
    simp only [Bool.and_eq_true] at orderly
    rw [ofMembers, if_neg single]
    exact added tame (ih orderly.2)
  | case4 m rest short ih =>
    have tame := isTameMember_of_orderly orderly
    rw [isOrderly] at orderly
    · rw [Bool.and_eq_true] at orderly
      rw [ofMembers]
      · exact added tame (ih orderly.2)
      · exact short
    · exact short

theorem Contents.filled_of_ne_nil {ms : List (List Char)} (filled : ms ≠ []) :
    (ofMembers ms).named ≠ [] ∨ (ofMembers ms).ranges ≠ [] := by
  have added (c : Contents) (m : List Char) : (c.add m).named ≠ [] ∨ (c.add m).ranges ≠ [] := by
    unfold add
    split <;> simp
  match ms with
  | [m] | [m, _] => exact added _ m
  | m :: dash :: last :: rest =>
    rw [ofMembers]
    split
    · simp
    · exact added _ m

theorem fold_eq_iff {m n : Nat} (lt : m < 128) (lt' : n < 128) :
    fold m = fold n ↔ m = n ∨ m = swapCase n := by
  constructor
  · intro same
    have cases := fold_eq_cases lt lt' same
    unfold swapCase
    split_ifs <;> omega
  · rw [fold_of_lt lt, fold_of_lt lt', List.singleton_inj]
    unfold swapCase
    intro same
    split_ifs at same ⊢ <;> omega

section Doubling

variable {c c' : ClassText} {inverted : Bool} {before after : Contents}

/-- With both cases of its ranges, a class holds what folds like its members. -/
theorem doubled_of_meant (meant : Meant c inverted before) (meant' : Meant c' inverted after)
    (known : ∀ m ∈ before.named, isNamedClass m = true ∧ m ≠ ['\\', 'B'])
    (bounded : ∀ r ∈ before.ranges, r.1 ≤ r.2 ∧ r.2 < 128)
    (filled : before.named ≠ [] ∨ before.ranges ≠ []) (named : after.named = before.named)
    (ranges : ∀ n, n ∈ covered after.ranges ↔
      n ∈ covered before.ranges ∨ swapCase n ∈ covered before.ranges) :
    Doubled c.members.set c'.members.set := by
  have small {n : Nat} (mem : n ∈ covered before.ranges) : n < 128 := by
    obtain ⟨r, own, -, le⟩ := mem
    exact Nat.lt_of_le_of_lt le (bounded r own).2
  have caseless {m : List Char} (mem : m ∈ before.named) : (namedSet m).Caseless :=
    caseless_namedSet (known m mem).1 (known m mem).2
  refine ⟨meant.sorted, meant'.sorted, fun k stray holds => ?_, fun n lt => ?_, ?_⟩
  · rcases (meant.contains_iff k).mp holds with range | ⟨m, mem, holds⟩
    · have beyond : ∀ m ∈ Fold.strays, 128 ≤ m := by decide
      exact absurd (small range) (Nat.not_lt_of_le (beyond k stray))
    · intro j low high
      exact (meant.contains_iff j).mpr
        (.inr ⟨m, mem, (caseless mem).letters k stray holds j low high⟩)
  · rw [meant'.contains_iff, Contents.Holds, named, ranges]
    constructor
    · rintro ((own | other) | ⟨m, mem, holds⟩)
      · exact ⟨n, lt, (meant.contains_iff n).mpr (.inl own), rfl⟩
      · exact ⟨swapCase n, small other, (meant.contains_iff _).mpr (.inl other),
          (fold_eq_iff (small other) lt).mpr (.inr rfl)⟩
      · exact ⟨n, lt, (meant.contains_iff n).mpr (.inr ⟨m, mem, holds⟩), rfl⟩
    · rintro ⟨k, lt', holds, same⟩
      rcases (meant.contains_iff k).mp holds with range | ⟨m, mem, holds⟩
      · rcases (fold_eq_iff lt' lt).mp same with rfl | rfl
        · exact .inl (.inl range)
        · exact .inl (.inr range)
      · exact .inr ⟨m, mem, by rwa [← (caseless mem).even k lt' n lt same]⟩
  · rcases filled with filled | filled
    · obtain ⟨m, rest, eq⟩ := List.exists_cons_of_ne_nil filled
      have mem : m ∈ before.named := by simp [eq]
      obtain ⟨n, lt, holds⟩ := (caseless mem).filled
      exact ⟨n, lt, (meant.contains_iff n).mpr (.inr ⟨m, mem, holds⟩)⟩
    · obtain ⟨r, rest, eq⟩ := List.exists_cons_of_ne_nil filled
      have mem : r ∈ before.ranges := by simp [eq]
      have range : r.1 ∈ covered before.ranges := ⟨r, mem, Nat.le_refl _, (bounded r mem).1⟩
      exact ⟨r.1, small range, (meant.contains_iff r.1).mpr (.inl range)⟩

/-- The named classes that have characters beyond ASCII which fold to ASCII. -/
def broadClasses : List (List Char) := [['\\', 'w'], ['\\', 'D'], ['\\', 'S']]

/-- Only a class that names one of them has such a character. -/
theorem exists_broad (meant : Meant c inverted before)
    (known : ∀ m ∈ before.named, isNamedClass m = true ∧ m ≠ ['\\', 'B'])
    (bounded : ∀ r ∈ before.ranges, r.1 ≤ r.2 ∧ r.2 < 128) {k : Nat} (stray : k ∈ Fold.strays)
    (holds : c.members.set.contains k = true) : ∃ m ∈ before.named, m ∈ broadClasses := by
  have beyond : ∀ m ∈ Fold.strays, 128 ≤ m := by decide
  rcases (meant.contains_iff k).mp holds with ⟨r, own, -, le⟩ | ⟨m, mem, holds⟩
  · have := beyond k stray
    have := (bounded r own).2
    omega
  · refine ⟨m, mem, ?_⟩
    obtain ⟨letter, own, rfl⟩ := isNamedClass_iff.mp (known m mem).1
    have ne : letter ≠ 'b' := by
      rintro rfl
      rw [namedSet, CodeSet.contains_single, decide_eq_true_iff] at holds
      have := beyond k stray
      omega
    rw [namedSet.eq_2 letter fun eq => ne eq] at holds
    cases found : Class.ofLetter? letter with
    | none => simp [found] at holds
    | some s =>
      rw [found, Option.getD_some] at holds
      have wide := Class.wide_of_stray found stray holds
      simp only [List.mem_cons, List.not_mem_nil, or_false] at wide
      rcases wide with rfl | rfl | rfl <;> decide

end Doubling

/-- The members of a class, without the caret of an inverted one. -/
def classMembers (text : List Char) : List (List Char) :=
  let all := members (classBody text)
  if all.head? == some ['^'] then all.tail else all

/-- Whether folding the case of a class is the same to the engine as ignoring case in it. -/
def isTameClass (text : List Char) : Bool :=
  decide (Tame (classMembers text)) && !(classMembers text).isEmpty

theorem isTameClass_iff {text : List Char} :
    isTameClass text = true ↔ Tame (classMembers text) ∧ classMembers text ≠ [] := by
  simp [isTameClass]

/-- Whether a class stands for characters beyond ASCII that fold to ASCII. -/
def isBroadClass (text : List Char) : Bool :=
  !(ClassReading.of text).inverted &&
    (ClassReading.of text).contents.named.any broadClasses.contains

theorem flatten_members (cs : List Char) : (members cs).flatten = cs := by
  fun_induction members cs with
  | case1 => rfl
  | case2 c rest extra ih =>
    rw [List.flatten_cons, ih, List.cons_append, List.take_append_drop]

/-- The reading of a class, folded, covers both cases of what it covers. -/
theorem mem_covered_folded {c : ClassReading} (upright : ∀ r ∈ c.contents.ranges, r.1 ≤ r.2)
    (n : Nat) : n ∈ covered c.folded.contents.ranges ↔
      n ∈ covered c.contents.ranges ∨ swapCase n ∈ covered c.contents.ranges := by
  rw [ClassReading.folded, covered_consolidate (upright_bothCases upright), mem_covered_bothCases]

theorem classReading_eq (text : List Char) : ClassReading.of text =
    ⟨(members (classBody text)).head? == some ['^'], Contents.ofMembers (classMembers text)⟩ := rfl

theorem flatten_classMembers (text : List Char) :
    (withCaret (ClassReading.of text).inverted (classMembers text)).flatten = classBody text := by
  rw [classReading_eq]
  dsimp only
  conv_rhs => rw [← flatten_members (classBody text)]
  unfold classMembers withCaret
  cases members (classBody text) with
  | nil => rfl
  | cons m ms =>
    by_cases caret : m = ['^']
    · simp [caret]
    · simp [caret]

/-- A tame class is read by the engine as it is when cases are folded. -/
theorem read_tameClass {text : List Char} (tame : isTameClass text = true) :
    ∃ c, Meant c (ClassReading.of text).inverted (ClassReading.of text).contents ∧
      ∀ more, ClassText.read (classBody text ++ ']' :: more) =
        .ok (c, (classBody text).length + 1) := by
  obtain ⟨tame, filled⟩ := isTameClass_iff.mp tame
  have caret : (ClassReading.of text).inverted = false →
      (classMembers text).head? ≠ some ['^'] := by
    intro upright
    rw [classReading_eq, beq_eq_false_iff_ne] at upright
    simp [classMembers, upright]
  have read := read_class tame filled caret
  rwa [flatten_classMembers] at read

/-- With both cases of its letters, it is read so again. -/
theorem read_folded {text : List Char} (tame : isTameClass text = true) :
    ∃ c, Meant c (ClassReading.of text).inverted (ClassReading.of text).folded.contents ∧
      ∀ more, ClassText.read ((foldClass text).tail ++ more) =
        .ok (c, (foldClass text).tail.length) := by
  obtain ⟨tame, filled⟩ := isTameClass_iff.mp tame
  obtain ⟨known, bounded⟩ := Contents.of_orderly tame.orderly
  have upright : ∀ r ∈ (ClassReading.of text).contents.ranges, r.1 ≤ r.2 :=
    fun r mem => (bounded r mem).1
  have proper := ClassReading.proper_folded upright
  have covers := mem_covered_folded upright
  generalize folding : (ClassReading.of text).folded = after at proper covers ⊢
  have inverted : after.inverted = (ClassReading.of text).inverted := by rw [← folding]; rfl
  have named : after.contents.named = (ClassReading.of text).contents.named := by
    rw [← folding]
    rfl
  have small : ∀ r ∈ after.contents.ranges, r.2 < 128 := by
    intro r mem
    have last : r.2 ∈ covered after.contents.ranges :=
      ⟨r, mem, proper.upright r mem, Nat.le_refl _⟩
    have swapped : swapCase r.2 < 128 → r.2 < 128 := by
      unfold swapCase
      split_ifs <;> omega
    rcases (covers r.2).mp last with ⟨s, own, -, le⟩ | ⟨s, own, -, le⟩
    · exact Nat.lt_of_le_of_lt le (bounded s own).2
    · exact swapped (Nat.lt_of_le_of_lt le (bounded s own).2)
  have tame := tame_written (named ▸ known) proper.upright small
  have something : after.contents.named ++ after.contents.ranges.flatMap rangeMembers ≠ [] := by
    intro none
    obtain ⟨no_name, no_range⟩ := List.append_eq_nil_iff.mp none
    rcases Contents.filled_of_ne_nil filled with some | some
    · exact some (named ▸ no_name)
    · obtain ⟨r, rest, eq⟩ := List.exists_cons_of_ne_nil some
      have mem : r ∈ (Contents.ofMembers (classMembers text)).ranges := by simp [eq]
      obtain ⟨s, own, -⟩ := (covers r.1).mpr (.inl ⟨r, mem, Nat.le_refl _, (bounded r mem).1⟩)
      have written : encodeMember s.1 ∈ after.contents.ranges.flatMap rangeMembers :=
        List.mem_flatMap.mpr ⟨s, own, List.mem_cons_self⟩
      simp [no_range] at written
  have written : withCaret after.inverted
      (after.contents.named ++ after.contents.ranges.flatMap rangeMembers) = after.written := rfl
  have caret : after.inverted = false →
      (after.contents.named ++ after.contents.ranges.flatMap rangeMembers).head? ≠ some ['^'] := by
    intro no_caret first
    have whole : after.written.head? = some ['^'] := by
      rw [← written, withCaret, no_caret]
      exact first
    rw [proper.caret_iff, no_caret] at whole
    cases whole
  obtain ⟨c, meant, read⟩ := read_class tame something caret
  rw [proper.ofMembers, inverted] at meant
  rw [written] at read
  have text_eq : (foldClass text).tail = after.written.flatten ++ [']'] := by
    rw [ClassReading.foldClass_eq_write, folding]
    rfl
  refine ⟨c, meant, fun more => ?_⟩
  rw [text_eq, List.append_assoc, List.singleton_append, read, List.length_append,
    List.length_singleton]

/-- In ASCII text, a class that ignores case matches like the class with both cases of its letters.
-/
theorem foldClass_alike {t : Subject} (ascii : t.Ascii) {text : List Char}
    (tame : isTameClass text = true)
    (absent : isBroadClass text = true → ∀ run ∈ Fold.ligatures, ¬ run <:+: t.folding) :
    ∃ c c' : ClassText,
      (∀ more, ClassText.read (classBody text ++ ']' :: more) =
        .ok (c, (classBody text).length + 1)) ∧
      (∀ more, ClassText.read ((foldClass text).tail ++ more) =
        .ok (c', (foldClass text).tail.length)) ∧
      AlikeOn t true false ((Lexeme.bracket c).node true) ((Lexeme.bracket c').node false) := by
  obtain ⟨c, meant, read⟩ := read_tameClass tame
  obtain ⟨c', meant', read'⟩ := read_folded tame
  obtain ⟨tame, filled⟩ := isTameClass_iff.mp tame
  obtain ⟨known, bounded⟩ := Contents.of_orderly tame.orderly
  have doubled := doubled_of_meant meant meant' known bounded (Contents.filled_of_ne_nil filled)
    rfl (mem_covered_folded fun r mem => (bounded r mem).1)
  refine ⟨c, c', read, read', classNode_alike ascii ?_ doubled meant.bytes meant'.bytes ?_⟩
  · rw [meant.negated, meant'.negated]
  · rintro upright ⟨k, stray, holds⟩
    refine absent ?_
    obtain ⟨m, mem, broad⟩ := exists_broad meant known bounded stray holds
    rw [isBroadClass, ← meant.negated, upright, Bool.not_false, Bool.true_and, List.any_eq_true]
    exact ⟨m, mem, List.contains_iff_mem.mpr broad⟩

end Tincture.Union
