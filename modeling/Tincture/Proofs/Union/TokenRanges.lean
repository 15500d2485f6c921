import Mathlib.Data.List.Chain
import Tincture.Proofs.Lexer.Partition
import Tincture.Proofs.Text.Utf8

/-!
Tokens as ranges of bytes.

Inside the library a text is cut by characters. From outside, a matcher is asked at a byte position
and answers with the number of bytes of its match; where it has none, or an empty one, the character
at that position is a token of its own, however many bytes it takes. `nextRange?` is one such step
and `Iterates` repeats it up to the end of the text.

Whatever a matcher answers, if only its matches end between characters of the text, the steps come
to an end and what they give is a partition of the text (`exists_iterates`). The tokens of a union
are the ranges that its own matcher gives (`iterates_tokens`): with every step one more piece of the
text is cut off, of as many bytes as the matcher says or as the character has (`exists_piece`).
-/

namespace Tincture

open String.Pos.Raw (IsValid)

namespace Union

/-- The number of bytes of the match at a byte position, if there is one. -/
abbrev Matcher := Nat → Option Nat

/-- Matches that begin at a character boundary stay within the text and end at one. -/
def Matcher.Aligned (m : Matcher) (source : String) : Prop :=
  ∀ pos len, IsValid source ⟨pos⟩ → m pos = some len → IsValid source ⟨pos + len⟩

/-- The number of bytes of the character at a byte position. -/
def charBytes (source : String) (pos : Nat) : Nat :=
  match dropBytes? pos source.toList with
  | some (c :: _) => c.utf8Size
  | _ => 1

/-- The token at a byte position: the match there, or else a single character; none at the end. -/
def nextRange? (m : Matcher) (source : String) (pos : Nat) : Option (Nat × Nat) :=
  if pos < source.utf8ByteSize then
    match m pos with
    | some (len + 1) => some (pos, pos + (len + 1))
    | _ => some (pos, pos + charBytes source pos)
  else none

/-- From the position on, these are the tokens up to the end. -/
inductive Iterates (m : Matcher) (source : String) : Nat → List (Nat × Nat) → Prop where
  | done {pos : Nat} : nextRange? m source pos = none → Iterates m source pos []
  | next {pos stop : Nat} {ranges : List (Nat × Nat)} :
      nextRange? m source pos = some (pos, stop) → Iterates m source stop ranges →
      Iterates m source pos ((pos, stop) :: ranges)

/-- The ranges follow one another from `start` to the end of the text. None is empty, and none
divides a character. -/
structure Partitions (source : String) (start : Nat) (ranges : List (Nat × Nat)) : Prop where
  eq_nil_iff : ranges = [] ↔ start = source.utf8ByteSize
  first_eq : ∀ x ∈ ranges.head?, x.1 = start
  last_eq : ∀ x ∈ ranges.getLast?, x.2 = source.utf8ByteSize
  consecutive : ranges.IsChain fun x y => x.2 = y.1
  nonempty : ∀ x ∈ ranges, x.1 < x.2
  boundary : ∀ x ∈ ranges, IsValid source ⟨x.1⟩ ∧ IsValid source ⟨x.2⟩

/-! ### One step -/

variable {m : Matcher} {source : String} {before after : List Char}

theorem nextRange?_of_le {pos : Nat} (le : source.utf8ByteSize ≤ pos) :
    nextRange? m source pos = none :=
  if_neg (Nat.not_lt_of_le le)

theorem nextRange?_of_match {pos len : Nat} (lt : pos < source.utf8ByteSize)
    (matched : m pos = some len) (positive : 0 < len) :
    nextRange? m source pos = some (pos, pos + len) := by
  obtain ⟨n, rfl⟩ := Nat.exists_eq_succ_of_ne_zero (Nat.ne_of_gt positive)
  rw [nextRange?, if_pos lt, matched]

theorem nextRange?_of_stay {pos : Nat} (lt : pos < source.utf8ByteSize)
    (stay : ∀ len, m pos = some len → len = 0) :
    nextRange? m source pos = some (pos, pos + charBytes source pos) := by
  rw [nextRange?, if_pos lt]
  cases matched : m pos with
  | none => rfl
  | some len =>
    rw [stay len matched]

theorem charBytes_append {c : Char} (eq : source.toList = before ++ c :: after) :
    charBytes source (byteLength before) = c.utf8Size := by
  rw [charBytes, eq, dropBytes?_append]

/-- Before the end of the text a character begins at every boundary. -/
theorem exists_char {pos : Nat} (valid : IsValid source ⟨pos⟩) (lt : pos < source.utf8ByteSize) :
    ∃ before c after, source.toList = before ++ c :: after ∧ pos = byteLength before := by
  obtain ⟨before, after, eq, rfl⟩ := isValid_iff_exists.mp valid
  obtain ⟨c, rest, rfl⟩ := List.exists_cons_of_ne_nil ((byteLength_lt_iff eq).mp lt)
  exact ⟨before, c, rest, eq, rfl⟩

/-- A step from a boundary leads over some of the text to another one. -/
theorem exists_nextRange? (aligned : m.Aligned source) {pos : Nat} (valid : IsValid source ⟨pos⟩)
    (lt : pos < source.utf8ByteSize) :
    ∃ stop, nextRange? m source pos = some (pos, stop) ∧ pos < stop ∧ IsValid source ⟨stop⟩ := by
  by_cases advances : ∃ len, m pos = some len ∧ 0 < len
  · obtain ⟨len, matched, positive⟩ := advances
    exact ⟨pos + len, nextRange?_of_match lt matched positive, Nat.lt_add_of_pos_right positive,
      aligned pos len valid matched⟩
  · have stay : ∀ len, m pos = some len → len = 0 := by
      intro len matched
      by_contra other
      exact advances ⟨len, matched, Nat.pos_of_ne_zero other⟩
    obtain ⟨before, c, after, eq, rfl⟩ := exists_char valid lt
    refine ⟨_, nextRange?_of_stay lt stay, ?_,
      isValid_iff_exists.mpr ⟨before ++ [c], after, ?_, ?_⟩⟩
    · rw [charBytes_append eq]
      exact Nat.lt_add_of_pos_right c.utf8Size_pos
    · rw [eq, List.append_cons]
    · rw [charBytes_append eq, byteLength_append, byteLength_cons, byteLength_nil, Nat.add_zero]

/-! ### All steps -/

theorem Partitions.nil : Partitions source source.utf8ByteSize [] :=
  ⟨by simp, by simp, by simp, .nil, by simp, by simp⟩

/-- A range in front of those that follow it. -/
theorem Partitions.cons {start stop : Nat} {ranges : List (Nat × Nat)} (lt : start < stop)
    (valid : IsValid source ⟨start⟩) (valid' : IsValid source ⟨stop⟩)
    (rest : Partitions source stop ranges) :
    Partitions source start ((start, stop) :: ranges) := by
  refine ⟨?_, ?_, ?_, ?_, ?_, ?_⟩
  · have le := valid'.le_utf8ByteSize
    simp only [reduceCtorEq, false_iff]
    exact Nat.ne_of_lt (Nat.lt_of_lt_of_le lt le)
  · rintro x ⟨⟩
    rfl
  · intro x last
    rw [List.getLast?_cons] at last
    cases eq : ranges.getLast? with
    | none =>
      rw [eq] at last
      cases last
      exact rest.eq_nil_iff.mp (List.getLast?_eq_none_iff.mp eq)
    | some y =>
      rw [eq] at last
      cases last
      exact rest.last_eq y eq
  · exact List.isChain_cons.mpr ⟨fun y first => (rest.first_eq y first).symm, rest.consecutive⟩
  · exact List.forall_mem_cons.mpr ⟨lt, rest.nonempty⟩
  · exact List.forall_mem_cons.mpr ⟨⟨valid, valid'⟩, rest.boundary⟩

/-- From a boundary on the steps come to an end, since each leaves less of the text, and what they
give is a partition of the rest. -/
theorem exists_iterates (aligned : m.Aligned source) {pos : Nat} (valid : IsValid source ⟨pos⟩) :
    ∃ ranges, Iterates m source pos ranges ∧ Partitions source pos ranges := by
  induction left : source.utf8ByteSize - pos using Nat.strongRecOn generalizing pos with
  | ind n ih =>
    by_cases lt : pos < source.utf8ByteSize
    · obtain ⟨stop, step, further, valid'⟩ := exists_nextRange? aligned valid lt
      obtain ⟨ranges, rest, parts⟩ := ih (source.utf8ByteSize - stop) (by omega) valid' rfl
      exact ⟨_, .next step rest, parts.cons further valid valid'⟩
    · have le := Nat.le_of_not_lt lt
      obtain rfl : pos = source.utf8ByteSize := Nat.le_antisymm valid.le_utf8ByteSize le
      exact ⟨[], .done (nextRange?_of_le le), .nil⟩

/-- The steps are determined by the matcher. -/
theorem Iterates.unique {pos : Nat} {ranges others : List (Nat × Nat)}
    (h : Iterates m source pos ranges) (h' : Iterates m source pos others) : ranges = others := by
  induction h generalizing others with
  | done ended =>
    cases h' with
    | done => rfl
    | next step =>
      rw [ended] at step
      cases step
  | next step _ ih =>
    cases h' with
    | done ended =>
      rw [step] at ended
      cases ended
    | next step' rest =>
      rw [step] at step'
      cases step'
      rw [ih rest]

/-! ### The matcher of a union -/

/-- A matcher that is asked at a character and answers with one, as it is seen from outside. -/
def Matcher.ofReach (source : String) (reach : Nat → Option Nat) : Matcher := fun pos =>
  (dropBytes? pos source.toList).bind fun rest =>
    let start := source.toList.length - rest.length
    (reach start).map fun stop => byteLength (rest.take (stop - start))

/-- The matches of the regular expression of a union in a text. -/
def matcher (u : Union) (source : String) : Matcher :=
  .ofReach source fun pos => (u.regex.matchAt? source.toList.toArray pos).map (·.pos)

variable {reach : Nat → Option Nat}

theorem Matcher.ofReach_append (eq : source.toList = before ++ after) :
    Matcher.ofReach source reach (byteLength before) =
      (reach before.length).map fun stop => byteLength (after.take (stop - before.length)) := by
  have start : (before ++ after).length - after.length = before.length := by
    rw [List.length_append, Nat.add_sub_cancel]
  rw [Matcher.ofReach, eq, dropBytes?_append, Option.bind_some, start]

/-- What is taken is a number of characters, so it ends at a boundary. -/
theorem Matcher.aligned_ofReach (source : String) (reach : Nat → Option Nat) :
    (Matcher.ofReach source reach).Aligned source := by
  intro pos len valid matched
  obtain ⟨before, after, eq, rfl⟩ := isValid_iff_exists.mp valid
  rw [ofReach_append eq] at matched
  obtain ⟨stop, -, rfl⟩ := Option.map_eq_some_iff.mp matched
  refine isValid_iff_exists.mpr
    ⟨before ++ after.take (stop - before.length), after.drop (stop - before.length), ?_, ?_⟩
  · rw [List.append_assoc, List.take_append_drop, eq]
  · rw [byteLength_append]

/-! ### The pieces that are cut off -/

/-- The pieces that are cut off from a character of the text on. -/
def pieces (reach : Nat → Option Nat) (source : String) (pos : Nat) : List (List Char) :=
  (cuts reach source.toList.toArray.size pos).map
    fun (start, stop) => (source.toList.toArray.extract start stop).toList

theorem size_eq (eq : source.toList = before ++ after) :
    source.toList.toArray.size = before.length + after.length := by
  rw [List.size_toArray, eq, List.length_append]

/-- What is cut from some characters on is what the characters there begin with. -/
theorem extract_eq_take (eq : source.toList = before ++ after) (stop : Nat) :
    (source.toList.toArray.extract before.length stop).toList =
      after.take (stop - before.length) := by
  rw [Array.toList_extract, List.extract_eq_take_drop, eq, List.drop_left]

theorem pieces_of_nil (eq : source.toList = before) : pieces reach source before.length = [] := by
  rw [pieces, cuts_of_le (by rw [List.size_toArray, eq]), List.map_nil]

theorem pieces_of_reach {c : Char} {stop : Nat} (eq : source.toList = before ++ c :: after)
    (reached : reach before.length = some stop) (further : before.length < stop) :
    let piece := (c :: after).take (stop - before.length)
    pieces reach source before.length = piece :: pieces reach source (before ++ piece).length := by
  intro piece
  have size := size_eq eq
  have inside : before.length < source.toList.toArray.size := by
    rw [size, List.length_cons]
    omega
  have reached_end : (before ++ piece).length = min stop source.toList.toArray.size := by
    rw [List.length_append, List.length_take, size]
    omega
  rw [pieces, cuts_of_reach inside reached further, List.map_cons, reached_end, pieces, cuts_min]
  dsimp only
  rw [extract_eq_take eq]

theorem pieces_of_stay {c : Char} (eq : source.toList = before ++ c :: after)
    (stay : ∀ stop, reach before.length = some stop → stop ≤ before.length) :
    pieces reach source before.length = [c] :: pieces reach source (before ++ [c]).length := by
  have inside : before.length < source.toList.toArray.size := by
    rw [size_eq eq, List.length_cons]
    omega
  rw [pieces, cuts_of_stay inside stay, List.map_cons, List.length_append, List.length_singleton,
    pieces]
  dsimp only
  rw [extract_eq_take eq, Nat.add_sub_cancel_left, List.take_succ_cons, List.take_zero]

/-- Before the end of the text one more piece is cut off, which is a step of the matcher. -/
theorem exists_piece (reach : Nat → Option Nat) {c : Char}
    (eq : source.toList = before ++ c :: after) :
    ∃ piece rest, piece ++ rest = c :: after ∧ piece ≠ [] ∧
      nextRange? (.ofReach source reach) source (byteLength before) =
        some (byteLength before, byteLength before + byteLength piece) ∧
      pieces reach source before.length =
        piece :: pieces reach source (before ++ piece).length := by
  have lt := (byteLength_lt_iff eq).mpr (List.cons_ne_nil c after)
  by_cases advances : ∃ stop, reach before.length = some stop ∧ before.length < stop
  · obtain ⟨stop, reached, further⟩ := advances
    have count : stop - before.length ≠ 0 := by omega
    have nonempty : (c :: after).take (stop - before.length) ≠ [] := by simp [count]
    have matched : Matcher.ofReach source reach (byteLength before) =
        some (byteLength ((c :: after).take (stop - before.length))) := by
      rw [Matcher.ofReach_append eq, reached, Option.map_some]
    exact ⟨_, _, List.take_append_drop _ _, nonempty,
      nextRange?_of_match lt matched (byteLength_pos nonempty),
      pieces_of_reach eq reached further⟩
  · have stay : ∀ stop, reach before.length = some stop → stop ≤ before.length := by
      intro stop reached
      by_contra further
      exact advances ⟨stop, reached, Nat.lt_of_not_le further⟩
    have idle : ∀ len, Matcher.ofReach source reach (byteLength before) = some len → len = 0 := by
      intro len matched
      rw [Matcher.ofReach_append eq] at matched
      obtain ⟨stop, reached, rfl⟩ := Option.map_eq_some_iff.mp matched
      rw [Nat.sub_eq_zero_of_le (stay stop reached), List.take_zero, byteLength_nil]
    have step := nextRange?_of_stay lt idle
    rw [charBytes_append eq] at step
    exact ⟨[c], after, rfl, List.cons_ne_nil c [], step, pieces_of_stay eq stay⟩

/-- The pieces, in bytes, are the steps of the matcher. -/
theorem iterates_pieces (eq : source.toList = before ++ after) :
    Iterates (.ofReach source reach) source (byteLength before)
      (byteRanges (byteLength before) (pieces reach source before.length)) := by
  induction left : after.length using Nat.strongRecOn generalizing before after with
  | ind n ih =>
    cases after with
    | nil =>
      rw [List.append_nil] at eq
      rw [pieces_of_nil eq]
      refine .done (nextRange?_of_le (Nat.le_of_eq ?_))
      rw [← byteLength_toList, eq]
    | cons c after =>
      obtain ⟨piece, rest, parts, nonempty, step, cut⟩ := exists_piece reach eq
      have shorter : rest.length < n := by
        have positive := List.length_pos_of_ne_nil nonempty
        rw [← left, ← parts, List.length_append]
        omega
      have further : source.toList = (before ++ piece) ++ rest := by
        rw [List.append_assoc, parts, eq]
      have others := ih rest.length shorter further rfl
      rw [byteLength_append] at others
      rw [cut, byteRanges]
      exact .next step others

/-- The tokens of a union are the steps of its matcher. -/
theorem iterates_tokens (u : Union) (source : String) :
    Iterates (u.matcher source) source 0 (byteRanges 0 (u.tokens source.toList)) :=
  iterates_pieces (List.nil_append _).symm

/-! ### Main result -/

/-- Whatever a matcher answers, if its matches stay within the text and end between characters, the
steps over a text come to an end in one way only and give a partition of the text. For a union, with
any regular expression, the ranges of its tokens are these steps, and its matches are of that kind.
-/
theorem tokens_partition (source : String) :
    (∀ m : Matcher, m.Aligned source → ∃ ranges, Iterates m source 0 ranges ∧
      (∀ others, Iterates m source 0 others → others = ranges) ∧ Partitions source 0 ranges) ∧
    ∀ u : Union, (u.matcher source).Aligned source ∧
      Iterates (u.matcher source) source 0 (byteRanges 0 (u.tokens source.toList)) ∧
      Partitions source 0 (byteRanges 0 (u.tokens source.toList)) := by
  have start : IsValid source ⟨0⟩ := isValid_iff_exists.mpr ⟨[], source.toList, rfl, rfl⟩
  constructor
  · intro m aligned
    obtain ⟨ranges, steps, parts⟩ := exists_iterates aligned start
    exact ⟨ranges, steps, fun others steps' => steps'.unique steps, parts⟩
  · intro u
    have aligned : (u.matcher source).Aligned source := Matcher.aligned_ofReach source _
    have steps := iterates_tokens u source
    obtain ⟨ranges, steps', parts⟩ := exists_iterates aligned start
    rw [← steps.unique steps'] at parts
    exact ⟨aligned, steps, parts⟩

/-- No match at a character of two bytes, an empty match, and a match up to the end. -/
def faltering : Matcher := fun pos =>
  if pos = 0 then none else some (if pos = 2 then 0 else 4 - pos)

theorem tokens_partition_faltering :
    faltering.Aligned "é!x" ∧
      ∃ ranges, Iterates faltering "é!x" 0 ranges ∧
        (∀ others, Iterates faltering "é!x" 0 others → others = ranges) ∧
        Partitions "é!x" 0 ranges ∧ ranges = [(0, 2), (2, 3), (3, 4)] := by
  have aligned : faltering.Aligned "é!x" := by
    intro pos len valid matched
    have le : pos ≤ 4 := valid.le_utf8ByteSize
    have ends : pos + len = 2 ∨ pos + len = 4 := by
      unfold faltering at matched
      split at matched
      · cases matched
      · have := Option.some.inj matched
        split at this <;> omega
    rcases ends with ends | ends <;> rw [ends] <;> decide
  obtain ⟨ranges, steps, unique, parts⟩ := (tokens_partition "é!x").1 faltering aligned
  have taken : Iterates faltering "é!x" 0 [(0, 2), (2, 3), (3, 4)] :=
    .next (by decide +kernel) (.next (by decide +kernel) (.next (by decide +kernel)
      (.done (by decide +kernel))))
  exact ⟨aligned, ranges, steps, unique, parts, (unique _ taken).symm⟩

end Union

end Tincture
