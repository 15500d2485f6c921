import Mathlib.Data.List.Chain
import Tincture.Proofs.Regex.NamedClass
import Tincture.Proofs.Regex.Atom
import Tincture.Proofs.Text.Ascii
import Tincture.Proofs.Union.BothCases

/-!
The members of a bracket class to the engine.

When its cases are folded, a class is taken for a list of members, some of which make up ranges. The
engine reads the same class character by character, with a member waiting until it is known whether
a dash makes a range of it. For ASCII members without special cases, which are the `Tame` ones, it
comes to the same (`reads_members`): the engine finds the code points of the ranges and of the named
classes.
-/

namespace Tincture.Regex.Bracket

/-! ### The state of the engine -/

/-- Nothing but code points and named classes has been taken, and no range waits for its end. -/
structure Fine (b : Bracket) : Prop where
  before : b.before = none
  sorted : b.members.set.Sorted
  bytes : ∀ k, b.members.bytes.contains k = false
  code : ∀ m, b.pending = .member m → m.raw = false
  settled : ∀ m, b.pending ≠ .range m

/-- The code point has been taken. -/
def Holds (b : Bracket) (n : Nat) : Prop := b.settle.members.set.contains n = true

/-- The bracket with another code point. -/
def enter (b : Bracket) (k : Nat) : Bracket := { b.settle with pending := .member ⟨k, false⟩ }

/-- The bracket with a range of ASCII characters. -/
def span (b : Bracket) (k l : Nat) : Bracket :=
  { b.settle with
    members := b.settle.members.union
      { set := (CodeSet.range k l).inter (.range 0 0x7f)
        bytes := (CodeSet.range k l).inter (.range 0x80 0xff) }
    pending := .complete }

/-- The bracket with a named class. -/
def enlist (b : Bracket) (s : CodeSet) : Bracket :=
  { b.settle with
    members := b.settle.members.union { set := s, wide := true }, pending := .named }

variable {b : Bracket} {k l n : Nat}

theorem push_of_settled (settled : ∀ m, b.pending ≠ .range m) (k : Nat) :
    b.push ⟨k, false⟩ = .ok (b.enter k) := by
  unfold push
  split
  · rename_i m waits
    exact absurd waits (settled m)
  · rfl

theorem pushNamed_of_settled (settled : ∀ m, b.pending ≠ .range m) (s : CodeSet) :
    b.pushNamed s = .ok (b.enlist s) := by
  unfold pushNamed
  split
  · rename_i m waits
    exact absurd waits (settled m)
  · rfl

@[simp] theorem settle_negated (b : Bracket) : b.settle.negated = b.negated := by
  unfold settle
  split <;> rfl

@[simp] theorem settle_before (b : Bracket) : b.settle.before = b.before := by
  unfold settle
  split <;> rfl

theorem Fine.settle (h : b.Fine) :
    b.settle.members.set.Sorted ∧ ∀ k, b.settle.members.bytes.contains k = false := by
  obtain ⟨-, sorted, bytes, code, -⟩ := h
  unfold Bracket.settle
  split
  · rename_i m waits
    have code := code m waits
    simp only [Member.members, code, Bool.false_eq_true, if_false, Members.union]
    exact ⟨sorted.union (CodeSet.sorted_range _ _), fun k => by simp [bytes]⟩
  · exact ⟨sorted, bytes⟩

theorem Fine.enter (h : b.Fine) (k : Nat) : (b.enter k).Fine where
  before := (settle_before b).trans h.before
  sorted := h.settle.1
  bytes := h.settle.2
  code m waits := by
    cases waits
    rfl
  settled m waits := by cases waits

theorem Fine.span (h : b.Fine) (small : l < 128) : (b.span k l).Fine where
  before := (settle_before b).trans h.before
  sorted := h.settle.1.union (CodeSet.sorted_inter _ _)
  bytes n := by
    simp only [Bracket.span, Members.union, CodeSet.contains_union, h.settle.2,
      CodeSet.contains_inter, CodeSet.contains_range, Bool.false_or]
    simp
    omega
  code m waits := by cases waits
  settled m waits := by cases waits

theorem Fine.enlist (h : b.Fine) {s : CodeSet} (sorted : s.Sorted) : (b.enlist s).Fine where
  before := (settle_before b).trans h.before
  sorted := h.settle.1.union sorted
  bytes n := by simp [Bracket.enlist, Members.union, h.settle.2]
  code m waits := by cases waits
  settled m waits := by cases waits

theorem holds_enter : (b.enter k).Holds n ↔ b.Holds n ∨ n = k := by
  simp [Holds, enter, settle, Member.members, Members.union]

theorem holds_span (small : l < 128) : (b.span k l).Holds n ↔ b.Holds n ∨ (k ≤ n ∧ n ≤ l) := by
  have le (low : n ≤ l) : n ≤ 127 := by omega
  simp only [Holds, span, Members.union]
  rw [settle]
  simp
  grind

theorem holds_enlist {s : CodeSet} : (b.enlist s).Holds n ↔ b.Holds n ∨ s.contains n = true := by
  simp only [Holds, enlist, Members.union]
  rw [settle]
  simp

end Tincture.Regex.Bracket

namespace Tincture.Union

open Regex

/-! ### Members -/

/-- Whether a member stands for an ASCII character and for nothing else: it is one other than a
bracket or a backslash, or an escape that is complete. -/
def isCodeMember : List Char → Bool
  | [c] => isAscii c && !(['[', ']', '\\'].contains c)
  | ['\\', c] => ['t', 'n', 'v', 'f', 'r'].contains c || (isAscii c && !c.isAlphanum)
  | '\\' :: 'x' :: ds => ds.length == 2 && ds.all (isDigitIn 16) && numeral 16 ds < 128
  | '\\' :: 'u' :: ds => ds.length == 4 && ds.all (isDigitIn 16) && numeral 16 ds < 128
  | _ => false

/-- The set a named class stands for. Within brackets, `\b` is the backspace. -/
def namedSet : List Char → CodeSet
  | ['\\', 'b'] => .single 8
  | ['\\', c] => (Class.ofLetter? c).getD .empty
  | _ => .empty

/-- Whether a member is an ASCII character or a named class. To the engine `\B` is none. -/
def isTameMember (member : List Char) : Bool :=
  isCodeMember member || (isNamedClass member && member != ['\\', 'B'])

/-- The forms of members that are characters. -/
theorem isCodeMember_cases {m : List Char} (h : isCodeMember m = true) :
    (∃ c, m = [c] ∧ isAscii c = true ∧ c ∉ ['[', ']', '\\']) ∨
      (∃ c, m = ['\\', c] ∧ (c ∈ ['t', 'n', 'v', 'f', 'r'] ∨
        (isAscii c = true ∧ c.isAlphanum = false))) ∨
      ∃ mark ds, m = '\\' :: mark :: ds ∧
        (mark = 'x' ∧ ds.length = 2 ∨ mark = 'u' ∧ ds.length = 4) ∧
        (∀ d ∈ ds, isDigitIn 16 d = true) ∧ numeral 16 ds < 128 := by
  unfold isCodeMember at h
  split at h
  · rename_i c
    simp only [Bool.and_eq_true, Bool.not_eq_true', List.contains_eq_mem,
      decide_eq_false_iff_not] at h
    exact .inl ⟨c, rfl, h⟩
  · rename_i c
    simp only [Bool.or_eq_true, Bool.and_eq_true, Bool.not_eq_true', List.contains_eq_mem,
      decide_eq_true_eq] at h
    exact .inr (.inl ⟨c, rfl, h⟩)
  · rename_i ds _
    simp only [Bool.and_eq_true, beq_iff_eq, List.all_eq_true, decide_eq_true_eq] at h
    exact .inr (.inr ⟨'x', ds, rfl, .inl ⟨rfl, h.1.1⟩, h.1.2, h.2⟩)
  · rename_i ds _
    simp only [Bool.and_eq_true, beq_iff_eq, List.all_eq_true, decide_eq_true_eq] at h
    exact .inr (.inr ⟨'u', ds, rfl, .inr ⟨rfl, h.1.1⟩, h.1.2, h.2⟩)
  · cases h

/-- What holds of the escapes of one character that members may be. -/
theorem escapes_all {P : Char → Bool}
    (letters : ['t', 'n', 'v', 'f', 'r'].all P = true)
    (others : (List.range 128).all
      (fun n => (Char.ofNat n).isAlphanum || P (Char.ofNat n)) = true) {c : Char}
    (h : c ∈ ['t', 'n', 'v', 'f', 'r'] ∨ (isAscii c = true ∧ c.isAlphanum = false)) :
    P c = true := by
  rcases h with mem | ⟨ascii, other⟩
  · exact List.all_eq_true.mp letters c mem
  · simpa [other] using ascii_all (P := fun c => c.isAlphanum || P c) others ascii

theorem memberCode_lt_of_isCodeMember {m : List Char} (h : isCodeMember m = true) :
    memberCode m < 128 := by
  rcases isCodeMember_cases h with
    ⟨c, rfl, ascii, plain⟩ | ⟨c, rfl, escape⟩ | ⟨mark, ds, rfl, kind, all, lt⟩
  · have backslash : c ≠ '\\' := fun eq => plain (by simp [eq])
    have code : memberCode [c] = c.toNat := by
      unfold memberCode
      split <;> simp_all
    rw [code]
    exact isAscii_iff.mp ascii
  · exact of_decide_eq_true (escapes_all (P := fun c => decide (memberCode ['\\', c] < 128))
      (by decide +kernel) (by decide +kernel) escape)
  · have whole : ds.takeWhile (isDigitIn 16) = ds := List.takeWhile_eq_self_iff.mpr all
    rcases kind with ⟨rfl, -⟩ | ⟨rfl, -⟩ <;> simpa [memberCode, whole] using lt

/-! ### Reading members -/

theorem leadingDigits_of_all {radix most : Nat} {ds : List Char} (length : ds.length = most)
    (all : ∀ d ∈ ds, isDigitIn radix d = true) (more : List Char) :
    leadingDigits radix most (ds ++ more) = ds := by
  rw [leadingDigits, List.take_left' length]
  exact List.takeWhile_eq_self_iff.mpr all

/-- An escape is read as what it stands for. -/
theorem pushEscape_of_code {e : Char} {ds : List Char}
    (code : isCodeMember ('\\' :: e :: ds) = true) (b : Bracket) (more : List Char) :
    b.pushEscape e (ds ++ more) =
      (b.push ⟨memberCode ('\\' :: e :: ds), false⟩).map (·, ds.length) := by
  rcases isCodeMember_cases code with ⟨c, eq, -⟩ | ⟨c, eq, escape⟩ | ⟨mark, hs, eq, kind, all, lt⟩
  · simp at eq
  · obtain ⟨rfl, rfl⟩ : e = c ∧ ds = [] := by simpa using eq
    have facts := escapes_all
      (P := fun c => isSimple c && (Class.ofLetter? c).isNone && c != 'p' && c != 'P' &&
        memberCode ['\\', c] == escapedCode c)
      (by decide +kernel) (by decide +kernel) escape
    simp only [Bool.and_eq_true, Option.isNone_iff_eq_none, bne_iff_ne, beq_iff_eq] at facts
    obtain ⟨⟨⟨⟨simple, unnamed⟩, p⟩, capitalP⟩, same⟩ := facts
    simp [Bracket.pushEscape, unnamed, p, capitalP, Bracket.escaped,
      Bracket.not_isDigitIn_of_isSimple simple, Escape.read_of_isSimple simple,
      Bracket.pushEscaped, same]
  · obtain ⟨rfl, rfl⟩ : e = mark ∧ ds = hs := by simpa using eq
    have whole : ds.takeWhile (isDigitIn 16) = ds := List.takeWhile_eq_self_iff.mpr all
    have filled : ds ++ more ≠ [] := by
      intro none
      have empty := (List.append_eq_nil_iff.mp none).1
      simp [empty] at kind
    rcases kind with ⟨rfl, length⟩ | ⟨rfl, length⟩
    · have octal : isDigitIn 8 'x' = false := by decide
      have single : Escape.followers (numeral 16 ds) = 0 := if_pos (by omega)
      simp [Bracket.pushEscape, Class.ofLetter?, Bracket.escaped, octal, Escape.read, filled,
        leadingDigits_of_all length all, Bracket.pushEscaped, single, Escape.bytes?, memberCode,
        whole, Nat.not_le_of_lt lt]
    · have octal : isDigitIn 8 'u' = false := by decide
      simp [Bracket.pushEscape, Class.ofLetter?, Bracket.escaped, octal, Escape.read, filled,
        leadingDigits_of_all length all, length, Bracket.pushEscaped, memberCode, whole]

/-- A character is read as itself, unless it is a dash that may make a range or the first half of a
double `&`. -/
theorem read_push {m : List Char} (code : isCodeMember m = true) {b : Bracket} {more : List Char}
    (dash : m = ['-'] → (∀ k, b.pending ≠ .member k) ∨ more.head? = some ']')
    (single : m = ['&'] → more.head? ≠ some '&') :
    b.read [] (m ++ more) = (b.push ⟨memberCode m, false⟩).bind (·.read [] more) := by
  have escape {e : Char} {ds : List Char} (code : isCodeMember ('\\' :: e :: ds) = true) :
      b.read [] ('\\' :: e :: ds ++ more) =
        (b.push ⟨memberCode ('\\' :: e :: ds), false⟩).bind (·.read [] more) := by
    rw [List.cons_append, List.cons_append, Bracket.read_escape, pushEscape_of_code code]
    cases b.push ⟨memberCode ('\\' :: e :: ds), false⟩ with
    | error fault => rfl
    | ok b =>
      simp only [Except.map, Except.bind, List.drop_left]
  rcases isCodeMember_cases code with ⟨c, rfl, -, plain⟩ | ⟨c, rfl, -⟩ | ⟨mark, ds, rfl, -⟩
  · simp only [List.mem_cons, List.not_mem_nil, or_false, not_or] at plain
    obtain ⟨opening, closing, backslash⟩ := plain
    have itself : memberCode [c] = c.toNat := by
      unfold memberCode
      split <;> simp_all
    rw [List.singleton_append,
      Bracket.read_plain ⟨backslash, opening, closing⟩ fun eq => single (by rw [eq]), itself]
    split
    · rename_i eq
      subst eq
      have pushed : b.pushDash more = b.push ⟨45, false⟩ := by
        unfold Bracket.pushDash
        split
        · rename_i k waits
          rcases dash rfl with none | last
          · exact absurd waits (none k)
          · cases more with
            | nil => cases last
            | cons d more =>
              cases last
              rfl
        · rfl
      rw [pushed]
      rfl
    · rfl
  · exact escape code
  · exact escape code

variable {b : Bracket} {m last more : List Char}

theorem read_code (code : isCodeMember m = true) (fine : b.Fine)
    (dash : m = ['-'] → (∀ k, b.pending ≠ .member k) ∨ more.head? = some ']')
    (single : m = ['&'] → more.head? ≠ some '&') :
    b.read [] (m ++ more) = (b.enter (memberCode m)).read [] more := by
  rw [read_push code dash single, Bracket.push_of_settled fine.settled]
  rfl

/-- A dash between two members makes a range of them. -/
theorem read_range (code : isCodeMember m = true) (code' : isCodeMember last = true)
    (upright : memberCode m ≤ memberCode last) (fine : b.Fine)
    (dash : m = ['-'] → ∀ k, b.pending ≠ .member k)
    (single : last = ['&'] → more.head? ≠ some '&') :
    b.read [] (m ++ '-' :: (last ++ more)) =
      (b.span (memberCode m) (memberCode last)).read [] more := by
  have small := memberCode_lt_of_isCodeMember code
  have small' := memberCode_lt_of_isCodeMember code'
  -- The dash begins a range, since what follows neither ends the class nor intersects it.
  have waits : (b.enter (memberCode m)).pushDash (last ++ more) =
      .ok { b.enter (memberCode m) with pending := .range ⟨memberCode m, false⟩ } := by
    have ordinary : (last ++ more).head? ≠ some ']' ∧
        ¬ ∃ rest, last ++ more = '&' :: '&' :: rest := by
      rcases isCodeMember_cases code' with ⟨c, rfl, -, plain⟩ | ⟨c, rfl, -⟩ | ⟨mark, ds, rfl, -⟩
      · refine ⟨?_, ?_⟩
        · rintro ⟨⟩
          simp at plain
        · rintro ⟨rest, eq⟩
          obtain ⟨rfl, rfl⟩ : c = '&' ∧ more = '&' :: rest := by simpa using eq
          exact single rfl rfl
      · simp
      · simp
    obtain ⟨closing, doubled⟩ := ordinary
    simp only [Bracket.pushDash, Bracket.enter]
    split
    · rename_i eq
      rw [eq] at closing
      exact absurd rfl closing
    · rename_i rest eq
      exact absurd ⟨rest, eq⟩ doubled
    · rfl
  have plain : ('-' : Char) ≠ '\\' ∧ ('-' : Char) ≠ '[' ∧ ('-' : Char) ≠ ']' := by decide
  rw [read_code code fine (fun eq => .inl (dash eq)) (by simp), Bracket.read_plain plain (by simp),
    if_pos rfl, waits]
  change Bracket.read { b.enter (memberCode m) with pending := .range ⟨memberCode m, false⟩ } []
    (last ++ more) = _
  rw [read_push code' (fun _ => .inl (by simp)) single]
  have wide : ¬ 128 ≤ memberCode m ∧ ¬ 128 ≤ memberCode last := by omega
  simp only [Bracket.push, Member.rangeTo, Member.isWide, Nat.not_lt_of_le upright, wide,
    Bool.not_false, Bool.true_and, decide_false, Bool.or_self, Bool.false_eq_true, if_false]
  rfl

/-- A named class is taken as its set; only the backspace may begin a range. -/
theorem read_named (named : isNamedClass m = true) (other : m ≠ ['\\', 'B']) (fine : b.Fine) :
    b.read [] (m ++ more) =
      (if m = ['\\', 'b'] then b.enter 8 else b.enlist (namedSet m)).read [] more := by
  obtain ⟨c, mem, rfl⟩ := isNamedClass_iff.mp named
  have push := Bracket.push_of_settled fine.settled 8
  have pushNamed := Bracket.pushNamed_of_settled fine.settled
  rw [List.cons_append, List.singleton_append, Bracket.read_escape]
  simp only [List.mem_cons, List.not_mem_nil, or_false] at mem
  rcases mem with rfl | rfl | rfl | rfl | rfl | rfl | rfl | rfl
  · have octal : isDigitIn 8 'b' = false := by decide
    simp [Bracket.pushEscape, Class.ofLetter?, Bracket.escaped, octal, Escape.read,
      Escape.control?, Bracket.pushEscaped, push, Except.map, Except.bind]
  · exact absurd rfl other
  all_goals
    simp [Bracket.pushEscape, Class.ofLetter?, pushNamed, Except.map, Except.bind, namedSet]

/-! ### Reading contents -/

/-- Whether members are ASCII characters and named classes only, no range is reversed, and none ends
in a named class or begins with the backspace. -/
def isOrderly : List (List Char) → Bool
  | [] => true
  | member :: dash :: last :: rest =>
    if dash = ['-'] ∧ !isNamedClass member then
      isCodeMember member && isCodeMember last && memberCode member ≤ memberCode last
        && isOrderly rest
    else
      isTameMember member && !(member == ['\\', 'b'] && dash == ['-'])
        && isOrderly (dash :: last :: rest)
  | member :: rest => isTameMember member && isOrderly rest

/-- Two members do not make up an intersection. -/
def Apart (a b : List Char) : Prop := ¬ (a = ['&'] ∧ b = ['&'])

instance (a b : List Char) : Decidable (Apart a b) := inferInstanceAs (Decidable (¬ _))

/-- The members of a class that is the same to the engine: besides being orderly, they do not
intersect anything. -/
structure Tame (ms : List (List Char)) : Prop where
  orderly : isOrderly ms = true
  apart : ms.IsChain Apart

instance (ms : List (List Char)) : Decidable (Tame ms) :=
  decidable_of_iff (isOrderly ms = true ∧ ms.IsChain Apart)
    ⟨fun h => ⟨h.1, h.2⟩, fun h => ⟨h.orderly, h.apart⟩⟩

theorem not_doubled {m : List Char} {ms : List (List Char)} (apart : (m :: ms).IsChain Apart)
    (ampersand : m = ['&']) : ms.head? ≠ some ['&'] := by
  rcases (List.isChain_cons_iff _ _ _).mp apart with rfl | ⟨next, rest, here, -, rfl⟩
  · simp
  · intro eq
    exact here ⟨ampersand, Option.some.inj eq⟩

/-- The code point is in one of the ranges or in a named class. -/
def Contents.Holds (c : Contents) (n : Nat) : Prop :=
  n ∈ covered c.ranges ∨ ∃ m ∈ c.named, (namedSet m).contains n = true

theorem Contents.holds_add (c : Contents) (m : List Char) (n : Nat) :
    (c.add m).Holds n ↔
      (if isNamedClass m = true then (namedSet m).contains n = true else n = memberCode m) ∨
        c.Holds n := by
  unfold add
  split
  · simp only [Holds, List.mem_cons, exists_eq_or_imp]
    exact or_left_comm
  · simp only [Holds, mem_covered_cons]
    rw [or_assoc]
    refine or_congr_left ?_
    omega

theorem isTameMember_of_orderly {m : List Char} {ms : List (List Char)}
    (h : isOrderly (m :: ms) = true) : isTameMember m = true := by
  match ms with
  | [] | [_] =>
    simp only [isOrderly, Bool.and_eq_true] at h
    exact h.1
  | dash :: last :: rest =>
    rw [isOrderly] at h
    split at h
    · simp only [Bool.and_eq_true] at h
      rw [isTameMember, h.1.1.1, Bool.true_or]
    · simp only [Bool.and_eq_true] at h
      exact h.1.1

/-- A member begins with a character that does not close the class, and is no other than that or an
escape. -/
theorem exists_first {m : List Char} {ms : List (List Char)} (h : isOrderly (m :: ms) = true) :
    ∃ c tail, m = c :: tail ∧ c ≠ ']' ∧ (c = '\\' ∨ m = [c]) := by
  have tame := isTameMember_of_orderly h
  rw [isTameMember, Bool.or_eq_true, Bool.and_eq_true] at tame
  rcases tame with code | ⟨named, -⟩
  · rcases isCodeMember_cases code with ⟨c, rfl, -, plain⟩ | ⟨c, rfl, -⟩ | ⟨mark, ds, rfl, -⟩
    · refine ⟨c, [], rfl, ?_, .inr rfl⟩
      rintro rfl
      simp at plain
    · exact ⟨'\\', [c], rfl, by decide, .inl rfl⟩
    · exact ⟨'\\', mark :: ds, rfl, by decide, .inl rfl⟩
  · obtain ⟨c, -, rfl⟩ := isNamedClass_iff.mp named
    exact ⟨'\\', [c], rfl, by decide, .inl rfl⟩

/-- Only the member `&` begins with that. -/
theorem head?_ampersand {ms : List (List Char)} (orderly : isOrderly ms = true) {more : List Char}
    (h : (ms.flatten ++ ']' :: more).head? = some '&') : ms.head? = some ['&'] := by
  cases ms with
  | nil => simp at h
  | cons m ms =>
    obtain ⟨c, tail, rfl, -, kind⟩ := exists_first orderly
    obtain rfl : c = '&' := by simpa using h
    rcases kind with escape | single
    · exact absurd escape (by decide)
    · rw [single]
      rfl

/-- A bracket is ready for members if a dash that comes first cannot make a range. -/
def Ready (b : Bracket) (ms : List (List Char)) : Prop :=
  ms.head? = some ['-'] → (∀ k, b.pending ≠ .member k) ∨ ms = [['-']]

/-- From the state on, the engine reads the text and finds what the contents hold. -/
def Reads (b : Bracket) (text : List Char) (c : Contents) : Prop :=
  ∃ b' : Bracket, b'.Fine ∧ b'.negated = b.negated ∧
    (∀ more, b.read [] (text ++ ']' :: more) = .ok (b'.close, more)) ∧
    ∀ n, b'.Holds n ↔ b.Holds n ∨ c.Holds n

theorem Reads.step {b b' : Bracket} {front rest : List Char} {c c' : Contents}
    (next : Reads b' rest c) (negated : b'.negated = b.negated)
    (read : ∀ more, b.read [] (front ++ (rest ++ ']' :: more)) = b'.read [] (rest ++ ']' :: more))
    (holds : ∀ n, b'.Holds n ∨ c.Holds n ↔ b.Holds n ∨ c'.Holds n) :
    Reads b (front ++ rest) c' := by
  obtain ⟨last, fine, same, reads, taken⟩ := next
  refine ⟨last, fine, same.trans negated, fun more => ?_, fun n => (taken n).trans (holds n)⟩
  rw [List.append_assoc, read, reads]

theorem caseless_namedSet {m : List Char} (named : isNamedClass m = true)
    (other : m ≠ ['\\', 'B']) : (namedSet m).Caseless := by
  have letter (c : Char) (ne : c ≠ 'b') (known : (Class.ofLetter? c).isSome = true) :
      (namedSet ['\\', c]).Caseless := by
    obtain ⟨s, found⟩ := Option.isSome_iff_exists.mp known
    have same : namedSet ['\\', c] = s := by
      rw [namedSet.eq_2 c fun eq => ne eq, found, Option.getD_some]
    rw [same]
    exact Class.caseless_of_ofLetter? found
  obtain ⟨c, mem, rfl⟩ := isNamedClass_iff.mp named
  simp only [List.mem_cons, List.not_mem_nil, or_false] at mem
  rcases mem with rfl | rfl | rfl | rfl | rfl | rfl | rfl | rfl
  · exact Class.caseless_single (by decide)
  · exact absurd rfl other
  all_goals exact letter _ (by decide) rfl

/-- A member that is not part of a range. -/
theorem reads_cons {m : List Char} {ms : List (List Char)} {b : Bracket} (fine : b.Fine)
    (tame : isTameMember m = true) (orderly : isOrderly ms = true) (ready : Ready b (m :: ms))
    (single : m = ['&'] → ms.head? ≠ some ['&'])
    (alone : isNamedClass m = false ∨ m = ['\\', 'b'] → ms.head? = some ['-'] → ms = [['-']])
    (next : ∀ b : Bracket, b.Fine → Ready b ms → Reads b ms.flatten (Contents.ofMembers ms)) :
    Reads b (m :: ms).flatten ((Contents.ofMembers ms).add m) := by
  rw [List.flatten_cons]
  have apart (more : List Char) (eq : m = ['&']) : (ms.flatten ++ ']' :: more).head? ≠ some '&' :=
    fun ampersand => single eq (head?_ampersand orderly ampersand)
  rw [isTameMember, Bool.or_eq_true, Bool.and_eq_true, bne_iff_ne] at tame
  by_cases named : isNamedClass m = true
  · have other : m ≠ ['\\', 'B'] := by
      rcases tame with code | ⟨-, other⟩
      · rintro rfl
        revert code
        decide
      · exact other
    by_cases backspace : m = ['\\', 'b']
    · have after := next (b.enter 8) (fine.enter 8)
        fun dash => .inr (alone (.inr backspace) dash)
      refine after.step (Bracket.settle_negated b) (fun more => ?_) fun n => ?_
      · rw [read_named named other fine, if_pos backspace]
      · rw [Bracket.holds_enter, Contents.holds_add, if_pos named, backspace, namedSet,
          CodeSet.contains_single, decide_eq_true_iff, or_assoc]
    · have sorted := (caseless_namedSet named other).sorted
      have after := next (b.enlist (namedSet m)) (fine.enlist sorted)
        fun _ => .inl (by simp [Bracket.enlist])
      refine after.step (Bracket.settle_negated b) (fun more => ?_) fun n => ?_
      · rw [read_named named other fine, if_neg backspace]
      · rw [Bracket.holds_enlist, Contents.holds_add, if_pos named, or_assoc]
  · have code := tame.resolve_right fun h => named h.1
    rw [Bool.not_eq_true] at named
    have after := next (b.enter (memberCode m)) (fine.enter _)
      fun dash => .inr (alone (.inl named) dash)
    refine after.step (Bracket.settle_negated b) (fun more => ?_) fun n => ?_
    · refine read_code code fine (fun dash => ?_) (apart more)
      rcases ready (by rw [dash]; rfl) with none | last
      · exact .inl none
      · obtain ⟨-, rfl⟩ : m = ['-'] ∧ ms = [] := by simpa using last
        exact .inr rfl
    · rw [Bracket.holds_enter, Contents.holds_add, named, if_neg Bool.false_ne_true, or_assoc]

/-- The engine reads members as they are read when cases are folded. -/
theorem reads_members {ms : List (List Char)} (tame : Tame ms) {b : Bracket} (fine : b.Fine)
    (ready : Ready b ms) : Reads b ms.flatten (Contents.ofMembers ms) := by
  obtain ⟨orderly, apart⟩ := tame
  fun_induction Contents.ofMembers ms generalizing b with
  | case1 =>
    refine ⟨b, fine, rfl, fun more => Bracket.read_close b more, fun n => ?_⟩
    simp [Contents.Holds, covered]
  | case2 m dash last rest range c =>
    rename_i ih
    obtain ⟨rfl, unnamed⟩ := range
    rw [isOrderly, if_pos ⟨rfl, unnamed⟩] at orderly
    simp only [Bool.and_eq_true, decide_eq_true_eq] at orderly
    obtain ⟨⟨⟨code, code'⟩, upright⟩, orderly⟩ := orderly
    have small := memberCode_lt_of_isCodeMember code'
    have joined : (m :: ['-'] :: last :: rest).flatten = (m ++ '-' :: last) ++ rest.flatten := by
      simp
    rw [joined]
    have next := ih (fine.span (k := memberCode m) small)
      (fun _ => .inl (by simp [Bracket.span])) orderly apart.tail.tail.tail
    refine next.step (Bracket.settle_negated b) (fun more => ?_) fun n => ?_
    · rw [List.append_assoc, List.cons_append]
      refine read_range code code' upright fine (fun dash => ?_) fun ampersand eq => ?_
      · rcases ready (by rw [dash]; rfl) with none | last
        · exact none
        · simp at last
      · exact not_doubled apart.tail.tail ampersand (head?_ampersand orderly eq)
    · rw [Bracket.holds_span small, Contents.Holds, Contents.Holds, mem_covered_cons]
      tauto
  | case3 m dash last rest single ih =>
    have tame := isTameMember_of_orderly orderly
    rw [isOrderly, if_neg single] at orderly
    simp only [Bool.and_eq_true, Bool.not_eq_true', Bool.and_eq_false_iff,
      beq_eq_false_iff_ne] at orderly
    obtain ⟨⟨-, backspace⟩, orderly⟩ := orderly
    refine reads_cons fine tame orderly ready (not_doubled apart) (fun kind head => ?_)
      fun b fine ready => ih fine ready orderly apart.tail
    obtain rfl : dash = ['-'] := by simpa using head
    rcases kind with unnamed | eq
    · exact absurd ⟨rfl, by rw [unnamed]; rfl⟩ single
    · exact absurd rfl (backspace.resolve_left (not_not_intro eq))
  | case4 m rest short ih =>
    have tame := isTameMember_of_orderly orderly
    have others : isOrderly rest = true := by
      rw [isOrderly] at orderly
      · exact (Bool.and_eq_true _ _ ▸ orderly).2
      · exact short
    refine reads_cons fine tame others ready (not_doubled apart) (fun _ head => ?_)
      fun b fine ready => ih fine ready others apart.tail
    cases rest with
    | nil => cases head
    | cons dash rest =>
      cases rest with
      | nil => simpa using head
      | cons last rest => exact absurd rfl (short dash last rest)

end Tincture.Union
