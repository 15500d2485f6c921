import Tincture.Proofs.Union.BothCases
import Tincture.Proofs.Union.Rewriting

/-!
What the parts of a pattern look like.

`Part.split` looks at the text in front of it to find where a part ends, so each part has a form of
its own (`Part.Formed`): a class is closed by its last character and nowhere before, an escape is
that of one character with no digits or hexadecimal ones behind it, and literal text has nothing
special in it. Every part of a pattern is of that form (`Part.formed_of_mem_split`), whatever the
pattern is.

A class that is folded is closed in the same way, since each of its members is passed over in the
search for the closing bracket (`Part.closedClass_foldClass`).
-/

namespace Tincture.Union.Part

/-! ### Closed classes -/

/-- The characters behind an opening bracket up to the one that closes the class. -/
def ClosedClass (body : List Char) : Prop := classLength? body = some body.length

instance (body : List Char) : Decidable (ClosedClass body) :=
  inferInstanceAs (Decidable (_ = _))

theorem classLength?_append {body : List Char} {n : Nat} (h : classLength? body = some n)
    (more : List Char) : classLength? (body ++ more) = some n := by
  fun_induction classLength? body generalizing n with
  | case1 => cases h
  | case2 rest => exact h
  | case3 c rest ih =>
    obtain ⟨m, length, rfl⟩ := Option.map_eq_some_iff.mp h
    simp only [List.cons_append, classLength?, ih length, Option.map_some]
  | case4 c rest closing escaping ih =>
    obtain ⟨m, length, rfl⟩ := Option.map_eq_some_iff.mp h
    rw [List.cons_append, classLength?, ih length, Option.map_some]
    · exact closing
    · -- A backslash at the end would have left nothing to close the class.
      rintro d tail rfl eq
      cases rest with
      | nil => cases length
      | cons e rest => exact escaping e rest rfl rfl

theorem ClosedClass.length?_append {body : List Char} (h : ClosedClass body) (more : List Char) :
    classLength? (body ++ more) = some body.length :=
  classLength?_append h more

/-- The class ends where its length says, which is within the text. -/
theorem closedClass_take {cs : List Char} {n : Nat} (h : classLength? cs = some n) :
    ClosedClass (cs.take n) := by
  suffices n ≤ cs.length ∧ classLength? (cs.take n) = some n by
    rw [ClosedClass, this.2, List.length_take, Nat.min_eq_left this.1]
  fun_induction classLength? cs generalizing n with
  | case1 => cases h
  | case2 rest =>
    cases h
    exact ⟨by simp, rfl⟩
  | case3 c rest ih =>
    obtain ⟨m, length, rfl⟩ := Option.map_eq_some_iff.mp h
    obtain ⟨le, closed⟩ := ih length
    refine ⟨by simpa using le, ?_⟩
    simp only [List.take_succ_cons, classLength?, closed, Option.map_some]
  | case4 c rest closing escaping ih =>
    obtain ⟨m, length, rfl⟩ := Option.map_eq_some_iff.mp h
    obtain ⟨le, closed⟩ := ih length
    refine ⟨by simpa using le, ?_⟩
    rw [List.take_succ_cons, classLength?, closed, Option.map_some]
    · exact closing
    · rintro d tail rfl taken
      cases rest with
      | nil => cases length
      | cons e rest => exact escaping e rest rfl rfl

/-! ### Parts -/

/-- What stands between the parenthesis of a group that does not capture and the group itself. -/
def queries : List (List Char) :=
  [['?', '<', '='], ['?', '<', '!'], ['?', ':'], ['?', '='], ['?', '!'], ['?', '>']]

/-- The forms of parts. A bracket and a backslash are literal text where they begin no class and no
escape. -/
inductive Formed : Part → Prop
  | bracket {body : List Char} (closed : ClosedClass body) : Formed (.bracket ('[' :: body))
  | escape {c : Char} {ds : List Char} (digit : c.isDigit = false)
      (hexadecimal : ∀ d ∈ ds, isDigitIn 16 d = true) : Formed (.escape ('\\' :: c :: ds))
  | numeric {ds : List Char} (nonempty : ds ≠ []) (decimal : ∀ d ∈ ds, d.isDigit = true) :
      Formed (.numeric ('\\' :: ds) (numeral 10 ds))
  | nonCapturing {query : List Char} (mem : query ∈ queries) :
      Formed (.nonCapturing ('(' :: query))
  | group : Formed .group
  | close : Formed .close
  | caret : Formed .caret
  | literal {text : List Char} (plain : ∀ c ∈ text, isSpecial c = false) : Formed (.literal text)
  | opening : Formed (.literal ['['])
  | backslash : Formed (.literal ['\\'])

theorem isDigitIn_of_mem_leadingDigits {radix most : Nat} {cs : List Char} :
    ∀ d ∈ leadingDigits radix most cs, isDigitIn radix d = true :=
  fun _ mem => List.mem_takeWhile_imp mem

theorem leadingDigits_eq_take {radix most : Nat} {cs : List Char}
    (all : (leadingDigits radix most cs).length = most) :
    cs.take most = leadingDigits radix most cs := by
  have short := List.length_take_le most cs
  exact ((List.takeWhile_prefix _).eq_of_length_le (by rw [← leadingDigits, all]; exact short)).symm

theorem formed_ofEscape (rest : List Char) : (ofEscape rest).Formed := by
  have counted (c : Char) (letter : c.isDigit = false) (most : Nat) (more : List Char)
      (all : (leadingDigits 16 most more).length = most) :
      Formed (.escape ('\\' :: c :: more.take most)) := by
    rw [leadingDigits_eq_take all]
    exact .escape letter isDigitIn_of_mem_leadingDigits
  cases rest with
  | nil => exact .backslash
  | cons c more =>
    unfold ofEscape
    dsimp only
    split_ifs with four two digit
    · simp only [Bool.and_eq_true, beq_iff_eq] at four
      obtain ⟨rfl, all⟩ := four
      exact counted 'u' (by decide) 4 more all
    · simp only [Bool.and_eq_true, beq_iff_eq] at two
      obtain ⟨rfl, all⟩ := two
      exact counted 'x' (by decide) 2 more all
    · refine .numeric (List.cons_ne_nil _ _) (List.forall_mem_cons.mpr ⟨digit, fun d mem => ?_⟩)
      exact List.mem_takeWhile_imp mem
    · exact .escape (by simpa using digit) (by simp)

theorem formed_ofParenthesis (rest : List Char) : (ofParenthesis rest).Formed := by
  unfold ofParenthesis
  split
  any_goals exact .nonCapturing (by decide)
  exact .group

theorem formed_first (c : Char) (rest : List Char) : (first c rest).Formed := by
  by_cases special : isSpecial c = true
  · simp only [isSpecial, Bool.or_eq_true, beq_iff_eq] at special
    rcases special with (((rfl | rfl) | rfl) | rfl) | rfl
    · simp only [first]
      cases length : classLength? rest with
      | none => exact .opening
      | some n => exact .bracket (closedClass_take length)
    · exact formed_ofEscape rest
    · exact formed_ofParenthesis rest
    · exact .close
    · exact .caret
  · rw [Bool.not_eq_true] at special
    rw [first_of_plain special]
    refine .literal (List.forall_mem_cons.mpr ⟨special, fun d mem => ?_⟩)
    simpa using List.mem_takeWhile_imp mem

/-- Every part of a pattern is of its form. -/
theorem formed_of_mem_split {cs : List Char} : ∀ part ∈ split cs, part.Formed := by
  fun_induction split cs with
  | case1 => exact fun _ mem => absurd mem List.not_mem_nil
  | case2 c rest part ih => exact List.forall_mem_cons.mpr ⟨formed_first c rest, ih⟩

/-! ### Folded classes -/

/-- In search of the bracket that closes a class, the characters are passed over. -/
def Passed (member : List Char) : Prop :=
  ∀ rest, classLength? (member ++ rest) = (classLength? rest).map (· + member.length)

theorem passed_nil : Passed [] := fun rest => by simp

theorem Passed.append {member others : List Char} (h : Passed member) (h' : Passed others) :
    Passed (member ++ others) := by
  intro rest
  rw [List.append_assoc, h, h', Option.map_map, List.length_append]
  congr 1
  funext n
  simp only [Function.comp_apply]
  omega

theorem passed_flatten {ms : List (List Char)} (h : ∀ m ∈ ms, Passed m) : Passed ms.flatten := by
  induction ms with
  | nil => exact passed_nil
  | cons m ms ih =>
    obtain ⟨first, others⟩ := List.forall_mem_cons.mp h
    exact first.append (ih others)

theorem passed_symbol {c : Char} (closing : c ≠ ']') (escaping : c ≠ '\\') : Passed [c] := by
  intro rest
  rw [List.singleton_append, classLength?]
  · rfl
  · exact closing
  · exact fun _ _ eq => absurd eq escaping

theorem passed_escape (c : Char) : Passed ['\\', c] := fun _ => rfl

theorem passed_hexadecimal {ds : List Char} (h : ∀ d ∈ ds, isDigitIn 16 d = true) : Passed ds := by
  induction ds with
  | nil => exact passed_nil
  | cons d ds ih =>
    obtain ⟨first, others⟩ := List.forall_mem_cons.mp h
    have symbol : Passed [d] := by
      refine passed_symbol ?_ ?_ <;>
      · rintro rfl
        revert first
        decide
    exact symbol.append (ih others)

theorem passed_encodeMember (n : Nat) : Passed (encodeMember n) := by
  have numbered (letter : Char) (width m : Nat) :
      Passed (['\\', letter] ++ digits 16 width m) :=
    (passed_escape letter).append
      (passed_hexadecimal (isDigitIn_of_mem_digits (by decide) (by decide)))
  unfold encodeMember
  split_ifs
  · exact numbered 'x' 2 n
  · dsimp only
    split_ifs with special
    · exact passed_escape _
    · have plain := mt List.contains_iff_mem.mpr special
      simp only [List.mem_cons, List.not_mem_nil, or_false, not_or] at plain
      exact passed_symbol plain.2.2.2.1 plain.1
  · exact numbered 'u' 4 n

theorem passed_rangeMembers (range : Nat × Nat) : ∀ m ∈ rangeMembers range, Passed m := by
  intro m mem
  rcases List.mem_cons.mp mem with rfl | mem
  · exact passed_encodeMember _
  · split at mem
    · rcases List.mem_cons.mp mem with rfl | mem
      · exact passed_symbol (by decide) (by decide)
      · rw [List.mem_singleton.mp mem]
        exact passed_encodeMember _
    · cases mem

/-- A class that is folded is closed by its last character, whatever it was before. -/
theorem closedClass_foldClass (text : List Char) :
    ∃ body, foldClass text = '[' :: body ∧ ClosedClass body := by
  refine ⟨_, ClassReading.foldClass_eq_write text, ?_⟩
  have passed : Passed (ClassReading.of text).folded.written.flatten := by
    refine passed_flatten fun m mem => ?_
    rcases List.mem_append.mp mem with caret | mem
    · split at caret
      · rw [List.mem_singleton.mp caret]
        exact passed_symbol (by decide) (by decide)
      · cases caret
    · rcases List.mem_append.mp mem with named | ranged
      · obtain ⟨c, -, rfl⟩ := isNamedClass_iff.mp ((ClassReading.of_bounded text).1 m named)
        exact passed_escape c
      · obtain ⟨r, -, mem⟩ := List.mem_flatMap.mp ranged
        exact passed_rangeMembers r m mem
  rw [ClosedClass, passed, List.length_append]
  simp [classLength?, Nat.add_comm]

end Tincture.Union.Part
