import Mathlib.Data.List.TakeWhile
import Tincture.Proofs.Regex.Locality

/-!
The inside of bracket classes.

A bracket class that has no class in it and intersects nothing ends at the first closing bracket
that is not escaped. An escape may take along characters that come after its letter: digits, a
property in braces, further bytes of a character. None of them can be a closing bracket, since with
it the escape could not be read; only a control character can. So the inside of a class is known
from its text alone (`ClassBody`), and reading it takes all of it and does not depend on what
follows the closing bracket (`ClassText.read_body`).
-/

namespace Tincture.Regex

/-- The inside of a bracket class, without other classes and without intersections. The character
after `\c` belongs to it and must not be the closing bracket. -/
inductive ClassBody : List Char → Prop where
  | nil : ClassBody []
  | plain {c : Char} {rest : List Char} (member : c ≠ '\\' ∧ c ≠ '[' ∧ c ≠ ']')
      (single : c = '&' → rest.head? ≠ some '&') (body : ClassBody rest) : ClassBody (c :: rest)
  | escaped {c : Char} {rest : List Char} (control : c = 'c' → rest ≠ [])
      (body : ClassBody rest) : ClassBody ('\\' :: c :: rest)

/-- Whether a text is the inside of such a class. -/
def isClassBody : List Char → Bool
  | [] => true
  | '\\' :: c :: rest => !(c == 'c' && rest.isEmpty) && isClassBody rest
  | c :: rest =>
    !(['\\', '[', ']'].contains c) && !(c == '&' && rest.head? == some '&') && isClassBody rest

namespace ClassBody

theorem of_isClassBody {body : List Char} (h : isClassBody body = true) : ClassBody body := by
  fun_induction isClassBody body with
  | case1 => exact .nil
  | case2 c rest ih =>
    obtain ⟨control, h⟩ := Bool.and_eq_true_iff.mp h
    simp only [Bool.not_eq_true', Bool.and_eq_false_iff, beq_eq_false_iff_ne,
      List.isEmpty_eq_false_iff] at control
    exact .escaped (fun letter => control.resolve_left (not_not_intro letter)) (ih h)
  | case3 c rest _ ih =>
    simp only [Bool.and_eq_true] at h
    obtain ⟨⟨plain, single⟩, h⟩ := h
    simp only [Bool.not_eq_true', Bool.and_eq_false_iff, beq_eq_false_iff_ne] at single
    exact .plain (by simpa using plain)
      (fun ampersand => single.resolve_left (not_not_intro ampersand)) (ih h)

/-- Characters other than backslashes may be taken from the front. -/
theorem of_append {taken left : List Char} (plain : ∀ c ∈ taken, c ≠ '\\')
    (inside : ClassBody (taken ++ left)) : ClassBody left := by
  induction taken with
  | nil => exact inside
  | cons c taken ih =>
    obtain ⟨here, others⟩ := List.forall_mem_cons.mp plain
    generalize eq : c :: taken ++ left = text at inside
    cases inside with
    | nil => cases eq
    | plain member single body =>
      cases eq
      exact ih others body
    | escaped control body => exact absurd (List.cons.inj eq).1 here

end ClassBody

/-! ### What an escape takes along -/

/-- So many characters may be taken from the inside of a class, and the inside of one is left. -/
structure Takes (body : List Char) (used : Nat) : Prop where
  le : used ≤ body.length
  left : ClassBody (body.drop used)

namespace Takes

variable {body rest : List Char} {n m : Nat}

theorem zero (inside : ClassBody body) : Takes body 0 := ⟨Nat.zero_le _, inside⟩

theorem add (h : Takes body n) (h' : Takes (body.drop n) m) : Takes body (n + m) := by
  have le := h'.le
  rw [List.length_drop] at le
  refine ⟨by have := h.le; omega, ?_⟩
  rw [← List.drop_drop]
  exact h'.left

theorem drop_append (h : Takes body n) (tail : List Char) :
    (body ++ tail).drop n = body.drop n ++ tail := List.drop_append_of_le_length h.le

theorem front {taken left : List Char} (plain : ∀ c ∈ taken, c ≠ '\\')
    (inside : ClassBody (taken ++ left)) : Takes (taken ++ left) taken.length := by
  refine ⟨by simp, ?_⟩
  rw [List.drop_left]
  exact .of_append plain inside

theorem escaped {c : Char} (h : Takes rest n) : Takes ('\\' :: c :: rest) (n + 2) :=
  ⟨Nat.add_le_add_right h.le 2, h.left⟩

/-- Digits may be taken. -/
theorem leadingDigits (inside : ClassBody body) (radix most : Nat) :
    Takes body (leadingDigits radix most body).length := by
  have front := (List.takeWhile_prefix (isDigitIn radix)).trans (List.take_prefix most body)
  obtain ⟨left, eq⟩ := front
  have plain : ∀ c ∈ Tincture.leadingDigits radix most body, c ≠ '\\' := by
    rintro c mem rfl
    have digit := List.mem_takeWhile_imp mem
    simp [isDigitIn, digitValue?] at digit
  have inside : ClassBody (Tincture.leadingDigits radix most body ++ left) := by
    rwa [Tincture.leadingDigits, eq]
  have taken := Takes.front plain inside
  rwa [Tincture.leadingDigits, eq] at taken

end Takes

/-- A closing bracket is no digit. -/
theorem leadingDigits_close (radix most : Nat) (body more : List Char) :
    leadingDigits radix most (body ++ ']' :: more) = leadingDigits radix most body := by
  have stops : ¬ isDigitIn radix ']' = true := by simp [isDigitIn, digitValue?]
  unfold leadingDigits
  rw [List.take_append]
  cases room : most - body.length with
  | zero => rw [List.take_zero, List.append_nil]
  | succ room => rw [List.take_succ_cons, takeWhile_append_cons _ _ stops]

namespace Escape

variable {c : Char} {body more : List Char} {used : Nat}

theorem controlCode_body {n : Nat} (inside : ClassBody body) (nonempty : body ≠ [])
    (h : controlCode (body ++ ']' :: more) = .ok (n, used)) :
    Takes body used ∧ ∀ more, controlCode (body ++ ']' :: more) = .ok (n, used) := by
  induction inside generalizing n used with
  | nil => exact absurd rfl nonempty
  | @plain c rest member single inside ih =>
    have taken : Takes (c :: rest) 1 := ⟨by simp, inside⟩
    by_cases query : c = '?'
    · subst query
      cases h
      exact ⟨taken, fun _ => rfl⟩
    · have first (text : List Char) :
          controlCode (c :: text) = .ok (c.toNat % 32 + c.toNat / 128 % 2 * 128, 1) :=
        controlCode.eq_6 c text query (fun _ eq => absurd eq member.1)
          (fun _ _ eq => absurd eq member.1) (fun eq => absurd eq member.1)
      rw [List.cons_append, first] at h
      cases h
      exact ⟨taken, fun _ => first _⟩
  | @escaped c rest control inside ih =>
    by_cases chained : c = 'c'
    · subst chained
      simp only [List.cons_append, controlCode] at h ⊢
      obtain ⟨⟨m, n'⟩, inner, h⟩ := ok_of_bind h
      cases h
      obtain ⟨taken, always⟩ := ih (control rfl) inner
      refine ⟨taken.escaped, fun more => ?_⟩
      rw [always more]
      rfl
    · have first (text : List Char) := controlCode.eq_4 c text chained
      rw [List.cons_append, List.cons_append, first] at h
      cases h
      exact ⟨(Takes.zero inside).escaped, fun _ => first _⟩

theorem read_body {e : Escaped} (inside : ClassBody body) (control : c = 'c' → body ≠ [])
    (h : read c (body ++ ']' :: more) = .ok (e, used)) :
    Takes body used ∧ ∀ more, read c (body ++ ']' :: more) = .ok (e, used) := by
  have filled (more : List Char) : (body ++ ']' :: more).isEmpty = false := by simp
  simp only [read, filled, leadingDigits_close, Bool.not_false, Bool.and_true] at h ⊢
  by_cases x : (c == 'x') = true
  · simp only [if_pos x] at h ⊢
    cases h
    exact ⟨.leadingDigits inside 16 2, fun _ => rfl⟩
  by_cases u : (c == 'u') = true
  · simp only [if_neg x, if_pos u] at h ⊢
    split at h
    · rename_i four
      cases h
      exact ⟨four ▸ .leadingDigits inside 16 4, fun _ => if_pos four⟩
    · cases h
  by_cases letter : (c == 'c') = true
  · simp only [if_neg x, if_neg u, if_pos letter] at h ⊢
    obtain ⟨⟨n, n'⟩, coded, h⟩ := ok_of_bind h
    cases h
    obtain ⟨taken, always⟩ := controlCode_body inside (control (beq_iff_eq.mp letter)) coded
    refine ⟨taken, fun more => ?_⟩
    rw [always more]
    rfl
  · simp only [if_neg x, if_neg u, if_neg letter] at h ⊢
    cases h
    exact ⟨.zero inside, fun _ => rfl⟩

/-- Octal digits, the first of which has been read. -/
theorem leadingDigits_cons (digit : isDigitIn 8 c = true) (text : List Char) :
    leadingDigits 8 3 (c :: text) = c :: leadingDigits 8 2 text := by
  rw [leadingDigits, List.take_succ_cons, List.takeWhile_cons_of_pos digit]
  rfl

theorem byte?_body {result : Nat × Nat × Nat} (inside : ClassBody body)
    (h : byte? (body ++ ']' :: more) = some result) :
    Takes body result.2.2 ∧ ∀ more, byte? (body ++ ']' :: more) = some result := by
  cases inside with
  | nil => cases h
  | plain member =>
    rw [List.cons_append, byte?] at h
    · cases h
    · rintro _ _ eq
      exact absurd (List.cons.inj eq).1 member.1
  | @escaped c rest control inside =>
    have filled (more : List Char) : (rest ++ ']' :: more).isEmpty = false := by simp
    simp only [List.cons_append, byte?, filled, leadingDigits_close, Bool.not_false,
      Bool.and_true, octal] at h ⊢
    by_cases x : (c == 'x') = true
    · simp only [if_pos x] at h ⊢
      cases h
      exact ⟨(Takes.leadingDigits inside 16 2).escaped, fun _ => rfl⟩
    by_cases digit : isDigitIn 8 c = true
    · simp only [if_neg x, if_pos digit, leadingDigits_cons digit, leadingDigits_close] at h ⊢
      cases h
      exact ⟨(Takes.leadingDigits inside 8 2).escaped, fun _ => rfl⟩
    · simp only [if_neg x, if_neg digit] at h
      cases h

theorem bytes?_body {radix : Option Nat} {count : Nat} {bytes : List Nat}
    (inside : ClassBody body) (h : bytes? radix count (body ++ ']' :: more) = some (bytes, used)) :
    Takes body used ∧ ∀ more, bytes? radix count (body ++ ']' :: more) = some (bytes, used) := by
  induction count generalizing body bytes used with
  | zero =>
    cases h
    exact ⟨.zero inside, fun _ => rfl⟩
  | succ count ih =>
    simp only [bytes?, bind, Option.bind_eq_some_iff] at h
    obtain ⟨⟨b, r, here⟩, first, h⟩ := h
    dsimp only at h
    split at h
    · rename_i fits
      simp only [Option.bind_eq_some_iff] at h
      obtain ⟨⟨bs, further⟩, others, h⟩ := h
      cases h
      obtain ⟨taken, always⟩ := byte?_body inside first
      rw [taken.drop_append] at others
      obtain ⟨rest, always'⟩ := ih taken.left others
      refine ⟨taken.add rest, fun more => ?_⟩
      simp only [bytes?, bind, always more, Option.bind_some]
      rw [if_pos fits, taken.drop_append, always' more]
      rfl
    · cases h

end Escape

/-- The names that are known have neither backslashes nor closing brackets. -/
theorem Class.plain_of_known {key : List Char} {set : CodeSet}
    (h : (if key = "any".toList then some all else named.lookup (String.ofList key)) = some set) :
    ∀ c ∈ key, c ≠ '\\' ∧ c ≠ ']' := by
  have all : ("any" :: named.map (·.1)).all
      (fun key => key.toList.all fun c => c != '\\' && c != ']') = true := by decide +kernel
  have keys : ∀ key ∈ "any" :: named.map (·.1), ∀ c ∈ key.toList, c ≠ '\\' ∧ c ≠ ']' := by
    simpa only [List.all_eq_true, Bool.and_eq_true, bne_iff_ne] using all
  split at h
  · rename_i any
    rw [any]
    exact keys _ List.mem_cons_self
  · obtain ⟨before, after, entered, -⟩ := List.lookup_eq_some_iff.mp h
    have mem : String.ofList key ∈ named.map (·.1) := by
      rw [entered]
      simp
    have plain := keys _ (List.mem_cons_of_mem _ mem)
    rwa [String.toList_ofList] at plain

/-- The name of a property has neither backslashes nor closing brackets. -/
theorem Class.plain_of_ofProperty? {name : List Char} {set : CodeSet}
    (h : ofProperty? name = some set) : ∀ c ∈ name, c ≠ '\\' ∧ c ≠ ']' := by
  unfold ofProperty? at h
  split at h
  rename_i negated text split
  obtain ⟨found, known, -⟩ := Option.map_eq_some_iff.mp h
  have plain := plain_of_known known
  -- What is left out of a name and what is written small in it are other characters.
  have kept {c : Char} (mem : c ∈ text) (odd : c = '\\' ∨ c = ']') :
      c ∈ (text.filter fun c => c != ' ' && c != '-' && c != '_').map Char.toLower := by
    have same : c.toLower = c := by rcases odd with rfl | rfl <;> rfl
    rw [← same]
    refine List.mem_map_of_mem (List.mem_filter.mpr ⟨mem, ?_⟩)
    rcases odd with rfl | rfl <;> rfl
  have each : ∀ c ∈ text, c ≠ '\\' ∧ c ≠ ']' := fun c mem =>
    ⟨fun odd => (plain c (kept mem (.inl odd))).1 odd,
      fun odd => (plain c (kept mem (.inr odd))).2 odd⟩
  split at split
  · cases split
    exact List.forall_mem_cons.mpr ⟨by decide, each⟩
  · cases split
    exact each

namespace Bracket

variable {b b' : Bracket} {c : Char} {body more : List Char} {used : Nat}

theorem escaped_body {e : Escaped} (inside : ClassBody body) (control : c = 'c' → body ≠ [])
    (h : escaped c (body ++ ']' :: more) = .ok (e, used)) :
    Takes body used ∧ ∀ more, escaped c (body ++ ']' :: more) = .ok (e, used) := by
  unfold escaped at h ⊢
  split at h
  · rename_i digit
    simp only [Escape.octal, Escape.leadingDigits_cons digit, leadingDigits_close] at h ⊢
    split at h
    · rename_i small
      cases h
      exact ⟨.leadingDigits inside 8 2, fun _ => by rw [if_pos digit, if_pos small]⟩
    · cases h
  · rename_i digit
    obtain ⟨taken, always⟩ := Escape.read_body inside control h
    exact ⟨taken, fun more => by rw [if_neg digit, always more]⟩

theorem pushEscaped_body {e : Escaped} {total : Nat} (inside : ClassBody body)
    (h : b.pushEscaped (body ++ ']' :: more) used e = .ok (b', total)) :
    ∃ further, total = used + further ∧ Takes body further ∧
      ∀ more, b.pushEscaped (body ++ ']' :: more) used e = .ok (b', total) := by
  cases e with
  | code n => exact ⟨0, eq_of_map_ok h, .zero inside, fun _ => h⟩
  | byte n radix =>
    simp only [pushEscaped] at h ⊢
    cases read : Escape.bytes? (some radix) (Escape.followers n) (body ++ ']' :: more) with
    | none =>
      rw [read] at h
      cases h
    | some result =>
      obtain ⟨bytes, further⟩ := result
      obtain ⟨taken, always⟩ := Escape.bytes?_body inside read
      simp only [always] at h ⊢
      split at h
      · rename_i alone
        exact ⟨0, eq_of_map_ok h, .zero inside, fun _ => by rw [if_pos alone]; exact h⟩
      · rename_i several
        simp only [if_neg several]
        split at h
        · exact ⟨further, eq_of_map_ok h, taken, fun _ => h⟩
        · cases h

/-- A property in braces ends within the class. -/
theorem property_body {set : CodeSet} (inside : ClassBody body) (opens : body.head? = some '\x7b')
    (known : Class.ofProperty? ((body ++ ']' :: more).tail.takeWhile (· != '\x7d')) = some set) :
    ∃ name, Takes body (name.length + 2) ∧
      ∀ more, (body ++ ']' :: more).tail.takeWhile (· != '\x7d') = name := by
  obtain ⟨rest, rfl⟩ : ∃ rest, body = '\x7b' :: rest := List.head?_eq_some_iff.mp opens
  have plain := Class.plain_of_ofProperty? known
  simp only [List.cons_append, List.tail_cons] at plain ⊢
  by_cases closed : '\x7d' ∈ rest
  · obtain ⟨name, left, rfl, fresh⟩ := List.eq_append_cons_of_mem closed
    have same (more : List Char) :
        (name ++ '\x7d' :: left ++ ']' :: more).takeWhile (· != '\x7d') = name := by
      rw [List.append_assoc, List.cons_append, takeWhile_append_cons _ _ (by simp)]
      exact List.takeWhile_eq_self_iff.mpr fun c mem => bne_iff_ne.mpr fun eq => fresh (eq ▸ mem)
    rw [same] at plain
    refine ⟨name, ?_, same⟩
    have spelled : '\x7b' :: (name ++ '\x7d' :: left) =
        '\x7b' :: (name ++ ['\x7d']) ++ left := by simp
    have length : name.length + 2 = ('\x7b' :: (name ++ ['\x7d'])).length := by simp
    rw [spelled] at inside ⊢
    rw [length]
    refine .front ?_ inside
    simp only [List.mem_cons, List.mem_append, List.not_mem_nil, or_false]
    rintro c (rfl | mem | rfl)
    · decide
    · exact (plain c mem).1
    · decide
  · have all : ∀ c ∈ rest, (c != '\x7d') = true := by
      intro c mem
      exact bne_iff_ne.mpr fun eq => closed (eq ▸ mem)
    rw [List.takeWhile_append_of_pos all, List.takeWhile_cons_of_pos (by decide)] at plain
    exact absurd rfl (plain ']' (by simp)).2

/-- An escape takes along some of the inside of the class, the same whatever follows the class. -/
theorem pushEscape_body (inside : ClassBody body) (control : c = 'c' → body ≠ [])
    (h : b.pushEscape c (body ++ ']' :: more) = .ok (b', used)) :
    Takes body used ∧ ∀ more, b.pushEscape c (body ++ ']' :: more) = .ok (b', used) := by
  unfold pushEscape at h ⊢
  cases named : Class.ofLetter? c with
  | some set =>
    simp only [named] at h ⊢
    cases eq_of_map_ok h
    exact ⟨.zero inside, fun _ => h⟩
  | none =>
    simp only [named] at h ⊢
    have head (more : List Char) : ((body ++ ']' :: more).head? == some '\x7b') =
        (body.head? == some '\x7b') := by
      cases body <;> rfl
    simp only [head] at h ⊢
    split at h
    · rename_i property
      have opens := beq_iff_eq.mp (Bool.and_eq_true_iff.mp property).2
      cases known : Class.ofProperty? ((body ++ ']' :: more).tail.takeWhile (· != '\x7d')) with
      | none =>
        rw [known] at h
        cases h
      | some set =>
        obtain ⟨name, taken, always⟩ := property_body inside opens known
        rw [always] at known
        simp only [if_pos property, always, known] at h ⊢
        cases eq_of_map_ok h
        exact ⟨taken, fun _ => h⟩
    · rename_i property
      simp only [if_neg property]
      cases read : escaped c (body ++ ']' :: more) with
      | error fault =>
        rw [read] at h
        cases h
      | ok result =>
        obtain ⟨e, first⟩ := result
        obtain ⟨taken, always⟩ := escaped_body inside control read
        simp only [always, taken.drop_append] at h ⊢
        obtain ⟨further, rfl, taken', always'⟩ := pushEscaped_body taken.left h
        exact ⟨taken.add taken', always'⟩

theorem read_close (b : Bracket) (more : List Char) :
    b.read [] (']' :: more) = .ok (b.close, more) := by
  rw [read.eq_def]
  rfl

theorem read_plain {cs : List Char} (member : c ≠ '\\' ∧ c ≠ '[' ∧ c ≠ ']')
    (single : c = '&' → cs.head? ≠ some '&') (b : Bracket) :
    b.read [] (c :: cs) =
      (if c = '-' then b.pushDash cs else b.push ⟨c.toNat, false⟩).bind (·.read [] cs) := by
  obtain ⟨escaping, opening, closing⟩ := member
  have apart : (c == '&' && cs.head? == some '&') = false := by
    by_cases ampersand : c = '&'
    · simp [ampersand, single ampersand]
    · simp [ampersand]
  rw [read.eq_def]
  simp only [beq_iff_eq, escaping, opening, closing, apart, Bool.false_eq_true, if_false]
  split
  · cases b.pushDash cs <;> rfl
  · cases b.push ⟨c.toNat, false⟩ <;> rfl

theorem read_escape (b : Bracket) (c : Char) (cs : List Char) :
    b.read [] ('\\' :: c :: cs) =
      (b.pushEscape c cs).bind fun result => result.1.read [] (cs.drop result.2) := by
  rw [read.eq_def]
  simp only [Char.reduceBEq, Bool.false_eq_true, if_false, if_true]
  cases b.pushEscape c cs <;> rfl

/-- A class that can be read is read up to its closing bracket, the same whatever follows. -/
theorem read_body {t : ClassText} {left : List Char} (inside : ClassBody body)
    (h : b.read [] (body ++ ']' :: more) = .ok (t, left)) :
    left = more ∧ ∀ more, b.read [] (body ++ ']' :: more) = .ok (t, more) := by
  induction length : body.length using Nat.strong_induction_on generalizing body b with
  | _ n ih =>
    cases inside with
    | nil =>
      rw [List.nil_append, read_close] at h
      cases h
      exact ⟨rfl, read_close b⟩
    | @plain c rest member single inside =>
      have apart (more : List Char) : c = '&' → (rest ++ ']' :: more).head? ≠ some '&' := by
        intro ampersand
        cases rest with
        | nil => simp
        | cons d rest => exact single ampersand
      have dash (more : List Char) :
          b.pushDash (rest ++ ']' :: more) = b.pushDash (rest ++ [']']) := by
        rw [← List.singleton_append, ← List.append_assoc]
        refine pushDash_append more ?_
        cases rest with
        | nil => exact .inl rfl
        | cons d rest => exact .inr (by simp)
      have first (more : List Char) : b.read [] (c :: rest ++ ']' :: more) =
          (if c = '-' then b.pushDash (rest ++ [']']) else b.push ⟨c.toNat, false⟩).bind
            (·.read [] (rest ++ ']' :: more)) := by
        rw [List.cons_append, read_plain member (apart more), dash]
      rw [first] at h
      obtain ⟨b', pushed, h⟩ := ok_of_bind h
      obtain ⟨eq, always⟩ := ih _ (by simp [← length]) inside h rfl
      refine ⟨eq, fun more => ?_⟩
      rw [first, pushed]
      exact always more
    | @escaped c rest control inside =>
      rw [List.cons_append, List.cons_append, read_escape] at h
      obtain ⟨⟨b', used⟩, pushed, h⟩ := ok_of_bind h
      obtain ⟨taken, same⟩ := pushEscape_body inside control pushed
      dsimp only at h
      rw [taken.drop_append] at h
      have shorter : (rest.drop used).length < n := by
        rw [← length, List.length_drop, List.length_cons, List.length_cons]
        omega
      obtain ⟨eq, always⟩ := ih _ shorter taken.left h rfl
      refine ⟨eq, fun more => ?_⟩
      rw [List.cons_append, List.cons_append, read_escape, same more]
      dsimp only [Except.bind]
      rw [taken.drop_append]
      exact always more

end Bracket

/-- A class that can be read has its text between the brackets, whatever follows. -/
theorem ClassText.read_body {body more : List Char} {t : ClassText} {used : Nat}
    (inside : ClassBody body) (filled : body ≠ [] ∧ body ≠ ['^'])
    (h : ClassText.read (body ++ ']' :: more) = .ok (t, used)) :
    used = body.length + 1 ∧
      ∀ more, ClassText.read (body ++ ']' :: more) = .ok (t, body.length + 1) := by
  have opens {negated : Bool} {used : Nat} {body : List Char} (inside : ClassBody body)
      (filled : body ≠ []) (more : List Char) :
      Bracket.openedAfter negated used (body ++ ']' :: more) = .ok ({ negated }, used) := by
    cases inside with
    | nil => exact absurd rfl filled
    | @plain c rest member => simp [Bracket.openedAfter, member.2.2]
    | escaped => rfl
  have read {negated : Bool} {first : Nat} {body' : List Char} (inside' : ClassBody body')
      (opened : ∀ more, Bracket.opened (body ++ ']' :: more) = .ok ({ negated }, first))
      (left : ∀ more, (body ++ ']' :: more).drop first = body' ++ ']' :: more) :
      used = body.length + 1 ∧
        ∀ more, ClassText.read (body ++ ']' :: more) = .ok (t, body.length + 1) := by
    simp only [ClassText.read, opened, left, bind, Except.bind] at h ⊢
    obtain ⟨⟨t', rest⟩, closed, h⟩ := ok_of_bind h
    cases h
    obtain ⟨rfl, always⟩ := Bracket.read_body inside' closed
    have length (more : List Char) :
        (body ++ ']' :: more).length - more.length = body.length + 1 := by
      rw [List.length_append, List.length_cons]
      omega
    refine ⟨length rest, fun more => ?_⟩
    rw [always more]
    exact congrArg (fun used => Except.ok (t', used)) (length more)
  cases inside with
  | nil => exact absurd rfl filled.1
  | @plain c rest member single inside =>
    by_cases negated : c = '^'
    · subst negated
      have filled : rest ≠ [] := fun empty => filled.2 (by rw [empty])
      exact read inside (fun more => opens inside filled more) (fun _ => rfl)
    · have opened (more : List Char) : Bracket.opened (c :: rest ++ ']' :: more) =
          Bracket.openedAfter false 0 (c :: rest ++ ']' :: more) := by
        simp [Bracket.opened, negated]
      have whole : ClassBody (c :: rest) := .plain member single inside
      exact read whole (fun more => (opened more).trans (opens whole filled.1 more)) (fun _ => rfl)
  | escaped control inside =>
    exact read (.escaped control inside) (fun _ => rfl) (fun _ => rfl)

end Tincture.Regex
