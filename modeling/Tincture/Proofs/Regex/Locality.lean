import Mathlib.Data.List.TakeWhile
import Tincture.Proofs.Outcome
import Tincture.Regex.Lexeme

/-!
How far the reader of a lexeme looks.

What a lexeme is depends only on the characters that belong to it and the one after them. So
whatever is read from a text without using all of it is read from any longer text that begins with
it. That is shown here of one reader after the other (the lemmas in `_append`), up to `Lexeme.read`
itself. For an opening brace the character after the lexeme is not enough, since it is a quantifier
only if a closing brace follows; there the text is taken to end with a closing parenthesis.
-/

namespace Tincture

theorem takeWhile_append_of_lt {α : Type} {p : α → Bool} {xs : List α} (ys : List α)
    (h : (xs.takeWhile p).length < xs.length) : (xs ++ ys).takeWhile p = xs.takeWhile p := by
  rw [List.takeWhile_append, if_neg (Nat.ne_of_lt h)]

theorem length_takeWhile_lt {α : Type} {p : α → Bool} {xs : List α} {x : α} (mem : x ∈ xs)
    (fails : ¬ p x = true) : (xs.takeWhile p).length < xs.length := by
  refine Nat.lt_of_le_of_ne (List.takeWhile_prefix p).length_le fun whole => fails ?_
  have eq := (List.takeWhile_prefix p).eq_of_length whole
  rw [← eq] at mem
  exact List.mem_takeWhile_imp mem

theorem takeWhile_append_cons {α : Type} {p : α → Bool} (xs : List α) {x : α} (ys : List α)
    (fails : ¬ p x = true) : (xs ++ x :: ys).takeWhile p = xs.takeWhile p := by
  rw [List.takeWhile_append, List.takeWhile_cons_of_neg fails, List.append_nil]
  split
  · rename_i all
    exact ((List.takeWhile_prefix p).eq_of_length all).symm
  · rfl

theorem drop_length_takeWhile_append {α : Type} (p : α → Bool) (xs ys : List α) :
    (xs ++ ys).drop (xs.takeWhile p).length = xs.dropWhile p ++ ys := by
  have eq : xs ++ ys = xs.takeWhile p ++ (xs.dropWhile p ++ ys) := by
    rw [← List.append_assoc, List.takeWhile_append_dropWhile]
  rw [eq]
  exact List.drop_left

theorem length_leadingDigits_lt (radix most : Nat) {cs : List Char} (closed : ')' ∈ cs) :
    (leadingDigits radix most cs).length < cs.length := by
  refine Nat.lt_of_le_of_ne ?_ fun whole => ?_
  · exact ((List.takeWhile_prefix _).trans (List.take_prefix most cs)).length_le
  · have eq := ((List.takeWhile_prefix _).trans (List.take_prefix most cs)).eq_of_length whole
    rw [← eq] at closed
    have digit := List.mem_takeWhile_imp closed
    simp [isDigitIn, digitValue?] at digit

theorem leadingDigits_append {radix most : Nat} {cs : List Char} (tail : List Char)
    (h : (leadingDigits radix most cs).length < cs.length) :
    leadingDigits radix most (cs ++ tail) = leadingDigits radix most cs := by
  unfold leadingDigits at h ⊢
  rw [List.take_append]
  by_cases long : most ≤ cs.length
  · rw [Nat.sub_eq_zero_of_le long, List.take_zero, List.append_nil]
  · have whole : cs.take most = cs := List.take_of_length_le (by omega)
    rw [whole] at h ⊢
    exact takeWhile_append_of_lt _ h

namespace Regex

namespace Escape

theorem controlCode_append {cs : List Char} {result : Nat × Nat} (tail : List Char)
    (h : controlCode cs = .ok result) : controlCode (cs ++ tail) = .ok result := by
  induction cs using controlCode.induct generalizing result with
  | case1 => cases h
  | case2 rest => exact h
  | case3 rest ih =>
    simp only [controlCode, bind, Except.bind] at h
    cases inner : controlCode rest with
    | error fault =>
      rw [inner] at h
      cases h
    | ok value =>
      rw [inner] at h
      simp only [List.cons_append, controlCode, bind, Except.bind, ih inner]
      exact h
  | case4 c rest other =>
    rw [List.cons_append, List.cons_append, controlCode.eq_4 _ _ other]
    rwa [controlCode.eq_4 _ _ other] at h
  | case5 => cases h
  | case6 c rest notQuery _ notEscape notLast =>
    have plain : c ≠ '\\' := by
      rintro rfl
      cases rest with
      | nil => exact notLast rfl rfl
      | cons d ds => exact notEscape d ds rfl rfl
    have first (text : List Char) :
        controlCode (c :: text) = .ok (c.toNat % 32 + c.toNat / 128 % 2 * 128, 1) :=
      controlCode.eq_6 c text notQuery (fun _ eq => absurd eq plain) (fun _ _ eq => absurd eq plain)
        (fun eq => absurd eq plain)
    rw [first] at h
    rw [List.cons_append, first, h]

theorem isEmpty_append {cs : List Char} (tail : List Char) (h : 0 < cs.length) :
    (cs ++ tail).isEmpty = cs.isEmpty := by
  cases cs with
  | nil => exact absurd h (Nat.lt_irrefl 0)
  | cons _ _ => rfl

theorem read_append {c : Char} {cs : List Char} {e : Escaped} {used : Nat} (tail : List Char)
    (h : read c cs = .ok (e, used)) (lt : used < cs.length) :
    read c (cs ++ tail) = .ok (e, used) := by
  unfold read at h ⊢
  rw [isEmpty_append tail (by omega)]
  split at h
  · rename_i hexadecimal
    rw [if_pos hexadecimal]
    cases h
    rw [leadingDigits_append tail lt]
  · rename_i hexadecimal
    rw [if_neg hexadecimal]
    split at h
    · rename_i unicode
      rw [if_pos unicode]
      dsimp only at h
      split at h
      · rename_i four
        cases h
        rw [leadingDigits_append tail (by omega)]
        exact if_pos four
      · cases h
    · rename_i unicode
      rw [if_neg unicode]
      split at h
      · rename_i control
        rw [if_pos control]
        cases code : controlCode cs with
        | error fault =>
          rw [code] at h
          cases h
        | ok result =>
          rw [code] at h
          rw [controlCode_append tail code]
          exact h
      · rename_i control
        rw [if_neg control]
        exact h

/-! ### Bytes -/

theorem byte?_append {cs : List Char} {b radix used : Nat} (tail : List Char)
    (h : byte? cs = some (b, radix, used)) (lt : used < cs.length) :
    byte? (cs ++ tail) = some (b, radix, used) := by
  unfold byte? at h
  split at h
  · rename_i c rest
    simp only [List.length_cons] at lt
    rw [List.cons_append, List.cons_append, byte?]
    split at h
    · rename_i hexadecimal
      cases h
      rw [isEmpty_append tail (by omega), if_pos hexadecimal, leadingDigits_append tail (by omega)]
    · rename_i hexadecimal
      split at h
      · rename_i digit
        cases h
        have other : (c == 'x') = false := by
          rw [beq_eq_false_iff_ne]
          rintro rfl
          exact absurd digit (by decide)
        have shorter : (leadingDigits 8 3 (c :: rest)).length < (c :: rest).length := by
          rw [List.length_cons]
          omega
        have same : leadingDigits 8 3 (c :: (rest ++ tail)) = leadingDigits 8 3 (c :: rest) :=
          leadingDigits_append tail shorter
        rw [other, Bool.false_and, if_neg Bool.false_ne_true, if_pos digit]
        simp only [octal, same]
      · cases h
  · cases h

theorem bytes?_append {radix : Option Nat} {count : Nat} {cs : List Char} {bytes : List Nat}
    {used : Nat} (tail : List Char) (h : bytes? radix count cs = some (bytes, used))
    (lt : used < cs.length) : bytes? radix count (cs ++ tail) = some (bytes, used) := by
  induction count generalizing cs bytes used with
  | zero => exact h
  | succ count ih =>
    simp only [bytes?, bind, Option.bind_eq_some_iff] at h
    obtain ⟨⟨b, r, here⟩, first, h⟩ := h
    dsimp only at h
    split at h
    · rename_i fits
      simp only [Option.bind_eq_some_iff] at h
      obtain ⟨⟨bs, more⟩, others, h⟩ := h
      cases h
      have rest := ih others (by rw [List.length_drop]; omega)
      have within : here ≤ cs.length := by omega
      simp only [bytes?, bind, byte?_append tail first (by omega), Option.bind_some]
      rw [if_pos fits, List.drop_append_of_le_length within, rest]
      rfl
    · cases h

end Escape

/-! ### Bracket classes -/

namespace Bracket

variable {b b' : Bracket} {c : Char} {cs : List Char} {used : Nat}

/-- A property in braces ends before the text does. -/
theorem property_append (tail : List Char)
    (lt : (cs.tail.takeWhile (· != '}')).length + 2 < cs.length) :
    (cs ++ tail).tail.takeWhile (· != '}') = cs.tail.takeWhile (· != '}') := by
  cases cs with
  | nil => exact absurd lt (Nat.not_lt_zero _)
  | cons d ds =>
    rw [List.cons_append, List.tail_cons, List.tail_cons]
    rw [List.tail_cons, List.length_cons] at lt
    exact takeWhile_append_of_lt tail (by omega)

theorem head?_append (tail : List Char) (h : cs ≠ []) : (cs ++ tail).head? = cs.head? := by
  cases cs with
  | nil => exact absurd rfl h
  | cons c cs => rfl

theorem escaped_append {e : Escaped} (tail : List Char) (h : escaped c cs = .ok (e, used))
    (lt : used < cs.length) : escaped c (cs ++ tail) = .ok (e, used) := by
  unfold escaped Escape.octal at h ⊢
  split at h
  · rename_i digit
    rw [if_pos digit]
    dsimp only at h ⊢
    split at h
    · rename_i small
      cases h
      have shorter : (leadingDigits 8 3 (c :: cs)).length < (c :: cs).length := by
        rw [List.length_cons]
        omega
      have same : leadingDigits 8 3 (c :: (cs ++ tail)) = leadingDigits 8 3 (c :: cs) :=
        leadingDigits_append tail shorter
      rw [same, if_pos small]
    · cases h
  · rename_i digit
    rw [if_neg digit]
    exact Escape.read_append tail h lt

theorem eq_of_map_ok {α β : Type} {x : Except Fault α} {a : α} {v w : β}
    (h : x.map (·, v) = .ok (a, w)) : w = v := by
  obtain ⟨_, -, eq⟩ := ok_of_map h
  exact (Prod.mk.inj eq).2.symm

theorem le_of_pushEscaped {e : Escaped} {total : Nat}
    (h : b.pushEscaped cs used e = .ok (b', total)) : used ≤ total := by
  cases e with
  | code n => exact Nat.le_of_eq (eq_of_map_ok h).symm
  | byte n radix =>
    simp only [pushEscaped] at h
    split at h
    · cases h
    · split at h
      · exact Nat.le_of_eq (eq_of_map_ok h).symm
      · split at h
        · have := eq_of_map_ok h
          omega
        · cases h

theorem pushEscaped_append {e : Escaped} {total : Nat} (tail : List Char)
    (h : b.pushEscaped cs used e = .ok (b', total)) (lt : total < used + cs.length) :
    b.pushEscaped (cs ++ tail) used e = .ok (b', total) := by
  cases e with
  | code n => exact h
  | byte n radix =>
    simp only [pushEscaped] at h ⊢
    by_cases alone : Escape.followers n = 0
    · rw [alone] at h ⊢
      exact h
    · cases bytes : Escape.bytes? (some radix) (Escape.followers n) cs with
      | none =>
        rw [bytes] at h
        cases h
      | some result =>
        obtain ⟨bytes', more⟩ := result
        rw [bytes] at h
        simp only [if_neg alone] at h
        cases point : Escape.sequence? n bytes' with
        | none =>
          rw [point] at h
          cases h
        | some code =>
          rw [point] at h
          have := eq_of_map_ok h
          rw [Escape.bytes?_append tail bytes (by omega)]
          simp only [if_neg alone, point]
          exact h

theorem pushEscape_append (tail : List Char) (h : b.pushEscape c cs = .ok (b', used))
    (lt : used < cs.length) : b.pushEscape c (cs ++ tail) = .ok (b', used) := by
  have head : (cs ++ tail).head? = cs.head? := by
    refine head?_append tail ?_
    rintro rfl
    exact absurd lt (Nat.not_lt_zero _)
  unfold pushEscape at h ⊢
  cases named : Class.ofLetter? c with
  | some set => simpa only [named] using h
  | none =>
    simp only [named] at h ⊢
    rw [head]
    split at h
    · rename_i property
      rw [if_pos property]
      cases known : Class.ofProperty? (cs.tail.takeWhile (· != '}')) with
      | none =>
        rw [known] at h
        cases h
      | some set =>
        rw [known] at h
        have length := eq_of_map_ok h
        rw [property_append tail (by omega), known]
        exact h
    · rename_i property
      rw [if_neg property]
      cases read : escaped c cs with
      | error fault =>
        rw [read] at h
        cases h
      | ok result =>
        obtain ⟨e, taken⟩ := result
        rw [read] at h
        have le := le_of_pushEscaped h
        have within : taken ≤ cs.length := by omega
        rw [escaped_append tail read (by omega)]
        dsimp only
        rw [List.drop_append_of_le_length within]
        exact pushEscaped_append tail h (by rw [List.length_drop]; omega)

/-- A dash may look at the two characters after it, the second of which does not matter if the class
is closed by the first. -/
theorem pushDash_append (tail : List Char) (h : cs = [']'] ∨ 1 < cs.length) :
    b.pushDash (cs ++ tail) = b.pushDash cs := by
  rcases h with rfl | long
  · rfl
  · obtain ⟨d, e, ds, rfl⟩ : ∃ d e ds, cs = d :: e :: ds := by
      cases cs with
      | nil => simp at long
      | cons d ds =>
        cases ds with
        | nil => simp at long
        | cons e ds => exact ⟨d, e, ds, rfl⟩
    rw [List.cons_append, List.cons_append]
    unfold pushDash
    cases b.pending with
    | member m =>
      by_cases closing : d = ']'
      · subst closing
        rfl
      · by_cases both : d = '&' ∧ e = '&'
        · obtain ⟨rfl, rfl⟩ := both
          rfl
        · simp_all
    | start => rfl
    | named => rfl
    | range m => rfl
    | complete => rfl

theorem openedAfter_append {negated : Bool} {n : Nat} (tail : List Char)
    (h : openedAfter negated n cs = .ok (b', used)) (nonempty : cs ≠ []) :
    openedAfter negated n (cs ++ tail) = .ok (b', used) := by
  cases cs with
  | nil => exact absurd rfl nonempty
  | cons c cs =>
    by_cases closing : c = ']'
    · subst closing
      simp only [openedAfter, List.cons_append] at h ⊢
      split at h
      · rename_i more
        rw [List.contains_iff_mem] at more
        rw [if_pos (List.contains_iff_mem.mpr (List.mem_append_left tail more))]
        exact h
      · cases h
    · simp_all [openedAfter]

theorem opened_append (tail : List Char) (h : opened cs = .ok (b', used)) (lt : used < cs.length) :
    opened (cs ++ tail) = .ok (b', used) := by
  cases cs with
  | nil => exact absurd lt (Nat.not_lt_zero _)
  | cons c cs =>
    by_cases caret : c = '^'
    · subst caret
      simp only [opened, List.cons_append] at h ⊢
      refine openedAfter_append tail h ?_
      rintro rfl
      cases h
      exact absurd lt (Nat.lt_irrefl _)
    · have plain (text : List Char) : opened (c :: text) = openedAfter false 0 (c :: text) := by
        simp_all [opened]
      rw [plain] at h
      rw [List.cons_append, plain, ← List.cons_append]
      exact openedAfter_append tail h (List.cons_ne_nil c cs)

/-- A class is not read to its end without its closing bracket. -/
theorem cs_of_read {outer : List Bracket} {result : ClassText × List Char}
    (h : b.read outer cs = .ok result) : cs = [']'] ∨ 1 < cs.length := by
  have none_left (b : Bracket) (outer : List Bracket) : b.read outer [] = .error .openClass := by
    rw [read.eq_def]
  cases cs with
  | nil =>
    rw [none_left] at h
    cases h
  | cons c cs =>
    cases cs with
    | cons d cs => exact .inr (by simp)
    | nil =>
      refine .inl ?_
      by_contra other
      have open_ : (c == ']') = false := by simpa using other
      rw [read.eq_def] at h
      simp only [open_, Bool.false_eq_true, if_false, List.head?_nil, List.drop_nil, none_left] at h
      (repeat' split at h) <;> cases h

theorem lt_of_read_drop {outer : List Bracket} {result : ClassText × List Char}
    (h : b.read outer (cs.drop used) = .ok result) : used < cs.length := by
  by_contra beyond
  rw [List.drop_eq_nil_of_le (Nat.le_of_not_lt beyond)] at h
  rcases cs_of_read h with eq | lt
  · cases eq
  · exact absurd lt (Nat.not_lt_zero _)

/-- The class that a text begins with is read in front of anything. -/
theorem read_append {outer : List Bracket} {text : ClassText} {rest : List Char}
    (tail : List Char) (h : b.read outer cs = .ok (text, rest)) :
    b.read outer (cs ++ tail) = .ok (text, rest ++ tail) := by
  induction b, outer, cs using Bracket.read.induct with
  | case1 b outer =>
    rw [read.eq_def] at h
    cases h
  | case2 b c cs close =>
    rw [read.eq_def] at h ⊢
    simp only [close, if_true, List.cons_append] at h ⊢
    cases h
    rfl
  | case3 b c cs close o outer ih =>
    rw [read.eq_def] at h ⊢
    simp only [close, if_true, List.cons_append] at h ⊢
    exact ih h
  | case4 b outer c cs close dash b' pushed ih =>
    rw [read.eq_def] at h ⊢
    simp only [close, dash, if_true, List.cons_append, pushed] at h ⊢
    rw [pushDash_append tail (cs_of_read h), pushed]
    exact ih h
  | case5 b outer c cs close dash fault pushed =>
    rw [read.eq_def] at h
    simp only [close, dash, if_true, pushed] at h
    cases h
  | case6 b outer c close dash escape =>
    rw [read.eq_def] at h
    simp only [close, dash, escape, if_true] at h
    cases h
  | case7 b outer c close dash escape e cs b' used pushed ih =>
    rw [read.eq_def] at h ⊢
    simp only [close, dash, escape, if_true, List.cons_append, pushed] at h ⊢
    have within := lt_of_read_drop h
    rw [pushEscape_append tail pushed within]
    dsimp only
    rw [List.drop_append_of_le_length (Nat.le_of_lt within)]
    exact ih h
  | case8 b outer c close dash escape e cs fault pushed =>
    rw [read.eq_def] at h
    simp only [close, dash, escape, if_true, pushed] at h
    cases h
  | case9 b outer c cs close dash escape nested fault pushed =>
    rw [read.eq_def] at h
    simp only [close, dash, escape, nested, if_true, pushed] at h
    cases h
  | case10 b outer c cs close dash escape nested inner used pushed ih =>
    rw [read.eq_def] at h ⊢
    simp only [close, dash, escape, nested, if_true, List.cons_append, pushed] at h ⊢
    have within := lt_of_read_drop h
    rw [opened_append tail pushed within]
    dsimp only
    rw [List.drop_append_of_le_length (Nat.le_of_lt within)]
    exact ih h
  | case11 b outer c cs close dash escape nested both ih =>
    have within : 1 ≤ cs.length := by
      cases cs with
      | nil => simp at both
      | cons d ds => simp
    have head := head?_append tail (List.ne_nil_of_length_pos within)
    rw [read.eq_def] at h ⊢
    simp only [close, dash, escape, nested, both, head, if_true, List.cons_append] at h ⊢
    rw [List.drop_append_of_le_length within]
    exact ih h
  | case12 b outer c cs close dash escape nested both b' pushed ih =>
    rw [read.eq_def] at h
    simp only [close, dash, escape, nested, both, pushed] at h
    have whole : b'.read outer (cs.drop 0) = .ok (text, rest) := h
    have head := head?_append tail (List.ne_nil_of_length_pos (lt_of_read_drop whole))
    rw [read.eq_def]
    simp only [close, dash, escape, nested, both, pushed, head, List.cons_append]
    exact ih h
  | case13 b outer c cs close dash escape nested both fault pushed =>
    rw [read.eq_def] at h
    simp only [close, dash, escape, nested, both, pushed] at h
    cases h

end Bracket

theorem ClassText.read_append {cs : List Char} {text : ClassText} {used : Nat} (tail : List Char)
    (h : ClassText.read cs = .ok (text, used)) :
    ClassText.read (cs ++ tail) = .ok (text, used) := by
  simp only [ClassText.read, bind, Except.bind] at h ⊢
  cases opened : Bracket.opened cs with
  | error fault =>
    rw [opened] at h
    cases h
  | ok first =>
    obtain ⟨b, n⟩ := first
    rw [opened] at h
    dsimp only at h
    cases read : b.read [] (cs.drop n) with
    | error fault =>
      rw [read] at h
      cases h
    | ok second =>
      obtain ⟨whole, rest⟩ := second
      have within := Bracket.lt_of_read_drop read
      rw [read] at h
      cases h
      rw [Bracket.opened_append tail opened within]
      dsimp only
      rw [List.drop_append_of_le_length (Nat.le_of_lt within), Bracket.read_append tail read]
      simp only [pure, Except.pure, List.length_append, Nat.add_sub_add_right]

/-! ### Lexemes -/

namespace Lexeme

variable {flags : Flags} {groups : Nat} {c : Char} {cs : List Char} {lexeme : Lexeme} {used : Nat}

theorem ofEscaped_append {e : Escaped} {total : Nat} (tail : List Char)
    (h : ofEscaped cs used e = .ok (lexeme, total)) (lt : total < used + cs.length) :
    ofEscaped (cs ++ tail) used e = .ok (lexeme, total) := by
  cases e with
  | code n => exact h
  | byte n radix =>
    simp only [ofEscaped] at h ⊢
    split at h
    · rename_i ascii
      rw [if_pos ascii]
      exact h
    · rename_i ascii
      rw [if_neg ascii]
      split at h
      · cases h
      · rename_i lead
        rw [if_neg lead]
        split at h
        · rename_i alone
          rw [if_pos alone]
          exact h
        · rename_i alone
          rw [if_neg alone]
          split at h
          · cases h
          · rename_i bytes more read
            split at h
            · rename_i point eq
              cases h
              rw [Escape.bytes?_append tail read (by omega)]
              simp only [eq]
            · cases h

theorem le_of_ofEscaped {e : Escaped} {total : Nat}
    (h : ofEscaped cs used e = .ok (lexeme, total)) : used ≤ total := by
  cases e with
  | code n =>
    cases h
    exact Nat.le_refl _
  | byte n radix =>
    simp only [ofEscaped] at h
    split at h
    · cases h
      exact Nat.le_refl _
    · split at h
      · cases h
      · split at h
        · cases h
          exact Nat.le_refl _
        · split at h
          · cases h
          · split at h
            · cases h
              exact Nat.le_add_right _ _
            · cases h

theorem marked_append (least : Nat) (most : Option Nat) (n : Nat) (tail : List Char)
    (nonempty : cs ≠ []) : marked least most n (cs ++ tail) = marked least most n cs := by
  cases cs with
  | nil => exact absurd rfl nonempty
  | cons c cs =>
    rw [List.cons_append]
    by_cases lazy : c = '?'
    · subst lazy
      rfl
    · by_cases possessive : c = '+'
      · subst possessive
        rfl
      · simp_all [marked]

theorem takeWhile_digits (cs tail : List Char) :
    (cs ++ ')' :: tail).takeWhile Char.isDigit = cs.takeWhile Char.isDigit :=
  takeWhile_append_cons cs tail (by decide)

theorem drop_digits (cs tail : List Char) :
    (cs ++ ')' :: tail).drop (cs.takeWhile Char.isDigit).length =
      cs.drop (cs.takeWhile Char.isDigit).length ++ ')' :: tail :=
  List.drop_append_of_le_length (List.takeWhile_prefix _).length_le

theorem marked_closed (least : Nat) (most : Option Nat) (n : Nat) (cs tail : List Char) :
    marked least most n (cs ++ ')' :: tail) = marked least most n (cs ++ [')']) := by
  rw [← List.singleton_append, ← List.append_assoc]
  exact marked_append least most n tail (by simp)

/-- What an opening brace is, is settled before a closing parenthesis. -/
theorem interval_append (cs tail : List Char) :
    interval (cs ++ ')' :: tail) = interval (cs ++ [')']) := by
  unfold interval
  simp only [takeWhile_digits, drop_digits]
  generalize cs.takeWhile Char.isDigit = low
  generalize cs.drop low.length = rest
  cases rest with
  | nil => rfl
  | cons d rest =>
    by_cases comma : d = ','
    · subst comma
      simp only [List.cons_append, takeWhile_digits, drop_digits]
      generalize rest.takeWhile Char.isDigit = high
      generalize rest.drop high.length = rest
      cases rest with
      | nil => rfl
      | cons e rest =>
        by_cases brace : e = '}'
        · subst brace
          simp only [List.cons_append, marked_closed]
        · simp_all
    · by_cases brace : d = '}'
      · subst brace
        simp only [List.cons_append, marked_closed]
      · simp_all

theorem numbered_append (tail : List Char) (h : numbered groups c cs = .ok (lexeme, used))
    (lt : used < cs.length) (closed : ')' ∈ cs) :
    numbered groups c (cs ++ tail) = .ok (lexeme, used) := by
  have closed_ : ')' ∈ c :: cs := List.mem_cons_of_mem c closed
  have decimal : (c :: (cs ++ tail)).takeWhile Char.isDigit = (c :: cs).takeWhile Char.isDigit :=
    takeWhile_append_of_lt tail (length_takeWhile_lt closed_ (by decide))
  have octal : Escape.octal 3 (c :: (cs ++ tail)) = Escape.octal 3 (c :: cs) := by
    have shorter := length_leadingDigits_lt 8 3 closed_
    unfold Escape.octal
    rw [← List.cons_append, leadingDigits_append tail shorter]
  unfold numbered at h ⊢
  rw [decimal]
  dsimp only at h ⊢
  split at h
  · rename_i reference
    rw [if_pos reference]
    exact h
  · rename_i reference
    rw [if_neg reference]
    split at h
    · rename_i literal
      rw [if_pos literal]
      exact h
    · rename_i literal
      rw [if_neg literal, octal]
      have within : (Escape.octal 3 (c :: cs)).2 - 1 ≤ cs.length := by
        have := length_leadingDigits_lt 8 3 closed_
        rw [List.length_cons] at this
        unfold Escape.octal
        dsimp only
        omega
      rw [List.drop_append_of_le_length within]
      exact ofEscaped_append tail h (by rw [List.length_drop]; omega)

/-- Some lexemes are read for as long as it takes to find their end. All others are steady. -/
def Steady : Lexeme → Prop
  | .quoted _ | .blank | .opening .comment | .opening (.flagged _) | .opening (.flags _) => False
  | _ => True

theorem escape_append (tail : List Char) (h : escape groups c cs = .ok (lexeme, used))
    (steady : lexeme.Steady) (lt : used < cs.length) (closed : ')' ∈ cs) :
    escape groups c (cs ++ tail) = .ok (lexeme, used) := by
  unfold escape at h ⊢
  cases named : Class.ofLetter? c with
  | some set => simpa only [named] using h
  | none =>
    cases anchor : anchor? c with
    | some a => simpa only [named, anchor] using h
    | none =>
      simp only [named, anchor] at h ⊢
      split at h
      · rename_i digit
        rw [if_pos digit]
        exact numbered_append tail h lt closed
      · rename_i digit
        rw [if_neg digit]
        split at h
        · cases h
          exact absurd steady id
        · rename_i quote
          rw [if_neg quote, Bracket.head?_append tail (List.ne_nil_of_mem closed)]
          split at h
          · rename_i property
            rw [if_pos property]
            cases known : Class.ofProperty? (cs.tail.takeWhile (· != '}')) with
            | none =>
              rw [known] at h
              cases h
            | some set =>
              rw [known] at h
              cases h
              rw [Bracket.property_append tail lt, known]
          · rename_i property
            rw [if_neg property]
            cases read : Escape.read c cs with
            | error fault =>
              rw [read] at h
              cases h
            | ok result =>
              obtain ⟨e, taken⟩ := result
              rw [read] at h
              have le := le_of_ofEscaped h
              have within : taken ≤ cs.length := by omega
              rw [Escape.read_append tail read (by omega)]
              dsimp only
              rw [List.drop_append_of_le_length within]
              exact ofEscaped_append tail h (by rw [List.length_drop]; omega)

theorem flagged_unsteady {on : Bool} {n : Nat} (h : flagged flags on n cs = .ok (lexeme, used)) :
    ¬ lexeme.Steady := by
  induction cs generalizing flags on n with
  | nil => cases h
  | cons c cs ih =>
    unfold flagged at h
    split at h
    · cases h
    · cases h
      exact id
    · cases h
      exact id
    all_goals
      rename_i eq
      first
      | cases h
      | (obtain ⟨-, rfl⟩ := List.cons.inj eq; exact ih h)

theorem group_append (tail : List Char) (h : group flags cs = .ok (lexeme, used))
    (steady : lexeme.Steady) (closed : ')' ∈ cs) :
    group flags (cs ++ tail) = .ok (lexeme, used) := by
  cases cs with
  | nil => exact absurd closed List.not_mem_nil
  | cons c cs =>
    by_cases mark : c = '?'
    · subst mark
      rw [List.cons_append]
      unfold group at h ⊢
      split at h
      · cases h
      · rename_i text eq
        obtain ⟨-, rfl⟩ := List.cons.inj eq
        split at h
        · cases h
        · obtain ⟨used, -, eq⟩ := ok_of_map h
          cases eq
          exact absurd steady id
        · exact h
        · exact h
        · exact h
        · exact h
        · cases h
        · exact h
        · exact h
        · exact absurd steady (flagged_unsteady h)
      · rename_i other
        exact absurd rfl (other cs)
    · simp_all [group]

/-- Whatever follows the closing parenthesis after it, a lexeme is the same. -/
theorem read_append (tail : List Char)
    (h : read flags groups c (cs ++ [')']) = .ok (lexeme, used)) (steady : lexeme.Steady)
    (le : used ≤ cs.length) : read flags groups c (cs ++ ')' :: tail) = .ok (lexeme, used) := by
  have closed : ')' ∈ cs ++ [')'] := List.mem_append_right cs List.mem_cons_self
  have assoc : cs ++ ')' :: tail = (cs ++ [')']) ++ tail := by
    rw [List.append_assoc, List.singleton_append]
  unfold read at h ⊢
  split at h
  · cases cs with
    | nil =>
      obtain ⟨⟨l, n⟩, -, eq⟩ := ok_of_map h
      cases eq
      exact absurd le (Nat.not_succ_le_zero n)
    | cons e rest =>
      rw [List.cons_append] at h ⊢
      obtain ⟨⟨l, n⟩, escape, eq⟩ := ok_of_map h
      cases eq
      rw [List.length_cons] at le
      have longer := escape_append tail escape steady
        (by rw [List.length_append, List.length_singleton]; omega)
        (List.mem_append_right rest List.mem_cons_self)
      rw [List.append_assoc, List.singleton_append] at longer
      dsimp only
      rw [longer]
      rfl
  · obtain ⟨⟨text, n⟩, bracket, eq⟩ := ok_of_map h
    cases eq
    rw [assoc, ClassText.read_append tail bracket]
    rfl
  · rw [assoc]
    exact group_append tail h steady closed
  · exact h
  · exact h
  · exact h
  · exact h
  · exact h
  · rw [marked_closed]
    exact h
  · rw [marked_closed]
    exact h
  · rw [marked_closed]
    exact h
  · rw [interval_append]
    exact h
  · split at h
    · cases h
      exact absurd steady id
    · rename_i notSpace
      rw [if_neg notSpace]
      split at h
      · cases h
        exact absurd steady id
      · rename_i notHash
        rw [if_neg notHash]
        exact h

end Lexeme

end Regex

end Tincture
