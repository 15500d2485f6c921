import Tincture.Proofs.Text.Ascii
import Tincture.Proofs.Union.Cutting

/-!
Marks: the parts of a pattern that count groups or refer to them.

Parentheses that open a group and numeric escapes are the marks of a text. When the text is cut into
parts again, what lies between two marks may be cut differently, for literal text that is joined
makes up a single part, but no mark is gained or lost: each piece that is no mark is skipped,
whatever comes behind it (`marks_symbols`, `marks_escape`, `marks_class`), and a mark is found if
the text behind it does not go on with the characters that would make another mark of it
(`marks_group`, `marks_numeric`).

Which characters those are depends on carets, for a caret that stands alone is left out when a
pattern is written. A pattern is tidy if no mark of it changes for that reason (`tidyParts`); then
none changes when the pattern is written in a union, since all that is written in place of other
parts begins with a special character (`prefix_of_written`).
-/

namespace Tincture.Union.Part

/-- Whether a part opens a group or refers to one. -/
def isMark : Part → Bool
  | .group | .nonCapturing _ | .numeric _ _ => true
  | _ => false

/-- The marks of a text in order. -/
def marks (cs : List Char) : List Part := (split cs).filter isMark

/-! ### What is skipped -/

variable {c : Char} {more : List Char}

theorem marks_nil : marks [] = [] := by
  rw [marks, split, List.filter_nil]

/-- The marks of a text after its first part. -/
theorem marks_cons {part : Part} (h : first c more = part) :
    marks (c :: more) = [part].filter isMark ++ marks (more.drop (part.text.length - 1)) := by
  rw [marks, split_cons h, ← List.singleton_append, List.filter_append, marks]

/-- Up to the next special character there is no mark. -/
theorem marks_run (more : List Char) : marks more = marks (more.dropWhile (!isSpecial ·)) := by
  rw [marks, split_run, List.filter_append, marks]
  cases more.takeWhile (!isSpecial ·) <;> rfl

theorem marks_symbol (plain : isSpecial c = false) (more : List Char) :
    marks (c :: more) = marks more := by
  rw [marks_run, List.dropWhile_cons_of_pos (by simp [plain]), ← marks_run]

theorem marks_symbols {text : List Char} (plain : ∀ c ∈ text, isSpecial c = false)
    (more : List Char) : marks (text ++ more) = marks more := by
  induction text with
  | nil => rfl
  | cons c text ih =>
    obtain ⟨here, others⟩ := List.forall_mem_cons.mp plain
    rw [List.cons_append, marks_symbol here, ih others]

theorem not_special_of_hexadecimal (h : isDigitIn 16 c = true) : isSpecial c = false :=
  not_special (P := isDigitIn 16) (by decide) h

/-- An escape that is none of digits is skipped, and so are the digits that may belong to it. -/
theorem marks_escape (digit : c.isDigit = false) (more : List Char) :
    marks ('\\' :: c :: more) = marks more := by
  have counted (letter : Char) (most : Nat)
      (all : (leadingDigits 16 most more).length = most)
      (h : first '\\' (c :: more) = .escape ('\\' :: letter :: more.take most)) :
      marks ('\\' :: c :: more) = marks more := by
    have length : (more.take most).length = most := by rw [leadingDigits_eq_take all, all]
    rw [marks_cons h, text, List.length_cons, List.length_cons, Nat.add_sub_cancel,
      List.drop_succ_cons, length]
    conv_rhs => rw [← List.take_append_drop most more, leadingDigits_eq_take all]
    rw [marks_symbols fun d mem =>
      not_special_of_hexadecimal (isDigitIn_of_mem_leadingDigits d mem)]
    rfl
  by_cases four : (c == 'u' && (leadingDigits 16 4 more).length == 4) = true
  · have all := four
    rw [Bool.and_eq_true, beq_iff_eq, beq_iff_eq] at all
    exact counted c 4 all.2 (by simp only [first, ofEscape, four, if_true])
  · by_cases two : (c == 'x' && (leadingDigits 16 2 more).length == 2) = true
    · have all := two
      rw [Bool.and_eq_true, beq_iff_eq, beq_iff_eq] at all
      refine counted c 2 all.2 ?_
      simp only [first, ofEscape, four, two, Bool.false_eq_true, if_true, if_false]
    · have cut : first '\\' (c :: more) = .escape ['\\', c] := by
        simp only [first, ofEscape, four, two, digit, Bool.false_eq_true, if_false]
      rw [marks_cons cut]
      rfl

theorem marks_class {body : List Char} (closed : ClosedClass body) (more : List Char) :
    marks ('[' :: body ++ more) = marks more := by
  have cut : first '[' (body ++ more) = .bracket ('[' :: body) := by
    simp only [first, closed.length?_append, List.take_left]
  rw [List.cons_append, marks_cons cut, text, List.length_cons, Nat.add_sub_cancel, List.drop_left]
  rfl

theorem marks_close (more : List Char) : marks (')' :: more) = marks more :=
  marks_cons rfl

theorem marks_caret (more : List Char) : marks ('^' :: more) = marks more :=
  marks_cons rfl

/-- The code point in place of a numeric escape is no mark. -/
theorem marks_codePoint (value : Nat) (more : List Char) :
    marks (codePoint value ++ more) = marks more := by
  have numbered (letter : Char) (digit : letter.isDigit = false) (width n : Nat) :
      marks (['\\', letter] ++ digits 16 width n ++ more) = marks more := by
    have plain : ∀ d ∈ digits 16 width n, isSpecial d = false := fun d mem =>
      not_special_of_hexadecimal (isDigitIn_of_mem_digits (by decide) (by decide) d mem)
    exact (marks_escape digit _).trans (marks_symbols plain more)
  unfold codePoint
  split_ifs
  · exact numbered 'x' (by decide) 2 value
  · exact numbered 'u' (by decide) 4 _

/-- The class of a letter in both cases. -/
theorem closedClass_letter (letter : c.isAlpha = true) :
    ClosedClass [c.toUpper, c.toLower, ']'] :=
  of_decide_eq_true (letters_all (P := fun c => decide (ClosedClass [c.toUpper, c.toLower, ']']))
    (by decide +kernel) letter)

theorem marks_foldLetters {text : List Char} (plain : ∀ c ∈ text, isSpecial c = false)
    (more : List Char) : marks (foldLetters text ++ more) = marks more := by
  induction text with
  | nil => rfl
  | cons c text ih =>
    obtain ⟨here, others⟩ := List.forall_mem_cons.mp plain
    have cons : foldLetters (c :: text) =
        (if c.isAlpha then ['[', c.toUpper, c.toLower, ']'] else [c]) ++ foldLetters text := rfl
    rw [cons, List.append_assoc]
    split
    · rename_i letter
      exact (marks_class (closedClass_letter letter) _).trans (ih others)
    · exact (marks_symbol here _).trans (ih others)

/-! ### What is found -/

/-- A group that does not capture. -/
theorem marks_nonCapturing {query : List Char} (mem : query ∈ queries) (more : List Char) :
    marks ('(' :: query ++ more) = .nonCapturing ('(' :: query) :: marks more := by
  have cut : first '(' (query ++ more) = .nonCapturing ('(' :: query) := by
    simp only [queries, List.mem_cons, List.not_mem_nil, or_false] at mem
    rcases mem with rfl | rfl | rfl | rfl | rfl | rfl <;> rfl
  rw [List.cons_append, marks_cons cut, text, List.length_cons, Nat.add_sub_cancel, List.drop_left]
  rfl

theorem marks_group (h : ofParenthesis more = .group) :
    marks ('(' :: more) = .group :: marks more := by
  have cut : first '(' more = .group := h
  exact marks_cons cut

theorem marks_numeric {ds : List Char} (nonempty : ds ≠ [])
    (decimal : ∀ d ∈ ds, d.isDigit = true) (ends : ∀ d ∈ more.head?, d.isDigit = false) :
    marks ('\\' :: ds ++ more) = .numeric ('\\' :: ds) (numeral 10 ds) :: marks more := by
  have cut : first '\\' (ds ++ more) = .numeric ('\\' :: ds) (numeral 10 ds) := by
    cases ds with
    | nil => exact absurd rfl nonempty
    | cons d ds =>
      obtain ⟨digit, others⟩ := List.forall_mem_cons.mp decimal
      have u : d ≠ 'u' := by
        rintro rfl
        cases digit
      have x : d ≠ 'x' := by
        rintro rfl
        cases digit
      have run : (ds ++ more).takeWhile Char.isDigit = ds := by
        rw [List.takeWhile_append_of_pos others]
        cases more with
        | nil => simp
        | cons e more => simp [ends e rfl]
      simp only [List.cons_append, first, ofEscape, beq_eq_false_iff_ne.mpr u,
        beq_eq_false_iff_ne.mpr x, Bool.false_and, Bool.false_eq_true, if_false, digit, if_true,
        run]
  rw [List.cons_append, marks_cons cut, text, List.length_cons, Nat.add_sub_cancel, List.drop_left]
  rfl

/-! ### What goes on behind a mark -/

/-- The text of parts without the carets that are left out of it, which are those with no other
caret behind them. -/
def bareText : List Part → List Char
  | [] => []
  | .caret :: rest => (if rest.head? = some .caret then ['^'] else []) ++ bareText rest
  | part :: rest => part.text ++ bareText rest

/-- Whether all classes are closed, no backslash comes last, and leaving out carets changes no mark:
a group that captures does not go on as if it did not, and no digit comes to stand behind a numeric
escape. -/
def tidyParts : List Part → Bool
  | [] => true
  | .group :: rest => ofParenthesis (bareText rest) == .group && tidyParts rest
  | .numeric _ _ :: rest => !(bareText rest).head?.any Char.isDigit && tidyParts rest
  | .literal text :: rest => text != ['['] && text != ['\\'] && tidyParts rest
  | _ :: rest => tidyParts rest

/-- The characters are neither special nor letters, so each is written as it is, whether cases are
folded or not. -/
def Symbols (cs : List Char) : Prop := ∀ c ∈ cs, isSpecial c = false ∧ c.isAlpha = false

/-- Symbols do not begin a text that begins with a special character, unless there are none. -/
theorem Symbols.eq_nil {cs : List Char} (symbols : Symbols cs) (special : isSpecial c = true)
    (h : cs <+: c :: more) : cs = [] := by
  cases cs with
  | nil => rfl
  | cons d cs =>
    obtain ⟨rfl, -⟩ := List.cons_prefix_cons.mp h
    rw [(symbols d List.mem_cons_self).1] at special
    cases special

/-- Symbols that a literal text goes on with when it is written are symbols it goes on with. -/
theorem prefix_of_literal (fold : Bool) {text written bare : List Char}
    (behind : ∀ cs, Symbols cs → cs <+: written → cs <+: bare) {cs : List Char}
    (symbols : Symbols cs)
    (h : cs <+: (if fold then foldLetters text else text) ++ written) : cs <+: text ++ bare := by
  induction text generalizing cs with
  | nil =>
    refine behind cs symbols ?_
    cases fold <;> exact h
  | cons c text ih =>
    cases cs with
    | nil => exact List.nil_prefix
    | cons d cs =>
      have others : Symbols cs := fun e mem => symbols e (List.mem_cons_of_mem d mem)
      have own := symbols d List.mem_cons_self
      have step : d = c ∧ cs <+: (if fold then foldLetters text else text) ++ written := by
        cases fold with
        | false => exact List.cons_prefix_cons.mp h
        | true =>
          have cons : foldLetters (c :: text) =
              (if c.isAlpha then ['[', c.toUpper, c.toLower, ']'] else [c]) ++ foldLetters text :=
            rfl
          rw [if_pos rfl, cons] at h
          split at h
          · rw [(List.cons_prefix_cons.mp h).1] at own
            cases own.1
          · exact List.cons_prefix_cons.mp h
      obtain ⟨rfl, after⟩ := step
      exact List.cons_prefix_cons.mpr ⟨rfl, ih others after⟩

/-- Symbols that parts go on with when they are written are symbols their bare text goes on with:
whatever else is written begins with a special character. -/
theorem prefix_of_written (fold : Bool) (captured : Nat) (kept : List Nat) {opened : Nat}
    {parts : List Part} (formed : ∀ part ∈ parts, part.Formed) {cs : List Char}
    (symbols : Symbols cs)
    (h : cs <+: writeParts fold captured kept opened parts ++ ')' :: more) :
    cs <+: bareText parts := by
  induction parts generalizing opened cs with
  | nil =>
    rw [symbols.eq_nil rfl h]
    exact List.nil_prefix
  | cons part rest ih =>
    obtain ⟨own, others⟩ := List.forall_mem_cons.mp formed
    have begins {c : Char} {text : List Char} (special : isSpecial c = true)
        (h : cs <+: c :: text) : cs <+: bareText (part :: rest) := by
      rw [symbols.eq_nil special h]
      exact List.nil_prefix
    cases own with
    | bracket closed =>
      cases fold with
      | false => exact begins rfl h
      | true =>
        obtain ⟨body, eq, -⟩ := closedClass_foldClass ('[' :: _)
        rw [writeParts, if_pos rfl, eq] at h
        exact begins rfl h
    | escape | nonCapturing | close => exact begins rfl h
    | group =>
      rw [writeParts] at h
      split at h <;> exact begins rfl h
    | numeric =>
      rw [writeParts] at h
      split_ifs at h
      · exact begins rfl h
      · exact begins rfl h
      · unfold codePoint at h
        split at h <;> exact begins rfl h
    | caret =>
      rw [writeParts, List.append_assoc] at h
      by_cases doubled : rest.head? = some .caret
      · rw [if_pos doubled] at h
        exact begins rfl h
      · rw [if_neg doubled] at h
        rw [bareText, if_neg doubled]
        exact ih others symbols h
    | literal | opening | backslash =>
      rw [writeParts, List.append_assoc] at h
      exact prefix_of_literal fold (fun _ symbols h => ih others symbols h) symbols h

theorem symbols_query {query : List Char} (mem : query ∈ queries) : Symbols query := by
  simp only [queries, List.mem_cons, List.not_mem_nil, or_false] at mem
  rcases mem with rfl | rfl | rfl | rfl | rfl | rfl <;> simp [Symbols, isSpecial]

/-- A parenthesis opens a group that captures unless it is followed by a query. -/
theorem ofParenthesis_eq_group_iff {cs : List Char} :
    ofParenthesis cs = .group ↔ ∀ query ∈ queries, ¬ query <+: cs := by
  constructor
  · rintro group query mem ⟨rest, rfl⟩
    simp only [queries, List.mem_cons, List.not_mem_nil, or_false] at mem
    rcases mem with rfl | rfl | rfl | rfl | rfl | rfl <;> cases group
  · intro none
    unfold ofParenthesis
    split
    · exact absurd ⟨_, rfl⟩ (none ['?', '<', '='] (by decide))
    · exact absurd ⟨_, rfl⟩ (none ['?', '<', '!'] (by decide))
    · exact absurd ⟨_, rfl⟩ (none ['?', ':'] (by decide))
    · exact absurd ⟨_, rfl⟩ (none ['?', '='] (by decide))
    · exact absurd ⟨_, rfl⟩ (none ['?', '!'] (by decide))
    · exact absurd ⟨_, rfl⟩ (none ['?', '>'] (by decide))
    · rfl

theorem group_of_written (fold : Bool) (captured : Nat) (kept : List Nat) (opened : Nat)
    {parts : List Part} (formed : ∀ part ∈ parts, part.Formed)
    (h : ofParenthesis (bareText parts) = .group) (more : List Char) :
    ofParenthesis (writeParts fold captured kept opened parts ++ ')' :: more) = .group := by
  rw [ofParenthesis_eq_group_iff] at h ⊢
  exact fun query mem begins =>
    h query mem (prefix_of_written fold captured kept formed (symbols_query mem) begins)

theorem not_digit_of_written (fold : Bool) (captured : Nat) (kept : List Nat) (opened : Nat)
    {parts : List Part} (formed : ∀ part ∈ parts, part.Formed)
    (h : (bareText parts).head?.any Char.isDigit = false) (more : List Char) :
    ∀ d ∈ (writeParts fold captured kept opened parts ++ ')' :: more).head?,
      d.isDigit = false := by
  intro d mem
  refine Bool.eq_false_iff.mpr fun digit => ?_
  have begins : [d] <+: writeParts fold captured kept opened parts ++ ')' :: more := by
    obtain ⟨rest, eq⟩ := List.head?_eq_some_iff.mp mem
    exact ⟨rest, eq.symm⟩
  have symbols : Symbols [d] := by
    intro e own
    rw [List.mem_singleton.mp own]
    refine ⟨not_special (P := Char.isDigit) (by decide) digit,
      Bool.eq_false_iff.mpr fun letter => ?_⟩
    have other := letters_all (P := fun c => !c.isDigit) (by decide +kernel) letter
    simp [digit] at other
  obtain ⟨rest, eq⟩ := prefix_of_written fold captured kept formed symbols begins
  rw [← eq] at h
  simp [digit] at h

end Tincture.Union.Part
