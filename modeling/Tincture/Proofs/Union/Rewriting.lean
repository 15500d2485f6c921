import Tincture.Proofs.Regex.Phrase
import Tincture.Union.Alternative

/-!
How phrases are written in a union.

A pattern is cut into parts and written again, where literal text makes up as few parts as
possible. It comes to the same if every character of it is a part (`symbol`), so what a text
is written as does not depend on the text around it: `Rewrites` relates a text to what it is written
as, and goes through concatenation. Phrases are written as the phrases whose groups do not capture
(`rewrites_phrase`).
-/

namespace Tincture.Union

open Regex

/-! ### Cutting off one part -/

namespace Part

/-- A character is not special if it has a property that no special one has. -/
theorem not_special {P : Char → Bool} (none : ['[', '\\', '(', ')', '^'].any P = false)
    {c : Char} (h : P c = true) : isSpecial c = false := by
  refine Bool.eq_false_iff.mpr fun special => ?_
  have mem : c ∈ ['[', '\\', '(', ')', '^'] := by simpa [isSpecial, or_assoc] using special
  rw [List.any_eq_true.mpr ⟨c, mem, h⟩] at none
  cases none

theorem first_of_plain {c : Char} (special : isSpecial c = false) (rest : List Char) :
    first c rest = .literal (c :: rest.takeWhile (!isSpecial ·)) := by
  unfold first
  split
  case h_6 => rfl
  all_goals exact absurd special (by decide)

theorem split_cons {c : Char} {more : List Char} {part : Part} (h : first c more = part) :
    split (c :: more) = part :: split (more.drop (part.text.length - 1)) := by
  rw [split, h]

theorem split_caret (text : List Char) : split ('^' :: text) = .caret :: split text :=
  split_cons rfl

/-- Up to the next special character, the text is literal. -/
theorem split_run (more : List Char) :
    split more = (match more.takeWhile (!isSpecial ·) with | [] => [] | run => [.literal run]) ++
      split (more.dropWhile (!isSpecial ·)) := by
  cases more with
  | nil => rfl
  | cons c more =>
    cases special : isSpecial c with
    | true => simp [special]
    | false =>
      rw [split_cons (first_of_plain special more), List.takeWhile_cons, List.dropWhile_cons]
      have left := drop_length_takeWhile_append (!isSpecial ·) more []
      rw [List.append_nil, List.append_nil] at left
      simp [special, text, left]

theorem classLength?_body {body : List Char} (inside : ClassBody body) (more : List Char) :
    classLength? (body ++ ']' :: more) = some (body.length + 1) := by
  induction inside with
  | nil => rfl
  | @plain c rest member _ _ ih =>
    rw [List.cons_append]
    unfold classLength?
    split
    · rename_i eq
      cases eq
    · rename_i eq
      exact absurd (List.cons.inj eq).1 member.2.2
    · rename_i eq
      exact absurd (List.cons.inj eq).1 member.1
    · rename_i eq
      cases eq
      rw [ih]
      rfl
  | escaped _ _ ih =>
    simp only [List.cons_append, classLength?]
    rw [ih]
    rfl

end Part

/-! ### Texts written in a union -/

/-- Whatever is around it, the text is written as `result`, and it refers to no group. -/
def Rewrites (text result : List Char) : Prop :=
  ∀ (captured opened : Nat) (more : List Char), ∃ opened',
    writeParts false captured [] opened (Part.split (text ++ more)) =
        result ++ writeParts false captured [] opened' (Part.split more) ∧
      Part.references opened (Part.split (text ++ more)) =
        Part.references opened' (Part.split more)

namespace Rewrites

variable {text text' result result' : List Char} {c : Char}

theorem nil : Rewrites [] [] := fun _ opened _ => ⟨opened, rfl, rfl⟩

theorem append (h : Rewrites text result) (h' : Rewrites text' result') :
    Rewrites (text ++ text') (result ++ result') := by
  intro captured opened more
  obtain ⟨between, written, references⟩ := h captured opened (text' ++ more)
  obtain ⟨after, written', references'⟩ := h' captured between more
  refine ⟨after, ?_, ?_⟩
  · rw [List.append_assoc, written, written', List.append_assoc]
  · rw [List.append_assoc, references, references']

/-- A part that is neither literal nor a group, number or caret is written as it is. -/
theorem of_first {part : Part} (same : part.text = text)
    (cut : ∀ more, Part.split (text ++ more) = part :: Part.split more)
    (kind : (∃ t, part = .escape t) ∨ (∃ t, part = .bracket t) ∨ (∃ t, part = .nonCapturing t) ∨
      part = .close) : Rewrites text text := by
  intro captured opened more
  refine ⟨opened, ?_⟩
  rw [cut]
  rcases kind with ⟨t, rfl⟩ | ⟨t, rfl⟩ | ⟨t, rfl⟩ | rfl <;> subst same <;> exact ⟨rfl, rfl⟩

/-- A character without a meaning in a union is written as it is. -/
theorem symbol (special : Part.isSpecial c = false) : Rewrites [c] [c] := by
  intro captured opened more
  refine ⟨opened, ?_⟩
  rw [List.singleton_append, Part.split_run, Part.split_run more, List.takeWhile_cons,
    List.dropWhile_cons]
  simp only [special, Bool.not_false, if_true]
  cases more.takeWhile (!Part.isSpecial ·) with
  | nil => exact ⟨rfl, rfl⟩
  | cons d run => exact ⟨rfl, rfl⟩

theorem symbols (plain : ∀ c ∈ text, Part.isSpecial c = false) : Rewrites text text := by
  induction text with
  | nil => exact nil
  | cons c text ih =>
    obtain ⟨here, others⟩ := List.forall_mem_cons.mp plain
    exact (symbol here).append (ih others)

/-- The escape of a character is written as it is, unless digits may belong to it. -/
theorem escape (hexadecimal : c ≠ 'u' ∧ c ≠ 'x') (digit : c.isDigit = false) :
    Rewrites ['\\', c] ['\\', c] := by
  have first (more : List Char) : Part.first '\\' (c :: more) = .escape ['\\', c] := by
    simp [Part.first, Part.ofEscape, hexadecimal, digit]
  exact of_first rfl (fun more => Part.split_cons (first more)) (.inl ⟨_, rfl⟩)

/-- The beginning of a group that does not capture. -/
theorem mark (sign : Char) (cut : ∀ more, Part.first '(' ('?' :: sign :: more) =
    .nonCapturing ['(', '?', sign]) : Rewrites ['(', '?', sign] ['(', '?', sign] :=
  of_first rfl (fun more => Part.split_cons (cut more)) (.inr (.inr (.inl ⟨_, rfl⟩)))

theorem close : Rewrites [')'] [')'] :=
  of_first rfl (fun _ => Part.split_cons rfl) (.inr (.inr (.inr rfl)))

/-- A group that captures is written as one that does not. -/
theorem group (h : Rewrites text result) (nonempty : text ≠ []) (query : text.head? ≠ some '?') :
    Rewrites ('(' :: text) ('(' :: '?' :: ':' :: result) := by
  intro captured opened more
  obtain ⟨after, written, references⟩ := h captured (opened + 1) more
  have first : Part.first '(' (text ++ more) = .group := by
    cases text with
    | nil => exact absurd rfl nonempty
    | cons c text =>
      have ne : c ≠ '?' := fun eq => query (congrArg some eq)
      simp [Part.first, Part.ofParenthesis, ne]
  have cut : Part.split ('(' :: text ++ more) = .group :: Part.split (text ++ more) :=
    Part.split_cons first
  refine ⟨after, ?_, ?_⟩
  · rw [cut, writeParts, written]
    rfl
  · rw [cut]
    exact references

end Rewrites

/-! ### Phrases -/

theorem rewrites_atom (a : Atom) : Rewrites a.text a.text := by
  cases a with
  | symbol c bare =>
    refine .symbol (Part.not_special (P := fun c => !isSyntax c) rfl ?_)
    rw [bare, Bool.not_false]
  | escape c simple =>
    exact .escape ⟨ne_of_isSimple simple rfl, ne_of_isSimple simple rfl⟩
      (not_digit_of_isSimple simple)
  | bracket body inside filled =>
    have first (more : List Char) : Part.first '[' (body ++ ']' :: more) =
        .bracket ('[' :: body ++ [']']) := by
      have length : (body ++ [']']).length = body.length + 1 := List.length_append
      have joined : body ++ ']' :: more = body ++ [']'] ++ more := List.append_cons body ']' more
      simp only [Part.first, Part.classLength?_body inside]
      rw [← length, joined, List.take_left, List.cons_append]
    refine .of_first rfl (fun more => ?_) (.inr (.inl ⟨_, rfl⟩))
    have cut := Part.split_cons (first more)
    have length : ('[' :: body ++ [']']).length - 1 = (body ++ [']']).length := rfl
    rw [Part.text, length, List.append_cons, List.drop_left, ← List.append_cons] at cut
    rw [Atom.text, List.append_assoc, List.cons_append]
    exact cut

theorem rewrites_quantifier (q : Option Quantifier) :
    Rewrites (Quantifier.textOf q) (Quantifier.textOf q) := by
  have bound (b : Bound) : Rewrites b.digits b.digits :=
    .symbols fun c mem => Part.not_special rfl (b.decimal c mem)
  have low : Rewrites ['\x7b'] ['\x7b'] := .symbol rfl
  have high : Rewrites ['\x7d'] ['\x7d'] := .symbol rfl
  have comma : Rewrites [','] [','] := .symbol rfl
  cases q with
  | none => exact .nil
  | some q =>
    obtain ⟨count, isLazy⟩ := q
    have mark : Rewrites (lazyMark isLazy) (lazyMark isLazy) := by
      cases isLazy
      · exact .nil
      · exact .symbol rfl
    refine .append ?_ mark
    cases count with
    | star | plus | query => exact .symbol rfl
    | exactly n => exact (low.append (bound n)).append high
    | atLeast n => exact (low.append (bound n)).append (comma.append high)
    | between n m => exact ((low.append (bound n)).append (comma.append (bound m))).append high

/-- Phrases are written with groups that do not capture. -/
theorem rewrites_phrase (x : Phrase) : Rewrites x.text x.demoted.text := by
  induction x with
  | done => exact .nil
  | atom a q rest ih => exact (rewrites_atom a).append ((rewrites_quantifier q).append ih)
  | brace q rest ih =>
    exact (Rewrites.symbol (c := '\x7b') rfl).append ((rewrites_quantifier q).append ih)
  | group g body q rest ihBody ih =>
    have inside : Rewrites (body.text ++ [')']) (body.demoted.text ++ [')']) :=
      ihBody.append .close
    have whole : Rewrites ('(' :: g.mark ++ (body.text ++ [')']))
        ('(' :: g.demoted.mark ++ (body.demoted.text ++ [')'])) := by
      cases g with
      | capture =>
        exact inside.group (by simp) (body.loose_text (Phrase.ended_close []).loose).1
      | plain => exact (Rewrites.mark ':' fun _ => rfl).append inside
      | ahead negated =>
        cases negated
        · exact (Rewrites.mark '=' fun _ => rfl).append inside
        · exact (Rewrites.mark '!' fun _ => rfl).append inside
    have all := whole.append ((rewrites_quantifier q).append ih)
    simpa [Phrase.text, Phrase.demoted] using all
  | bar rest ih => exact (Rewrites.symbol (c := '|') rfl).append ih

/-! ### Alternatives -/

theorem references_of_rewrites {text result : List Char} (h : Rewrites text result) :
    Part.references 0 (Part.split text) = [] := by
  obtain ⟨opened, -, references⟩ := h 0 0 []
  rw [List.append_nil] at references
  rw [references, Part.split, Part.references]

/-- The alternative of a pattern, whatever is captured before it. -/
theorem alternativeOf_of_rewrites {text result : List Char} (h : Rewrites text result)
    (captured : Nat) : alternativeOf false captured text = (result, captured) := by
  obtain ⟨opened, written, -⟩ := h captured 0 []
  rw [List.append_nil] at written
  simp only [alternativeOf, references_of_rewrites h, List.eraseDups_nil, List.length_nil,
    Nat.add_zero, written]
  rw [Part.split, writeParts, List.append_nil]

theorem Part.head?_split_ne_caret {text : List Char} (h : text.head? ≠ some '^') :
    (Part.split text).head? ≠ some .caret := by
  cases text with
  | nil =>
    rw [Part.split]
    simp
  | cons c text =>
    rw [Part.split_cons rfl, List.head?_cons]
    intro eq
    have caret := Option.some.inj eq
    unfold Part.first at caret
    split at caret
    · split at caret <;> cases caret
    · unfold Part.ofEscape at caret
      repeat' split at caret
      all_goals cases caret
    · unfold Part.ofParenthesis at caret
      split at caret <;> cases caret
    · cases caret
    · exact h rfl
    · cases caret

theorem references_caret (text : List Char) :
    Part.references 0 (Part.split ('^' :: text)) = Part.references 0 (Part.split text) := by
  rw [Part.split_caret]
  rfl

/-- A caret in front is dropped. -/
theorem alternativeOf_caret {text : List Char} (h : text.head? ≠ some '^') (captured : Nat) :
    alternativeOf false captured ('^' :: text) = alternativeOf false captured text := by
  simp only [alternativeOf, Part.split_caret, Part.references, writeParts,
    if_neg (Part.head?_split_ne_caret h), List.nil_append]

end Tincture.Union
