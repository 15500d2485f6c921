import Tincture.Language.Options
import Tincture.Proofs.Lexer.Compiling
import Tincture.Proofs.Union.Rewriting

/-!
The pattern for keywords.

Keywords may hold any characters. In their pattern all punctuation is escaped but the bars between
them, so it consists of characters that stand for themselves, escaped punctuation and bars (`Tame`).
Such texts have neither brackets nor groups, and reading them as parts of a union or as lexemes is
straightforward; it follows that the rule for keywords is sturdy, whatever the keywords
(`Options.keywordRule_sturdy`).
-/

namespace Tincture

open Regex Tincture.Union

namespace Options

/-! ### Punctuation -/

/-- What can be found out by looking at all punctuation. -/
theorem forall_punctuation {P : Char → Bool}
    (all : (List.range 127).all (fun n => !isPunctuation (.ofNat n) || P (.ofNat n)) = true)
    {c : Char} (h : isPunctuation c = true) : P c = true := by
  have small : c.toNat < 127 := by
    simp only [isPunctuation, Bool.or_eq_true, Bool.and_eq_true, decide_eq_true_eq] at h
    omega
  have here := List.all_eq_true.mp all c.toNat (List.mem_range.mpr small)
  rw [Char.ofNat_toNat, h] at here
  exact here

/-- An escaped punctuation mark is itself. -/
theorem read_escaped (flags : Flags) (groups : Nat) {c : Char} (h : isPunctuation c = true)
    (rest : List Char) : Lexeme.read flags groups '\\' (c :: rest) = .ok (.code c.toNat, 1) := by
  have plain := forall_punctuation (P := fun c =>
    (Class.ofLetter? c).isNone && (Lexeme.anchor? c).isNone && !c.isDigit && c != 'Q' && c != 'p'
      && c != 'P' && c != 'x' && c != 'u' && c != 'c' && (Escape.control? c).isNone)
    (by decide) h
  simp only [Bool.and_eq_true, Option.isNone_iff_eq_none, Bool.not_eq_true', bne_iff_ne] at plain
  simp [Lexeme.read, Lexeme.escape, Escape.read, Lexeme.ofEscaped, plain, Except.map]

/-- A character that is no punctuation is itself. -/
theorem read_plain (ignoreCase : Bool) (groups : Nat) {c : Char} (h : isPunctuation c = false)
    (rest : List Char) : Lexeme.read { ignoreCase } groups c rest = .ok (.code c.toNat, 0) := by
  unfold Lexeme.read
  split
  case h_13 => rfl
  all_goals exact absurd h (by decide)

/-! ### Tame texts -/

/-- Characters that stand for themselves, escaped punctuation and bars. -/
inductive Tame : List Char → Prop where
  | nil : Tame []
  | plain {c : Char} {rest : List Char} (word : isPunctuation c = false ∨ c = '_')
      (tame : Tame rest) : Tame (c :: rest)
  | bar {rest : List Char} (tame : Tame rest) : Tame ('|' :: rest)
  | escaped {c : Char} {rest : List Char} (punctuation : isPunctuation c = true)
      (tame : Tame rest) : Tame ('\\' :: c :: rest)

namespace Tame

variable {text more : List Char}

theorem append (h : Tame text) (tame : Tame more) : Tame (text ++ more) := by
  induction h with
  | nil => exact tame
  | plain word _ ih => exact .plain word ih
  | bar _ ih => exact .bar ih
  | escaped punctuation _ ih => exact .escaped punctuation ih

theorem escapeKeyword (keyword : String) : Tame (Options.escapeKeyword keyword).toList := by
  rw [Options.escapeKeyword, String.toList_ofList]
  induction keyword.toList with
  | nil => exact .nil
  | cons c rest ih =>
    rw [List.flatMap_cons]
    refine append ?_ ih
    cases punctuation : isPunctuation c with
    | false => exact .plain (.inl punctuation) .nil
    | true =>
      by_cases low : c = '_'
      · subst low
        exact .plain (.inr rfl) .nil
      · simp only [bne_iff_ne.mpr low, Bool.and_self, if_true]
        exact .escaped punctuation .nil

theorem intercalate {texts : List (List Char)} (h : ∀ text ∈ texts, Tame text) :
    Tame (['|'].intercalate texts) := by
  induction texts with
  | nil => exact .nil
  | cons text texts ih =>
    have first := h text List.mem_cons_self
    cases texts with
    | nil => exact first.append .nil
    | cons next texts =>
      rw [List.intercalate_cons_cons, List.append_assoc]
      exact first.append (.bar (ih fun t mem => h t (List.mem_cons_of_mem text mem)))

theorem keywords (keywords : List String) :
    Tame (['|'].intercalate
      (keywords.map fun keyword => (Options.escapeKeyword keyword).toList)) := by
  refine .intercalate ?_
  intro text mem
  obtain ⟨keyword, -, rfl⟩ := List.mem_map.mp mem
  exact .escapeKeyword keyword

/-- Tame texts open and close nothing. -/
theorem read? (h : Tame text) (ignoreCase : Bool) (groups : Nat) (filled : Bool)
    (outer : List Bool) :
    ∃ after, ∀ more, Outline.read? { ignoreCase } ⟨groups, filled, outer⟩ (text ++ more) =
      Outline.read? { ignoreCase } ⟨groups, after, outer⟩ more := by
  induction h generalizing filled with
  | nil => exact ⟨filled, fun _ => rfl⟩
  | plain word _ ih =>
    obtain ⟨after, rest⟩ := ih true
    refine ⟨after, ?_⟩
    intro more
    rw [List.cons_append, Outline.read?]
    rcases word with word | rfl
    · rw [read_plain ignoreCase groups word]
      exact rest more
    · exact rest more
  | bar _ ih =>
    obtain ⟨after, rest⟩ := ih false
    refine ⟨after, ?_⟩
    intro more
    rw [List.cons_append, Outline.read?]
    exact rest more
  | escaped punctuation _ ih =>
    obtain ⟨after, rest⟩ := ih true
    refine ⟨after, ?_⟩
    intro more
    rw [List.cons_append, List.cons_append, Outline.read?,
      read_escaped { ignoreCase } groups punctuation]
    exact rest more

theorem enclosed (h : Tame text) : Enclosed text := by
  intro ignoreCase outer
  obtain ⟨after, read⟩ := h.read? ignoreCase 0 false outer
  exact ⟨after, fun more => read (')' :: more)⟩

/-- In a union tame texts are written as they are. -/
theorem rewrites (h : Tame text) : Rewrites text text := by
  induction h with
  | nil => exact .nil
  | @plain c rest word _ ih =>
    refine (Rewrites.symbol ?_).append ih
    refine Part.not_special (P := fun c => !isPunctuation c || c == '_') rfl ?_
    simpa using word
  | bar _ ih => exact (Rewrites.symbol rfl).append ih
  | escaped punctuation _ ih =>
    have plain := forall_punctuation (P := fun c => c != 'u' && c != 'x' && !c.isDigit)
      (by decide) punctuation
    simp only [Bool.and_eq_true, Bool.not_eq_true', bne_iff_ne] at plain
    exact (Rewrites.escape plain.1 plain.2).append ih

end Tame

/-! ### The rule -/

/-- The text of a pattern for one of several words. -/
def wordText (body : List Char) : List Char := '^' :: grouped body ++ ['\\', 'b']

variable {body : List Char}

theorem Tame.rewrites_word (h : Tame body) :
    Rewrites (grouped body ++ ['\\', 'b']) (grouped body ++ ['\\', 'b']) := by
  have opening : Rewrites ['(', '?', ':'] ['(', '?', ':'] := .mark ':' fun _ => rfl
  have edge : Rewrites ['\\', 'b'] ['\\', 'b'] := .escape (by decide) rfl
  exact ((opening.append h.rewrites).append .close).append edge

/-- In a union the caret is dropped. -/
theorem Tame.alternativeOf_wordText (h : Tame body) :
    (alternativeOf false 0 (wordText body)).1 = grouped body ++ ['\\', 'b'] := by
  have uncapped : (grouped body ++ ['\\', 'b']).head? ≠ some '^' := by simp [grouped]
  have dropped := alternativeOf_caret uncapped 0
  rw [alternativeOf_of_rewrites h.rewrites_word] at dropped
  exact congrArg Prod.fst dropped

theorem Tame.read?_wordText (h : Tame body) (ignoreCase filled : Bool) (outer : List Bool)
    (more : List Char) :
    Outline.read? { ignoreCase } ⟨0, filled, outer⟩ (grouped body ++ '\\' :: 'b' :: more) =
      Outline.read? { ignoreCase } ⟨0, true, outer⟩ more := by
  rw [grouped, List.append_assoc]
  refine (h.enclosed.read?_group ignoreCase filled outer ('\\' :: 'b' :: more)).trans ?_
  rw [Outline.read?]
  rfl

theorem Tame.wordText_sturdy (h : Tame body) {p : Pattern} (unflagged : p.forbiddenFlag? = none)
    (minding : p.ignoreCase = false) (spelled : p.source.toList = wordText body) : p.Sturdy := by
  refine ⟨unflagged, ?_, ?_, fun foldCase => ?_⟩
  · have whole : Outline.read? {} {} (wordText body) = some ⟨0, true, []⟩ := by
      rw [wordText, List.cons_append, Outline.read?]
      exact (h.read?_wordText false true [] []).trans (Outline.read?.eq_1 _ _)
    rw [spelled, minding, Outline.closes, whole]
    rfl
  · rw [spelled]
    exact (references_caret _).trans (references_of_rewrites h.rewrites_word)
  · rw [minding, spelled, Bool.false_and, h.alternativeOf_wordText]
    intro ignoreCase outer
    refine ⟨true, ?_⟩
    intro more
    rw [List.append_assoc]
    exact h.read?_wordText ignoreCase false outer (')' :: more)

/-- The pattern for keywords is one for words. -/
theorem toList_keywords (keywords : List String) :
    ("^(?:" ++ "|".intercalate (keywords.map escapeKeyword) ++ ")\\b").toList =
      wordText
        (['|'].intercalate (keywords.map fun keyword => (escapeKeyword keyword).toList)) := by
  simp [wordText, grouped, Function.comp_def]

/-- The rule for keywords is sturdy, whatever the keywords. -/
theorem keywordRule_sturdy (o : Options) : ∀ r ∈ o.keywordRule?, r.Sturdy := by
  intro r mem
  rw [keywordRule?] at mem
  split at mem
  · cases mem
  · cases mem
    exact Rule.sturdy_of_pattern
      ((Tame.keywords o.keywords).wordText_sturdy rfl rfl (toList_keywords o.keywords))

end Options

end Tincture
