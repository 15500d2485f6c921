import Tincture.Proofs.Language.OptionRules

/-!
What the pattern for keywords says.

Keywords are any texts. They are escaped and put between bars, and the pattern is cut into parts
again when it joins a union, so no character of a keyword may be taken there for an operator, nor
for a bar. It is not: the parts between the parentheses are literal text and escaped punctuation
(`Tame.split_append`), and cut at the bars that are not escaped they give back the keywords
(`pieces_intercalate`, `unescape_escapeKeyword`). So options may name any keywords whatever
(`keywords_encoded`).
-/

namespace Tincture

open Regex Tincture.Union

namespace Options

/-! ### Escaped texts -/

/-- The text of a character in a keyword. -/
def escapeChar (c : Char) : List Char := if isPunctuation c && c != '_' then ['\\', c] else [c]

/-- Cuts a text at the bars that are not escaped. -/
def pieces : List Char → List (List Char)
  | [] => [[]]
  | '\\' :: c :: rest => (pieces rest).modifyHead (['\\', c] ++ ·)
  | '|' :: rest => [] :: pieces rest
  | c :: rest => (pieces rest).modifyHead (c :: ·)

/-- Removes the backslashes that escape. -/
def unescape : List Char → List Char
  | [] => []
  | '\\' :: c :: rest => c :: unescape rest
  | c :: rest => c :: unescape rest

theorem toList_escapeKeyword (keyword : String) :
    (escapeKeyword keyword).toList = keyword.toList.flatMap escapeChar := String.toList_ofList

/-- A character is escaped, or it is neither a backslash nor a bar. -/
theorem escapeChar_cases (c : Char) :
    escapeChar c = ['\\', c] ∨ escapeChar c = [c] ∧ c ≠ '\\' ∧ c ≠ '|' := by
  unfold escapeChar
  by_cases escaped : (isPunctuation c && c != '_') = true
  · exact .inl (if_pos escaped)
  · refine .inr ⟨if_neg escaped, ?_, ?_⟩
    all_goals
      rintro rfl
      exact escaped rfl

theorem pieces_escapeChar (c : Char) (rest : List Char) :
    pieces (escapeChar c ++ rest) = (pieces rest).modifyHead (escapeChar c ++ ·) := by
  rcases escapeChar_cases c with escaped | ⟨plain, backslash, bar⟩
  · rw [escaped]
    rfl
  · rw [plain, List.singleton_append, pieces.eq_def]
    split
    · rename_i eq
      cases eq
    · rename_i eq
      cases eq
      exact absurd rfl backslash
    · rename_i eq
      cases eq
      exact absurd rfl bar
    · rename_i eq
      cases eq
      rfl

theorem unescape_escapeChar (c : Char) (rest : List Char) :
    unescape (escapeChar c ++ rest) = c :: unescape rest := by
  rcases escapeChar_cases c with escaped | ⟨plain, backslash, -⟩
  · rw [escaped]
    rfl
  · rw [plain, List.singleton_append, unescape.eq_def]
    split
    · rename_i eq
      cases eq
    · rename_i eq
      cases eq
      exact absurd rfl backslash
    · rename_i eq
      cases eq
      rfl

/-- What is escaped is not cut. -/
theorem pieces_flatMap_escapeChar (text rest : List Char) :
    pieces (text.flatMap escapeChar ++ rest) =
      (pieces rest).modifyHead (text.flatMap escapeChar ++ ·) := by
  induction text with
  | nil => exact (congrFun List.modifyHead_id (pieces rest)).symm
  | cons c text ih =>
    rw [List.flatMap_cons, List.append_assoc, pieces_escapeChar, ih, List.modifyHead_modifyHead]
    congr 1
    funext piece
    exact (List.append_assoc _ _ _).symm

theorem unescape_escapeKeyword (keyword : String) :
    unescape (escapeKeyword keyword).toList = keyword.toList := by
  rw [toList_escapeKeyword]
  induction keyword.toList with
  | nil => rfl
  | cons c text ih => rw [List.flatMap_cons, unescape_escapeChar, ih]

/-- Between bars, each keyword is a piece of its own. -/
theorem pieces_intercalate {keywords : List String} (nonempty : keywords ≠ []) :
    pieces (['|'].intercalate (keywords.map fun keyword => (escapeKeyword keyword).toList)) =
      keywords.map fun keyword => (escapeKeyword keyword).toList := by
  induction keywords with
  | nil => exact absurd rfl nonempty
  | cons keyword keywords ih =>
    cases keywords with
    | nil =>
      have alone := pieces_flatMap_escapeChar keyword.toList []
      rw [List.append_nil, ← toList_escapeKeyword] at alone
      rw [List.map_singleton, List.intercalate_singleton, alone]
      simp [pieces]
    | cons next keywords =>
      have others := ih (List.cons_ne_nil next keywords)
      rw [List.map_cons] at others
      rw [List.map_cons, List.map_cons, List.intercalate_cons_cons, List.append_assoc,
        toList_escapeKeyword, pieces_flatMap_escapeChar, List.singleton_append, pieces, others]
      simp

/-! ### The parts of the pattern -/

/-- Literal text, or a punctuation mark that is escaped. -/
def IsVerbatim : Part → Prop
  | .literal _ => True
  | .escape text => ∃ c, isPunctuation c = true ∧ text = ['\\', c]
  | _ => False

variable {text : List Char}

/-- A character in front of literal text belongs to it. -/
theorem split_symbol {c : Char} (special : Part.isSpecial c = false) (more : List Char) :
    Part.split (c :: more) = .literal [c] :: Part.split more ∨
      ∃ run rest, Part.split more = .literal run :: rest ∧
        Part.split (c :: more) = .literal (c :: run) :: rest := by
  rw [Part.split_run, Part.split_run more, List.takeWhile_cons, List.dropWhile_cons]
  simp only [special, Bool.not_false, if_true]
  cases more.takeWhile (!Part.isSpecial ·) with
  | nil => exact .inl rfl
  | cons d run => exact .inr ⟨d :: run, _, rfl, rfl⟩

/-- Up to a closing parenthesis, a tame text has literal and escaped parts only. -/
theorem Tame.split_append (h : Tame text) (more : List Char) :
    ∃ units, Part.split (text ++ ')' :: more) = units ++ .close :: Part.split more ∧
      (∀ unit ∈ units, IsVerbatim unit) ∧ units.flatMap Part.text = text := by
  -- A character and the run of literal text after it make one part.
  have symbol {c : Char} {rest : List Char} (special : Part.isSpecial c = false)
      (ih : ∃ units, Part.split (rest ++ ')' :: more) = units ++ .close :: Part.split more ∧
        (∀ unit ∈ units, IsVerbatim unit) ∧ units.flatMap Part.text = rest) :
      ∃ units, Part.split (c :: rest ++ ')' :: more) = units ++ .close :: Part.split more ∧
        (∀ unit ∈ units, IsVerbatim unit) ∧ units.flatMap Part.text = c :: rest := by
    obtain ⟨units, cut, verbatim, flat⟩ := ih
    rcases split_symbol special (rest ++ ')' :: more) with alone | ⟨run, after, first, joined⟩
    · refine ⟨.literal [c] :: units, ?_, List.forall_mem_cons.mpr ⟨trivial, verbatim⟩, ?_⟩
      · rw [List.cons_append, alone, cut, List.cons_append]
      · rw [List.flatMap_cons, flat]
        rfl
    · cases units with
      | nil =>
        rw [cut] at first
        cases first
      | cons unit units =>
        rw [cut, List.cons_append] at first
        cases first
        refine ⟨.literal (c :: run) :: units, ?_,
          List.forall_mem_cons.mpr ⟨trivial, (List.forall_mem_cons.mp verbatim).2⟩, ?_⟩
        · rw [List.cons_append, joined, List.cons_append]
        · rw [← flat]
          rfl
  induction h with
  | nil => exact ⟨[], Part.split_cons rfl, fun _ mem => absurd mem List.not_mem_nil, rfl⟩
  | @plain c rest word _ ih =>
    refine symbol (Part.not_special (P := fun c => !isPunctuation c || c == '_') rfl ?_) ih
    simpa using word
  | bar _ ih => exact symbol rfl ih
  | @escaped c rest punctuation _ ih =>
    obtain ⟨units, cut, verbatim, flat⟩ := ih
    have plain := forall_punctuation (P := fun c => c != 'u' && c != 'x' && !c.isDigit)
      (by decide) punctuation
    simp only [Bool.and_eq_true, Bool.not_eq_true', bne_iff_ne] at plain
    have first (more : List Char) : Part.first '\\' (c :: more) = .escape ['\\', c] := by
      simp [Part.first, Part.ofEscape, plain]
    refine ⟨.escape ['\\', c] :: units, ?_,
      List.forall_mem_cons.mpr ⟨⟨c, punctuation, rfl⟩, verbatim⟩, ?_⟩
    · rw [List.cons_append, List.cons_append, Part.split_cons (first _)]
      exact congrArg _ cut
    · rw [List.flatMap_cons, flat]
      rfl

/-- The parts of a pattern for one of several words. -/
theorem Tame.split_wordText (h : Tame text) :
    ∃ units, Part.split (wordText text) =
        [.caret, .nonCapturing ['(', '?', ':']] ++ units ++ [.close, .escape ['\\', 'b']] ∧
      (∀ unit ∈ units, IsVerbatim unit) ∧ units.flatMap Part.text = text := by
  obtain ⟨units, cut, verbatim, flat⟩ := h.split_append ['\\', 'b']
  refine ⟨units, ?_, verbatim, flat⟩
  have body : grouped text ++ ['\\', 'b'] = '(' :: '?' :: ':' :: (text ++ [')', '\\', 'b']) := by
    simp [grouped]
  have opening : Part.split (grouped text ++ ['\\', 'b']) =
      .nonCapturing ['(', '?', ':'] :: Part.split (text ++ [')', '\\', 'b']) := by
    rw [body]
    exact Part.split_cons rfl
  have edge : Part.split ['\\', 'b'] = [.escape ['\\', 'b']] := by decide +kernel
  rw [wordText, List.cons_append, Part.split_caret, opening, cut, edge]
  simp

/-! ### Any keywords -/

/-- The text is that of a pattern for words, with nothing between its parentheses but literal text
and escaped punctuation; between the bars these spell the keywords, in order. -/
def Encodes (source : List Char) (keywords : List String) : Prop :=
  ∃ units,
    Part.split source =
      [.caret, .nonCapturing ['(', '?', ':']] ++ units ++ [.close, .escape ['\\', 'b']] ∧
    (∀ unit ∈ units, IsVerbatim unit) ∧
    (pieces (units.flatMap Part.text)).map (fun piece => String.ofList (unescape piece)) = keywords

/-- The pattern for keywords encodes them. -/
theorem encodes_keywords {keywords : List String} (nonempty : keywords ≠ []) :
    Encodes ("^(?:" ++ "|".intercalate (keywords.map escapeKeyword) ++ ")\\b").toList keywords := by
  obtain ⟨units, cut, verbatim, flat⟩ := (Tame.keywords keywords).split_wordText
  refine ⟨units, (congrArg Part.split (toList_keywords keywords)).trans cut, verbatim, ?_⟩
  rw [flat, pieces_intercalate nonempty, List.map_map]
  have same (keyword : String) :
      String.ofList (unescape (escapeKeyword keyword).toList) = keyword := by
    rw [unescape_escapeKeyword, String.ofList_toList]
  simp [Function.comp_def, same]

/-- Whatever the keywords are, the rules compile; and if there are any, one of the fallback rules is
for keywords and its pattern encodes them. -/
theorem keywords_encoded (o : Options) (untyped : o.typePattern = none) :
    (∃ lexer, Lexer.compile o.rules = .ok lexer) ∧
      (o.keywords ≠ [] → ∃ r ∈ o.rules.fallbacks, o.keywordRule? = some r ∧
        r.style = .terminal .keyword ∧ Encodes r.pattern.source.toList o.keywords) := by
  refine ⟨exists_lexer fun p mem => ?_, fun nonempty => ?_⟩
  · rw [untyped] at mem
    cases mem
  · have ruled : o.keywordRule? = some (Rule.tagged .keyword
        ("^(?:" ++ "|".intercalate (o.keywords.map escapeKeyword) ++ ")\\b")) := by
      rw [keywordRule?, if_neg (by simpa using nonempty)]
    refine ⟨_, ?_, ruled, rfl, encodes_keywords nonempty⟩
    simp [rules, ruled]

/-- Options with keywords that look like operators, one of them empty and one repeated. -/
def operatorLike : Options where
  regexLiterals := .multiLine
  keywords := ["c++", "", "a|b", "\\E)", "c++"]

theorem keywords_encoded_operatorLike :
    operatorLike.typePattern = none ∧ (∃ lexer, Lexer.compile operatorLike.rules = .ok lexer) ∧
      let pattern := "^(?:c\\+\\+||a\\|b|\\\\E\\)|c\\+\\+)\\b"
      Rule.tagged .keyword pattern ∈ operatorLike.rules.fallbacks ∧
        Encodes pattern.toList ["c++", "", "a|b", "\\E)", "c++"] := by
  have known : operatorLike.keywordRule? =
      some (Rule.tagged .keyword "^(?:c\\+\\+||a\\|b|\\\\E\\)|c\\+\\+)\\b") := by
    decide +kernel
  obtain ⟨compiles, ruled⟩ := keywords_encoded operatorLike rfl
  obtain ⟨r, mem, own, -, encodes⟩ := ruled (by decide)
  cases known.symm.trans own
  exact ⟨rfl, compiles, mem, encodes⟩

end Options

end Tincture
