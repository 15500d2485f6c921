import Mathlib.Tactic
import Tincture.Proofs.Regex.Tandem
import Tincture.Proofs.Union.ClassMeaning
import Tincture.Proofs.Union.Cutting

/-!
Spelling out both cases is ignoring case.

Where a union cannot ignore case, the alternative of a pattern that does has its letters written in
both cases. In ASCII text it matches like the alternative with its letters as they are and case
ignored (`folding_matches_alike`), if the pattern is made of tame parts: a letter becomes a class of
two, a class the class with both cases, and all else remains as it is. Parts that depend on letters
in another way, such as a property or a control character, are not tame, and neither are classes
whose members the engine takes for something else.
-/

namespace Tincture.Union

open Regex

/-! ### Tame parts -/

/-- Whether an escape is complete, takes no letters along and stands for none. -/
def isTameEscape : List Char → Bool
  | ['\\', c] => isSimple c &&
    ((Class.ofLetter? c).isSome || (Lexeme.anchor? c).isSome || caseless (escapedCode c))
  | '\\' :: 'x' :: ds => ds.length == 2 && ds.all (isDigitIn 16) && numeral 16 ds < 128
    && caseless (numeral 16 ds)
  | '\\' :: 'u' :: ds => ds.length == 4 && ds.all (isDigitIn 16) && caseless (numeral 16 ds)
  | _ => false

namespace Part

/-- What groups other than look-behinds are opened with. -/
def isTameOpening (text : List Char) : Bool :=
  [['(', '?', ':'], ['(', '?', '='], ['(', '?', '!'], ['(', '?', '>']].contains text

/-- Whether spelling out the cases of a part is ignoring its case. -/
def isTame : Part → Bool
  | .bracket text => isTameClass text
  | .escape text => isTameEscape text
  | .numeric _ _ => false
  | .nonCapturing text => isTameOpening text
  | .literal text =>
    text.all fun c => c.isAlpha || (caseless c.toNat && !(['[', '\\', '('].contains c))
  | .group | .close | .caret => true

/-- Whether a part stands for characters beyond ASCII that fold to ASCII. -/
def isBroad : Part → Bool
  | .bracket text => isBroadClass text
  | _ => false

end Part

/-! ### Pieces -/

variable {t : Subject}

theorem spells_bracket (ignoreCase : Bool) {body : List Char} {c : ClassText}
    (read : ∀ more, ClassText.read (body ++ more) = .ok (c, body.length)) :
    Spells ignoreCase ('[' :: body) (.bracket c) := by
  refine ⟨'[', body, rfl, by decide, fun groups more => ?_⟩
  simp [Lexeme.read, read, Except.map]

theorem spells_symbol (ignoreCase : Bool) {c : Char} (letter : c.isAlpha = true) :
    Spells ignoreCase [c] (.code c.toNat) := by
  have facts := letters_all (P := fun c => isApart c && !isSyntax c && c != '.' && c != '$')
    (by decide +kernel) letter
  simp only [Bool.and_eq_true, Bool.not_eq_true', bne_iff_ne] at facts
  obtain ⟨⟨⟨apart, bare⟩, dot⟩, dollar⟩ := facts
  obtain ⟨d, tail, eq, -, read⟩ := (Atom.symbol c bare).exists_text
  obtain ⟨rfl, rfl⟩ := List.cons.inj eq
  refine ⟨c, [], rfl, apart, fun groups more => ?_⟩
  refine (read ignoreCase groups more _).mpr ⟨?_, rfl⟩
  rw [Atom.lexeme, if_neg dot, if_neg dollar]

/-- The two cases of a letter are the letter and its other case. -/
theorem cases_of_isAlpha {c : Char} (letter : c.isAlpha = true) (n : Nat) :
    n = c.toUpper.toNat ∨ n = c.toLower.toNat ↔ n = c.toNat ∨ n = swapCase c.toNat := by
  have pair := letters_all
    (P := fun c => (c.toUpper.toNat == c.toNat && c.toLower.toNat == swapCase c.toNat) ||
      (c.toLower.toNat == c.toNat && c.toUpper.toNat == swapCase c.toNat))
    (by decide +kernel) letter
  simp only [Bool.or_eq_true, Bool.and_eq_true, beq_iff_eq] at pair
  rcases pair with ⟨upper, lower⟩ | ⟨lower, upper⟩
  · rw [upper, lower]
  · rw [upper, lower, or_comm]

/-- A letter is spelled out as a class of two. -/
theorem twin_letter (ascii : t.Ascii) {c : Char} (letter : c.isAlpha = true)
    {more more' : List Char} (rest : Twin t more more') :
    Twin t (c :: more) ('[' :: c.toUpper :: c.toLower :: ']' :: more') := by
  have facts := letters_all
    (P := fun c => decide (Tame [[c.toUpper], [c.toLower]]) && c.toUpper != '^' &&
      decide (Contents.ofMembers [[c.toUpper], [c.toLower]] =
        ⟨[], [(c.toUpper.toNat, c.toUpper.toNat), (c.toLower.toNat, c.toLower.toNat)]⟩))
    (by decide +kernel) letter
  simp only [Bool.and_eq_true, decide_eq_true_eq, bne_iff_ne] at facts
  obtain ⟨⟨tame, upright⟩, contents⟩ := facts
  obtain ⟨pair, meant, read⟩ := @read_class false _ tame (by simp)
    (fun _ => by simpa using upright)
  have alike : AlikeOn t true false ((Lexeme.code c.toNat).node true)
      ((Lexeme.bracket pair).node false) := by
    have lt := isAscii_iff.mp (isAscii_of_isAlpha letter)
    refine ⟨rfl, trivial, ?_⟩
    refine agree_fold ascii lt fun m lt' => ?_
    have set : pair.set = pair.members.set := by simp [ClassText.set, meant.negated]
    rw [set, meant.contains_iff, contents, fold_eq_iff lt' lt, ← cases_of_isAlpha letter]
    simp only [Contents.Holds, mem_covered_cons, covered_nil, Set.mem_empty_iff_false,
      List.not_mem_nil, false_and, exists_false, or_false]
    omega
  have spells' : Spells false ['[', c.toUpper, c.toLower, ']'] (.bracket pair) :=
    spells_bracket false fun more => by simpa [withCaret] using read more
  exact .piece (spells_symbol true letter) spells' (.atom rfl rfl alike) rest

/-- An escape of a letter is read as what it stands for. -/
theorem spells_simple (ignoreCase : Bool) {c : Char} (simple : isSimple c = true) :
    Spells ignoreCase ['\\', c]
      (match Class.ofLetter? c, Lexeme.anchor? c with
        | some s, _ => .set s
        | none, some a => .anchor a
        | none, none => .code (escapedCode c)) := by
  obtain ⟨d, tail, eq, -, read⟩ := (Atom.escape c simple).exists_text
  obtain ⟨rfl, rfl⟩ := List.cons.inj eq
  exact ⟨'\\', [c], rfl, by decide, fun groups more =>
    (read ignoreCase groups more _).mpr ⟨rfl, rfl⟩⟩

/-- An escape of digits is read as the code point. -/
theorem spells_numbered (ignoreCase : Bool) {mark : Char} {ds : List Char}
    (kind : (mark = 'x' ∧ ds.length = 2 ∧ numeral 16 ds < 128) ∨ (mark = 'u' ∧ ds.length = 4))
    (all : ∀ d ∈ ds, isDigitIn 16 d = true) :
    Spells ignoreCase ('\\' :: mark :: ds) (.code (numeral 16 ds)) := by
  refine ⟨'\\', mark :: ds, rfl, by decide, fun groups more => ?_⟩
  have filled : ds ++ more ≠ [] := by
    intro none
    have empty := (List.append_eq_nil_iff.mp none).1
    simp [empty] at kind
  rcases kind with ⟨rfl, length, lt⟩ | ⟨rfl, length⟩
  · have digit : Char.isDigit 'x' = false := by decide
    simp [Lexeme.read, Lexeme.escape, Class.ofLetter?, Lexeme.anchor?, digit, Escape.read, filled,
      leadingDigits_of_all length all, Lexeme.ofEscaped, lt, Except.map]
  · have digit : Char.isDigit 'u' = false := by decide
    simp [Lexeme.read, Lexeme.escape, Class.ofLetter?, Lexeme.anchor?, digit, Escape.read, filled,
      leadingDigits_of_all length all, length, Lexeme.ofEscaped, Except.map]

/-- An escape is read as the same in both texts. -/
theorem twin_escape (ascii : t.Ascii) {text : List Char} (tame : isTameEscape text = true)
    {more more' : List Char} (rest : Twin t more more') :
    Twin t (text ++ more) (text ++ more') := by
  have same {l : Lexeme} (spells : ∀ ignoreCase, Spells ignoreCase text l)
      (atomic : l.isAtomic = true) (alike : AlikeOn t true false (l.node true) (l.node false)) :
      Twin t (text ++ more) (text ++ more') :=
    .piece (spells true) (spells false) (.atom atomic atomic alike) rest
  have code {n : Nat} (spells : ∀ ignoreCase, Spells ignoreCase text (.code n))
      (uncased : caseless n = true) : Twin t (text ++ more) (text ++ more') :=
    same spells rfl (alike_of_caseless ascii uncased)
  unfold isTameEscape at tame
  split at tame
  · rename_i c
    simp only [Bool.and_eq_true, Bool.or_eq_true] at tame
    obtain ⟨simple, uncased⟩ := tame
    have spells (ignoreCase : Bool) := spells_simple ignoreCase simple
    cases named : Class.ofLetter? c with
    | some s =>
      simp only [named] at spells
      exact same spells rfl ⟨trivial, trivial, .of_eq rfl⟩
    | none =>
      cases anchor : Lexeme.anchor? c with
      | some a =>
        simp only [named, anchor] at spells
        exact same spells rfl ⟨trivial, trivial, .of_eq rfl⟩
      | none =>
        simp only [named, anchor] at spells uncased
        exact code spells (by simpa using uncased)
  · simp only [Bool.and_eq_true, beq_iff_eq, List.all_eq_true, decide_eq_true_eq] at tame
    obtain ⟨⟨⟨length, all⟩, lt⟩, uncased⟩ := tame
    exact code (fun _ => spells_numbered _ (.inl ⟨rfl, length, lt⟩) all) uncased
  · simp only [Bool.and_eq_true, beq_iff_eq, List.all_eq_true] at tame
    obtain ⟨⟨length, all⟩, uncased⟩ := tame
    exact code (fun _ => spells_numbered _ (.inr ⟨rfl, length⟩) all) uncased
  · cases tame

/-- A closed class ends in its bracket. -/
theorem exists_inner {body : List Char} (closed : Part.ClosedClass body) :
    ∃ inner, body = inner ++ [']'] := by
  unfold Part.ClosedClass at closed
  fun_induction Part.classLength? body with
  | case1 => cases closed
  | case2 rest =>
    obtain rfl : rest = [] := by simpa using closed
    exact ⟨[], rfl⟩
  | case3 c rest ih =>
    obtain ⟨m, length, eq⟩ := Option.map_eq_some_iff.mp closed
    obtain ⟨inner, rfl⟩ := ih (by rw [length, Nat.add_right_cancel eq])
    exact ⟨'\\' :: c :: inner, rfl⟩
  | case4 c rest closing escaping ih =>
    obtain ⟨m, length, eq⟩ := Option.map_eq_some_iff.mp closed
    obtain ⟨inner, rfl⟩ := ih (by rw [length, Nat.add_right_cancel eq])
    exact ⟨c :: inner, rfl⟩

/-- The class with both cases of its letters goes with the class. -/
theorem twin_class (ascii : t.Ascii) {body : List Char} (closed : Part.ClosedClass body)
    (tame : isTameClass ('[' :: body) = true)
    (absent : isBroadClass ('[' :: body) = true → ∀ run ∈ Fold.ligatures, ¬ run <:+: t.folding)
    {more more' : List Char} (rest : Twin t more more') :
    Twin t ('[' :: body ++ more) (foldClass ('[' :: body) ++ more') := by
  obtain ⟨c, c', read, read', alike⟩ := foldClass_alike ascii tame absent
  obtain ⟨inner, rfl⟩ := exists_inner closed
  obtain ⟨body', eq, -⟩ := Part.closedClass_foldClass ('[' :: (inner ++ [']']))
  have own : classBody ('[' :: (inner ++ [']'])) = inner := by simp [classBody]
  rw [own] at read
  rw [eq, List.tail_cons] at read'
  rw [eq]
  refine .piece (spells_bracket true fun more => ?_) (spells_bracket false read')
    (.atom rfl rfl alike) rest
  simpa using read more

theorem twin_opening {text : List Char} (tame : Part.isTameOpening text = true)
    {more more' : List Char} (rest : Twin t more more') :
    Twin t (text ++ more) (text ++ more') := by
  have piece (tail : List Char) (o : Opening) (basic : o.isBasic = true)
      (read : ∀ (ignoreCase : Bool) (groups : Nat) (more : List Char),
        Lexeme.read { ignoreCase } groups '(' (tail ++ more) =
          .ok (.opening o, tail.length)) :
      Twin t ('(' :: tail ++ more) ('(' :: tail ++ more') :=
    .piece ⟨'(', tail, rfl, by decide, read true⟩ ⟨'(', tail, rfl, by decide, read false⟩
      (.opening basic) rest
  simp only [Part.isTameOpening, List.contains_eq_mem, List.mem_cons, List.not_mem_nil, or_false,
    decide_eq_true_eq] at tame
  rcases tame with rfl | rfl | rfl | rfl
  · exact piece ['?', ':'] .plain rfl fun _ _ _ => rfl
  · exact piece ['?', '='] (.ahead false) rfl fun _ _ _ => rfl
  · exact piece ['?', '!'] (.ahead true) rfl fun _ _ _ => rfl
  · exact piece ['?', '>'] .atomic rfl fun _ _ _ => rfl

/-- Literal text goes with the text in both cases. -/
theorem twin_literal (ascii : t.Ascii) {text : List Char}
    (tame : (Part.literal text).isTame = true) {more more' : List Char}
    (rest : Twin t more more') : Twin t (text ++ more) (foldLetters text ++ more') := by
  induction text with
  | nil => exact rest
  | cons c text ih =>
    simp only [Part.isTame, List.all_cons, Bool.and_eq_true] at tame ih
    obtain ⟨first, others⟩ := tame
    have twin := ih others
    rw [foldLetters, List.flatMap_cons, List.append_assoc]
    by_cases letter : c.isAlpha = true
    · rw [if_pos letter]
      exact twin_letter ascii letter twin
    · rw [if_neg letter]
      have plain := (Bool.or_eq_true _ _ ▸ first).resolve_left letter
      simp only [Bool.and_eq_true, Bool.not_eq_true', List.contains_eq_mem,
        decide_eq_false_iff_not] at plain
      exact .symbol plain.2 plain.1 twin

/-! ### Alternatives -/

/-- The two ways to write tame parts are read in tandem. -/
theorem twin_writeParts (ascii : t.Ascii) {parts : List Part}
    (formed : ∀ part ∈ parts, part.Formed) (tame : ∀ part ∈ parts, part.isTame = true)
    (absent : ∀ part ∈ parts, part.isBroad = true → ∀ run ∈ Fold.ligatures, ¬ run <:+: t.folding)
    (captured opened : Nat) :
    Twin t (writeParts false captured [] opened parts)
      (writeParts true captured [] opened parts) := by
  induction parts generalizing opened with
  | nil => exact .nil
  | cons part parts ih =>
    obtain ⟨form, formed⟩ := List.forall_mem_cons.mp formed
    obtain ⟨own, tame⟩ := List.forall_mem_cons.mp tame
    obtain ⟨none, absent⟩ := List.forall_mem_cons.mp absent
    have rest (opened : Nat) := ih formed tame absent opened
    have symbol {c : Char} (plain : c ∉ ['[', '\\', '(']) (uncased : caseless c.toNat = true) :
        Twin t (c :: writeParts false captured [] opened parts)
          (c :: writeParts true captured [] opened parts) := .symbol plain uncased (rest opened)
    cases form with
    | bracket closed => exact twin_class ascii closed own none (rest opened)
    | escape => exact twin_escape ascii own (rest opened)
    | numeric => cases own
    | nonCapturing => exact twin_opening own (rest opened)
    | group => exact @twin_opening t ['(', '?', ':'] rfl _ _ (rest (opened + 1))
    | close => exact symbol (by decide) (by decide)
    | caret =>
      simp only [writeParts]
      split
      · exact symbol (by decide) (by decide)
      · exact rest opened
    | literal => exact twin_literal ascii own (rest opened)
    | opening => exact twin_literal ascii own (rest opened)
    | backslash => exact twin_literal ascii own (rest opened)

theorem references_of_tame {parts : List Part} (tame : ∀ part ∈ parts, part.isTame = true)
    (opened : Nat) : Part.references opened parts = [] := by
  induction parts generalizing opened with
  | nil => rfl
  | cons part parts ih =>
    obtain ⟨own, others⟩ := List.forall_mem_cons.mp tame
    cases part with
    | numeric => cases own
    | _ => exact ih others _

/-- The end of the preferred match of a text at a position, or what is wrong with the text. -/
def matchEnd? (source : List Char) (ignoreCase nonEmpty : Bool) (text : List Char) (pos : Nat) :
    Except Fault (Option Nat) :=
  (Regex.compile (String.ofList source) ignoreCase nonEmpty).map fun r =>
    (r.matchAt? text.toArray pos).map (·.pos)

/-- Take any pattern of tame parts, and any ASCII text and position. The alternative with both cases
of its letters, matched with regard to case, ends where the alternative without them does, matched
without regard to case; neither matches if the other does not, and neither compiles if the other
does not. Some characters beyond ASCII, such as ligatures, fold to several letters: if a class of
the pattern stands for some of these, as one with `\w` does, the letters must not occur in a row
from the position on. -/
theorem folding_matches_alike {source : List Char}
    (tame : ∀ part ∈ Part.split source, part.isTame = true) {text : List Char}
    (ascii : ∀ c ∈ text, isAscii c = true) (pos : Nat)
    (absent : ∀ part ∈ Part.split source, part.isBroad = true →
      ∀ run ∈ Fold.ligatures, ¬ run <:+: (text.drop pos).flatMap fun c => fold c.toNat)
    (captured : Nat) (nonEmpty : Bool) :
    matchEnd? (alternativeOf true captured source).1 false nonEmpty text pos =
      matchEnd? (alternativeOf false captured source).1 true nonEmpty text pos := by
  have ascii : Subject.Ascii { text := text.toArray, origin := pos } := fun c mem =>
    ascii c (by simpa using mem)
  have folding : Subject.folding { text := text.toArray, origin := pos } =
      (text.drop pos).flatMap fun c => fold c.toNat := by
    simp [Subject.folding]
  have twin := twin_writeParts ascii Part.formed_of_mem_split tame (by rwa [folding]) captured 0
  have unreferenced := references_of_tame tame 0
  simp only [alternativeOf, unreferenced, List.eraseDups_nil]
  have compiled {x y : Node × Nat} (alike : AlikeOn ⟨text.toArray, pos⟩ true false x.1 y.1) :
      ((⟨y.1, nonEmpty⟩ : Regex).matchAt? text.toArray pos).map (·.pos) =
        ((⟨x.1, nonEmpty⟩ : Regex).matchAt? text.toArray pos).map (·.pos) :=
    (@matchAt?_of_alike ⟨x.1, nonEmpty⟩ ⟨y.1, nonEmpty⟩ _ _ _ _ alike rfl).symm
  have parsed := parse_twin ascii twin
  unfold matchEnd? Regex.compile
  rw [String.toList_ofList, String.toList_ofList]
  generalize Node.parse true (writeParts false captured [] 0 (Part.split source)) = x at parsed ⊢
  generalize Node.parse false (writeParts true captured [] 0 (Part.split source)) = y at parsed ⊢
  cases parsed with
  | error fault => rfl
  | ok alike => exact congrArg Except.ok (compiled alike)

theorem folding_matches_alike_lookahead :
    (alternativeOf true 0 "^(?!e)(?:x|\\$[^a-f-][ \\S]{1,2})+".toList).1 =
        "(?![Ee])(?:[Xx]|\\$[^\\-A-Fa-f][\\S ]{1,2})+".toList ∧
      matchEnd? (alternativeOf false 0 "^(?!e)(?:x|\\$[^a-f-][ \\S]{1,2})+".toList).1 true true
        "X$yB-".toList 0 = .ok (some 5) := by
  have written : (alternativeOf true 0 "^(?!e)(?:x|\\$[^a-f-][ \\S]{1,2})+".toList).1 =
      "(?![Ee])(?:[Xx]|\\$[^\\-A-Fa-f][\\S ]{1,2})+".toList := by decide +kernel
  refine ⟨written, ?_⟩
  have ascii := List.all_eq_true.mp (show "X$yB-".toList.all isAscii = true by decide)
  refine (folding_matches_alike (by decide +kernel) ascii 0 (by decide +kernel) 0 true).symm.trans
    ?_
  rw [written]
  simp only [matchEnd?, Regex.compile, String.toList_ofList, String.reduceToList]
  cbv

/-- Two ampersands in a class intersect what stands around them. With both cases of its letters the
class is written with the ampersand as a member, and matches it. -/
theorem folding_ends_intersection :
    matchEnd? (alternativeOf true 0 "[b&&b]x".toList).1 false true "&x".toList 0 = .ok (some 2) ∧
      matchEnd? (alternativeOf false 0 "[b&&b]x".toList).1 true true "&x".toList 0 = .ok none := by
  have folded : (alternativeOf true 0 "[b&&b]x".toList).1 = "[\\&Bb][Xx]".toList := by
    decide +kernel
  have kept : (alternativeOf false 0 "[b&&b]x".toList).1 = "[b&&b]x".toList := by decide +kernel
  rw [folded, kept]
  simp only [matchEnd?, Regex.compile, String.toList_ofList, String.reduceToList]
  constructor
  · cbv
  · cbv

end Tincture.Union
