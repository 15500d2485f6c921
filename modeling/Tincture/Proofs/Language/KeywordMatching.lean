import Tincture.Proofs.Language.KeywordCoding
import Tincture.Proofs.Regex.Nesting
import Tincture.Proofs.Union.Anything

/-!
What the pattern for keywords matches.

The pattern for keywords is a phrase (`keywordPhrase`), whose expression has one alternative for
each keyword and asks for the edge of a word after it. An alternative matches just where the text
goes on with the keyword (`run_wordNode`), so the preferred match at a position is the first keyword
there that ends at an edge (`run_keywords`). It need not be the longest one; but if the text is a
word, no shorter one ends at an edge (`opens_word_iff`).
-/

namespace Tincture

open Regex Tincture.Union

namespace Options

/-! ### Phrases for words -/

theorem isSimple_of_isPunctuation {c : Char} (h : isPunctuation c = true) : isSimple c = true :=
  forall_punctuation (P := isSimple) (by decide) h

theorem isSyntax_eq_false {c : Char} (h : ¬ (isPunctuation c && c != '_') = true) :
    isSyntax c = false := by
  refine Bool.eq_false_iff.mpr fun syntactic => h ?_
  have all : ∀ d ∈ ['\\', '[', '(', ')', '|', '^', '*', '+', '?', '\x7b'],
      (isPunctuation d && d != '_') = true :=
    List.all_eq_true.mp (by decide)
  exact all c (List.contains_iff_mem.mp syntactic)

/-- How a character of a keyword is written. -/
def charAtom (c : Char) : Atom :=
  if h : (isPunctuation c && c != '_') = true then
    .escape c (isSimple_of_isPunctuation (Bool.and_eq_true_iff.mp h).1)
  else .symbol c (isSyntax_eq_false h)

theorem text_charAtom (c : Char) : (charAtom c).text = escapeChar c := by
  unfold charAtom escapeChar
  split <;> rfl

theorem lexeme_charAtom (c : Char) : (charAtom c).lexeme = .ok (.code c.toNat) := by
  unfold charAtom
  split
  · rename_i special
    have plain := forall_punctuation (P := fun c =>
      (Class.ofLetter? c).isNone && (Lexeme.anchor? c).isNone && (Escape.control? c).isNone)
      (by decide) (Bool.and_eq_true_iff.mp special).1
    simp only [Bool.and_eq_true, Option.isNone_iff_eq_none] at plain
    simp [Atom.lexeme, escapedCode, plain]
  · rename_i plain
    have dot : c ≠ '.' := by
      rintro rfl
      exact plain (by decide)
    have dollar : c ≠ '$' := by
      rintro rfl
      exact plain (by decide)
    simp [Atom.lexeme, dot, dollar]

theorem node_charAtom (c : Char) : (charAtom c).node false = .text [c.toNat] false := by
  rw [Atom.node, lexeme_charAtom]
  rfl

/-- The phrase for a word, in front of another. -/
def wordPhrase (word : List Char) (rest : Phrase) : Phrase :=
  word.foldr (fun c x => .atom (charAtom c) none x) rest

/-- The phrase for several words. -/
def wordsPhrase : List (List Char) → Phrase
  | [] => .done
  | [word] => wordPhrase word .done
  | word :: words => wordPhrase word (.bar (wordsPhrase words))

theorem isSimple_b : isSimple 'b' = true := rfl

/-- The phrase for keywords. -/
def keywordPhrase (words : List (List Char)) : Phrase :=
  .group .plain (wordsPhrase words) none (.atom (.escape 'b' isSimple_b) none .done)

/-- The expression for a word. -/
def wordNode (word : List Char) : Node :=
  Node.sequence (word.map fun c => .text [c.toNat] false)

theorem text_wordPhrase (word : List Char) (rest : Phrase) :
    (wordPhrase word rest).text = word.flatMap escapeChar ++ rest.text := by
  induction word with
  | nil => rfl
  | cons c word ih =>
    rw [List.flatMap_cons, List.append_assoc, ← ih, ← text_charAtom]
    rfl

theorem text_wordsPhrase (words : List (List Char)) :
    (wordsPhrase words).text = ['|'].intercalate (words.map (·.flatMap escapeChar)) := by
  induction words with
  | nil => rfl
  | cons word words ih =>
    cases words with
    | nil => simp [wordsPhrase, text_wordPhrase, Phrase.text]
    | cons next words =>
      rw [List.map_cons] at ih
      rw [List.map_cons, List.map_cons, List.intercalate_cons_cons, ← ih]
      simp [wordsPhrase, text_wordPhrase, Phrase.text]

theorem sound_wordPhrase (word : List Char) {rest : Phrase} (sound : rest.Sound) :
    (wordPhrase word rest).Sound := by
  induction word with
  | nil => exact sound
  | cons c word ih => exact ⟨⟨_, lexeme_charAtom c⟩, ⟨id, rfl⟩, ih⟩

theorem sound_wordsPhrase (words : List (List Char)) : (wordsPhrase words).Sound := by
  induction words with
  | nil => trivial
  | cons word words ih =>
    cases words with
    | nil =>
      have done : Phrase.done.Sound := trivial
      exact sound_wordPhrase word done
    | cons next words =>
      have others : (Phrase.bar (wordsPhrase (next :: words))).Sound := ih
      exact sound_wordPhrase word others

theorem sound_keywordPhrase (words : List (List Char)) : (keywordPhrase words).Sound :=
  ⟨sound_wordsPhrase words, ⟨id, rfl⟩, ⟨_, rfl⟩, ⟨id, rfl⟩, trivial⟩

/-- Reading a word adds its characters. -/
theorem onto_wordPhrase (word : List Char) (rest : Phrase) (n : Nat) (c : Content) :
    (wordPhrase word rest).onto false n c =
      rest.onto false n
        { c with items := (word.map fun c => Node.text [c.toNat] false).reverse ++ c.items } := by
  induction word generalizing c with
  | nil => rfl
  | cons first word ih =>
    have step : (wordPhrase (first :: word) rest).onto false n c =
        (wordPhrase word rest).onto false n (c.push ((charAtom first).node false)) := rfl
    rw [step, ih, node_charAtom]
    simp [Content.push]

/-- The words become alternatives. -/
theorem onto_wordsPhrase {words : List (List Char)} (nonempty : words ≠ []) (n : Nat)
    (branches : List Node) :
    ((wordsPhrase words).onto false n { branches }).1 = n ∧
      ((wordsPhrase words).onto false n { branches }).2.branch.branches =
        (words.map wordNode).reverse ++ branches := by
  induction words generalizing branches with
  | nil => exact absurd rfl nonempty
  | cons word words ih =>
    cases words with
    | nil =>
      rw [wordsPhrase, onto_wordPhrase]
      exact ⟨rfl, by simp [Phrase.onto, Content.branch, wordNode]⟩
    | cons next words =>
      have read : (wordsPhrase (word :: next :: words)).onto false n { branches } =
          (wordsPhrase (next :: words)).onto false n { branches := wordNode word :: branches } := by
        rw [wordsPhrase, onto_wordPhrase]
        · simp [Phrase.onto, Content.branch, wordNode]
        · rintro ⟨⟩
      obtain ⟨opened, read'⟩ := ih (List.cons_ne_nil _ _) (wordNode word :: branches)
      rw [read]
      refine ⟨opened, read'.trans ?_⟩
      simp

/-- The expression of several words, up to an edge of a word. -/
def keywordNode (words : List (List Char)) : Node :=
  .seq (Node.alternatives (words.map wordNode)) (.anchor .wordEdge)

/-- What the phrase for keywords adds. -/
theorem onto_keywordPhrase {words : List (List Char)} (nonempty : words ≠ []) (c : Content) :
    (keywordPhrase words).onto false 0 c =
      (0, (c.push (Node.alternatives (words.map wordNode))).push (.anchor .wordEdge)) := by
  obtain ⟨opened, branches⟩ := onto_wordsPhrase nonempty 0 []
  have node : ((wordsPhrase words).onto false 0 {}).2.node =
      Node.alternatives (words.map wordNode) := by
    rw [Content.node, branches]
    simp
  have read : (keywordPhrase words).onto false 0 c =
      (((wordsPhrase words).onto false 0 {}).1,
        (c.push ((wordsPhrase words).onto false 0 {}).2.node).push (.anchor .wordEdge)) := rfl
  rw [read, opened, node]

/-- Nothing is joined with a condition. -/
theorem before_anchor (a : Node) (condition : Anchor) :
    a.before (.anchor condition) = .seq a (.anchor condition) := by
  cases a <;> rfl

theorem node_keywordPhrase {words : List (List Char)} (nonempty : words ≠ []) :
    (keywordPhrase words).node false = keywordNode words := by
  rw [Phrase.node, onto_keywordPhrase nonempty]
  exact before_anchor _ _

/-- The pattern for keywords by itself. -/
theorem parse_keywords {words : List (List Char)} (nonempty : words ≠ []) :
    Node.parse false ('^' :: (keywordPhrase words).text) =
      .ok (.seq (.anchor .start) (keywordNode words), 0) := by
  rw [Phrase.parse_caret _ (sound_keywordPhrase words), onto_keywordPhrase nonempty]
  have joined : Node.before (.anchor .start)
      (Node.before (Node.alternatives (words.map wordNode)) (.anchor .wordEdge)) =
        .seq (.anchor .start) (keywordNode words) := by
    rw [before_anchor]
    rfl
  rw [← joined]
  rfl

/-- The pattern for keywords in a group of its own. -/
theorem stands_keywords {words : List (List Char)} (nonempty : words ≠ []) :
    Stands false (keywordPhrase words).text (keywordNode words) := by
  rw [← node_keywordPhrase nonempty]
  refine (keywordPhrase words).stands (sound_keywordPhrase words) ?_
  rw [onto_keywordPhrase nonempty]

/-- The text of the pattern for keywords. -/
theorem wordText_eq (keywords : List String) :
    wordText (['|'].intercalate (keywords.map fun keyword => (escapeKeyword keyword).toList)) =
      '^' :: (keywordPhrase (keywords.map String.toList)).text := by
  simp [wordText, grouped, keywordPhrase, Phrase.text, text_wordsPhrase, Grouping.mark,
    Quantifier.textOf, Atom.text, Function.comp_def, toList_escapeKeyword]

/-! ### Running -/

variable {t : Subject}

theorem wordNode_eq {word : List Char} (nonempty : word ≠ []) :
    wordNode word = .text (word.map Char.toNat) false := by
  induction word with
  | nil => exact absurd rfl nonempty
  | cons c word ih =>
    cases word with
    | nil => rfl
    | cons d word =>
      have rest := ih (List.cons_ne_nil d word)
      have joined : wordNode (c :: d :: word) =
          (Node.text [c.toNat] false).before (wordNode (d :: word)) := rfl
      rw [joined, rest]
      rfl

theorem literal?_map_toNat (word : List Char) (p : Nat) :
    t.literal? (word.map Char.toNat) p =
      if word <+: t.text.toList.drop p then some (p + word.length) else none := by
  induction word generalizing p with
  | nil => simp [Subject.literal?]
  | cons c word ih =>
    rw [List.map_cons, Subject.literal?]
    cases found : t.text[p]? with
    | none =>
      have beyond : t.text.toList.drop p = [] :=
        List.drop_eq_nil_of_le (by simpa using Array.getElem?_eq_none_iff.mp found)
      simp [beyond]
    | some d =>
      obtain ⟨inside, rfl⟩ := Array.getElem?_eq_some_iff.mp found
      have here : t.text.toList.drop p = t.text[p] :: t.text.toList.drop (p + 1) := by
        rw [List.drop_eq_getElem_cons (by simpa using inside), Array.getElem_toList]
      simp only [here, List.cons_prefix_cons, Char.toNat_inj, eq_comm (a := c), ih]
      split
      · rename_i same
        simp [same, Nat.add_comm, Nat.add_left_comm]
      · rename_i different
        simp [different]

/-- An alternative matches where the text goes on with the word. -/
theorem run_wordNode (word : List Char) (k : Next) (s : Spot) :
    (wordNode word).run t k s =
      if word <+: t.text.toList.drop s.pos then k (s.moveTo (s.pos + word.length)) else none := by
  cases word with
  | nil => simp [wordNode, Node.sequence, Node.run, Spot.moveTo]
  | cons c word =>
    rw [wordNode_eq (List.cons_ne_nil c word)]
    simp only [Node.run, Bool.false_eq_true, if_false, literal?_map_toNat]
    by_cases ahead : c :: word <+: t.text.toList.drop s.pos
    · simp only [if_pos ahead]
    · simp only [if_neg ahead]

/-- Of the words the text goes on with, up to an edge of a word, the first after which the rest
matches is preferred. -/
theorem run_keywords {words : List (List Char)} (nonempty : words ≠ []) (k : Next) (s : Spot) :
    (keywordNode words).run t k s = words.findSome? fun word =>
      if word <+: t.text.toList.drop s.pos ∧ t.isWordEdge (s.pos + word.length) = true then
        k (s.moveTo (s.pos + word.length))
      else none := by
  have filled : words.map wordNode ≠ [] := by simpa using nonempty
  refine (run_alternatives filled t _ s).trans ?_
  rw [List.findSome?_map]
  congr 1
  funext word
  rw [Function.comp_apply, run_wordNode]
  by_cases ahead : word <+: t.text.toList.drop s.pos
  · rw [if_pos ahead]
    by_cases edge : t.isWordEdge (s.pos + word.length) = true
    · rw [if_pos ⟨ahead, edge⟩]
      exact if_pos edge
    · rw [if_neg fun both => edge both.2]
      exact if_neg edge
  · rw [if_neg ahead, if_neg fun both => ahead both.1]

/-! ### The keyword a text begins with -/

/-- The text begins with the word and has the edge of a word after it; the word is not empty. -/
def opens (text word : List Char) : Bool :=
  !word.isEmpty && word.isPrefixOf text &&
    Subject.isWordEdge { text := text.toArray } word.length

variable {text word : List Char} {words : List (List Char)}

theorem opens_iff : opens text word = true ↔
    word ≠ [] ∧ word <+: text ∧ Subject.isWordEdge { text := text.toArray } word.length = true := by
  simp [opens, and_assoc]

/-- A union takes the first keyword that opens the text. -/
theorem matchAt?_keywords (nonempty : words ≠ []) :
    ({ node := keywordNode words, nonEmpty := true } : Regex).matchAt? text.toArray 0 =
      (words.find? (opens text)).map fun word => { pos := word.length } := by
  have accepted (word : List Char) :
      (if word <+: text.drop 0 ∧
          Subject.isWordEdge { text := text.toArray } (0 + word.length) = true then
        (if word.length == 0 then none else some { pos := word.length } : Option Spot)
      else none) = if opens text word then some { pos := word.length } else none := by
    by_cases empty : word = []
    · simp [empty, opens]
    · simp [opens_iff, empty]
  have run : ({ node := keywordNode words, nonEmpty := true } : Regex).matchAt? text.toArray 0 =
      words.findSome? fun word =>
        if opens text word then some { pos := word.length } else none := by
    refine (run_keywords nonempty _ _).trans ?_
    congr 1
    funext word
    rw [← accepted word]
    simp only [Spot.moveTo, Nat.zero_add, Bool.true_and]
  rw [run]
  clear run nonempty
  induction words with
  | nil => rfl
  | cons word words ih =>
    rw [List.findSome?_cons, List.find?_cons]
    cases opens text word with
    | true => rfl
    | false => exact ih

/-- What matches at the beginning of a text is found there, also by a pattern with a caret. -/
theorem search?_of_run {a : Node} {text : Array Char} {s : Spot}
    (h : a.run { text } some { pos := 0 } = some s) :
    Engine.search? ({ node := .seq (.anchor .start) a } : Regex) text = some s := by
  have start :
      Engine.matchFrom? ({ node := .seq (.anchor .start) a } : Regex) text 0 0 = some s := h
  rw [Engine.search?, Engine.searchFrom?, start]

/-- If some keyword opens the text, the pattern for keywords is found in it. -/
theorem search?_keywords {word : List Char} (mem : word ∈ words) (open_ : opens text word = true) :
    ∃ s, Engine.search? ({ node := .seq (.anchor .start) (keywordNode words) } : Regex)
      text.toArray = some s := by
  obtain ⟨-, ahead, edge⟩ := opens_iff.mp open_
  have found :
      ((keywordNode words).run { text := text.toArray } some { pos := 0 }).isSome = true := by
    rw [run_keywords (List.ne_nil_of_mem mem), List.isSome_findSome?, List.any_eq_true]
    exact ⟨word, mem, by simp [ahead, edge]⟩
  obtain ⟨s, here⟩ := Option.isSome_iff_exists.mp found
  exact ⟨s, search?_of_run here⟩

theorem holdsAt_iff {set : CodeSet} {p : Nat} :
    Subject.holdsAt { text := text.toArray } set p = true ↔
      ∃ c, text[p]? = some c ∧ set.holds c := by
  simp only [Subject.holdsAt, List.getElem?_toArray]
  cases text[p]? <;> simp

/-- A text that is a single word is opened by no other. -/
theorem opens_word_iff (nonempty : text ≠ []) (wordy : ∀ c ∈ text, Class.word.holds c = true) :
    opens text word = true ↔ word = text := by
  have inside {p : Nat} (lt : p < text.length) :
      Subject.holdsAt { text := text.toArray } Class.word p = true :=
    holdsAt_iff.mpr ⟨text[p], List.getElem?_eq_getElem lt, wordy _ (List.getElem_mem lt)⟩
  rw [opens_iff]
  constructor
  · rintro ⟨filled, ahead, edge⟩
    refine ahead.eq_of_length_le (Nat.le_of_not_lt fun lt => ?_)
    -- Inside the text there are word characters on both sides.
    have positive := List.length_pos_iff.mpr filled
    have before := inside (p := word.length - 1) (by omega)
    simp [Subject.isWordEdge, before, inside lt, filled] at edge
  · rintro rfl
    have positive := List.length_pos_iff.mpr nonempty
    have before := inside (p := word.length - 1) (by omega)
    have after : Subject.holdsAt { text := word.toArray } Class.word word.length = false := by
      simp [Subject.holdsAt]
    exact ⟨nonempty, List.prefix_rfl, by simp [Subject.isWordEdge, before, after, nonempty]⟩

/-- So if it is a keyword, that is the one. -/
theorem find?_opens_word (nonempty : text ≠ []) (wordy : ∀ c ∈ text, Class.word.holds c = true)
    (mem : text ∈ words) : words.find? (opens text) = some text := by
  have own := (opens_word_iff nonempty wordy).mpr rfl
  obtain ⟨word, found⟩ := Option.isSome_iff_exists.mp
    (List.find?_isSome.mpr ⟨text, mem, own⟩)
  rw [found, (opens_word_iff nonempty wordy).mp (List.find?_some found)]

end Options

end Tincture
