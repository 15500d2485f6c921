import Tincture.Proofs.Language.KeywordMatching
import Tincture.Proofs.Language.OptionRules
import Tincture.Proofs.Lexer.Shortcuts
import Tincture.Proofs.Scan.Reach
import Tincture.Proofs.Regex.NamedClass
import Tincture.Proofs.Text.Ascii
import Tincture.Proofs.Union.Leading

/-!
Texts that are a single token.

A scan of a text that is one token gives one decoration (`scan_of_token`). In a language described
by options the union begins with the alternatives for strings, for what a number sign begins, and
for white space, whatever the options are (`Options.exists_alternatives`). Strings, comments and
directives begin with marks of their own, so for any other text the alternatives after them decide.

With no options but keywords, the next alternative is that for keywords. A text is highlighted as a
keyword if it is the first of the keywords to open it, as a declared keyword that is a word always
is (`Options.scan_keyword`).
-/

namespace Tincture

open Regex Tincture.Union

/-! ### Scans -/

/-- If a text is a single token with a tag, that is its only decoration. -/
theorem scan_of_token {r : Registry} (frozen : r.frozen = true) {language source : String}
    {l : Lexer} (found : r.lexer? language = some l) (nonempty : source.toList ≠ [])
    (alone : l.tokens source.toList = [source.toList]) {tag : Tag}
    (classified : l.classify source.toList = .terminal tag) {base : Nat}
    (fits : base + source.utf8ByteSize < positionLimit) :
    r.scan language source base = .ok [⟨base, tag⟩] := by
  have positive := Nat.ne_of_gt (byteLength_pos nonempty)
  have decorations : Scan.Fresh.text r (maxEmbeddingDepth + 1) l source.toList base =
      [⟨base, .plain⟩, ⟨base, tag⟩] := by
    simp only [Scan.Fresh.text, alone, Scan.Fresh.tokens, Scan.Fresh.token, classified,
      List.append_nil]
  rw [← byteLength_toList] at fits
  rw [Scan.scan_eq_fresh frozen, Scan.Fresh.scan, Registry.lexer_embedded?, found, Option.some_or,
    Option.map_some, Option.getD_some, Scan.Fresh.simplified, decorations, advance_of_lt fits,
    simplify_eq_passes]
  simp [dropEmpty, nextPosition, positive, dropRepeats]

namespace Options

/-! ### The first alternatives -/

theorem exists_forall₂ {α β : Type} {R : α → β → Prop} {P : β → Prop} {xs : List α}
    (h : ∀ x ∈ xs, ∃ y, R x y ∧ P y) : ∃ ys, List.Forall₂ R xs ys ∧ ∀ y ∈ ys, P y := by
  induction xs with
  | nil => exact ⟨[], .nil, nofun⟩
  | cons x xs ih =>
    obtain ⟨⟨y, related, holds⟩, others⟩ := List.forall_mem_cons.mp h
    obtain ⟨ys, all, hold⟩ := ih others
    exact ⟨y :: ys, .cons related all, List.forall_mem_cons.mpr ⟨holds, hold⟩⟩

/-- The code points of the quotes and of the number sign. -/
def marks : List Nat := [34, 35, 39, 96]

/-- The rules for strings and for what a number sign begins. -/
def markedRules (o : Options) : List Rule := [o.stringRule] ++ o.hashRule?.toList

/-- The rule for white space. -/
def spaceRule : Rule := (Rule.tagged .plain "^\\s+").withShortcut blanks

theorem rules_rules (o : Options) :
    o.rules.rules = o.markedRules ++ [spaceRule] ++ o.rules.fallbacks := rfl

/-- What these match begins with a mark. -/
theorem marked_starts (o : Options) (mode : CaseMode) : ∀ r ∈ o.markedRules,
    ∃ a, Stands false (leading mode r.pattern) a ∧ a.startsIn marks = true := by
  intro r mem
  rcases List.mem_append.mp mem with own | own
  · rw [List.mem_singleton.mp own, stringRule]
    cases o.stringDelimiters with
    | singleLine => exact exists_stands_of_readsAs rfl rfl (by decide +kernel) mode
    | multiLine =>
      exact exists_stands_of_readsAs rfl (spelled_append rfl rfl) (by decide +kernel) mode
    | tripleQuoted =>
      exact exists_stands_of_readsAs rfl (spelled_append (spelled_append rfl rfl) rfl)
        (by decide +kernel) mode
  · rw [Option.mem_toList, hashRule?] at own
    split at own
    · cases own
    · cases own
      exact exists_stands_of_readsAs rfl rfl (by decide +kernel) mode
    · cases own
      exact exists_stands_of_readsAs rfl (spelled_append rfl rfl) (by decide +kernel) mode
    · cases own
      exact exists_stands_of_readsAs rfl rfl (by decide +kernel) mode

/-- The expression for white space. -/
def spaceNode : Node := .repetition 1 none true (.one Class.space)

theorem stands_space (mode : CaseMode) :
    Stands false (leading mode spaceRule.pattern) spaceNode := by
  have text : leading mode spaceRule.pattern =
      (Phrase.atom (.escape 's' rfl) (some ⟨.plus, false⟩) .done).text := by
    have minding : (spaceRule.pattern.ignoreCase && mode.foldCase) = false := rfl
    rw [leading, minding]
    decide +kernel
  rw [text]
  exact Phrase.stands _ ⟨⟨_, rfl⟩, ⟨_, rfl⟩, trivial⟩ rfl

/-- White space matches nothing else. -/
theorem matchAt?_space_of_not {c : Char} (spaceless : Class.space.holds c = false)
    {text : List Char} :
    ({ node := spaceNode, nonEmpty := true } : Regex).matchAt? (c :: text).toArray 0 = none := by
  have outside : Subject.holdsAt { text := (c :: text).toArray } Class.space 0 = false := spaceless
  simp [Regex.matchAt?, Regex.matchFrom?, spaceNode, Node.run, Node.sweepSet,
    Subject.reach_of_not_holdsAt outside]

/-- Names of types mind case, so in a union other patterns have to spell out both cases. -/
theorem detect_rules (o : Options) :
    CaseMode.detect (o.rules.rules.map (·.pattern) ++ [catchAll]) = ⟨false, true⟩ := by
  have mem : Rule.tagged .typeName "^(?:[@_]?[A-Z]+[a-z][A-Za-z_$@0-9]*|\\w+_t\\b)" ∈
      o.rules.rules :=
    List.mem_append_right _ (List.mem_append_right _ (.tail _ (.head _)))
  exact detect_of_letters (List.mem_append_left _ (List.mem_map_of_mem mem)) rfl
    (by decide +kernel)

/-- The union of a language begins with these alternatives, and then has those of the fallback rules
one by one, whatever the options and the other rules are. -/
theorem exists_alternatives {o : Options} {l : Lexer} (compiled : Lexer.compile o.rules = .ok l)
    {first rest : List Rule} (fallbacks : o.rules.fallbacks = first ++ rest)
    (unreferenced : ∀ r ∈ first, Part.references 0 (Part.split r.pattern.source.toList) = [])
    {as : List Node} (stand : List.Forall₂
      (fun r a => Stands false (leading ⟨false, true⟩ r.pattern) a) first as) :
    ∃ marked others, (∀ a ∈ marked, a.startsIn marks = true) ∧ l.union.regex =
      { node := Node.alternatives (marked ++ spaceNode :: as ++ others), nonEmpty := true } := by
  obtain ⟨union, -, -, -, joined, -, -, rfl⟩ := Lexer.parts_of_compile compiled
  obtain ⟨marked, standing, starts⟩ := exists_forall₂ (o.marked_starts ⟨false, true⟩)
  obtain ⟨stringSturdy, hashSturdy, -⟩ := o.written_sturdy
  have before : ∀ p ∈ (o.markedRules ++ spaceRule :: first).map (·.pattern),
      Part.references 0 (Part.split p.source.toList) = [] := by
    rw [List.forall_mem_map, List.forall_mem_append, List.forall_mem_cons, markedRules,
      List.forall_mem_append, List.forall_mem_singleton]
    exact ⟨⟨stringSturdy.pattern.unreferenced,
      fun r mem => (hashSturdy r (Option.mem_toList.mp mem)).pattern.unreferenced⟩,
      by decide +kernel, unreferenced⟩
  have all := List.rel_append standing (.cons (stands_space ⟨false, true⟩) stand)
  have cut : o.rules.rules.map (·.pattern) =
      (o.markedRules ++ spaceRule :: first).map (·.pattern) ++ rest.map (·.pattern) := by
    rw [rules_rules, fallbacks]
    simp
  have detected := o.detect_rules
  rw [cut] at joined detected
  obtain ⟨others, regex⟩ := regex_of_compile joined detected before
    (List.forall₂_map_left_iff.mpr all)
  exact ⟨marked, others, starts, regex⟩

/-- A text that begins with no mark is a single token if the first of these alternatives to match
it takes all of it. -/
theorem tokens_of_alternatives {l : Lexer} {marked as others : List Node}
    (starts : ∀ a ∈ marked, a.startsIn marks = true) (joined : l.union.regex =
      { node := Node.alternatives (marked ++ as ++ others), nonEmpty := true })
    {c : Char} {text : List Char} (unmarked : c.toNat ∉ marks)
    (found : as.findSome? (fun a => ({ node := a, nonEmpty := true } : Regex).matchAt?
      (c :: text).toArray 0) = some { pos := (c :: text).length }) :
    l.tokens (c :: text) = [c :: text] := by
  have passed : marked.findSome? (fun a => ({ node := a, nonEmpty := true } : Regex).matchAt?
      (c :: text).toArray 0) = none := by
    refine List.findSome?_eq_none_iff.mpr fun a mem => ?_
    refine Node.run_of_startsIn (starts a mem) _ fun d first => ?_
    cases first
    exact unmarked
  have matched : l.union.regex.matchAt? (c :: text).toArray 0 =
      some { pos := (c :: text).length } := by
    rw [joined]
    refine matchAt?_of_alternatives ?_
    rw [List.findSome?_append, passed, found]
    rfl
  have head := head?_tokens matched (Nat.succ_pos _) (Nat.le_refl _)
  rw [List.take_length] at head
  exact tokens_of_head? head

/-! ### Shortcuts -/

theorem shortcut_marked (o : Options) :
    ∀ r ∈ o.markedRules, ∀ c ∈ r.shortcutChars, c.toNat ∈ marks := by
  have all {r : Rule} (h : (r.shortcutChars.all fun c => marks.contains c.toNat) = true) :
      ∀ c ∈ r.shortcutChars, c.toNat ∈ marks := by
    simpa using h
  intro r mem
  rcases List.mem_append.mp mem with own | own
  · rw [List.mem_singleton.mp own, stringRule]
    cases o.stringDelimiters <;> exact all rfl
  · rw [Option.mem_toList, hashRule?] at own
    split at own <;> cases own <;> exact all rfl

/-- Of the fallback rules only that for numbers has shortcuts. -/
theorem shortcut_fallbacks (o : Options) :
    ∀ r ∈ o.rules.fallbacks, ∀ c ∈ r.shortcutChars, c.isDigit = true := by
  have none {r : Rule} (h : r.shortcut = none) : ∀ c ∈ r.shortcutChars, c.isDigit = true := by
    rw [Rule.shortcutChars, h]
    nofun
  intro r mem
  simp only [rules, List.mem_append, Option.mem_toList, List.mem_map] at mem
  rcases mem with (((((verbatim | mem) | comment) | mem) | ⟨p, -, rfl⟩) | mem) | mem
  · split at verbatim
    · exact none (List.mem_singleton.mp verbatim ▸ rfl)
    · cases verbatim
  · rw [includeRule?] at mem
    split at mem <;> cases mem
    exact none rfl
  · split at comment
    · revert r
      rw [List.forall_mem_cons, List.forall_mem_singleton]
      exact ⟨none rfl, none rfl⟩
    · cases comment
  · rw [regexRule?] at mem
    split at mem <;> cases mem <;> exact none rfl
  · exact none rfl
  · rw [keywordRule?] at mem
    split at mem <;> cases mem
    exact none rfl
  · revert r
    rw [commonRules, List.forall_mem_cons, List.forall_mem_cons, List.forall_mem_cons,
      List.forall_mem_cons, List.forall_mem_cons, List.forall_mem_singleton]
    exact ⟨none rfl, none rfl, none rfl, List.all_eq_true.mp rfl, none rfl, none rfl⟩

/-- Other characters than marks, blanks and digits are no shortcuts. -/
theorem not_shortcut {o : Options} {c : Char} (unmarked : c.toNat ∉ marks)
    (solid : c ∉ blanks.toList) (digitless : c.isDigit = false) :
    ∀ r ∈ o.rules.rules, r.shortcutChars.contains c = false := by
  intro r mem
  refine Bool.eq_false_iff.mpr fun listed => ?_
  have listed := List.contains_iff_mem.mp listed
  rw [rules_rules, List.mem_append, List.mem_append, List.mem_singleton] at mem
  rcases mem with (marked | rfl) | fallback
  · exact unmarked (o.shortcut_marked r marked c listed)
  · exact solid listed
  · rw [o.shortcut_fallbacks r fallback c listed] at digitless
    cases digitless

/-! ### Keywords -/

/-- There is a rule for keywords only if there are any. -/
theorem keywordRule_eq {o : Options} {r : Rule} (ruled : o.keywordRule? = some r) :
    o.keywords.map String.toList ≠ [] ∧ r.style = .terminal .keyword ∧
      r.pattern.ignoreCase = false ∧ r.pattern.source.toList = wordText
        (['|'].intercalate (o.keywords.map fun keyword => (escapeKeyword keyword).toList)) := by
  rw [keywordRule?] at ruled
  split at ruled <;> cases ruled
  rename_i nonempty
  exact ⟨by simpa using nonempty, rfl, rfl, toList_keywords o.keywords⟩

/-- What it is compiled to. -/
theorem regex_keywordRule {o : Options} {r : Rule} (ruled : o.keywordRule? = some r)
    {regex : Regex} (made : r.pattern.compile = .ok regex) :
    regex = { node := .seq (.anchor .start) (keywordNode (o.keywords.map String.toList)) } := by
  obtain ⟨nonempty, -, minding, source⟩ := keywordRule_eq ruled
  obtain ⟨node, groups, parsed, rfl⟩ := Pattern.parse_of_compile made
  rw [minding, source, wordText_eq, parse_keywords nonempty] at parsed
  cases parsed
  rfl

variable {keywords : List String}

/-- The alternative for keywords. -/
theorem leading_keywords {p : Pattern} (minding : p.ignoreCase = false)
    (source : p.source.toList = wordText
      (['|'].intercalate (keywords.map fun keyword => (escapeKeyword keyword).toList)))
    (mode : CaseMode) :
    leading mode p = (keywordPhrase (keywords.map String.toList)).text := by
  rw [leading, minding, Bool.false_and, source, (Tame.keywords keywords).alternativeOf_wordText]
  exact List.cons.inj (wordText_eq keywords) |>.2

/-- The language that options describe is registered and found by its name. -/
theorem exists_registered (name : String) {o : Options} (typed : ∀ p ∈ o.typePattern, p.Sturdy) :
    ∃ (r : Registry) (l : Lexer), Registry.registerOptions {} [name] o = .ok r ∧
      r.freeze.lexer? name = some l ∧ Lexer.compile o.rules = .ok l := by
  obtain ⟨l, compiled⟩ := exists_lexer typed
  refine ⟨{ lexers := #[l], ids := [(name, 0)] }, l, ?_, ?_, compiled⟩
  · simp [Registry.registerOptions, Registry.register, Registry.enter, compiled, Registry.claim,
      Registry.Attempt.result]
  · simp [Registry.lexer?, Registry.find?, Registry.freeze]

/-- Letters and underscores are neither shortcuts nor white space. -/
theorem solid_of_letter {c : Char} (letter : (c.isAlpha || c == '_') = true) :
    c.toNat ∉ marks ∧ c ∉ blanks.toList ∧ c.isDigit = false ∧ Class.space.holds c = false := by
  have ascii : isAscii c = true := by
    rcases Bool.or_eq_true_iff.mp letter with alpha | low
    · exact isAscii_of_isAlpha alpha
    · rw [beq_iff_eq.mp low]
      rfl
  have all := ascii_all (P := fun c => !(c.isAlpha || c == '_') || (!marks.contains c.toNat &&
    !blanks.toList.contains c && !c.isDigit && !Class.space.holds c)) (by decide +kernel) ascii
  simpa [letter, and_assoc] using all

/-- With keywords and no other options, a text that begins with a letter or an underscore is
highlighted as a keyword if it is the first of the keywords to open it. A declared keyword that is a
word is, whatever the others are. -/
theorem scan_keyword {r : Registry} (frozen : r.frozen = true) {language : String} {l : Lexer}
    (found : r.lexer? language = some l)
    (compiled : Lexer.compile ({ keywords } : Options).rules = .ok l) {keyword : String} {c : Char}
    {rest : List Char} (spelled : keyword.toList = c :: rest)
    (letter : (c.isAlpha || c == '_') = true)
    (leads : (keywords.map String.toList).find? (opens keyword.toList) = some keyword.toList ∨
      keyword ∈ keywords ∧ ∀ d ∈ keyword.toList, Class.word.holds d = true)
    {base : Nat} (fits : base + keyword.utf8ByteSize < positionLimit) :
    r.scan language keyword base = .ok [⟨base, .keyword⟩] := by
  have first : (keywords.map String.toList).find? (opens keyword.toList) =
      some keyword.toList := by
    rcases leads with first | ⟨declared, wordy⟩
    · exact first
    · exact find?_opens_word (by simp [spelled]) wordy (List.mem_map_of_mem declared)
  have mem := List.mem_of_find?_eq_some first
  obtain ⟨unmarked, solid, digitless, spaceless⟩ := solid_of_letter letter
  obtain ⟨own, ruled⟩ : ∃ own, ({ keywords } : Options).keywordRule? = some own := by
    have nonempty : keywords ≠ [] := fun empty => by simp [empty] at mem
    simp [keywordRule?, nonempty]
  obtain ⟨nonempty, style, minding, source⟩ := keywordRule_eq ruled
  have fallbacks : ({ keywords } : Options).rules.fallbacks =
      [own] ++ ({ keywords } : Options).commonRules := by
    simp [rules, ruled, includeRule?, regexRule?]
  rw [spelled] at first
  refine scan_of_token frozen found (by simp [spelled]) ?alone ?classified fits
  case alone =>
    obtain ⟨marked, others, starts, joined⟩ := exists_alternatives compiled fallbacks
      (List.forall_mem_singleton.mpr (keywordRule_sturdy _ own ruled).pattern.unreferenced)
      (List.forall₂_cons.mpr ⟨leading_keywords minding source _ ▸ stands_keywords nonempty, .nil⟩)
    rw [spelled]
    refine tokens_of_alternatives starts joined unmarked ?_
    rw [List.findSome?_cons, matchAt?_space_of_not spaceless, List.findSome?_singleton,
      matchAt?_keywords nonempty, first, Option.map_some]
  case classified =>
    rw [spelled]
    have fallbacks : _ = [] ++ own :: ({ keywords } : Options).commonRules := fallbacks
    refine Lexer.classify_of_fallback compiled (not_shortcut unmarked solid digitless) fallbacks
      (fun _ mem => absurd mem List.not_mem_nil) (fun regex made => ?_) style
    rw [regex_keywordRule ruled made]
    exact search?_keywords (List.mem_of_find?_eq_some first) (List.find?_some first)

/-- The options of a language with two keywords, one of which begins with the other. -/
def loops : Options := { keywords := ["do", "do-while"] }

theorem scan_keyword_loops : ∃ (r : Registry) (l : Lexer),
    Registry.registerOptions {} ["loops"] loops = .ok r ∧ r.freeze.frozen = true ∧
      r.freeze.lexer? "loops" = some l ∧ Lexer.compile loops.rules = .ok l ∧
      "do".toList = 'd' :: ['o'] ∧ ('d'.isAlpha || 'd' == '_') = true ∧
      ("do" ∈ loops.keywords ∧ ∀ d ∈ "do".toList, Class.word.holds d = true) ∧
      2 + "do".utf8ByteSize < positionLimit ∧
      r.freeze.scan "loops" "do" 2 = .ok [⟨2, .keyword⟩] := by
  obtain ⟨r, l, registered, found, compiled⟩ := exists_registered "loops" (o := loops) nofun
  have wordy : ∀ d ∈ "do".toList, Class.word.holds d = true := by
    have small : ∀ d ∈ "do".toList, d.toNat < 128 ∧ 97 ≤ d.toNat ∧ d.toNat ≤ 122 := by simp
    intro d mem
    obtain ⟨ascii, letter⟩ := small d mem
    exact (Class.contains_word ascii).mpr (.inr (.inr (.inr letter)))
  have declared : "do" ∈ loops.keywords := List.mem_cons_self
  have fits : 2 + "do".utf8ByteSize < positionLimit := by decide
  exact ⟨r, l, registered, rfl, found, compiled, rfl, rfl, ⟨declared, wordy⟩,
    fits, scan_keyword rfl found compiled rfl rfl (.inr ⟨declared, wordy⟩) fits⟩

end Options

end Tincture
