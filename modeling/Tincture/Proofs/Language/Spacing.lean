import Tincture.Proofs.Language.OneToken
import Tincture.Proofs.Union.Refusal

/-!
White space by itself.

In a language described by options, a text of white space is a single token, whichever characters it
has. What becomes of it is decided by the first one: if that is one of the blanks, it leads to the
rule for white space and the text is plain. The other characters of white space lead to no rule, and
all the fallback rules refuse white space but the last, which takes it for punctuation. So the
decoration depends on the first character alone (`Options.scan_space`).
-/

namespace Tincture

open Regex Tincture.Union

namespace Options

/-! ### Phrases of the common rules -/

/-- As often as possible. -/
def star : Option Quantifier := some { count := .star }

/-- At least once. -/
def plus : Option Quantifier := some { count := .plus }

/-- At most once. -/
def query : Option Quantifier := some { count := .query }

/-- Names. -/
def namePhrase : Phrase :=
  .atom (.ofBody ['a', '-', 'z', '_', '$'] rfl (by decide)) none <|
  .atom (.ofBody ['a', '-', 'z', '_', '$', '@', '0', '-', '9'] rfl (by decide)) star .done

/-- The names of types. -/
def typeNamePhrase : Phrase :=
  .group .plain
    (.atom (.ofBody ['@', '_'] rfl (by decide)) query <|
      .atom (.ofBody ['A', '-', 'Z'] rfl (by decide)) plus <|
      .atom (.ofBody ['a', '-', 'z'] rfl (by decide)) none <|
      .atom (.ofBody ['A', '-', 'Z', 'a', '-', 'z', '_', '$', '@', '0', '-', '9'] rfl
        (by decide)) star <|
      .bar <|
      .atom (.escape 'w' rfl) plus <| wordPhrase ['_', 't'] <|
      .atom (.escape 'b' isSimple_b) none .done) none .done

/-- Decimal digits, in groups, and what comes after the point. -/
def decimalPhrase : Phrase :=
  .atom (.escape 'd' rfl) none <|
  .group .plain (.atom (.symbol '_' rfl) none <| .atom (.escape 'd' rfl) plus .done) star <|
  .atom (.escape 'd' rfl) star <|
  .group .plain (.atom (.escape '.' rfl) none <| .atom (.escape 'd' rfl) star .done) query <|
  .bar <|
  .atom (.escape '.' rfl) none <| .atom (.escape 'd' rfl) none <|
  .atom (.escape '+' rfl) none .done

/-- Numbers. -/
def numberPhrase : Phrase :=
  .group .plain
    (wordPhrase ['0', 'x'] <|
      .atom (.ofBody ['a', '-', 'f', '0', '-', '9'] rfl (by decide)) plus <|
      .bar <|
      .group .plain decimalPhrase none <|
      .group .plain
        (.atom (.symbol 'e' rfl) none <|
          .atom (.ofBody ['+', '\\', '-'] rfl (by decide)) query <|
          .atom (.escape 'd' rfl) plus .done) query .done) none <|
  .atom (.ofBody ['a', '-', 'z'] rfl (by decide)) star .done

/-- Punctuation, in front of what must not follow. -/
def punctuationPhrase (rest : Phrase) : Phrase :=
  .atom (.symbol '.' rfl) none <|
  .atom (.ofBody ['^', '\\', 's', '\\', 'w', '.', '$', '@', '\'', '"', '\x60', '/', '\\', '\\']
    rfl (by decide)) star rest

/-- The slash of a regular expression literal. -/
def slashPhrase : Phrase :=
  .atom (charAtom 's') star <| .atom (.symbol '/' rfl) none .done

/-! ### Rules that refuse white space -/

/-- The rules for what all languages have, but for that for punctuation. -/
def solidRules : List Rule :=
  [ Rule.taggedIgnoringCase .literal "^@[a-z_$][a-z_$@0-9]*",
    Rule.tagged .typeName "^(?:[@_]?[A-Z]+[a-z][A-Za-z_$@0-9]*|\\w+_t\\b)",
    Rule.taggedIgnoringCase .plain "^[a-z_$][a-z_$@0-9]*",
    (Rule.taggedIgnoringCase .literal
      "^(?:0x[a-f0-9]+|(?:\\d(?:_\\d+)*\\d*(?:\\.\\d*)?|\\.\\d\\+)(?:e[+\\-]?\\d+)?)[a-z]*").withShortcut
      "0123456789",
    Rule.tagged .plain "^\\\\[\\s\\S]?" ]

theorem commonRules_eq (o : Options) :
    o.commonRules = solidRules ++ [Rule.tagged .punctuation o.punctuationSource] := rfl

theorem solidRules_refuse : ∀ r ∈ solidRules, r.pattern.RefusesSpace := by
  rw [solidRules, List.forall_mem_cons, List.forall_mem_cons, List.forall_mem_cons,
    List.forall_mem_cons, List.forall_mem_singleton]
  refine ⟨?literal, ?typeName, ?name, ?number, ?backslash⟩
  case literal =>
    exact .of_phrase (x := .atom (.symbol '@' rfl) none namePhrase) rfl (by decide)
      (by decide)
  case typeName =>
    exact .of_phrase (x := typeNamePhrase) rfl (by decide) (by decide)
  case name =>
    exact .of_phrase (x := namePhrase) rfl (by decide) (by decide)
  case number =>
    exact .of_phrase (x := numberPhrase) rfl (by decide) (by decide +kernel)
  case backslash => exact .of_parse rfl (by decide +kernel)

/-- The fallback rules that depend on the options, but for that for the names of types. -/
def optionalRules (o : Options) : List Rule :=
  (if o.verbatimStrings then [Rule.tagged .string "^@\"(?:[^\"]|\"\")*(?:\"|$)"] else [])
    ++ o.includeRule?.toList
    ++ (if o.cStyleComments then
        [ Rule.tagged .comment "^\\/\\/[^\\r\\n]*",
          Rule.tagged .comment "^\\/\\*[\\s\\S]*?(?:\\*\\/|$)" ]
      else [])
    ++ o.regexRule?.toList
    ++ o.keywordRule?.toList

theorem fallbacks_eq {o : Options} (untyped : o.typePattern = none) : o.rules.fallbacks =
    (o.optionalRules ++ solidRules) ++ [Rule.tagged .punctuation o.punctuationSource] := by
  simp only [rules, untyped, commonRules_eq, optionalRules, Option.toList_none, List.map_nil,
    List.append_nil, List.append_assoc]

/-- All of them refuse white space, the pattern for keywords because it asks for the edge of a
word. -/
theorem optionalRules_refuse (o : Options) : ∀ r ∈ o.optionalRules, r.pattern.RefusesSpace := by
  intro r mem
  simp only [optionalRules, List.mem_append, Option.mem_toList] at mem
  rcases mem with (((verbatim | mem) | comment) | mem) | mem
  · split at verbatim
    · rw [List.mem_singleton.mp verbatim]
      exact .of_parse rfl (by decide +kernel)
    · cases verbatim
  · rw [includeRule?] at mem
    split at mem <;> cases mem
    exact .of_parse rfl (by decide +kernel)
  · split at comment
    · revert r
      rw [List.forall_mem_cons, List.forall_mem_singleton]
      exact ⟨.of_parse rfl (by decide +kernel), .of_parse rfl (by decide +kernel)⟩
    · cases comment
  · rw [regexRule?] at mem
    split at mem
    · cases mem
    all_goals
      cases mem
      apply Pattern.RefusesSpace.of_parse
      case spelled =>
        dsimp only [Rule.embedding, regexPreceder]
        repeat' apply spelled_append
        all_goals rfl
      case reads => decide +kernel
  · intro regex made
    rw [regex_keywordRule mem made]
    rfl

/-! ### Repetitions -/

variable {t : Subject}

/-- As often as possible, if the rest matches there. -/
theorem run_repetition {set : CodeSet} {least : Nat} {k : Next} {s r : Spot}
    (enough : least ≤ t.reach set s.pos (t.text.size - s.pos))
    (h : k (s.moveTo (s.pos + t.reach set s.pos (t.text.size - s.pos))) = some r) :
    (Node.repetition least none true (.one set)).run t k s = some r := by
  simp only [Node.run, Node.sweepSet, if_neg (Nat.not_lt.mpr enough), if_true]
  refine firstDown_of_last ?_
  rw [Nat.add_assoc, Nat.add_sub_cancel' enough, h]

/-! ### Tokens -/

variable {text : List Char}

/-- White space is matched to its end. -/
theorem matchAt?_space (nonempty : text ≠ [])
    (spaced : ∀ c ∈ text, Class.space.holds c = true) :
    ({ node := spaceNode, nonEmpty := true } : Regex).matchAt? text.toArray 0 =
      some { pos := text.length } := by
  have whole : Subject.reach { text := text.toArray } Class.space 0 text.length = text.length := by
    refine Subject.reach_of_holdsAt fun q _ lt => ?_
    have inside : q < text.length := by omega
    exact holdsAt_iff.mpr ⟨_, List.getElem?_eq_getElem inside, spaced _ (List.getElem_mem inside)⟩
  rw [Regex.matchAt?, Regex.matchFrom?]
  refine run_repetition ?_ ?_
  · simpa [whole, Nat.one_le_iff_ne_zero] using nonempty
  · simp [whole, nonempty, Spot.moveTo]

/-- Marks are no white space. -/
theorem not_mark {c : Char} (white : Class.space.holds c = true) : c.toNat ∉ marks := by
  have apart : ∀ n ∈ Class.spaces, n ∉ marks := by decide
  exact apart c.toNat ((Class.mem_spaces _).mp white)

theorem tokens_space {o : Options} {l : Lexer} (compiled : Lexer.compile o.rules = .ok l)
    (nonempty : text ≠ []) (spaced : ∀ c ∈ text, Class.space.holds c = true) :
    l.tokens text = [text] := by
  obtain ⟨marked, others, starts, joined⟩ :=
    exists_alternatives compiled (List.nil_append _).symm
      (fun _ mem => absurd mem List.not_mem_nil) .nil
  obtain ⟨c, rest, rfl⟩ := List.exists_cons_of_ne_nil nonempty
  refine tokens_of_alternatives starts joined (not_mark (spaced c List.mem_cons_self)) ?_
  rw [List.findSome?_singleton, matchAt?_space nonempty spaced]

/-! ### Punctuation -/

/-- A class has a set, if case is minded. -/
theorem exists_set_of_sound {body : List Char} {plain : isClassBody body = true}
    {filled : body ≠ [] ∧ body ≠ ['^']} (sound : (Atom.ofBody body plain filled).Sound) :
    ∃ set, (Atom.ofBody body plain filled).node false = .one set := by
  obtain ⟨lexeme, read⟩ := sound
  obtain ⟨⟨c, used⟩, -, rfl⟩ := ok_of_map read
  exact ⟨c.set, by rw [Atom.node, read]; rfl⟩

/-- What a phrase for punctuation adds. -/
theorem node_punctuationPhrase {rest : Phrase} (sound : (punctuationPhrase rest).Sound) :
    ∃ set, ∀ c : Content, (punctuationPhrase rest).onto false 0 c =
      rest.onto false 0
        ((c.push (.one Class.notNewline)).push (.repetition 0 none true (.one set))) := by
  obtain ⟨set, node⟩ := exists_set_of_sound sound.2.2.1
  refine ⟨set, fun c => ?_⟩
  have repeated : Quantifier.on star (.one set) = .repetition 0 none true (.one set) := rfl
  rw [← repeated, ← node]
  rfl

/-- What must not follow punctuation. -/
def punctuationEnd (o : Options) : Phrase :=
  if o.regexLiterals = .none then .done else .group (.ahead true) slashPhrase none .done

theorem toList_punctuationSource (o : Options) :
    o.punctuationSource.toList = '^' :: (punctuationPhrase o.punctuationEnd).text := by
  have spelled (rest : String) (x : Phrase) (same : rest.toList = x.text) :
      ("^.[^\\s\\w.$@\'\"\x60/\\\\]*" ++ rest).toList = '^' :: (punctuationPhrase x).text := by
    have front : "^.[^\\s\\w.$@\'\"\x60/\\\\]*".toList =
        '^' :: (punctuationPhrase .done).text := rfl
    rw [String.toList_append, front, same]
    rfl
  unfold punctuationSource punctuationEnd
  split
  · exact spelled _ _ rfl
  · exact spelled _ _ rfl

theorem isLiteral_punctuationPhrase (o : Options) :
    (punctuationPhrase o.punctuationEnd).isLiteral = true := by
  unfold punctuationEnd
  split <;> rfl

/-- The pattern for punctuation takes a character that is no line feed, and more or less after it.
-/
theorem search?_punctuation {o : Options} {regex : Regex}
    (made : (Rule.tagged .punctuation o.punctuationSource).pattern.compile = .ok regex) {c : Char}
    (solid : c ≠ '\n') (spaced : ∀ d ∈ c :: text, Class.space.holds d = true) :
    ∃ s, Engine.search? regex (c :: text).toArray = some s := by
  have first : Subject.holdsAt { text := (c :: text).toArray } Class.notNewline 0 = true := by
    have other : c.toNat ≠ 10 := fun same => solid (Char.toNat_inj.mp same)
    have scalar : c.toNat ≤ 0x10ffff := Nat.le_of_lt_succ (toNat_lt c)
    refine holdsAt_iff.mpr ⟨c, rfl, ?_⟩
    simp [CodeSet.holds, Class.notNewline, Class.all, other, scalar]
  obtain ⟨sound, rfl⟩ := Pattern.node_of_compile
    (p := (Rule.tagged .punctuation o.punctuationSource).pattern) (isLiteral_punctuationPhrase o)
    (toList_punctuationSource o) made
  obtain ⟨set, read⟩ := node_punctuationPhrase sound
  have minding : (Rule.tagged .punctuation o.punctuationSource).pattern.ignoreCase = false := rfl
  rw [minding, read]
  let stop := 1 + Subject.reach { text := (c :: text).toArray } set 1 ((c :: text).length - 1)
  have taken {k : Next} (next : k { pos := stop } = some { pos := stop }) :
      (Node.one Class.notNewline).run { text := (c :: text).toArray }
        ((Node.repetition 0 none true (.one set)).run { text := (c :: text).toArray } k)
        { pos := 0 } = some { pos := stop } := by
    simp only [Node.run, first, if_true]
    exact run_repetition (Nat.zero_le _) next
  unfold punctuationEnd
  split
  · exact ⟨{ pos := stop }, search?_of_run (taken rfl)⟩
  · have inside : stop ≤ (c :: text).length := by
      have positive : 0 < (c :: text).length := Nat.succ_pos _
      have := Subject.reach_le (t := { text := (c :: text).toArray }) set 1 ((c :: text).length - 1)
      omega
    have slash : (slashPhrase.node false).refusesSpace = true := by decide
    have absent : (slashPhrase.node false).run { text := (c :: text).toArray } some
        { pos := stop } = none :=
      Node.run_of_refusesSpace (fun d mem => spaced d (List.mem_toArray.mp mem)) slash some
        (.start inside)
    have free : (Node.ahead true (slashPhrase.node false)).run { text := (c :: text).toArray } some
        { pos := stop } = some { pos := stop } := by
      simp only [Node.run, absent, if_true]
    exact ⟨{ pos := stop }, search?_of_run (taken free)⟩

/-! ### Main result -/

variable {o : Options} {l : Lexer} {c : Char}

theorem not_digit {c : Char} (white : Class.space.holds c = true) : c.isDigit = false := by
  have apart : ∀ n ∈ Class.spaces, ¬ (48 ≤ n ∧ n ≤ 57) := by decide
  refine Bool.eq_false_iff.mpr fun digit => apart c.toNat ((Class.mem_spaces _).mp white) ?_
  simpa [Char.isDigit, UInt32.le_iff_toNat_le] using digit

/-- Blanks lead to the rule for white space. -/
theorem classify_blank (compiled : Lexer.compile o.rules = .ok l)
    (white : Class.space.holds c = true) (blank : c ∈ blanks.toList) :
    l.classify (c :: text) = .terminal .plain := by
  have later : o.rules.fallbacks.reverse.find? (·.shortcutChars.contains c) = none := by
    refine List.find?_eq_none.mpr fun r mem listed => ?_
    have digit :=
      o.shortcut_fallbacks r (List.mem_reverse.mp mem) c (List.contains_iff_mem.mp listed)
    rw [not_digit white] at digit
    cases digit
  have own : spaceRule.shortcutChars.contains c = true := List.contains_iff_mem.mpr blank
  have found : o.rules.rules.reverse.find? (·.shortcutChars.contains c) = some spaceRule := by
    rw [rules_rules, List.reverse_append, List.find?_append, later, Option.none_or,
      List.reverse_append, List.find?_append, List.reverse_singleton, List.find?_singleton, own]
    rfl
  exact Lexer.classify_of_shortcut compiled found rfl

/-- Other white space is left to the rule for punctuation. -/
theorem classify_of_not_blank (untyped : o.typePattern = none)
    (compiled : Lexer.compile o.rules = .ok l)
    (spaced : ∀ d ∈ c :: text, Class.space.holds d = true) (solid : c ∉ blanks.toList) :
    l.classify (c :: text) = .terminal .punctuation := by
  have white := spaced c List.mem_cons_self
  have bare := not_shortcut (o := o) (not_mark white) solid (not_digit white)
  refine Lexer.classify_of_fallback compiled bare (fallbacks_eq untyped) ?missed ?found rfl
  case missed =>
    intro q mem regex made
    refine search?_of_refusesSpace spaced ?_
    rcases List.mem_append.mp mem with own | own
    · exact o.optionalRules_refuse q own regex made
    · exact solidRules_refuse q own regex made
  case found =>
    intro regex made
    refine search?_punctuation made ?_ spaced
    rintro rfl
    exact solid (by decide)

/-- Whatever the options are, a text of white space has a single decoration. It is plain if the text
begins with a blank and punctuation otherwise, unless a pattern for names of types is given. -/
theorem scan_space {r : Registry} (frozen : r.frozen = true) {language : String}
    (found : r.lexer? language = some l) (compiled : Lexer.compile o.rules = .ok l)
    {source : String} (spelled : source.toList = c :: text)
    (spaced : ∀ d ∈ source.toList, Class.space.holds d = true)
    (named : c ∈ blanks.toList ∨ o.typePattern = none) {base : Nat}
    (fits : base + source.utf8ByteSize < positionLimit) :
    r.scan language source base =
      .ok [⟨base, if c ∈ blanks.toList then .plain else .punctuation⟩] := by
  have nonempty : source.toList ≠ [] := by simp [spelled]
  refine scan_of_token frozen found nonempty (tokens_space compiled nonempty spaced) ?_ fits
  rw [spelled] at spaced ⊢
  split
  · rename_i blank
    exact classify_blank compiled (spaced c List.mem_cons_self) blank
  · rename_i solid
    exact classify_of_not_blank (named.resolve_left solid) compiled spaced solid

/-- White space that begins with a form feed is punctuation; with a line feed in front it is
plain. -/
theorem scan_space_formFeed : ∃ (r : Registry) (l : Lexer),
    Registry.registerOptions {} ["plain"] {} = .ok r ∧ r.freeze.frozen = true ∧
      r.freeze.lexer? "plain" = some l ∧ Lexer.compile ({} : Options).rules = .ok l ∧
      "\x0c\n".toList = '\x0c' :: ['\n'] ∧
      (∀ d ∈ "\x0c\n".toList, Class.space.holds d = true) ∧
      ('\x0c' ∈ blanks.toList ∨ ({} : Options).typePattern = none) ∧
      4 + "\x0c\n".utf8ByteSize < positionLimit ∧
      r.freeze.scan "plain" "\x0c\n" 4 = .ok [⟨4, .punctuation⟩] ∧
      r.freeze.scan "plain" "\n\x0c" 4 = .ok [⟨4, .plain⟩] := by
  obtain ⟨r, l, registered, found, compiled⟩ := exists_registered "plain" (o := {}) nofun
  have spaced : ∀ d ∈ "\x0c\n".toList, Class.space.holds d = true :=
    List.all_eq_true.mp (by decide +kernel)
  have spaced' : ∀ d ∈ "\n\x0c".toList, Class.space.holds d = true :=
    List.all_eq_true.mp (by decide +kernel)
  have fits : 4 + "\x0c\n".utf8ByteSize < positionLimit := by decide
  have split : "\x0c\n".toList = '\x0c' :: ['\n'] := rfl
  have split' : "\n\x0c".toList = '\n' :: ['\x0c'] := rfl
  have first := scan_space rfl found compiled split spaced (.inr rfl) fits
  have second := scan_space rfl found compiled split' spaced' (.inr rfl) fits
  rw [if_neg (by decide)] at first
  rw [if_pos (by decide)] at second
  exact ⟨r, l, registered, rfl, found, compiled, rfl, spaced, .inr rfl, fits, first, second⟩

end Options

end Tincture
