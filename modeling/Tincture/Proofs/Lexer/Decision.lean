import Tincture.Proofs.Lexer.Partition
import Tincture.Proofs.Lexer.Shortcuts

/-!
The rule that decides about a token.

The rules of a language say by themselves which of them a token falls to (`RuleSet.Decides`) and
what comes of it (`RuleSet.Judges`): the last rule that has the first character as a shortcut
decides, or, if no rule has it, the first fallback rule that finds its pattern somewhere in the
token. A lexer does not look at the rules again, but at a table that was filled by overwriting and
at a list of compiled fallback rules. It classifies every token as its rules do
(`Lexer.classify_iff_judges`).
-/

namespace Tincture

variable {E : Type} [Engine E]

/-! ### Searching a token -/

namespace Engine

variable {e : E} {text : Array Char}

theorem searchFrom?_eq_findSome? (pos room : Nat) :
    searchFrom? e text pos room = (List.range' pos room).findSome? (matchFrom? e text 0) := by
  induction room generalizing pos with
  | zero => rfl
  | succ room ih =>
    rw [searchFrom?, ih, List.range'_succ, List.findSome?_cons]
    cases matchFrom? e text 0 pos <;> rfl

/-- A search gives the match from the first position of the text that has one. -/
theorem search?_eq_findSome? :
    search? e text = (List.range (text.size + 1)).findSome? (matchFrom? e text 0) := by
  rw [search?, searchFrom?_eq_findSome?, List.range_eq_range']

end Engine

/-! ### What the rules say -/

/-- The rule finds its own pattern in the token, and the match from the first position that has one
is the spot. -/
def Rule.Finds (E : Type) [Engine E] (r : Rule) (token : List Char) (s : Regex.Spot) : Prop :=
  ∃ regex : E, Engine.compile r.pattern.source r.pattern.ignoreCase false = .ok regex ∧
    (List.range (token.length + 1)).findSome? (Engine.matchFrom? regex token.toArray 0) = some s

theorem Rule.Finds.unique {r : Rule} {token : List Char} {spot spot' : Regex.Spot}
    (h : r.Finds E token spot) (h' : r.Finds E token spot') : spot = spot' := by
  obtain ⟨regex, compiled, found⟩ := h
  obtain ⟨regex', compiled', found'⟩ := h'
  cases compiled.symm.trans compiled'
  exact Option.some.inj (found.symm.trans found')

namespace RuleSet

/-- The rule is the first one with a property. -/
def IsFirst (P : Rule → Prop) (rules : List Rule) (r : Rule) : Prop :=
  ∃ before after, rules = before ++ r :: after ∧ P r ∧ ∀ q ∈ before, ¬ P q

/-- The rule decides about the token. -/
inductive Decides (E : Type) [Engine E] (s : RuleSet) : List Char → Rule → Prop where
  /-- The last rule with a shortcut wins. -/
  | shortcut {c : Char} {token : List Char} {r : Rule}
      (last : IsFirst (c ∈ ·.shortcutChars) s.rules.reverse r) : Decides E s (c :: token) r
  /-- Only fallback rules are searched for. -/
  | search {c : Char} {token : List Char} {r : Rule} (bare : ∀ q ∈ s.rules, c ∉ q.shortcutChars)
      (first : IsFirst (∃ spot, ·.Finds E (c :: token) spot) s.fallbacks r) :
      Decides E s (c :: token) r

/-- The rule finds a first group in the token that has taken part and is not empty. -/
def Embeds (E : Type) [Engine E] (r : Rule) (token : List Char) (start stop : Nat) : Prop :=
  ∃ spot, r.Finds E token spot ∧ spot.group? 1 = some (start, stop) ∧ start < stop

/-- What the token is, according to the rule that decides about it. -/
inductive Judges (E : Type) [Engine E] (s : RuleSet) (token : List Char) :
    Classification → Prop where
  | undecided (none : ∀ r, ¬ s.Decides E token r) : Judges E s token (.terminal .plain)
  /-- Whether the pattern of a rule that gives a tag matches does not matter. -/
  | terminal {r : Rule} {tag : Tag} (decides : s.Decides E token r)
      (style : r.style = .terminal tag) : Judges E s token (.terminal tag)
  | embedded {r : Rule} {language : String} {start stop : Nat} (decides : s.Decides E token r)
      (style : r.style = .embedded language) (embeds : Embeds E r token start stop) :
      Judges E s token (.embedded language start stop)
  | source {r : Rule} {language : String} (decides : s.Decides E token r)
      (style : r.style = .embedded language) (none : ∀ start stop, ¬ Embeds E r token start stop) :
      Judges E s token (.terminal .source)

/-! ### The rules say one thing only -/

variable {s : RuleSet} {token : List Char} {r r' : Rule}

theorem isFirst_iff {P : Rule → Prop} [DecidablePred P] {rules : List Rule} :
    IsFirst P rules r ↔ rules.find? (P ·) = some r := by
  simp only [IsFirst, List.find?_eq_some_iff_append, decide_eq_true_eq, Bool.not_eq_true',
    decide_eq_false_iff_not]
  constructor
  · rintro ⟨before, after, eq, own, others⟩
    exact ⟨own, before, after, eq, others⟩
  · rintro ⟨own, before, after, eq, others⟩
    exact ⟨before, after, eq, own, others⟩

theorem IsFirst.unique {P : Rule → Prop} {rules : List Rule} (h : IsFirst P rules r)
    (h' : IsFirst P rules r') : r = r' := by
  classical
  rw [isFirst_iff] at h h'
  exact Option.some.inj (h.symm.trans h')

theorem IsFirst.holds {P : Rule → Prop} {rules : List Rule} (h : IsFirst P rules r) :
    r ∈ rules ∧ P r := by
  obtain ⟨before, after, rfl, own, -⟩ := h
  exact ⟨by simp, own⟩

/-- At most one rule decides about a token. -/
theorem Decides.unique (h : s.Decides E token r) (h' : s.Decides E token r') : r = r' := by
  cases h with
  | shortcut last =>
    cases h' with
    | shortcut last' => exact last.unique last'
    | search bare =>
      obtain ⟨mem, own⟩ := last.holds
      exact absurd own (bare r (List.mem_reverse.mp mem))
  | search bare first =>
    cases h' with
    | shortcut last' =>
      obtain ⟨mem, own⟩ := last'.holds
      exact absurd own (bare r' (List.mem_reverse.mp mem))
    | search _ first' => exact first.unique first'

theorem Embeds.unique {start stop start' stop' : Nat} (h : Embeds E r token start stop)
    (h' : Embeds E r token start' stop') : start = start' ∧ stop = stop' := by
  obtain ⟨spot, finds, group, -⟩ := h
  obtain ⟨spot', finds', group', -⟩ := h'
  cases finds.unique finds'
  cases group.symm.trans group'
  exact ⟨rfl, rfl⟩

/-- A token is one thing only. -/
theorem Judges.unique {a b : Classification} (h : s.Judges E token a) (h' : s.Judges E token b) :
    a = b := by
  -- The rules that decide are the same, and so are their styles.
  cases h with
  | undecided none =>
    cases h' with
    | undecided => rfl
    | terminal decides | embedded decides | source decides => exact absurd decides (none _)
  | terminal decides style =>
    cases h' with
    | undecided none => exact absurd decides (none _)
    | terminal decides' style' =>
      cases decides.unique decides'
      cases style.symm.trans style'
      rfl
    | embedded decides' style' | source decides' style' =>
      cases decides.unique decides'
      cases style.symm.trans style'
  | embedded decides style embeds =>
    cases h' with
    | undecided none => exact absurd decides (none _)
    | terminal decides' style' =>
      cases decides.unique decides'
      cases style.symm.trans style'
    | embedded decides' style' embeds' =>
      cases decides.unique decides'
      cases style.symm.trans style'
      obtain ⟨rfl, rfl⟩ := embeds.unique embeds'
      rfl
    | source decides' _ none =>
      cases decides.unique decides'
      exact absurd embeds (none _ _)
  | source decides style none =>
    cases h' with
    | undecided none' => exact absurd decides (none' _)
    | terminal decides' style' =>
      cases decides.unique decides'
      cases style.symm.trans style'
    | embedded decides' _ embeds =>
      cases decides.unique decides'
      exact absurd embeds (none _ _)
    | source => rfl

end RuleSet

namespace Lexer

open RuleSet

variable {rules : RuleSet} {l : Lexer E} {token : List Char}

/-! ### What the lexer does -/

/-- The compiled rule searches tokens for the pattern of the rule. -/
theorem finds_iff_of_compile {own : CompiledRule E}
    (pattern : own.rule.pattern.compile = .ok own.regex) {spot : Regex.Spot} :
    own.rule.Finds E token spot ↔ Engine.search? own.regex token.toArray = some spot := by
  obtain ⟨_, -, alone⟩ := ok_of_bind pattern
  have compiled := Pattern.compileSource_eq_ok_iff.mp alone
  rw [Engine.search?_eq_findSome?, List.size_toArray]
  constructor
  · rintro ⟨regex, made, found⟩
    cases compiled.symm.trans made
    exact found
  · exact fun found => ⟨own.regex, compiled, found⟩

/-- The table leads to the last rule with a shortcut. -/
theorem isFirst_of_lookup (compiled : compile rules = .ok l) {c : Char} {own : CompiledRule E}
    (listed : l.table.lookup c = some own) :
    IsFirst (c ∈ ·.shortcutChars) rules.rules.reverse own.rule ∧
      own.rule.pattern.compile = .ok own.regex := by
  have looked := rule_lookup compiled c
  rw [listed, Option.map_some, eq_comm] at looked
  refine ⟨isFirst_iff.mpr (by simpa [List.contains_iff_mem] using looked), ?_⟩
  obtain ⟨before, after, split, -⟩ := List.lookup_eq_some_iff.mp listed
  have entered : (c, own) ∈ l.table := by simp [split]
  obtain ⟨union, shortcuts, fallbacks, -, -, first, second, rfl⟩ := parts_of_compile compiled
  rcases mem_of_mem_table entered with mem | mem
  · cases mem
  · rcases List.mem_append.mp mem with mem | mem
    · exact (compile_of_mapM first own mem).2
    · exact (compile_of_mapM second own mem).2

theorem bare_of_lookup (compiled : compile rules = .ok l) {c : Char}
    (listed : l.table.lookup c = none) : ∀ q ∈ rules.rules, c ∉ q.shortcutChars := by
  have none := rule_lookup compiled c
  rw [listed, Option.map_none, eq_comm, List.find?_eq_none] at none
  intro q mem own
  exact none q (List.mem_reverse.mpr mem) (List.contains_iff_mem.mpr own)

/-- The search comes upon the first of the rules that finds its pattern, or upon none if no rule
does. -/
theorem isFirst_of_firstFound {rules : List Rule} {compiled : List (CompiledRule E)}
    (h : rules.mapM compileRule = .ok compiled) (token : List Char) :
    match firstFound token.toArray compiled with
    | some (own, spot) =>
      IsFirst (∃ spot, ·.Finds E token spot) rules own.rule ∧ own.rule.Finds E token spot
    | none => ∀ q ∈ rules, ∀ spot, ¬ q.Finds E token spot := by
  have pairs := compiled_of_mapM h
  clear h
  induction pairs with
  | nil => exact fun _ mem => absurd mem List.not_mem_nil
  | @cons r own rules compiled first _ ih =>
    obtain ⟨rfl, pattern⟩ := first
    rw [firstFound]
    cases here : Engine.search? own.regex token.toArray with
    | some spot =>
      have found := (finds_iff_of_compile pattern).mpr here
      exact ⟨⟨[], rules, rfl, ⟨spot, found⟩, fun _ mem => absurd mem List.not_mem_nil⟩, found⟩
    | none =>
      have missed : ∀ spot, ¬ own.rule.Finds E token spot := by
        intro spot found
        rw [(finds_iff_of_compile pattern).mp found] at here
        cases here
      dsimp only
      split at ih
      · obtain ⟨⟨before, after, rfl, own', others⟩, found⟩ := ih
        refine ⟨⟨own.rule :: before, after, rfl, own', ?_⟩, found⟩
        refine List.forall_mem_cons.mpr ⟨?_, others⟩
        rintro ⟨spot, found⟩
        exact missed spot found
      · exact List.forall_mem_cons.mpr ⟨missed, ih⟩

/-- A rule that decides and the spot where it was searched for give what the rules say. -/
theorem judges_apply {own : CompiledRule E} (decides : rules.Decides E token own.rule)
    {found : Option Regex.Spot} (spots : ∀ spot, own.rule.Finds E token spot ↔ found = some spot) :
    rules.Judges E token (apply own.rule found) := by
  unfold apply
  cases style : own.rule.style with
  | terminal tag => exact .terminal decides style
  | embedded language =>
    dsimp only
    cases group : found.bind (·.group? 1) with
    | none =>
      refine .source decides style ?_
      rintro start stop ⟨spot, finds, taken, -⟩
      rw [(spots spot).mp finds, Option.bind_some, taken] at group
      cases group
    | some range =>
      obtain ⟨start, stop⟩ := range
      obtain ⟨spot, eq, taken⟩ := Option.bind_eq_some_iff.mp group
      dsimp only
      split
      · rename_i lt
        exact .embedded decides style ⟨spot, (spots spot).mpr eq, taken, lt⟩
      · rename_i empty
        refine .source decides style ?_
        rintro start' stop' ⟨spot', finds, taken', lt⟩
        cases eq.symm.trans ((spots spot').mp finds)
        cases taken.symm.trans taken'
        exact empty lt

/-- A lexer does with a token what its rules say. -/
theorem judges_classify (compiled : compile rules = .ok l) (nonempty : token ≠ []) :
    rules.Judges E token (l.classify token) := by
  obtain ⟨c, rest, rfl⟩ := List.exists_cons_of_ne_nil nonempty
  rw [classify, List.head?_cons, Option.bind_some]
  cases listed : l.table.lookup c with
  | some own =>
    obtain ⟨last, pattern⟩ := isFirst_of_lookup compiled listed
    exact judges_apply (.shortcut last) fun spot => finds_iff_of_compile pattern
  | none =>
    have bare := bare_of_lookup compiled listed
    obtain ⟨union, shortcuts, fallbacks, -, -, -, second, rfl⟩ := parts_of_compile compiled
    have search := isFirst_of_firstFound second (c :: rest)
    dsimp only
    cases found : firstFound (c :: rest).toArray fallbacks with
    | some result =>
      obtain ⟨own, spot⟩ := result
      rw [found] at search
      obtain ⟨first, finds⟩ := search
      refine judges_apply (.search bare first) fun spot' => ⟨fun finds' => ?_, ?_⟩
      · rw [finds.unique finds']
      · rintro ⟨⟩
        exact finds
    | none =>
      rw [found] at search
      refine .undecided fun r decides => ?_
      cases decides with
      | shortcut last =>
        obtain ⟨mem, own⟩ := last.holds
        exact bare r (List.mem_reverse.mp mem) own
      | search _ first =>
        obtain ⟨mem, spot, finds⟩ := first.holds
        exact search r mem spot finds

/-- Of every token that is not empty, a lexer says just what the rules it was compiled from say, and
they decide by one rule at most. Embedded text lies within the token and is not empty, and what a
search comes upon is the first fallback rule that finds its pattern. -/
theorem classify_iff_judges [Engine.Confined E] (compiled : compile rules = .ok l)
    (nonempty : token ≠ []) :
    (∀ answer, l.classify token = answer ↔ rules.Judges E token answer) ∧
      (∀ r r', rules.Decides E token r → rules.Decides E token r' → r = r') ∧
      (∀ language start stop, l.classify token = .embedded language start stop →
        start < stop ∧ stop ≤ token.length) ∧
      ∀ own spot, firstFound token.toArray l.fallbacks = some (own, spot) →
        IsFirst (∃ spot, ·.Finds E token spot) rules.fallbacks own.rule ∧
          own.rule.Finds E token spot := by
  have judges := judges_classify compiled nonempty
  refine ⟨fun answer => ⟨?_, judges.unique⟩, fun _ _ => Decides.unique,
    fun _ _ _ => range_of_classify, ?_⟩
  · rintro rfl
    exact judges
  · intro own spot found
    obtain ⟨union, shortcuts, fallbacks, -, -, -, second, rfl⟩ := parts_of_compile compiled
    have search := isFirst_of_firstFound second token
    rw [found] at search
    exact search

/-- Two rules share a shortcut, which takes two bytes. -/
def overlapping : RuleSet where
  shortcuts := [(Rule.tagged .string "é+").withShortcut "é<",
    (Rule.tagged .comment "#").withShortcut "é"]
  fallbacks := [.embedding "inner" "(#?)x", .embedding "inner" "#(y)", .tagged .keyword "é"]

/-- The later one decides although its pattern is not found; and where none has the first character
as a shortcut, the first group of the first fallback rule is missing or not. -/
theorem classify_iff_judges_overlapping :
    ∃ l, compile overlapping = .ok l ∧ "é#y".toList ≠ [] ∧ "#x".toList ≠ [] ∧
      overlapping.Judges Regex "é#y".toList (.terminal .comment) ∧
      overlapping.Judges Regex "#x".toList (.embedded "inner" 0 1) := by
  have evaluated : (compile overlapping).toOption.map (fun l =>
      (l.classify "é#y".toList, l.classify "#x".toList)) =
        some (.terminal .comment, .embedded "inner" 0 1) := by decide +kernel
  cases compiled : compile overlapping with
  | error e =>
    rw [compiled] at evaluated
    cases evaluated
  | ok l =>
    rw [compiled] at evaluated
    obtain ⟨first, second⟩ := Prod.mk.inj (Option.some.inj evaluated)
    have nonempty : "é#y".toList ≠ [] := by decide
    have nonempty' : "#x".toList ≠ [] := by decide
    exact ⟨l, rfl, nonempty, nonempty', ((classify_iff_judges compiled nonempty).1 _).mp first,
      ((classify_iff_judges compiled nonempty').1 _).mp second⟩

end Lexer

end Tincture
