import Tincture.Lexer
import Tincture.Proofs.Regex.Locality

/-!
What a lexer is compiled to.

A compiled lexer has its rules, which have passed the check for flags, and compiled from them the
union, the fallback rules and the table of shortcuts. So every rule that classifies a token is one
of the rules of the lexer, and the language of embedded text is that of a rule
(`exists_rule_of_classify`).
-/

namespace Tincture

variable {E : Type}

namespace Lexer

theorem mem_of_mem_enter {table : List (Char × CompiledRule E)} {r : CompiledRule E}
    {e : Char × CompiledRule E} (h : e ∈ enter table r) : e ∈ table ∨ e.2 = r := by
  unfold enter at h
  generalize r.rule.shortcutChars = cs at h
  induction cs generalizing table with
  | nil => exact .inl h
  | cons c cs ih =>
    rcases ih h with mem | own
    · rcases List.mem_cons.mp mem with rfl | mem
      · exact .inr rfl
      · exact .inl mem
    · exact .inr own

/-- What is in the table has been entered for some rule. -/
theorem mem_of_mem_table {table : List (Char × CompiledRule E)} {rules : List (CompiledRule E)}
    {e : Char × CompiledRule E} (h : e ∈ rules.foldl enter table) : e ∈ table ∨ e.2 ∈ rules := by
  induction rules generalizing table with
  | nil => exact .inl h
  | cons r rest ih =>
    rcases ih h with mem | mem
    · rcases mem_of_mem_enter mem with mem | own
      · exact .inl mem
      · exact .inr (own ▸ List.mem_cons_self)
    · exact .inr (List.mem_cons_of_mem _ mem)

end Lexer

variable [Engine E]

theorem Pattern.compileSource_eq_ok_iff {source : String} {ignoreCase nonEmpty : Bool}
    {regex : E} :
    compileSource source ignoreCase nonEmpty = .ok regex ↔
      Engine.compile source ignoreCase nonEmpty = .ok regex := by
  unfold compileSource
  cases (Engine.compile source ignoreCase nonEmpty : Except Regex.Fault E) <;> simp

namespace Lexer

/-- The steps of a compilation that succeeds, and what it gives. -/
theorem parts_of_compile {rules : RuleSet} {lexer : Lexer E} (h : compile rules = .ok lexer) :
    ∃ union shortcuts fallbacks, rules.check = .ok () ∧
      Union.compile (rules.rules.map (·.pattern)) = .ok union ∧
      rules.shortcuts.mapM compileRule = .ok shortcuts ∧
      rules.fallbacks.mapM compileRule = .ok fallbacks ∧
      lexer = ⟨rules, union, fallbacks, (shortcuts ++ fallbacks).foldl enter []⟩ := by
  obtain ⟨_, checked, h⟩ := ok_of_bind h
  obtain ⟨union, joined, h⟩ := ok_of_bind h
  obtain ⟨shortcuts, first, h⟩ := ok_of_bind h
  obtain ⟨fallbacks, second, h⟩ := ok_of_bind h
  exact ⟨union, shortcuts, fallbacks, checked, joined, first, second, (Except.ok.inj h).symm⟩

theorem rules_of_compile {rules : RuleSet} {lexer : Lexer E} (h : compile rules = .ok lexer) :
    lexer.rules = rules := by
  obtain ⟨_, _, _, -, -, -, -, rfl⟩ := parts_of_compile h
  rfl

/-- Rules that are compiled have passed the check for flags. -/
theorem check_of_compile {rules : RuleSet} {lexer : Lexer E} (h : compile rules = .ok lexer) :
    rules.check = .ok () := by
  obtain ⟨_, _, _, checked, -⟩ := parts_of_compile h
  exact checked

/-! ### Rules and their compiled forms -/

/-- Rules are compiled one by one. -/
theorem compiled_of_mapM {rules : List Rule} {compiled : List (CompiledRule E)}
    (h : rules.mapM compileRule = .ok compiled) :
    List.Forall₂ (fun r c => c.rule = r ∧ r.pattern.compile = .ok c.regex) rules compiled := by
  refine (forall₂_of_mapM h).imp fun r c made => ?_
  obtain ⟨regex, pattern, own⟩ := ok_of_bind made
  cases own
  exact ⟨rfl, pattern⟩

theorem map_rule_of_mapM {rules : List Rule} {compiled : List (CompiledRule E)}
    (h : rules.mapM compileRule = .ok compiled) : compiled.map (·.rule) = rules := by
  have pairs := compiled_of_mapM h
  clear h
  induction pairs with
  | nil => rfl
  | cons first _ ih => rw [List.map_cons, first.1, ih]

/-- Each compiled rule is one of the rules, and has its pattern compiled. -/
theorem compile_of_mapM {rules : List Rule} {compiled : List (CompiledRule E)}
    (h : rules.mapM compileRule = .ok compiled) :
    ∀ own ∈ compiled, own.rule ∈ rules ∧ own.rule.pattern.compile = .ok own.regex := by
  have pairs := compiled_of_mapM h
  clear h
  induction pairs with
  | nil => exact fun _ mem => absurd mem List.not_mem_nil
  | cons first _ ih =>
    obtain ⟨rfl, pattern⟩ := first
    refine List.forall_mem_cons.mpr ⟨⟨List.mem_cons_self, pattern⟩, fun own mem => ?_⟩
    exact (ih own mem).imp_left (List.mem_cons_of_mem _)

theorem mem_of_firstFound {token : Array Char} {rules : List (CompiledRule E)}
    {r : CompiledRule E} {s : Regex.Spot} (h : firstFound token rules = some (r, s)) :
    r ∈ rules := by
  induction rules with
  | nil => cases h
  | cons first rest ih =>
    simp only [firstFound] at h
    split at h
    · cases h
      exact List.mem_cons_self
    · exact List.mem_cons_of_mem _ (ih h)

/-! ### Embedded languages -/

/-- A rule embeds the language of its style. -/
theorem style_of_apply {r : Rule} {spot : Option Regex.Spot} {language : String} {start stop : Nat}
    (h : apply r spot = .embedded language start stop) : r.style = .embedded language := by
  unfold apply at h
  split at h
  · cases h
  · rename_i own styled
    split at h
    · split at h
      · cases h
        exact styled
      · cases h
    · cases h

/-- Embedded text is in the language of a rule. -/
theorem exists_rule_of_classify {l : Lexer E} (compiled : compile l.rules = .ok l)
    {token : List Char} {language : String} {start stop : Nat}
    (h : l.classify token = .embedded language start stop) :
    ∃ r ∈ l.rules.rules, r.style = .embedded language := by
  obtain ⟨_, shortcuts, fallbacks, -, -, first, second, parts⟩ := parts_of_compile compiled
  have own : ∀ c ∈ shortcuts ++ fallbacks, c.rule ∈ l.rules.rules := by
    intro c mem
    rcases List.mem_append.mp mem with mem | mem
    · exact List.mem_append_left _ ((compile_of_mapM first c mem).1)
    · exact List.mem_append_right _ ((compile_of_mapM second c mem).1)
  have table : l.table = (shortcuts ++ fallbacks).foldl enter [] := by rw [parts]
  have others : l.fallbacks = fallbacks := by rw [parts]
  unfold classify at h
  split at h
  · rename_i r found
    obtain ⟨c, -, listed⟩ := Option.bind_eq_some_iff.mp found
    obtain ⟨before, after, split, -⟩ := List.lookup_eq_some_iff.mp listed
    have entered : (c, r) ∈ (shortcuts ++ fallbacks).foldl enter [] := by simp [← table, split]
    rcases mem_of_mem_table entered with mem | mem
    · cases mem
    · exact ⟨r.rule, own r mem, style_of_apply h⟩
  · split at h
    · rename_i r s found
      rw [others] at found
      have mem := List.mem_append_right shortcuts (mem_of_firstFound found)
      exact ⟨r.rule, own r mem, style_of_apply h⟩
    · cases h

end Lexer

end Tincture
