import Tincture.Proofs.Lexer.Parts

/-!
Which rule classifies a token.

Shortcuts are entered rule by rule, and later rules take over those of earlier ones: a character
leads to the last rule that has it (`rule_lookup`). What such a rule makes of a token does not
depend on its pattern if it gives a tag (`classify_of_shortcut`). A token whose first character is
no shortcut is searched for the patterns of the fallback rules, in order (`classify_of_fallback`).
-/

namespace Tincture.Lexer

variable {E : Type}

/-! ### The table -/

theorem lookup_enter (table : List (Char × CompiledRule E)) (r : CompiledRule E) (c : Char) :
    (enter table r).lookup c =
      if r.rule.shortcutChars.contains c then some r else table.lookup c := by
  unfold enter
  generalize r.rule.shortcutChars = cs
  induction cs generalizing table with
  | nil => rfl
  | cons d cs ih =>
    rw [List.foldl_cons, ih, List.lookup_cons, List.contains_cons]
    cases c == d <;> cases cs.contains c <;> rfl

/-- The last rule with a shortcut wins. -/
theorem lookup_foldl_enter (rules : List (CompiledRule E))
    (table : List (Char × CompiledRule E)) (c : Char) : (rules.foldl enter table).lookup c =
      (rules.reverse.find? (·.rule.shortcutChars.contains c)).or (table.lookup c) := by
  induction rules generalizing table with
  | nil => rfl
  | cons r rest ih =>
    rw [List.foldl_cons, ih, lookup_enter, List.reverse_cons, List.find?_append, Option.or_assoc,
      List.find?_singleton]
    cases r.rule.shortcutChars.contains c <;> rfl

variable [Engine E] {rules : RuleSet} {l : Lexer E}

/-- A character leads to the last rule that has it as a shortcut. -/
theorem rule_lookup (compiled : compile rules = .ok l) (c : Char) :
    (l.table.lookup c).map (·.rule) = rules.rules.reverse.find? (·.shortcutChars.contains c) := by
  obtain ⟨union, shortcuts, fallbacks, -, -, first, second, rfl⟩ := parts_of_compile compiled
  have all : rules.rules.reverse = (shortcuts ++ fallbacks).reverse.map (·.rule) := by
    rw [List.map_reverse, List.map_append, map_rule_of_mapM first, map_rule_of_mapM second]
    rfl
  rw [all, List.find?_map, lookup_foldl_enter, List.lookup_nil, Option.or_none]
  rfl

/-! ### Classification -/

/-- Rules whose patterns are not found are passed over. -/
theorem firstFound_of_missed {skipped rest : List Rule} {r : Rule}
    {compiled : List (CompiledRule E)} {token : Array Char}
    (pairs : List.Forall₂ (fun r c => c.rule = r ∧ r.pattern.compile = .ok c.regex)
      (skipped ++ r :: rest) compiled)
    (missed : ∀ q ∈ skipped, ∀ regex : E, q.pattern.compile = .ok regex →
      Engine.search? regex token = none)
    (found : ∀ regex : E, r.pattern.compile = .ok regex →
      ∃ s, Engine.search? regex token = some s) :
    ∃ own s, firstFound token compiled = some (own, s) ∧ own.rule = r := by
  induction skipped generalizing compiled with
  | nil =>
    obtain ⟨own, others, ⟨rule, pattern⟩, -, rfl⟩ := List.forall₂_cons_left_iff.mp pairs
    obtain ⟨s, here⟩ := found own.regex pattern
    exact ⟨own, s, by simp only [firstFound, here], rule⟩
  | cons q skipped ih =>
    obtain ⟨first, others, ⟨-, pattern⟩, more, rfl⟩ := List.forall₂_cons_left_iff.mp pairs
    have here := missed q List.mem_cons_self first.regex pattern
    obtain ⟨own, s, there, rule⟩ :=
      ih more fun q mem => missed q (List.mem_cons_of_mem _ mem)
    exact ⟨own, s, by simp only [firstFound, here, there], rule⟩

/-- A rule found by a shortcut gives its tag, whether its pattern matches or not. -/
theorem classify_of_shortcut (compiled : compile rules = .ok l) {c : Char} {token : List Char}
    {r : Rule} {tag : Tag}
    (found : rules.rules.reverse.find? (·.shortcutChars.contains c) = some r)
    (style : r.style = .terminal tag) : l.classify (c :: token) = .terminal tag := by
  have looked := rule_lookup compiled c
  rw [found, Option.map_eq_some_iff] at looked
  obtain ⟨own, listed, rfl⟩ := looked
  rw [classify, List.head?_cons, Option.bind_some, listed]
  simp only [apply, style]

/-- Without a shortcut, the first fallback rule whose pattern is found gives its tag. -/
theorem classify_of_fallback (compiled : compile rules = .ok l) {c : Char} {token : List Char}
    (bare : ∀ r ∈ rules.rules, r.shortcutChars.contains c = false) {skipped rest : List Rule}
    {r : Rule} (fallbacks : rules.fallbacks = skipped ++ r :: rest)
    (missed : ∀ q ∈ skipped, ∀ regex : E, q.pattern.compile = .ok regex →
      Engine.search? regex (c :: token).toArray = none)
    (found : ∀ regex : E, r.pattern.compile = .ok regex →
      ∃ s, Engine.search? regex (c :: token).toArray = some s) {tag : Tag}
    (style : r.style = .terminal tag) : l.classify (c :: token) = .terminal tag := by
  have looked := rule_lookup compiled c
  have unlisted : rules.rules.reverse.find? (·.shortcutChars.contains c) = none := by
    refine List.find?_eq_none.mpr fun r mem => ?_
    rw [bare r (List.mem_reverse.mp mem)]
    exact Bool.false_ne_true
  rw [unlisted, Option.map_eq_none_iff] at looked
  obtain ⟨union, shortcuts, others, -, -, -, second, rfl⟩ := parts_of_compile compiled
  rw [fallbacks] at second
  have first : ∃ own s, firstFound (c :: token).toArray others = some (own, s) ∧ own.rule = r :=
    firstFound_of_missed (compiled_of_mapM second) missed found
  obtain ⟨own, s, here, rfl⟩ := first
  rw [classify, List.head?_cons, Option.bind_some, looked]
  simp only [here, apply, style]

end Tincture.Lexer
