import Tincture.Language.Builtin
import Tincture.Proofs.Language.OptionRules

/-!
The languages that come with the library compile, so they can be registered.
-/

namespace Tincture

/-- The definition has rules, and they compile. -/
def Definition.Compiles (d : Definition) : Prop :=
  ∃ rules lexer, d.ruleSet = .ok rules ∧ Lexer.compile rules = .ok lexer

namespace Builtin

theorem definitions_ne_nil : definitions ≠ [] := List.cons_ne_nil _ _

/-- What the definitions hold besides options is sturdy. -/
theorem written_sturdy :
    markupRules.Sturdy ∧ tagRules.Sturdy ∧ (∀ tag, (wholeText tag).Sturdy) ∧
      Pattern.Sturdy { source := Options.cTypes } := by
  refine ⟨?markup, ?tag, ?whole, ?types⟩
  case markup =>
    rw [RuleSet.Sturdy, markupRules, RuleSet.rules, List.nil_append]
    simp only [List.forall_mem_cons, List.not_mem_nil, false_implies, implies_true, and_true]
    refine ⟨?_, ?_, ?_, ?_, ?_, ?_, ?_, ?_, ?_, ?_⟩
    all_goals exact .of_passes rfl rfl rfl (by decide +kernel)
  case tag =>
    rw [RuleSet.Sturdy, tagRules, RuleSet.rules]
    simp only [List.cons_append, List.nil_append, List.forall_mem_cons, List.not_mem_nil,
      false_implies, implies_true, and_true]
    refine ⟨?_, ?_, ?_, ?_, ?_, ?_, ?_, ?_, ?_, ?_, ?_, ?_⟩
    all_goals exact .of_passes rfl rfl rfl (by decide +kernel)
  case whole =>
    intro tag r mem
    rw [List.mem_singleton.mp mem]
    exact Rule.sturdy_of_pattern (Pattern.sturdy_of_passes rfl rfl (by decide +kernel))
  case types => exact Pattern.sturdy_of_passes rfl (spelled_append rfl rfl) (by decide +kernel)

theorem ruled_compiles (names : List String) {rules : RuleSet} (sturdy : rules.Sturdy) :
    (ruled names rules).Compiles := by
  obtain ⟨lexer, compiled⟩ := sturdy.compile
  exact ⟨rules, lexer, rfl, compiled⟩

theorem optioned_compiles (names : List String) {o : Options}
    (typed : ∀ p ∈ o.typePattern, p.Sturdy) : (optioned names o).Compiles := by
  obtain ⟨lexer, compiled⟩ := Options.exists_lexer typed
  exact ⟨o.rules, lexer, rfl, compiled⟩

/-- All the languages compile. -/
theorem compiles {d : Definition} (mem : d ∈ definitions) : d.Compiles := by
  obtain ⟨markup, tag, whole, types⟩ := written_sturdy
  have untyped {o : Options} (none_ : o.typePattern = none) : ∀ p ∈ o.typePattern, p.Sturdy := by
    rw [none_]
    rintro p ⟨⟩
  have typed {o : Options} (c : o.typePattern = some { source := Options.cTypes }) :
      ∀ p ∈ o.typePattern, p.Sturdy := by
    rw [c]
    rintro p ⟨⟩
    exact types
  revert d
  simp only [definitions, List.forall_mem_cons, List.not_mem_nil, false_implies, implies_true,
    and_true]
  refine ⟨?_, ?_, ?_, ?_, ?_, ?_, ?_, ?_, ?_, ?_, ?_, ?_, ?_, ?_, ?_⟩
  · exact optioned_compiles _ (untyped rfl)
  · exact ruled_compiles _ markup
  · exact ruled_compiles _ tag
  · exact ruled_compiles _ (whole _)
  · exact optioned_compiles _ (typed rfl)
  · exact optioned_compiles _ (untyped rfl)
  · exact optioned_compiles _ (typed rfl)
  · exact optioned_compiles _ (untyped rfl)
  · exact optioned_compiles _ (untyped rfl)
  · exact optioned_compiles _ (untyped rfl)
  · exact optioned_compiles _ (untyped rfl)
  · exact optioned_compiles _ (untyped rfl)
  · exact optioned_compiles _ (untyped rfl)
  · exact optioned_compiles _ (untyped rfl)
  · exact ruled_compiles _ (whole _)

end Builtin

end Tincture
