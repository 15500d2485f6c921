import Mathlib.Data.List.Basic
import Tincture.Dump.Content
import Tincture.Proofs.Language.StyleName
import Tincture.Proofs.Outcome

/-!
Records stand for what they were made from.

A record has the name of a style, which is the name of no other, and leaves out two flags of a
pattern, which rules may not use. So the records of rules that pass the check for flags stand for
these rules again (`Dump.definitions?_records`).
-/

namespace Tincture.Dump

/-- What passes the check has neither of the flags that are left out. -/
theorem pattern_of {p : Pattern} (checked : p.check = .ok ()) :
    (PatternRecord.of p).pattern = p := by
  obtain ⟨source, ignoreCase, global, multiline⟩ := p
  have unflagged : global = false ∧ multiline = false := by
    cases global <;> cases multiline <;> simp [Pattern.check, Pattern.forbiddenFlag?] at checked ⊢
  obtain ⟨rfl, rfl⟩ := unflagged
  rfl

theorem rule?_of {r : Rule} (checked : r.check = .ok ()) : (RuleRecord.of r).rule? = some r := by
  obtain ⟨style, pattern, context, shortcut⟩ := r
  have both : pattern.check = .ok () ∧ ∀ p ∈ context, p.check = .ok () := by
    unfold Rule.check at checked
    cases own : pattern.check with
    | error e => simp [own, bind, Except.bind] at checked
    | ok _ =>
      refine ⟨rfl, fun p mem => ?_⟩
      cases mem
      simpa [own, bind, Except.bind] using checked
  have contexts : (context.map PatternRecord.of).map (·.pattern) = context := by
    cases context with
    | none => rfl
    | some p => exact congrArg some (pattern_of (both.2 p rfl))
  simp only [RuleRecord.of, RuleRecord.rule?, Style.ofName?_name, Option.map_some,
    pattern_of both.1, contexts]

/-- A list is read back if each of its members is. -/
theorem mapM_map {α β : Type} {f : α → β} {g : β → Option α} {xs : List α}
    (back : ∀ x ∈ xs, g (f x) = some x) : (xs.map f).mapM g = some xs := by
  induction xs with
  | nil => rfl
  | cons x xs ih =>
    obtain ⟨first, others⟩ := List.forall_mem_cons.mp back
    rw [List.map_cons, List.mapM_cons, first, ih others]
    rfl

theorem definition?_of {names : List String} {rules : RuleSet} (checked : rules.check = .ok ()) :
    (LanguageRecord.of names rules).definition? = some { names, rules := some rules } := by
  have each := forM_eq_ok_iff.mp checked
  have shortcuts : (rules.shortcuts.map RuleRecord.of).mapM RuleRecord.rule? =
      some rules.shortcuts :=
    mapM_map fun r mem => rule?_of (each r (List.mem_append_left _ mem))
  have fallbacks : (rules.fallbacks.map RuleRecord.of).mapM RuleRecord.rule? =
      some rules.fallbacks :=
    mapM_map fun r mem => rule?_of (each r (List.mem_append_right _ mem))
  simp only [LanguageRecord.of, LanguageRecord.definition?, shortcuts, fallbacks, bind, pure,
    Option.bind_some]

/-- The definition that a dump has of a language. -/
def definitionOf (l : List String × RuleSet) : Definition := { names := l.1, rules := some l.2 }

/-- Languages whose rules pass the check are what their records stand for. -/
theorem definitions?_records {ls : List (List String × RuleSet)}
    (checked : ∀ l ∈ ls, l.2.check = .ok ()) :
    definitions? (records (ls.map definitionOf)) = some (ls.map definitionOf) := by
  have written : records (ls.map definitionOf) =
      (ls.map definitionOf).map fun d => .of d.names (d.rules.getD {}) := by
    simp [records, List.filterMap_map, Function.comp_def, definitionOf]
  rw [written, definitions?]
  refine mapM_map fun d mem => ?_
  obtain ⟨l, own, rfl⟩ := List.mem_map.mp mem
  exact definition?_of (checked l own)

end Tincture.Dump
