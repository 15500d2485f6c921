import Tincture.Lexer
import Tincture.Proofs.Union.Sturdy

/-!
Rule sets that compile.

A rule is sturdy if its pattern is and its context has no flags that rules may not use. Sets of
sturdy rules compile (`RuleSet.Sturdy.compile`).
-/

namespace Tincture

/-- The rule compiles together with all others like it. -/
structure Rule.Sturdy (r : Rule) : Prop where
  pattern : r.pattern.Sturdy
  context : ∀ p ∈ r.context, p.forbiddenFlag? = none

namespace Rule

variable {r : Rule}

theorem Sturdy.check (h : r.Sturdy) : r.check = .ok () := by
  cases written : r.context with
  | none =>
    simp only [Rule.check, h.pattern.check, written, bind, Except.bind]
    rfl
  | some p =>
    have unflagged : p.check = .ok () := by rw [Pattern.check, h.context p written]
    simp only [Rule.check, h.pattern.check, written, bind, Except.bind, unflagged]

theorem sturdy_of_pattern {style : Style} {p : Pattern} (h : p.Sturdy) :
    Sturdy { style, pattern := p } :=
  ⟨h, fun _ mem => absurd mem (Option.not_mem_none _)⟩

end Rule

/-- All the rules are sturdy. -/
def RuleSet.Sturdy (s : RuleSet) : Prop := ∀ r ∈ s.rules, r.Sturdy

namespace Lexer

/-- Sturdy rules compile one by one. -/
theorem mapM_compileRule {rules : List Rule} (h : ∀ r ∈ rules, r.Sturdy) :
    ∃ compiled, rules.mapM compileRule = .ok compiled := by
  refine exists_mapM_iff.mpr fun r mem => ?_
  obtain ⟨regex, here⟩ := (h r mem).pattern.compile
  exact ⟨⟨r, regex⟩, by rw [compileRule, here]; rfl⟩

end Lexer

/-- Sets of sturdy rules compile. -/
theorem RuleSet.Sturdy.compile {s : RuleSet} (h : s.Sturdy) :
    ∃ lexer, Lexer.compile s = .ok lexer := by
  have checks : s.check = .ok () := forM_eq_ok_iff.mpr fun r mem => (h r mem).check
  have patterns : ∀ p ∈ s.rules.map (·.pattern), p.Sturdy := by
    intro p mem
    obtain ⟨r, ruled, rfl⟩ := List.mem_map.mp mem
    exact (h r ruled).pattern
  obtain ⟨union, joined⟩ := Union.compile_of_sturdy patterns
  obtain ⟨shortcuts, first⟩ :=
    Lexer.mapM_compileRule fun r mem => h r (List.mem_append_left s.fallbacks mem)
  obtain ⟨fallbacks, second⟩ :=
    Lexer.mapM_compileRule fun r mem => h r (List.mem_append_right s.shortcuts mem)
  refine ⟨⟨s, union, fallbacks, (shortcuts ++ fallbacks).foldl Lexer.enter []⟩, ?_⟩
  simp only [Lexer.compile, checks, joined, first, second, bind, Except.bind]
  rfl

end Tincture
