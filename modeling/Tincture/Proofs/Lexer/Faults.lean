import Tincture.Proofs.Lexer.Parts

/-!
What keeps rules from being compiled.

Rules are gone through three times: the flags of all patterns and contexts are checked, the patterns
are joined, and each pattern is compiled on its own. Every time the first fault ends the
compilation, so which one is reported follows from the order of these three and from that of the
rules (`RuleSet.Fails`). `Lexer.compile_eq_error_iff` says that a lexer fails in this way and in no
other.
-/

namespace Tincture

variable {E : Type} [Engine E]

/-! ### The faults of a set of rules -/

namespace Pattern

/-- The pattern has a flag that rules may not use. -/
def Flagged (p : Pattern) : Prop := p.global = true ∨ p.multiline = true

/-- The pattern compiles on its own. -/
def CompilesAlone (E : Type) [Engine E] (p : Pattern) : Prop :=
  ∃ regex : E, Engine.compile p.source p.ignoreCase false = .ok regex

theorem check_eq_error_iff {p : Pattern} {e : Error} :
    p.check = .error e ↔
      p.Flagged ∧ e = .forbiddenFlag p.source (if p.global then 'g' else 'm') := by
  unfold check forbiddenFlag? Flagged
  cases p.global <;> cases p.multiline <;> simp [eq_comm]

theorem check_eq_ok_iff {p : Pattern} : p.check = .ok () ↔ ¬ p.Flagged := by
  unfold check forbiddenFlag? Flagged
  cases p.global <;> cases p.multiline <;> simp

theorem exists_check_iff {p : Pattern} : (∃ b, p.check = .ok b) ↔ ¬ p.Flagged := by
  rw [← check_eq_ok_iff]
  exact ⟨fun ⟨(), h⟩ => h, fun h => ⟨(), h⟩⟩

theorem compileSource_eq_error_iff {source : String} {ignoreCase nonEmpty : Bool} {e : Error} :
    (compileSource source ignoreCase nonEmpty : Except Error E) = .error e ↔
      ∃ fault, (Engine.compile source ignoreCase nonEmpty : Except _ E) = .error fault ∧
        e = .invalidPattern source (.regex fault) := by
  unfold compileSource
  cases (Engine.compile source ignoreCase nonEmpty : Except _ E) <;> simp [eq_comm]

/-- Without flags, compiling a pattern is compiling its text. -/
theorem compile_of_not_flagged {p : Pattern} (h : ¬ p.Flagged) :
    (p.compile : Except Error E) = compileSource p.source p.ignoreCase false := by
  rw [compile, check_eq_ok_iff.mpr h]
  rfl

theorem exists_compile_iff {p : Pattern} (h : ¬ p.Flagged) :
    (∃ regex : E, p.compile = .ok regex) ↔ p.CompilesAlone E := by
  simp only [compile_of_not_flagged (E := E) h, compileSource_eq_ok_iff, CompilesAlone]

end Pattern

namespace RuleSet

/-- The patterns whose flags are checked, in order: that of each rule, and then its context. -/
def checked (s : RuleSet) : List Pattern :=
  s.rules.flatMap fun r => r.pattern :: r.context.toList

/-- The patterns that are compiled, in order. -/
def patterns (s : RuleSet) : List Pattern := s.rules.map (·.pattern)

/-- The patterns of the union. -/
def united (s : RuleSet) : List Pattern := s.patterns ++ [catchAll]

/-- What compiling the text of the union gives. -/
def joined (E : Type) [Engine E] (s : RuleSet) : Except Regex.Fault E :=
  Engine.compile (Union.sourceOf s.united) (Union.CaseMode.detect s.united).ignoreCase true

/-- The rules have the fault and none that is reported before it. -/
inductive Fails (E : Type) [Engine E] (s : RuleSet) : Error → Prop where
  | flag {before after : List Pattern} {p : Pattern} (split : s.checked = before ++ p :: after)
      (unflagged : ∀ q ∈ before, ¬ q.Flagged) (flagged : p.Flagged) :
      Fails E s (.forbiddenFlag p.source (if p.global then 'g' else 'm'))
  | union {fault : Regex.Fault} (unflagged : ∀ p ∈ s.checked, ¬ p.Flagged)
      (broken : s.joined E = .error fault) :
      Fails E s (.invalidPattern (Union.sourceOf s.united) (.regex fault))
  | alone {before after : List Pattern} {p : Pattern} {regex : E} {fault : Regex.Fault}
      (unflagged : ∀ p ∈ s.checked, ¬ p.Flagged)
      (joined : s.joined E = .ok regex)
      (split : s.patterns = before ++ p :: after) (fine : ∀ q ∈ before, q.CompilesAlone E)
      (broken : (Engine.compile p.source p.ignoreCase false : Except _ E) = .error fault) :
      Fails E s (.invalidPattern p.source (.regex fault))

/-! ### The three passes -/

variable {s : RuleSet} {e : Error}

theorem check_eq_forM : s.check = s.checked.forM Pattern.check := by
  have each (r : Rule) : r.check = (r.pattern :: r.context.toList).forM Pattern.check := by
    unfold Rule.check
    cases r.context <;> simp
  unfold check checked
  induction s.rules with
  | nil => rfl
  | cons r rest ih =>
    refine Eq.trans ?_ List.forM_append.symm
    change r.check.bind (fun _ => rest.forM Rule.check) = _
    rw [each, ih]
    rfl

/-- The first pass stops at the first flag. -/
theorem check_eq_error_iff :
    s.check = .error e ↔ ∃ before p after, s.checked = before ++ p :: after ∧
      (∀ q ∈ before, ¬ q.Flagged) ∧ p.Flagged ∧
        e = .forbiddenFlag p.source (if p.global then 'g' else 'm') := by
  simp only [check_eq_forM, forM_eq_error_iff, FirstFault, Pattern.exists_check_iff,
    Pattern.check_eq_error_iff]

theorem check_eq_ok_iff : s.check = .ok () ↔ ∀ p ∈ s.checked, ¬ p.Flagged := by
  simp only [check_eq_forM, forM_eq_ok_iff, Pattern.check_eq_ok_iff]

theorem patterns_subset_checked : s.patterns ⊆ s.checked := by
  intro p mem
  obtain ⟨r, own, rfl⟩ := List.mem_map.mp mem
  exact List.mem_flatMap.mpr ⟨r, own, List.mem_cons_self⟩

/-- Without flags, joining the patterns is compiling the text of the union. -/
theorem compile_union_of_unflagged (unflagged : ∀ p ∈ s.checked, ¬ p.Flagged) :
    (Union.compile s.patterns : Except Error (Union E)) =
      (Pattern.compileSource (Union.sourceOf s.united)
        (Union.CaseMode.detect s.united).ignoreCase true).map fun regex =>
          ⟨Union.sourceOf s.united, s.united.length, regex⟩ := by
  have checks : s.united.forM Pattern.check = .ok () := by
    refine forM_eq_ok_iff.mpr fun p mem => Pattern.check_eq_ok_iff.mpr ?_
    rcases List.mem_append.mp mem with mem | mem
    · exact unflagged p (patterns_subset_checked mem)
    · rw [List.mem_singleton.mp mem]
      simp [Pattern.Flagged, catchAll]
  unfold united at checks ⊢
  simp only [Union.compile, checks, bind, Except.bind]
  cases (Pattern.compileSource _ _ _ : Except Error E) <;> rfl

/-- The second pass stops if the text of the union does not compile. -/
theorem compile_union_eq_error_iff (unflagged : ∀ p ∈ s.checked, ¬ p.Flagged) :
    (Union.compile s.patterns : Except Error (Union E)) = .error e ↔
      ∃ fault, s.joined E = .error fault ∧
        e = .invalidPattern (Union.sourceOf s.united) (.regex fault) := by
  rw [compile_union_of_unflagged unflagged, joined, ← Pattern.compileSource_eq_error_iff]
  cases (Pattern.compileSource _ _ _ : Except Error E) <;> simp [Except.map]

theorem exists_compile_union_iff (unflagged : ∀ p ∈ s.checked, ¬ p.Flagged) :
    (∃ union : Union E, Union.compile s.patterns = .ok union) ↔
      ∃ regex, s.joined E = .ok regex := by
  simp only [compile_union_of_unflagged (E := E) unflagged, joined,
    ← Pattern.compileSource_eq_ok_iff]
  cases (Pattern.compileSource _ _ _ : Except Error E) <;> simp [Except.map]

end RuleSet

namespace Lexer

open RuleSet

variable {rules : RuleSet} {e : Error}

/-- Compiling a rule is compiling its pattern. -/
theorem compileRule_eq (r : Rule) :
    (compileRule r : Except Error (CompiledRule E)) =
      r.pattern.compile.map fun regex => ⟨r, regex⟩ := by
  rw [compileRule]
  cases (r.pattern.compile : Except Error E) <;> rfl

/-- The third pass stops at the first pattern that does not compile. -/
theorem firstFault_compileRule_iff :
    FirstFault (compileRule (E := E)) rules.rules e ↔
      FirstFault (Pattern.compile (E := E)) rules.patterns e := by
  rw [RuleSet.patterns]
  induction rules.rules with
  | nil => exact iff_of_false not_firstFault_nil not_firstFault_nil
  | cons r rest ih =>
    rw [List.map_cons, firstFault_cons, firstFault_cons, ih, compileRule_eq]
    cases (r.pattern.compile : Except Error E) <;> simp [Except.map]

theorem firstFault_compile_iff (unflagged : ∀ p ∈ rules.checked, ¬ p.Flagged) :
    FirstFault (Pattern.compile (E := E)) rules.patterns e ↔
      ∃ before p after fault, rules.patterns = before ++ p :: after ∧
        (∀ q ∈ before, q.CompilesAlone E) ∧
        (Engine.compile p.source p.ignoreCase false : Except _ E) = .error fault ∧
          e = .invalidPattern p.source (.regex fault) := by
  have alone {p : Pattern} (mem : p ∈ rules.patterns) :
      (p.compile : Except Error E) = Pattern.compileSource p.source p.ignoreCase false :=
    Pattern.compile_of_not_flagged (unflagged p (patterns_subset_checked mem))
  have fine {p : Pattern} (mem : p ∈ rules.patterns) :
      (∃ regex : E, p.compile = .ok regex) ↔ p.CompilesAlone E :=
    Pattern.exists_compile_iff (unflagged p (patterns_subset_checked mem))
  constructor
  · rintro ⟨before, p, after, split, others, failed⟩
    rw [alone (by simp [split]), Pattern.compileSource_eq_error_iff] at failed
    obtain ⟨fault, broken, rfl⟩ := failed
    exact ⟨before, p, after, fault, split,
      fun q mem => (fine (by simp [split, mem])).mp (others q mem), broken, rfl⟩
  · rintro ⟨before, p, after, fault, split, others, broken, rfl⟩
    refine ⟨before, p, after, split,
      fun q mem => (fine (by simp [split, mem])).mpr (others q mem), ?_⟩
    rw [alone (by simp [split]), Pattern.compileSource_eq_error_iff]
    exact ⟨fault, broken, rfl⟩

/-- The passes follow one another, the later ones only if the earlier ones succeed. -/
theorem compile_eq_error_iff_pass :
    (compile rules : Except Error (Lexer E)) = .error e ↔
      rules.check = .error e ∨ rules.check = .ok () ∧
        ((Union.compile rules.patterns : Except Error (Union E)) = .error e ∨
          (∃ union : Union E, Union.compile rules.patterns = .ok union) ∧
            FirstFault (Pattern.compile (E := E)) rules.patterns e) := by
  have steps : (compile rules : Except Error (Lexer E)) = rules.check.bind fun _ =>
      (Union.compile rules.patterns).bind fun union =>
        (rules.shortcuts.mapM compileRule).bind fun shortcuts =>
          (rules.fallbacks.mapM compileRule).bind fun fallbacks =>
            .ok ⟨rules, union, fallbacks, (shortcuts ++ fallbacks).foldl enter []⟩ := rfl
  have third : FirstFault (Pattern.compile (E := E)) rules.patterns e ↔
      rules.shortcuts.mapM (compileRule (E := E)) = .error e ∨
        (∃ shortcuts, rules.shortcuts.mapM (compileRule (E := E)) = .ok shortcuts) ∧
          rules.fallbacks.mapM (compileRule (E := E)) = .error e := by
    rw [← firstFault_compileRule_iff, RuleSet.rules, firstFault_append, mapM_eq_error_iff,
      mapM_eq_error_iff, exists_mapM_iff]
  rw [steps, third]
  cases rules.check <;> cases (Union.compile rules.patterns : Except Error (Union E)) <;>
    cases rules.shortcuts.mapM (compileRule (E := E)) <;>
    cases rules.fallbacks.mapM (compileRule (E := E)) <;> simp [Except.bind]

/-- Rules are refused for the faults they have, in the order of the passes. -/
theorem compile_eq_error_iff :
    (compile rules : Except Error (Lexer E)) = .error e ↔ rules.Fails E e := by
  rw [compile_eq_error_iff_pass, check_eq_ok_iff, check_eq_error_iff]
  constructor
  · rintro (⟨before, p, after, split, others, flagged, rfl⟩ | ⟨unflagged, later⟩)
    · exact .flag split others flagged
    · rw [compile_union_eq_error_iff unflagged, exists_compile_union_iff unflagged,
        firstFault_compile_iff unflagged] at later
      rcases later with ⟨fault, broken, rfl⟩ |
        ⟨⟨regex, joined⟩, before, p, after, fault, split, fine, broken, rfl⟩
      · exact .union unflagged broken
      · exact .alone unflagged joined split fine broken
  · intro fails
    cases fails with
    | flag split others flagged => exact .inl ⟨_, _, _, split, others, flagged, rfl⟩
    | union unflagged broken =>
      exact .inr ⟨unflagged, .inl ((compile_union_eq_error_iff unflagged).mpr ⟨_, broken, rfl⟩)⟩
    | alone unflagged joined split fine broken =>
      refine .inr ⟨unflagged, .inr ⟨(exists_compile_union_iff unflagged).mpr ⟨_, joined⟩, ?_⟩⟩
      exact (firstFault_compile_iff unflagged).mpr ⟨_, _, _, _, split, fine, broken, rfl⟩

/-! ### Main result -/

/-- Rules are refused for a flag just if some pattern or context has one; any set of rules that is
refused is refused for the first of its faults; a set that is not refused has no flags, and each of
its patterns compiles on its own. As long as they have no flags, contexts do not matter. -/
theorem compile_faults (E : Type) [Engine E] (rules : RuleSet) :
    ((∃ source flag,
        (compile rules : Except Error (Lexer E)) = .error (.forbiddenFlag source flag)) ↔
          ∃ p ∈ rules.checked, p.Flagged) ∧
      (∀ e, (compile rules : Except Error (Lexer E)) = .error e ↔ rules.Fails E e) ∧
      (∀ l : Lexer E, compile rules = .ok l →
        (∀ p ∈ rules.checked, ¬ p.Flagged) ∧ ∀ r ∈ rules.rules, r.pattern.CompilesAlone E) ∧
      ∀ others : RuleSet, others.patterns = rules.patterns →
        (∀ p ∈ others.checked, ¬ p.Flagged) → (∀ p ∈ rules.checked, ¬ p.Flagged) →
          ∀ e, (compile others : Except Error (Lexer E)) = .error e ↔
            (compile rules : Except Error (Lexer E)) = .error e := by
  refine ⟨⟨?_, ?_⟩, fun e => compile_eq_error_iff, ?_, ?_⟩
  · rintro ⟨source, flag, failed⟩
    cases compile_eq_error_iff.mp failed with
    | flag split _ flagged => exact ⟨_, by simp [split], flagged⟩
  · rintro ⟨p, mem, flagged⟩
    cases checks : rules.check with
    | ok => exact absurd flagged (check_eq_ok_iff.mp checks p mem)
    | error e =>
      obtain ⟨_, q, _, -, -, -, rfl⟩ := check_eq_error_iff.mp checks
      exact ⟨_, _, compile_eq_error_iff_pass.mpr (.inl checks)⟩
  · intro l compiled
    have unflagged := check_eq_ok_iff.mp (check_of_compile compiled)
    have each : ∀ p ∈ rules.patterns, ∃ regex : E, p.compile = .ok regex := by
      refine forall_ok_iff.mpr fun e fault => ?_
      obtain ⟨union, _, _, checks, joined, -⟩ := parts_of_compile compiled
      have failed := compile_eq_error_iff_pass.mpr (.inr ⟨checks, .inr ⟨⟨union, joined⟩, fault⟩⟩)
      rw [compiled] at failed
      cases failed
    refine ⟨unflagged, fun r mem => ?_⟩
    have own : r.pattern ∈ rules.patterns := List.mem_map_of_mem mem
    exact (Pattern.exists_compile_iff (unflagged _ (patterns_subset_checked own))).mp
      (each r.pattern own)
  · intro others same unflagged unflagged' e
    rw [compile_eq_error_iff_pass, compile_eq_error_iff_pass, check_eq_ok_iff.mpr unflagged,
      check_eq_ok_iff.mpr unflagged', same]

/-- A flag of a context is reported even behind a pattern that does not compile. -/
example :
    (match compile {
        shortcuts := [.tagged .keyword "("]
        fallbacks := [{ Rule.tagged .string "a" with
          context := some { source := "b", multiline := true } }] } with
      | .error e => some e
      | .ok _ => none) = some (.forbiddenFlag "b" 'm') := by decide +kernel

end Lexer

end Tincture
