import Tincture.Proofs.Language.KeywordPattern

/-!
The rules of languages that are described by options.

Their patterns are sturdy, so whatever the options are, the rules compile (`Options.exists_lexer`).
Only the names of types may be given by any pattern; it has to be sturdy, too.
-/

namespace Tincture

/-- A text put together from two. -/
theorem spelled_append {a b : String} {cs ds : List Char} (first : a = String.ofList cs)
    (second : b = String.ofList ds) : a ++ b = String.ofList (cs ++ ds) := by
  rw [first, second, String.ofList_append]

/-- A rule without context is sturdy if the text of its pattern passes. -/
theorem Rule.Sturdy.of_passes {r : Rule} {source : List Char} (context : r.context = none)
    (unflagged : r.pattern.forbiddenFlag? = none)
    (spelled : r.pattern.source = String.ofList source)
    (passes : Pattern.passes r.pattern.ignoreCase source = true) : r.Sturdy := by
  refine ⟨Pattern.sturdy_of_passes unflagged spelled passes, ?_⟩
  intro p mem
  rw [context] at mem
  cases mem

namespace Options

/-- The rules that are written down are sturdy. -/
theorem written_sturdy (o : Options) :
    o.stringRule.Sturdy ∧ (∀ r ∈ o.hashRule?, r.Sturdy) ∧ (∀ r ∈ o.includeRule?, r.Sturdy) ∧
      (∀ r ∈ o.regexRule?, r.Sturdy) ∧ (∀ r ∈ o.commonRules, r.Sturdy) := by
  -- One proof for all of them: a pattern is evaluated only once all that stands before is checked.
  refine ⟨?string, ?hash, ?includes, ?regex, ?common⟩
  case string =>
    unfold stringRule
    cases o.stringDelimiters with
    | singleLine => exact .of_passes rfl rfl rfl (by decide +kernel)
    | multiLine => exact .of_passes rfl rfl (spelled_append rfl rfl) (by decide +kernel)
    | tripleQuoted =>
      exact .of_passes rfl rfl (spelled_append (spelled_append rfl rfl) rfl) (by decide +kernel)
  case hash =>
    unfold hashRule?
    split
    · rintro r ⟨⟩
    · rintro r ⟨⟩
      exact .of_passes rfl rfl rfl (by decide +kernel)
    · rintro r ⟨⟩
      exact .of_passes rfl rfl (spelled_append rfl rfl) (by decide +kernel)
    · rintro r ⟨⟩
      exact .of_passes rfl rfl rfl (by decide +kernel)
  case includes =>
    unfold includeRule?
    split
    · rintro r ⟨⟩
      exact .of_passes rfl rfl rfl (by decide +kernel)
    · rintro r ⟨⟩
  case regex =>
    unfold regexRule?
    cases o.regexLiterals with
    | none => rintro r ⟨⟩
    | singleLine | multiLine =>
      rintro r ⟨⟩
      apply Rule.Sturdy.of_passes rfl rfl
      case spelled =>
        dsimp only [Rule.embedding, regexPreceder]
        repeat' apply spelled_append
        all_goals rfl
      case passes => decide +kernel
  case common =>
    have punctuation : (Rule.tagged .punctuation o.punctuationSource).Sturdy := by
      unfold punctuationSource
      by_cases none : o.regexLiterals = .none
      · rw [if_pos none]
        exact .of_passes rfl rfl (spelled_append rfl rfl) (by decide +kernel)
      · rw [if_neg none]
        exact .of_passes rfl rfl (spelled_append rfl rfl) (by decide +kernel)
    rw [commonRules, List.forall_mem_cons, List.forall_mem_cons, List.forall_mem_cons,
      List.forall_mem_cons, List.forall_mem_cons, List.forall_mem_singleton]
    refine ⟨?_, ?_, ?_, ?_, ?_, punctuation⟩
    all_goals exact .of_passes rfl rfl rfl (by decide +kernel)

/-- All rules are sturdy, whatever the options and the keywords. -/
theorem rules_sturdy {o : Options} (typed : ∀ p ∈ o.typePattern, p.Sturdy) : o.rules.Sturdy := by
  obtain ⟨string, hash, includes, regex, common⟩ := o.written_sturdy
  intro r mem
  simp only [RuleSet.rules, rules, List.mem_append, List.mem_singleton, List.mem_map,
    Option.mem_toList] at mem
  rcases mem with ((rfl | mem) | rfl) |
    (((((verbatim | mem) | comment) | mem) | ⟨p, given, rfl⟩) | mem) | mem
  · exact string
  · exact hash r mem
  · exact .of_passes rfl rfl rfl (by decide +kernel)
  · split at verbatim
    · rw [List.mem_singleton.mp verbatim]
      exact .of_passes rfl rfl rfl (by decide +kernel)
    · cases verbatim
  · exact includes r mem
  · split at comment
    · revert r
      rw [List.forall_mem_cons, List.forall_mem_singleton]
      exact ⟨.of_passes rfl rfl rfl (by decide +kernel), .of_passes rfl rfl rfl (by decide +kernel)⟩
    · cases comment
  · exact regex r mem
  · exact Rule.sturdy_of_pattern (typed p given)
  · exact o.keywordRule_sturdy r mem
  · exact common r mem

/-- The rules compile, whatever the options and the keywords. -/
theorem exists_lexer {o : Options} (typed : ∀ p ∈ o.typePattern, p.Sturdy) :
    ∃ lexer, Lexer.compile o.rules = .ok lexer :=
  (rules_sturdy typed).compile

end Options

end Tincture
