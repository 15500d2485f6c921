import Tincture.Proofs.Language.BuiltinRules
import Tincture.Proofs.Registry.Entries

/-!
What a registry is after any operations.

`Operation` lists what can be done to a registry from the outside before it scans. An operation that
fails leaves the registry as it was; one that succeeds registers what `Operation.registrations`
says, so a registry is known from the registrations that succeeded, in order. `first_wins` says what
it then holds and answers: a name belongs to the earliest of them that lists it.
-/

namespace Tincture

/-- Rules, and the names they are to have. -/
structure Registration where
  names : List String
  rules : RuleSet

namespace Registration

/-- The registration a definition asks for, unless it is faulty. -/
def ofDefinition (d : Definition) : List Registration :=
  match d.ruleSet with
  | .ok rules => [⟨d.names, rules⟩]
  | .error _ => []

/-- The entries after registrations, `es` being there before. -/
def entriesFrom (es : List Entry) (history : List Registration) : List Entry :=
  history.foldl (fun es x => Entry.extend es x.names x.rules) es

/-- The entries after registrations. -/
def entries (history : List Registration) : List Entry := entriesFrom [] history

end Registration

/-- What can be done to a registry. -/
inductive Operation where
  | language (names : List String) (rules : RuleSet)
  | options (names : List String) (options : Options)
  | definition (d : Definition)
  /-- Registers the definition in a file, whose text could be read or not. -/
  | document (text : Except Error String)
  | builtins
  | freeze

/-- What an operation registers if it succeeds. -/
def Operation.registrations : Operation → List Registration
  | .language names rules => [⟨names, rules⟩]
  | .options names o => [⟨names, o.rules⟩]
  | .definition d => Registration.ofDefinition d
  | .document text =>
    match text.bind Definition.ofDocument with
    | .ok d => Registration.ofDefinition d
    | .error _ => []
  | .builtins => Builtin.definitions.flatMap Registration.ofDefinition
  | .freeze => []

/-- Whether rules are accepted. -/
def Operation.accept (frozen : Bool) (rules : RuleSet) : Except Error Unit :=
  if frozen then .error .frozen else (Lexer.compile rules).map fun _ => ()

/-- Whether an operation succeeds, which depends on nothing in the registry but whether it is
frozen. -/
def Operation.verdict (frozen : Bool) : Operation → Except Error Unit
  | .language _ rules => accept frozen rules
  | .options _ o => accept frozen o.rules
  | .definition d => d.ruleSet.bind (accept frozen)
  | .document text => ((text.bind Definition.ofDocument).bind (·.ruleSet)).bind (accept frozen)
  | .builtins => if frozen then .error .frozen else .ok ()
  | .freeze => .ok ()

namespace Registry

/-- Does an operation. -/
def perform (r : Registry) : Operation → Attempt
  | .language names rules => r.enter names rules
  | .options names o => r.enter names o.rules
  | .definition d => r.enterDefinition d
  | .document text => r.enterDocument text
  | .builtins => r.enterAll Builtin.definitions
  | .freeze => (.ok (), r.freeze)

/-- Does operations one after the other, whether they succeed or fail. -/
def run (r : Registry) (ops : List Operation) : Registry :=
  ops.foldl (fun r op => (r.perform op).2) r

/-- The registrations of those of the operations that succeed. -/
def history (r : Registry) : List Operation → List Registration
  | [] => []
  | op :: ops =>
    match r.perform op with
    | (.ok (), r) => op.registrations ++ r.history ops
    | (.error _, r) => r.history ops

/-! ### Frozen registries -/

/-- A frozen registry refuses rules. -/
theorem enter_of_frozen {r : Registry} (frozen : r.frozen = true) (names : List String)
    (rules : RuleSet) : r.enter names rules = (.error .frozen, r) := by
  rw [enter, if_pos frozen]

theorem enterDefinition_of_frozen {r : Registry} (frozen : r.frozen = true) (d : Definition) :
    ∃ e, r.enterDefinition d = (.error e, r) := by
  unfold enterDefinition
  cases d.ruleSet with
  | error e => exact ⟨e, rfl⟩
  | ok rules => exact ⟨.frozen, enter_of_frozen frozen d.names rules⟩

/-- A frozen registry refuses the languages of the library, the first of them already. -/
theorem enterBuiltins_of_frozen {r : Registry} (frozen : r.frozen = true) :
    r.enterAll Builtin.definitions = (.error .frozen, r) := by
  cases all : Builtin.definitions with
  | nil => exact absurd all Builtin.definitions_ne_nil
  | cons d rest =>
    obtain ⟨rules, -, eq, -⟩ := Builtin.compiles (all ▸ List.mem_cons_self : d ∈ _)
    rw [enterAll, enterDefinition, eq]
    dsimp only
    rw [enter_of_frozen frozen]

/-- No operation changes a frozen registry. -/
theorem perform_of_frozen {r : Registry} (frozen : r.frozen = true) (op : Operation) :
    (r.perform op).2 = r := by
  cases op with
  | language names rules => exact congrArg Prod.snd (enter_of_frozen frozen names rules)
  | options names o => exact congrArg Prod.snd (enter_of_frozen frozen names o.rules)
  | definition d =>
    obtain ⟨e, failed⟩ := enterDefinition_of_frozen frozen d
    exact congrArg Prod.snd failed
  | document text =>
    simp only [perform, enterDocument]
    cases text.bind Definition.ofDocument with
    | error e => rfl
    | ok d =>
      obtain ⟨e, failed⟩ := enterDefinition_of_frozen frozen d
      exact congrArg Prod.snd failed
  | builtins =>
    exact congrArg Prod.snd (enterBuiltins_of_frozen frozen)
  | freeze =>
    cases r
    cases frozen
    rfl

theorem run_of_frozen {r : Registry} (frozen : r.frozen = true) (ops : List Operation) :
    r.run ops = r := by
  induction ops with
  | nil => rfl
  | cons op ops ih =>
    rw [run, List.foldl_cons, perform_of_frozen frozen op]
    exact ih

/-! ### One operation -/

theorem outcome_enter (r : Registry) (names : List String) (rules : RuleSet) :
    (r.enter names rules).1 = Operation.accept r.frozen rules := by
  unfold enter Operation.accept
  split
  · rfl
  · cases Lexer.compile rules <;> rfl

theorem outcome_enterDefinition (r : Registry) (d : Definition) :
    (r.enterDefinition d).1 = d.ruleSet.bind (Operation.accept r.frozen) := by
  unfold enterDefinition
  cases d.ruleSet with
  | error e => rfl
  | ok rules => exact outcome_enter r d.names rules

theorem frozen_enter (r : Registry) (names : List String) (rules : RuleSet) :
    (r.enter names rules).2.frozen = r.frozen := by
  unfold enter
  split
  · rfl
  · cases Lexer.compile rules <;> rfl

theorem frozen_enterDefinition (r : Registry) (d : Definition) :
    (r.enterDefinition d).2.frozen = r.frozen := by
  unfold enterDefinition
  cases d.ruleSet with
  | error e => rfl
  | ok rules => exact frozen_enter r d.names rules

theorem frozen_enterAll (r : Registry) (ds : List Definition) :
    (r.enterAll ds).2.frozen = r.frozen := by
  induction ds generalizing r with
  | nil => rfl
  | cons d ds ih =>
    have first := frozen_enterDefinition r d
    rw [enterAll]
    cases entered : r.enterDefinition d with
    | mk outcome r' =>
      rw [entered] at first
      cases outcome with
      | error e => exact first
      | ok _ => exact (ih r').trans first

/-- Only freezing freezes. -/
theorem frozen_perform_iff (r : Registry) (op : Operation) :
    (r.perform op).2.frozen = true ↔ r.frozen = true ∨ op = .freeze := by
  cases op with
  | language names rules => simp [perform, frozen_enter]
  | options names o => simp [perform, frozen_enter]
  | definition d => simp [perform, frozen_enterDefinition]
  | document text =>
    simp only [perform, enterDocument]
    cases text.bind Definition.ofDocument with
    | error e => simp
    | ok d => simp [frozen_enterDefinition]
  | builtins => simp [perform, frozen_enterAll]
  | freeze => simp [perform, freeze]

/-- An attempt failed and left the registry as it was, or it succeeded and registered what was asked
for. -/
inductive Effect (r : Registry) (es : List Entry) (asked : List Registration) : Attempt → Prop where
  | failed (e : Error) : Effect r es asked (.error e, r)
  | succeeded {r' : Registry} (describes : Describes r' (Registration.entriesFrom es asked)) :
      Effect r es asked (.ok (), r')

end Registry

namespace Describes

open Registry

variable {r : Registry} {es : List Entry}

theorem effect_enter (h : Describes r es) (names : List String) (rules : RuleSet) :
    Effect r es [⟨names, rules⟩] (r.enter names rules) := by
  cases frozen : r.frozen with
  | true =>
    rw [enter_of_frozen frozen]
    exact .failed _
  | false =>
    cases compiles : Lexer.compile rules with
    | error e =>
      rw [Registry.enter, if_neg (by simp [frozen]), compiles]
      exact .failed e
    | ok lexer =>
      obtain ⟨r', entered, -, describes⟩ := h.enter frozen compiles names
      rw [entered]
      exact .succeeded describes

theorem effect_enterDefinition (h : Describes r es) (d : Definition) :
    Effect r es (Registration.ofDefinition d) (r.enterDefinition d) := by
  unfold Registry.enterDefinition Registration.ofDefinition
  cases d.ruleSet with
  | error e => exact .failed e
  | ok rules => exact h.effect_enter d.names rules

/-- Definitions whose rules compile are all registered, unless the registry is frozen. -/
theorem enterAll (h : Describes r es) (open_ : r.frozen = false) {ds : List Definition}
    (compile : ∀ d ∈ ds, d.Compiles) :
    ∃ r', r.enterAll ds = (.ok (), r') ∧
      Describes r' (Registration.entriesFrom es (ds.flatMap Registration.ofDefinition)) := by
  induction ds generalizing r es with
  | nil => exact ⟨r, rfl, h⟩
  | cons d ds ih =>
    obtain ⟨rules, lexer, eq, compiles⟩ := compile d List.mem_cons_self
    obtain ⟨r', entered, still, describes⟩ := h.enter open_ compiles d.names
    obtain ⟨r'', others, describes⟩ :=
      ih describes still fun d mem => compile d (List.mem_cons_of_mem _ mem)
    refine ⟨r'', ?_, ?_⟩
    · rw [Registry.enterAll, Registry.enterDefinition, eq]
      dsimp only
      rw [entered]
      exact others
    · rw [List.flatMap_cons, Registration.ofDefinition, eq]
      exact describes

/-- The effect of every operation. -/
theorem effect (h : Describes r es) (op : Operation) :
    Effect r es op.registrations (r.perform op) := by
  cases op with
  | language names rules => exact h.effect_enter names rules
  | options names o => exact h.effect_enter names o.rules
  | definition d => exact h.effect_enterDefinition d
  | document text =>
    simp only [Registry.perform, Registry.enterDocument, Operation.registrations]
    cases text.bind Definition.ofDocument with
    | error e => exact .failed e
    | ok d => exact h.effect_enterDefinition d
  | builtins =>
    cases frozen : r.frozen with
    | true =>
      rw [Registry.perform, enterBuiltins_of_frozen frozen]
      exact .failed _
    | false =>
      obtain ⟨r', entered, describes⟩ := h.enterAll frozen fun d => Builtin.compiles
      rw [Registry.perform, entered]
      exact .succeeded describes
  | freeze =>
    exact .succeeded ⟨h.compiled, h.mem_ids_iff, h.nodup, h.nonempty, h.disjoint⟩

/-- The outcome of every operation. -/
theorem outcome_perform (h : Describes r es) (op : Operation) :
    (r.perform op).1 = op.verdict r.frozen := by
  cases op with
  | language names rules => exact outcome_enter r names rules
  | options names o => exact outcome_enter r names o.rules
  | definition d => exact outcome_enterDefinition r d
  | document text =>
    simp only [Registry.perform, Registry.enterDocument, Operation.verdict]
    cases text.bind Definition.ofDocument with
    | error e => rfl
    | ok d => exact outcome_enterDefinition r d
  | builtins =>
    simp only [Registry.perform, Operation.verdict]
    cases frozen : r.frozen with
    | true => rw [enterBuiltins_of_frozen frozen, if_pos rfl]
    | false =>
      obtain ⟨r', entered, -⟩ := h.enterAll frozen fun d => Builtin.compiles
      rw [entered]
      rfl
  | freeze => rfl

end Describes

/-! ### Any operations -/

namespace Registry

theorem run_cons (r : Registry) (op : Operation) (ops : List Operation) :
    r.run (op :: ops) = (r.perform op).2.run ops := rfl

theorem frozen_run_iff (r : Registry) (ops : List Operation) :
    (r.run ops).frozen = true ↔ r.frozen = true ∨ .freeze ∈ ops := by
  induction ops generalizing r with
  | nil => simp [run]
  | cons op ops ih =>
    rw [run_cons, ih, frozen_perform_iff, List.mem_cons, or_assoc, eq_comm (a := op)]

/-- After any operations a registry is described by the registrations that succeeded. -/
theorem describes_run {r : Registry} {es : List Entry} (h : Describes r es) (ops : List Operation) :
    Describes (r.run ops) (Registration.entriesFrom es (r.history ops)) := by
  induction ops generalizing r es with
  | nil => exact h
  | cons op ops ih =>
    have effect := h.effect op
    rw [run_cons, history]
    generalize r.perform op = attempt at effect
    cases effect with
    | failed e => exact ih h
    | succeeded describes =>
      have rest := ih describes
      rw [Registration.entriesFrom] at rest ⊢
      rwa [List.foldl_append]

end Registry

/-- A name that has no entry gets one from the rules that list it. -/
theorem Entry.find?_extend (es : List Entry) (names : List String) (rules : RuleSet)
    (name : String) :
    ((extend es names rules).find? (name ∈ ·.names)).map (·.rules) =
      ((es.find? (name ∈ ·.names)).map (·.rules)).or
        (if name ∈ names then some rules else none) := by
  unfold extend
  cases found : es.find? (name ∈ ·.names) with
  | some e =>
    dsimp only
    split
    · rw [found]
      rfl
    · rw [List.find?_append, found]
      rfl
  | none =>
    have absent : name ∉ allNames es := by
      intro mem
      obtain ⟨e, mem, named⟩ := mem_allNames.mp mem
      exact List.find?_eq_none.mp found e mem (decide_eq_true named)
    have free_iff : name ∈ names.toFinset \ allNames es ↔ name ∈ names := by simp [absent]
    dsimp only
    split
    · rename_i none_free
      rw [none_free] at free_iff
      have unlisted : name ∉ names := fun mem => Finset.notMem_empty _ (free_iff.mpr mem)
      rw [found, if_neg unlisted]
      rfl
    · rw [List.find?_append, found, List.find?_singleton]
      by_cases listed : name ∈ names
      · simp [free_iff.mpr listed, listed]
      · simp [mt free_iff.mp listed, listed]

/-- A name belongs to the earliest registration that lists it. -/
theorem Registration.find?_entriesFrom (es : List Entry) (history : List Registration)
    (name : String) :
    ((entriesFrom es history).find? (name ∈ ·.names)).map (·.rules) =
      ((es.find? (name ∈ ·.names)).map (·.rules)).or
        ((history.find? (name ∈ ·.names)).map (·.rules)) := by
  induction history generalizing es with
  | nil => simp [entriesFrom]
  | cons x history ih =>
    have rest := ih (Entry.extend es x.names x.rules)
    rw [entriesFrom] at rest ⊢
    rw [List.foldl_cons, rest, Entry.find?_extend, Option.or_assoc, List.find?_cons]
    by_cases listed : name ∈ x.names <;> simp [listed]

/-! ### Main result -/

/-- What a registry answers, the entries being `es` and the registrations so far `history`. -/
structure Answers (r : Registry) (es : List Entry) (history : List Registration) : Prop where
  /-- Names lead to lexers. -/
  id_lt_size : ∀ name id, (name, id) ∈ r.ids → id < r.lexers.size
  /-- No lexer is without a name. -/
  exists_name : ∀ id < r.lexers.size, ∃ name, (name, id) ∈ r.ids
  /-- A name has the rules of the earliest registration that lists it. -/
  lexer_rules : ∀ name, (r.lexer? name).map (·.rules) =
    (history.find? (name ∈ ·.names)).map (·.rules)
  languages_eq : r.languages = (Entry.allNames es).sort
  definitions_eq : r.definitions =
    es.map fun e => { names := e.names.sort, rules := some e.rules }

theorem Describes.answers {r : Registry} {history : List Registration}
    (h : Describes r (Registration.entries history)) :
    Answers r (Registration.entries history) history := by
  refine ⟨fun name id => h.id_lt_size, fun id => h.exists_name, fun name => ?_, h.languages_eq,
    h.definitions_eq⟩
  rw [h.lexer?_rules, Registration.entries, Registration.find?_entriesFrom]
  rfl

/-- After any operations a registry is described by the entries of the registrations that succeeded,
and it is frozen if it has been. Whether a further operation succeeds depends on that alone; if it
fails, nothing has changed. Rules that are registered add one entry, of the names that are free.
Once it is frozen a registry remains as it is. -/
theorem first_wins (ops : List Operation) :
    let r := Registry.run {} ops
    let history := Registry.history {} ops
    let es := Registration.entries history
    Describes r es ∧
      (r.frozen = true ↔ .freeze ∈ ops) ∧
      (∀ op, (r.perform op).1 = op.verdict r.frozen) ∧
      (∀ op e r', r.perform op = (.error e, r') → r' = r) ∧
      (∀ names rules r', r.perform (.language names rules) = (.ok (), r') →
        Describes r' (Entry.extend es names rules)) ∧
      (r.frozen = true → ∀ later, r.run later = r) ∧
      Answers r es history := by
  have describes := Registry.describes_run .empty ops
  refine ⟨describes, ?_, describes.outcome_perform, fun op e r' failed => ?_,
    fun names rules r' performed => ?_, Registry.run_of_frozen, describes.answers⟩
  · simp [Registry.frozen_run_iff]
  · have effect := describes.effect op
    rw [failed] at effect
    cases effect
    rfl
  · have effect := describes.effect (.language names rules)
    rw [performed] at effect
    cases effect with
    | succeeded describes => exact describes

end Tincture
