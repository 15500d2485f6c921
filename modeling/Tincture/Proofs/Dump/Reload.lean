import Tincture.Dump.Framed
import Tincture.Proofs.Dump.Records
import Tincture.Proofs.Registry.FirstWins
import Tincture.Proofs.Scan.Uncached

/-!
Loading the dump of a registry gives the registry back.

The definitions of a registry are its entries. Their rules were checked for flags when they were
compiled, so a dump keeps them; and no two entries share a name and none is without names, so
registering them one after the other gives the same entries. What a registry answers, scans
included, depends on its entries alone. `dump_lossless` says this of every registry there can be.
-/

namespace Tincture

/-! ### Entries registered anew -/

namespace Entry

/-- What a dump has of an entry. -/
def listing (e : Entry) : List String × RuleSet := (e.names.sort, e.rules)

theorem disjoint_allNames_iff {es : List Entry} {names : Finset String} :
    Disjoint names (allNames es) ↔ ∀ e ∈ es, Disjoint names e.names := by
  simp only [Finset.disjoint_left, mem_allNames, not_exists, not_and]
  constructor
  · intro h e mem name listed
    exact h listed e mem
  · intro h name listed e mem
    exact h e mem listed

/-- An entry that has names, none of them taken, is added as it is. -/
theorem extend_sort {es : List Entry} {e : Entry} (some_names : e.names.Nonempty)
    (free : ∀ e' ∈ es, Disjoint e'.names e.names) : extend es e.names.sort e.rules = es ++ [e] := by
  have all_free : e.names.sort.toFinset \ allNames es = e.names := by
    rw [Finset.sort_toFinset]
    refine Finset.sdiff_eq_self_of_disjoint (disjoint_allNames_iff.mpr ?_)
    intro e' mem
    exact (free e' mem).symm
  rw [extend, all_free, if_neg some_names.ne_empty]

end Entry

open Entry

/-- Entries that each have names of their own are registered as they are. -/
theorem Registration.entriesFrom_listing {before es : List Entry}
    (nonempty : ∀ e ∈ es, e.names.Nonempty)
    (disjoint : (before ++ es).Pairwise fun a b => Disjoint a.names b.names) :
    entriesFrom before (es.map fun e => ⟨e.names.sort, e.rules⟩) = before ++ es := by
  induction es generalizing before with
  | nil => exact (List.append_nil before).symm
  | cons e es ih =>
    obtain ⟨first, others⟩ := List.forall_mem_cons.mp nonempty
    have apart := (List.pairwise_append.mp disjoint).2.2
    have added := extend_sort first fun e' mem => apart e' mem e List.mem_cons_self
    rw [List.append_cons] at disjoint ⊢
    rw [List.map_cons, entriesFrom, List.foldl_cons, added]
    exact ih others disjoint

/-! ### The dump of a registry -/

namespace Describes

variable {r r' : Registry} {es : List Entry}

theorem freeze (h : Describes r es) : Describes r.freeze es :=
  ⟨h.compiled, h.mem_ids_iff, h.nodup, h.nonempty, h.disjoint⟩

theorem exists_lexer (h : Describes r es) {e : Entry} (mem : e ∈ es) :
    ∃ lexer, Lexer.compile e.rules = .ok lexer := by
  obtain ⟨id, here⟩ := List.mem_iff_getElem?.mp mem
  obtain ⟨lexer, -, compiles⟩ := h.compile_getElem? here
  exact ⟨lexer, compiles⟩

theorem definitions_eq_listings (h : Describes r es) :
    r.definitions = (es.map listing).map Dump.definitionOf := by
  rw [h.definitions_eq, List.map_map]
  rfl

/-- The dump of a registry can be loaded, whatever its format, which gives a frozen registry of the
same entries. -/
theorem load_dump (h : Describes r es) (format : Dump.Format) :
    ∃ loaded : Registry, Registry.load (r.dump format) format = .ok loaded ∧
      loaded.frozen = true ∧ Describes loaded es := by
  have read : Dump.definitions? (Dump.records r.definitions) = some r.definitions := by
    rw [h.definitions_eq_listings]
    refine Dump.definitions?_records fun l mem => ?_
    obtain ⟨e, entered, rfl⟩ := List.mem_map.mp mem
    obtain ⟨lexer, compiles⟩ := h.exists_lexer entered
    exact Lexer.check_of_compile compiles
  have compile : ∀ d ∈ r.definitions, d.Compiles := by
    rw [h.definitions_eq]
    intro d mem
    obtain ⟨e, entered, rfl⟩ := List.mem_map.mp mem
    obtain ⟨lexer, compiles⟩ := h.exists_lexer entered
    exact ⟨e.rules, lexer, rfl, compiles⟩
  have again : r.definitions.flatMap Registration.ofDefinition =
      es.map fun e => ⟨e.names.sort, e.rules⟩ := by
    rw [h.definitions_eq, List.flatMap_map, List.map_eq_flatMap]
    rfl
  obtain ⟨entered, done, describes⟩ := Describes.empty.enterAll rfl compile
  rw [again, Registration.entriesFrom_listing h.nonempty (by simpa using h.disjoint),
    List.nil_append] at describes
  refine ⟨entered.freeze, ?_, rfl, describes.freeze⟩
  simp only [Registry.load, Registry.dump, format.read_write, read, Registry.ofDefinitions, done,
    Registry.Attempt.result, bind, pure, Except.bind, Except.pure]

/-! ### Registries of the same entries -/

theorem lexers_eq (h : Describes r es) (h' : Describes r' es) : r.lexers = r'.lexers := by
  have same : List.Forall₂ Eq r.lexers.toList r'.lexers.toList := by
    refine List.forall₂_iff_get.mpr ⟨h.compiled.length_eq.trans h'.compiled.length_eq.symm, ?_⟩
    intro id lt lt'
    have here := h.compiled.get lt (h.compiled.length_eq ▸ lt)
    have there := h'.compiled.get lt' (h'.compiled.length_eq ▸ lt')
    exact Except.ok.inj (here.symm.trans there)
  exact Array.ext' (List.forall₂_eq_eq_eq ▸ same)

theorem lookup_eq (h : Describes r es) (h' : Describes r' es) (name : String) :
    r.ids.lookup name = r'.ids.lookup name := by
  refine Option.ext fun id => ?_
  rw [h.lookup_eq_some_iff, h'.lookup_eq_some_iff]

theorem find?_eq (h : Describes r es) (h' : Describes r' es) (name : String) :
    r.find? name = r'.find? name := by
  rw [Registry.find?, Registry.find?, h.lookup_eq h', h.lexers_eq h']

end Describes

/-! ### Scans depend on what names lead to -/

namespace Scan

variable {r r' : Registry}

theorem embedded?_congr (same : ∀ name, r.find? name = r'.find? name) (language : String)
    (text : List Char) : r.embedded? language text = r'.embedded? language text := by
  simp only [Registry.embedded?, same]

theorem token_congr (same : ∀ name, r.find? name = r'.find? name) : token r = token r' := by
  funext nested l text pos cache
  simp only [token, embedded, embedded?_congr same]

theorem tokens_congr (same : ∀ name, r.find? name = r'.find? name) (nested : Scanner)
    (l : KeyedLexer) (texts : List (List Char)) (pos : Nat) (cache : TagCache) :
    tokens r nested l pos texts cache = tokens r' nested l pos texts cache := by
  induction texts generalizing pos cache with
  | nil => rfl
  | cons text rest ih => simp only [tokens, token_congr same, ih]

theorem text_congr (same : ∀ name, r.find? name = r'.find? name) (levels : Nat) :
    text r levels = text r' levels := by
  induction levels with
  | zero => rfl
  | succ levels ih =>
    funext l source pos cache
    simp only [text, ih, tokens_congr same]

/-- Frozen registries in which names lead to the same lexers scan in the same way. -/
theorem scan_congr (same : ∀ name, r.find? name = r'.find? name) (frozen : r.frozen = true)
    (frozen' : r'.frozen = true) (language source : String) (base : Nat) :
    r.scan language source base = r'.scan language source base := by
  simp only [Registry.scan, frozen, frozen', embedded?_congr same, simplified, decorations,
    text_congr same]

end Scan

/-! ### Any operations, with reloading -/

/-- What can be done to a registry: an operation, or loading its dump in its place. -/
inductive Step where
  | operation (op : Operation)
  | reload (format : Dump.Format)

namespace Registry

/-- Does a step; one that fails leaves the registry as it is. -/
def step (r : Registry) : Step → Registry
  | .operation op => (r.perform op).2
  | .reload format =>
    match load (r.dump format) format with
    | .ok loaded => loaded
    | .error _ => r

/-- The registry after steps, at first empty. -/
def after (steps : List Step) : Registry := steps.foldl step {}

end Registry

/-- One step leads from a registry that entries describe to another. -/
theorem Describes.step {r : Registry} {es : List Entry} (h : Describes r es) (s : Step) :
    ∃ es', Describes (r.step s) es' := by
  cases s with
  | operation op =>
    have effect := h.effect op
    rw [Registry.step]
    generalize r.perform op = attempt at effect
    cases effect with
    | failed e => exact ⟨es, h⟩
    | succeeded describes => exact ⟨_, describes⟩
  | reload format =>
    obtain ⟨loaded, eq, -, describes⟩ := h.load_dump format
    rw [Registry.step, eq]
    exact ⟨es, describes⟩

theorem describes_after (steps : List Step) : ∃ es, Describes (Registry.after steps) es := by
  induction steps using List.reverseRec with
  | nil => exact ⟨[], .empty⟩
  | append_singleton steps s ih =>
    obtain ⟨es, describes⟩ := ih
    rw [Registry.after, List.foldl_concat]
    exact describes.step s

/-- Whatever has been done to a registry, its dump can be loaded, in every format that reads back
what it writes. This gives a frozen registry with the same definitions and the same names, in which
each name leads to the same lexer, and which scans as the registry does once it is frozen. -/
theorem dump_lossless (format : Dump.Format) (steps : List Step) :
    let r := Registry.after steps
    ∃ loaded : Registry, Registry.load (r.dump format) format = .ok loaded ∧
      loaded.frozen = true ∧
      loaded.definitions = r.definitions ∧
      loaded.languages = r.languages ∧
      (∀ name, loaded.lexer? name = r.lexer? name) ∧
      (∀ language source base,
        loaded.scan language source base = r.freeze.scan language source base) := by
  obtain ⟨es, describes⟩ := describes_after steps
  obtain ⟨loaded, eq, frozen, same⟩ := describes.load_dump format
  have find_eq := same.find?_eq describes
  refine ⟨loaded, eq, frozen, ?_, ?_, ?_, ?_⟩
  · rw [same.definitions_eq, describes.definitions_eq]
  · rw [same.languages_eq, describes.languages_eq]
  · intro name
    rw [Registry.lexer?, Registry.lexer?, find_eq]
  · exact Scan.scan_congr (same.find?_eq describes.freeze) frozen rfl

/-- The definition of a language with a context and a shortcut. -/
def hashed : Definition where
  names := ["a", "b"]
  rules := some
    { shortcuts := [((Rule.tagged .comment "#x*").withShortcut "#").withContext
        { source := "%", ignoreCase := true }]
      fallbacks := [.embedding "inner" "<(x+)>", .tagged .punctuation "<|>"] }

/-- The definition of the language embedded in it. -/
def embeddedInHashed : Definition where
  names := ["inner"]
  rules := some { fallbacks := [.tagged .string "x+"] }

/-- The steps that register both, one with a name twice, the other with one that is taken. -/
def registeringHashed : List Step :=
  [.operation (.definition { hashed with names := ["b", "a", "b"] }),
    .operation (.definition { embeddedInHashed with names := ["inner", "a"] })]

theorem ids_registeringHashed :
    (Registry.after registeringHashed).ids = [("b", 0), ("a", 0), ("inner", 1)] := by
  decide +kernel

theorem definitions_registeringHashed :
    (Registry.after registeringHashed).definitions = [hashed, embeddedInHashed] := by
  have rules : (Registry.after registeringHashed).lexers.toList.map (some ·.rules) =
      [hashed.rules, embeddedInHashed.rules] := by decide +kernel
  obtain ⟨first, second, two⟩ : ∃ first second,
      (Registry.after registeringHashed).lexers.toList = [first, second] := by
    have length := congrArg List.length rules
    rw [List.length_map] at length
    exact List.length_eq_two.mp length
  rw [two] at rules
  simp only [List.map_cons, List.map_nil, List.cons.injEq, and_true] at rules
  have names : Registry.sorted ["b", "a"] = ["a", "b"] := by simp [Registry.sorted, List.mergeSort]
  have name : Registry.sorted ["inner"] = ["inner"] := by simp [Registry.sorted]
  simp [Registry.definitions, two, ids_registeringHashed, rules, names, name, hashed,
    embeddedInHashed]

/-- The dump keeps the context and the shortcut, and the loaded registry scans embedded text. -/
theorem dump_lossless_registeringHashed :
    ∃ loaded : Registry,
      Registry.load ((Registry.after registeringHashed).dump Dump.framed) Dump.framed =
        .ok loaded ∧
      loaded.frozen = true ∧
      loaded.definitions = [hashed, embeddedInHashed] ∧
      loaded.languages = ["a", "b", "inner"] ∧
      loaded.scan "a" "#x<xx>" 3 =
        .ok [⟨3, .comment⟩, ⟨5, .punctuation⟩, ⟨6, .string⟩, ⟨8, .punctuation⟩] := by
  obtain ⟨loaded, eq, frozen, definitions, languages, -, scans⟩ :=
    dump_lossless Dump.framed registeringHashed
  refine ⟨loaded, eq, frozen, definitions.trans definitions_registeringHashed, ?_, ?_⟩
  · rw [languages, Registry.languages, ids_registeringHashed]
    simp [Registry.sorted, List.mergeSort]
  · rw [scans, Scan.scan_eq_fresh rfl]
    exact congrArg Except.ok (by decide +kernel)

end Tincture
