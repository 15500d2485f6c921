import Tincture.CommandLine.BuildDump
import Tincture.Proofs.Registry.Reordering

/-!
Building a dump in any order.

A directory lists its files in no order that could be relied on, while a name belongs to the first
registration that lists it. Whether a file loads does not depend on the others
(`Registration.ofDocument?`), and one that fails leaves the registry as it is, so the order decides
nothing but which file gets a name that several of them list. `Built` says what a build of some
files has; if no two of those that load have a name in common, builds of the same files in another
order have the same entries in another order (`Built.alike`), and the program does the same with a
file tree that lists its files in another order (`Build.runBuildDump_perm`).
-/

namespace Tincture

/-! ### Files -/

/-- The registration a document asks for, if it can be read, describes a language, and has rules
that compile. -/
def Registration.ofDocument? (document : Except Error String) : Option Registration := do
  let text ← document.toOption
  let d ← (Definition.ofDocument text).toOption
  let rules ← d.ruleSet.toOption
  let _ ← (Lexer.compile rules).toOption
  return ⟨d.names, rules⟩

theorem toOption_eq_some_iff {α : Type} {outcome : Except Error α} {a : α} :
    outcome.toOption = some a ↔ outcome = .ok a := by
  cases outcome <;> simp [Except.toOption]

theorem Registration.ofDocument?_eq_some_iff {document : Except Error String} {x : Registration} :
    ofDocument? document = some x ↔ ∃ text d lexer, document = .ok text ∧
      Definition.ofDocument text = .ok d ∧ d.names = x.names ∧ d.ruleSet = .ok x.rules ∧
      Lexer.compile x.rules = .ok lexer := by
  simp only [ofDocument?, Option.bind_eq_bind, Option.bind_eq_some_iff, toOption_eq_some_iff]
  constructor
  · rintro ⟨text, read, d, described, rules, ruled, lexer, compiles, ⟨⟩⟩
    exact ⟨text, d, lexer, read, described, rfl, ruled, compiles⟩
  · rintro ⟨text, d, lexer, read, described, names, ruled, compiles⟩
    refine ⟨text, read, d, described, x.rules, ruled, lexer, compiles, ?_⟩
    rw [names]
    rfl

namespace Describes

open Registration

variable {r : Registry} {es : List Entry} {document : Except Error String}

/-- Whether a document can be registered depends on nothing in the registry. -/
theorem registerDocument (h : Describes r es) (open_ : r.frozen = false) {x : Registration}
    (loads : ofDocument? document = some x) :
    ∃ r', r.registerDocument document = .ok r' ∧ r'.frozen = false ∧
      Describes r' (Entry.extend es x.names x.rules) := by
  obtain ⟨text, d, lexer, rfl, described, names, ruled, compiles⟩ :=
    ofDocument?_eq_some_iff.mp loads
  obtain ⟨r', entered, still, describes⟩ := h.enter open_ compiles x.names
  refine ⟨r', ?_, still, describes⟩
  rw [Registry.registerDocument, Registry.enterDocument, Except.bind, described]
  dsimp only
  rw [Registry.enterDefinition, ruled]
  dsimp only
  rw [names, entered]
  rfl

end Describes

theorem Registry.Attempt.outcome_of_result {attempt : Registry.Attempt} {r : Registry}
    (h : attempt.result = .ok r) : attempt.1 = .ok () := by
  obtain ⟨outcome, after⟩ := attempt
  cases outcome with
  | error e => cases h
  | ok _ => rfl

/-- A document that some registry accepts is one that loads. -/
theorem Registration.exists_of_registerDocument {r r' : Registry}
    {document : Except Error String} (h : r.registerDocument document = .ok r') :
    ∃ x, ofDocument? document = some x := by
  have accepted := Registry.Attempt.outcome_of_result h
  rw [Registry.enterDocument] at accepted
  cases described : document.bind Definition.ofDocument with
  | error e =>
    rw [described] at accepted
    cases accepted
  | ok d =>
    rw [described] at accepted
    dsimp only at accepted
    rw [Registry.outcome_enterDefinition] at accepted
    obtain ⟨text, read, described⟩ := ok_of_bind described
    obtain ⟨rules, ruled, accepted⟩ := ok_of_bind accepted
    unfold Operation.accept at accepted
    split at accepted
    · cases accepted
    · cases compiles : Lexer.compile rules with
      | error e =>
        rw [compiles] at accepted
        cases accepted
      | ok lexer =>
        exact ⟨⟨d.names, rules⟩,
          ofDocument?_eq_some_iff.mpr ⟨text, d, lexer, read, described, rfl, ruled, compiles⟩⟩

/-! ### File trees -/

namespace FileTree

variable {t t' : FileTree}

theorem hasDirectory_perm (perm : t.files.Perm t'.files) (path : List String) :
    t.hasDirectory path = t'.hasDirectory path := by
  rw [hasDirectory, hasDirectory, perm.any_eq]

theorem resolve?_perm (perm : t.files.Perm t'.files) (path : String) :
    t.resolve? path = t'.resolve? path := by
  have follow (dir names : List String) : t.follow? dir names = t'.follow? dir names := by
    induction names generalizing dir with
    | nil => rfl
    | cons name rest ih => simp only [follow?, hasDirectory_perm perm, ih]
  simp only [resolve?, follow]

theorem entries?_perm (perm : t.files.Perm t'.files) (path : String) :
    Option.Rel List.Perm (t.entries? path) (t'.entries? path) := by
  rw [entries?, entries?, resolve?_perm perm]
  cases t'.resolve? path with
  | none => exact .none
  | some dir =>
    dsimp only
    rw [hasDirectory_perm perm]
    split
    · exact .some (perm.filterMap _)
    · exact .none

theorem isWritable_perm (perm : t.files.Perm t'.files) (path : String) :
    t.isWritable path = t'.isWritable path := by
  simp only [isWritable, resolve?_perm perm, hasDirectory_perm perm]

end FileTree

namespace CommandLine.Build

open Registration

/-- The documents in the files that are taken for definitions. -/
def documents (files : List (String × Except Error String)) : List (Except Error String) :=
  (files.filter fun (name, _) => isDefinition name).map (·.2)

/-- The registrations of the files that load. -/
def registrations (files : List (String × Except Error String)) : List Registration :=
  (documents files).filterMap ofDocument?

/-- What is known of a build when these documents have been looked at. -/
structure Holds (b : Build) (documents : List (Except Error String)) : Prop where
  unfrozen : b.registry.frozen = false
  loaded_eq : b.loaded = (documents.filterMap ofDocument?).length
  failed_eq : b.failed = documents.countP fun document => (ofDocument? document).isNone
  describes : Describes b.registry (entries (documents.filterMap ofDocument?))

/-- A document that does not load is counted and changes nothing else. -/
theorem add_of_none (b : Build) {document : Except Error String}
    (fails : ofDocument? document = none) :
    b.add document = { b with failed := b.failed + 1 } := by
  unfold add
  cases registered : b.registry.registerDocument document with
  | error e => rfl
  | ok r =>
    obtain ⟨x, loads⟩ := exists_of_registerDocument registered
    rw [fails] at loads
    cases loads

theorem Holds.add {b : Build} {documents : List (Except Error String)} (h : Holds b documents)
    (document : Except Error String) : Holds (b.add document) (documents ++ [document]) := by
  cases loads : ofDocument? document with
  | none =>
    have same : (documents ++ [document]).filterMap ofDocument? =
        documents.filterMap ofDocument? := by simp [loads]
    rw [add_of_none b loads]
    refine ⟨h.unfrozen, ?_, ?_, ?_⟩
    · rw [same, ← h.loaded_eq]
    · simp [loads, h.failed_eq]
    · rw [same]
      exact h.describes
  | some x =>
    obtain ⟨r, registered, unfrozen, describes⟩ :=
      h.describes.registerDocument h.unfrozen loads
    have more : (documents ++ [document]).filterMap ofDocument? =
        documents.filterMap ofDocument? ++ [x] := by simp [loads]
    have added : b.add document = { b with registry := r, loaded := b.loaded + 1 } := by
      rw [Build.add, registered]
    rw [added]
    refine ⟨unfrozen, ?_, ?_, ?_⟩
    · rw [more, List.length_append, ← h.loaded_eq, List.length_singleton]
    · simp [loads, h.failed_eq]
    · rw [more, entries, entriesFrom, List.foldl_concat]
      exact describes

theorem holds_foldl (documents : List (Except Error String)) :
    Holds (documents.foldl add {}) documents := by
  induction documents using List.reverseRec with
  | nil => exact ⟨rfl, rfl, rfl, .empty⟩
  | append_singleton documents document ih =>
    rw [List.foldl_concat]
    exact ih.add document

/-- What a finished build of these files has. -/
structure Built (b : Build) (files : List (String × Except Error String)) : Prop where
  frozen : b.registry.frozen = true
  loaded_eq : b.loaded = (registrations files).length
  failed_eq : b.failed = (documents files).countP fun document => (ofDocument? document).isNone
  describes : Describes b.registry
    (entriesFrom (entries (registrations files)) (Builtin.definitions.flatMap ofDefinition))

/-- A build of files always succeeds, since the languages of the library can be registered. -/
theorem exists_built (files : List (String × Except Error String)) :
    ∃ b, ofFiles files = .ok b ∧ Built b files := by
  have holds := holds_foldl (documents files)
  obtain ⟨r, entered, describes⟩ :=
    holds.describes.enterAll holds.unfrozen fun d => Builtin.compiles
  have registered :
      ((documents files).foldl add {}).registry.registerBuiltins = .ok r := by
    rw [Registry.registerBuiltins, entered]
    rfl
  refine ⟨{ (documents files).foldl add {} with registry := r.freeze }, ?_, rfl, holds.loaded_eq,
    holds.failed_eq, describes.freeze⟩
  rw [documents] at registered
  simp only [ofFiles, registered, bind, Except.bind, pure, Except.pure]
  rfl

/-! ### Another order -/

theorem documents_perm {files files' : List (String × Except Error String)}
    (perm : files.Perm files') : (documents files).Perm (documents files') :=
  (perm.filter _).map _

/-- The builds print the same, and their dumps are alike, whatever the format. -/
structure Alike (b b' : Build) : Prop where
  loaded_eq : b.loaded = b'.loaded
  failed_eq : b.failed = b'.failed
  languages_eq : b.registry.languages = b'.registry.languages
  lexers_eq : b.registry.definitions.length = b'.registry.definitions.length
  summary_eq : b.summary = b'.summary
  dumps_alike (format : Dump.Format) :
    DumpsAlike format (b.registry.dump format) (b'.registry.dump format)

/-- The summary tells nothing but the counts and the names of the languages. -/
theorem summary_congr {b b' : Build} (languages : b.registry.languages = b'.registry.languages)
    (loaded : b.loaded = b'.loaded) (failed : b.failed = b'.failed)
    (lexers : b.registry.definitions.length = b'.registry.definitions.length) :
    b.summary = b'.summary := by
  unfold summary
  rw [languages, loaded, failed, lexers]

theorem Built.alike {b b' : Build} {files files' : List (String × Except Error String)}
    (h : Built b files) (h' : Built b' files') (perm : files.Perm files')
    (apart : (registrations files).Pairwise Apart) : Alike b b' := by
  have same : (registrations files).Perm (registrations files') :=
    (documents_perm perm).filterMap _
  have entries := entriesFrom_perm (entries_perm same apart)
    (Builtin.definitions.flatMap ofDefinition)
  have loaded_eq : b.loaded = b'.loaded := by rw [h.loaded_eq, h'.loaded_eq, same.length_eq]
  have failed_eq : b.failed = b'.failed := by
    rw [h.failed_eq, h'.failed_eq, (documents_perm perm).countP_eq]
  have languages_eq : b.registry.languages = b'.registry.languages :=
    h.describes.languages_perm h'.describes entries
  have lexers_eq : b.registry.definitions.length = b'.registry.definitions.length :=
    h.describes.length_definitions_perm h'.describes entries
  exact {
    loaded_eq
    failed_eq
    languages_eq
    lexers_eq
    summary_eq := summary_congr languages_eq loaded_eq failed_eq lexers_eq
    dumps_alike := fun format => h.describes.load_perm h'.describes entries format }

/-! ### The program -/

/-- The files of a directory, as they are read. -/
def ofEntries (entries : List (String × String)) : List (String × Except Error String) :=
  entries.map fun (name, text) => (name, .ok text)

/-- The files the program is given: those of the directory, if it is given one. -/
def given? (t : FileTree) (args : List String) : Option (List (String × String)) :=
  match (BuildArguments.parse args).directory with
  | some path => t.entries? path
  | none => some []

theorem given?_perm {t t' : FileTree} (perm : t.files.Perm t'.files) (args : List String) :
    Option.Rel List.Perm (given? t args) (given? t' args) := by
  unfold given?
  cases (BuildArguments.parse args).directory with
  | none => exact .some .nil
  | some path => exact FileTree.entries?_perm perm path

theorem runBuildDump_of_given {t : FileTree} {args : List String} {format : Dump.Format} :
    runBuildDump t args format =
      match given? t args with
      | none => (⟨1, ""⟩, none)
      | some entries =>
        match ofFiles (ofEntries entries) with
        | .error _ => (⟨1, ""⟩, none)
        | .ok b =>
          if t.isWritable (BuildArguments.parse args).output then
            (⟨0, b.summary ++ saved (BuildArguments.parse args).output ++ "\n"⟩,
              some (b.registry.dump format))
          else (⟨1, b.summary⟩, none) :=
  rfl

/-- If the files of a tree are listed in another order, the program prints the same and ends the
same way, and writes a dump that is alike. -/
theorem runBuildDump_perm {t t' : FileTree} (perm : t.files.Perm t'.files) (args : List String)
    (format : Dump.Format)
    (apart : ∀ entries ∈ given? t args, (registrations (ofEntries entries)).Pairwise Apart) :
    (runBuildDump t args format).1 = (runBuildDump t' args format).1 ∧
      Option.Rel (DumpsAlike format) (runBuildDump t args format).2
        (runBuildDump t' args format).2 := by
  have same := given?_perm perm args
  rw [runBuildDump_of_given, runBuildDump_of_given, FileTree.isWritable_perm perm]
  generalize given? t args = given at same apart
  generalize given? t' args = given' at same
  cases same with
  | none => exact ⟨rfl, .none⟩
  | @some entries entries' same =>
    obtain ⟨b, eq, built⟩ := exists_built (ofEntries entries)
    obtain ⟨b', eq', built'⟩ := exists_built (ofEntries entries')
    have alike := built.alike built' (same.map _) (apart entries rfl)
    simp only [eq, eq', alike.summary_eq]
    split
    · exact ⟨rfl, .some (alike.dumps_alike format)⟩
    · exact ⟨rfl, .none⟩

/-! ### Files that fail -/

theorem add_failed (b : Build) (n : Nat) (document : Except Error String) :
    ({ b with failed := b.failed + n } : Build).add document =
      { b.add document with failed := (b.add document).failed + n } := by
  unfold add
  dsimp only
  cases b.registry.registerDocument document with
  | error e => simp only [Nat.add_right_comm]
  | ok r => rfl

theorem foldl_add_failed (b : Build) (n : Nat) (documents : List (Except Error String)) :
    documents.foldl add { b with failed := b.failed + n } =
      { documents.foldl add b with failed := (documents.foldl add b).failed + n } := by
  induction documents generalizing b with
  | nil => rfl
  | cons document documents ih => rw [List.foldl_cons, List.foldl_cons, add_failed, ih]

theorem foldl_documents_insert (before after : List (String × Except Error String))
    {file : String × Except Error String} (taken : isDefinition file.1 = true)
    (fails : ofDocument? file.2 = none) (b : Build) :
    (documents (before ++ file :: after)).foldl add b =
      { (documents (before ++ after)).foldl add b with
        failed := ((documents (before ++ after)).foldl add b).failed + 1 } := by
  have inserted : documents (before ++ file :: after) =
      documents before ++ file.2 :: documents after := by
    simp [documents, taken]
  have without : documents (before ++ after) = documents before ++ documents after := by
    simp [documents]
  rw [inserted, without, List.foldl_append, List.foldl_append, List.foldl_cons,
    add_of_none _ fails, foldl_add_failed]

/-- Wherever a file that fails to load is listed, it changes the number of failures alone. -/
theorem ofFiles_insert_failing {before after : List (String × Except Error String)}
    {file : String × Except Error String} (taken : isDefinition file.1 = true)
    (fails : ofDocument? file.2 = none) {b : Build} (built : ofFiles (before ++ after) = .ok b) :
    ofFiles (before ++ file :: after) = .ok { b with failed := b.failed + 1 } := by
  have inserted := foldl_documents_insert before after taken fails {}
  unfold documents at inserted
  unfold ofFiles at built ⊢
  obtain ⟨r, registered, made⟩ := ok_of_bind built
  cases made
  simp only [inserted, registered, bind, Except.bind, pure, Except.pure]

/-! ### Main result -/

/-- In whatever order the files of a directory are listed, if no two of those that load have a name
in common, as many load and as many fail, the same is printed, and the dumps, in every format, load
to registries that have the same names and scan alike. A file that fails to load changes the number
of failures alone. -/
theorem ofFiles_perm :
    (∀ files files' : List (String × Except Error String), files.Perm files' →
      (registrations files).Pairwise Apart → ∃ b b', ofFiles files = .ok b ∧
        ofFiles files' = .ok b' ∧ b.loaded = (registrations files).length ∧ Alike b b') ∧
    ∀ (before after : List (String × Except Error String)) (file : String × Except Error String),
      isDefinition file.1 = true → ofDocument? file.2 = none →
      ∃ b, ofFiles (before ++ after) = .ok b ∧
        ofFiles (before ++ file :: after) = .ok { b with failed := b.failed + 1 } := by
  constructor
  · intro files files' perm apart
    obtain ⟨b, eq, built⟩ := exists_built files
    obtain ⟨b', eq', built'⟩ := exists_built files'
    exact ⟨b, b', eq, eq', built.loaded_eq, built.alike built' perm apart⟩
  · intro before after file taken fails
    obtain ⟨b, eq, -⟩ := exists_built (before ++ after)
    exact ⟨b, eq, ofFiles_insert_failing taken fails eq⟩

/-- Two files that load, one of which takes a name of the library, and lists a name twice. -/
def listed : List (String × Except Error String) :=
  [("a.json", .ok "\x7b\"names\": [\"c\", \"x\", \"c\"], \"rules\": \x7b\x7d\x7d"),
    ("b.json", .ok "\x7b\"names\": [\"y\"], \"rules\": \x7b\x7d\x7d")]

/-- A file whose document is not closed. -/
def unclosed : String × Except Error String := ("c.json", .ok "\x7b")

theorem splitOn_eq_self {name : String} (short : name ∈ ["a.json", "b.json", "c.json"]) :
    name.splitOn "/" = [name] := by
  revert name
  simp only [List.forall_mem_cons, List.not_mem_nil, false_implies, implies_true, and_true]
  refine ⟨?_, ?_, ?_⟩
  all_goals
    rw [String.splitOn, if_neg (by decide)]
    iterate 6 rw [String.splitOnAux, if_neg (by decide), if_neg (by decide)]
    rw [String.splitOnAux, if_pos (by decide)]
    decide

theorem isDefinition_short {name : String} (short : name ∈ ["a.json", "b.json", "c.json"]) :
    isDefinition name = true := by
  revert name
  simp only [List.forall_mem_cons, List.not_mem_nil, false_implies, implies_true, and_true]
  refine ⟨?_, ?_, ?_⟩
  all_goals
    rw [isDefinition, extension?, fileName?, splitOn_eq_self (by decide)]
    decide

/-- The files the other way round, and a file that fails between them. -/
theorem ofFiles_perm_listed :
    listed.Perm listed.reverse ∧ (registrations listed).Pairwise Apart ∧
      (∃ b b', ofFiles listed = .ok b ∧ ofFiles listed.reverse = .ok b' ∧
        b.loaded = (registrations listed).length ∧ Alike b b') ∧
      isDefinition unclosed.1 = true ∧ ofDocument? unclosed.2 = none ∧
      ∃ b, ofFiles (listed.take 1 ++ listed.drop 1) = .ok b ∧
        ofFiles (listed.take 1 ++ unclosed :: listed.drop 1) =
          .ok { b with failed := b.failed + 1 } := by
  have definitions : documents listed = listed.map (·.2) := by
    refine congrArg (List.map _) (List.filter_eq_self.mpr ?_)
    intro file mem
    refine isDefinition_short ?_
    rcases List.mem_pair.mp mem with rfl | rfl <;> decide
  have names : (registrations listed).map (·.names) = [["c", "x", "c"], ["y"]] := by
    rw [registrations, definitions]
    decide +kernel
  have apart : (registrations listed).Pairwise Apart := by
    have disjoint : ((registrations listed).map (·.names)).Pairwise
        fun xs ys => ∀ name ∈ xs, name ∉ ys := by
      rw [names]
      decide
    rw [List.pairwise_map] at disjoint
    exact disjoint
  have perm : listed.Perm listed.reverse := (List.reverse_perm listed).symm
  have taken : isDefinition unclosed.1 = true := isDefinition_short (by decide)
  have fails : ofDocument? unclosed.2 = none := by
    have missing : (ofDocument? unclosed.2).isNone = true := by decide +kernel
    exact Option.isNone_iff_eq_none.mp missing
  obtain ⟨reordered, inserted⟩ := ofFiles_perm
  exact ⟨perm, apart, reordered _ _ perm apart, taken, fails, inserted _ _ _ taken fails⟩

end CommandLine.Build

end Tincture
