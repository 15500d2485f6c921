import Tincture.Proofs.Scan.Reach

/-!
Entries in another order.

If no two registrations have a name in common, each gets an entry of its own
(`Registration.entriesFrom_disjoint`), so the order in which they are made is the order of the
entries and nothing else. What registrations after them add is the same in any case, for that
depends on the names that are taken only (`Entry.extend_perm`). And what a registry answers does not
depend on the order of its entries, its definitions and the keys of its lexers apart: a name leads
to the same lexer (`Describes.lexer?_perm`), so a scan gives the same (`Describes.scan_perm`), also
when the registry has been dumped and loaded (`Describes.load_perm`).
-/

namespace Tincture

/-! ### Entries -/

namespace Entry

variable {es es' : List Entry}

theorem allNames_perm (perm : es.Perm es') : allNames es = allNames es' := by
  ext name
  simp only [mem_allNames, perm.mem_iff]

/-- What is added depends on the names that are taken, whatever entries have them. -/
theorem extend_perm (perm : es.Perm es') (names : List String) (rules : RuleSet) :
    (extend es names rules).Perm (extend es' names rules) := by
  unfold extend
  rw [allNames_perm perm]
  dsimp only
  split
  · exact perm
  · exact perm.append_right _

end Entry

namespace Registration

theorem entriesFrom_perm {es es' : List Entry} (perm : es.Perm es') (history : List Registration) :
    (entriesFrom es history).Perm (entriesFrom es' history) := by
  induction history generalizing es es' with
  | nil => exact perm
  | cons x history ih => exact ih (Entry.extend_perm perm x.names x.rules)

/-- The registrations have no name in common. -/
def Apart (x y : Registration) : Prop := ∀ name ∈ x.names, name ∉ y.names

/-- The entry of a registration whose names are all free. -/
def entry? (x : Registration) : Option Entry :=
  if x.names = [] then none else some ⟨x.names.toFinset, x.rules⟩

theorem extend_free {es : List Entry} (x : Registration)
    (free : ∀ name ∈ x.names, name ∉ Entry.allNames es) :
    Entry.extend es x.names x.rules = es ++ x.entry?.toList := by
  have all_free : x.names.toFinset \ Entry.allNames es = x.names.toFinset := by
    refine Finset.sdiff_eq_self_of_disjoint (Finset.disjoint_left.mpr ?_)
    intro name listed
    exact free name (List.mem_toFinset.mp listed)
  rw [Entry.extend, all_free, entry?]
  by_cases none : x.names = []
  · simp [none]
  · simp [none]

/-- Registrations that have no names in common each get an entry of their own, if they have names at
all. -/
theorem entriesFrom_disjoint {es : List Entry} {history : List Registration}
    (free : ∀ x ∈ history, ∀ name ∈ x.names, name ∉ Entry.allNames es)
    (apart : history.Pairwise Apart) : entriesFrom es history = es ++ history.filterMap entry? := by
  induction history generalizing es with
  | nil => exact (List.append_nil es).symm
  | cons x history ih =>
    obtain ⟨first, others⟩ := List.forall_mem_cons.mp free
    obtain ⟨apart_x, apart⟩ := List.pairwise_cons.mp apart
    have still : ∀ y ∈ history, ∀ name ∈ y.names,
        name ∉ Entry.allNames (es ++ x.entry?.toList) := by
      intro y mem name listed taken
      obtain ⟨e, held, named⟩ := Entry.mem_allNames.mp taken
      rcases List.mem_append.mp held with held | held
      · exact others y mem name listed (Entry.mem_allNames.mpr ⟨e, held, named⟩)
      · have own := Option.mem_toList.mp held
        unfold entry? at own
        split at own
        · cases own
        · cases own
          exact apart_x y mem name (List.mem_toFinset.mp named) listed
    have rest := ih still apart
    rw [entriesFrom, List.foldl_cons, extend_free x first]
    rw [entriesFrom] at rest
    rw [rest, List.append_assoc, List.filterMap_cons]
    cases x.entry? <;> rfl

theorem entries_perm {history history' : List Registration} (perm : history.Perm history')
    (apart : history.Pairwise Apart) : (entries history).Perm (entries history') := by
  have symm : ∀ {x y : Registration}, Apart x y → Apart y x := by
    intro x y apart name listed listed'
    exact apart name listed' listed
  have apart' := (perm.pairwise_iff symm).mp apart
  have free (x : Registration) (name : String) (_ : name ∈ x.names) :
      name ∉ Entry.allNames [] := by simp [Entry.allNames]
  rw [entries, entries, entriesFrom_disjoint (fun x _ => free x) apart,
    entriesFrom_disjoint (fun x _ => free x) apart']
  exact perm.filterMap entry?

end Registration

/-! ### Answers -/

/-- The dumps of a format load to registries that have the same names and scan alike. -/
def DumpsAlike (format : Dump.Format) (bytes bytes' : List UInt8) : Prop :=
  ∃ r r' : Registry, Registry.load bytes format = .ok r ∧ Registry.load bytes' format = .ok r' ∧
    r.languages = r'.languages ∧
    ∀ language source base, ∃ ds, r.scan language source base = .ok ds ∧
      r'.scan language source base = .ok ds

namespace Describes

variable {r r' : Registry} {es es' : List Entry}

/-- A name leads to the lexer of the entry that has it. -/
theorem lexer?_eq_some_iff (h : Describes r es) {name : String} {l : Lexer} :
    r.lexer? name = some l ↔ ∃ e ∈ es, name ∈ e.names ∧ Lexer.compile e.rules = .ok l := by
  have lexer_of_lookup {id : Nat} (at_id : r.ids.lookup name = some id) :
      r.lexer? name = r.lexers[id]? := by
    rw [Registry.lexer?, Registry.find?, at_id, Option.bind_some, Option.map_map]
    exact Option.map_id'
  constructor
  · intro found
    obtain ⟨k, named, -⟩ := Option.map_eq_some_iff.mp found
    obtain ⟨id, at_id, -⟩ := Option.bind_eq_some_iff.mp named
    obtain ⟨e, entered, listed⟩ := h.lookup_eq_some_iff.mp at_id
    obtain ⟨l', placed, compiles⟩ := h.compile_getElem? entered
    rw [lexer_of_lookup at_id, placed] at found
    cases found
    exact ⟨e, List.mem_of_getElem? entered, listed, compiles⟩
  · rintro ⟨e, mem, listed, compiles⟩
    obtain ⟨id, entered⟩ := List.mem_iff_getElem?.mp mem
    obtain ⟨l', placed, compiles'⟩ := h.compile_getElem? entered
    rw [lexer_of_lookup (h.lookup_eq_some_iff.mpr ⟨e, entered, listed⟩), placed]
    rw [compiles] at compiles'
    cases compiles'
    rfl

theorem lexer?_perm (h : Describes r es) (h' : Describes r' es') (perm : es.Perm es')
    (name : String) : r.lexer? name = r'.lexer? name := by
  refine Option.ext fun l => ?_
  simp only [h.lexer?_eq_some_iff, h'.lexer?_eq_some_iff, perm.mem_iff]

theorem languages_perm (h : Describes r es) (h' : Describes r' es') (perm : es.Perm es') :
    r.languages = r'.languages := by
  rw [h.languages_eq, h'.languages_eq, Entry.allNames_perm perm]

theorem length_definitions_perm (h : Describes r es) (h' : Describes r' es')
    (perm : es.Perm es') : r.definitions.length = r'.definitions.length := by
  rw [h.definitions_eq, h'.definitions_eq, List.length_map, List.length_map, perm.length_eq]

theorem scan_perm (h : Describes r es) (h' : Describes r' es') (perm : es.Perm es')
    (frozen : r.frozen = true) (frozen' : r'.frozen = true) (language source : String)
    (base : Nat) : r.scan language source base = r'.scan language source base := by
  have alike : Scan.Alike r r' language :=
    ⟨h.compiled_lexers, fun name _ => h.lexer?_perm h' perm name⟩
  exact alike.scan_eq frozen frozen' source base

theorem load_perm (h : Describes r es) (h' : Describes r' es') (perm : es.Perm es')
    (format : Dump.Format) : DumpsAlike format (r.dump format) (r'.dump format) := by
  obtain ⟨loaded, eq, frozen, describes⟩ := h.load_dump format
  obtain ⟨loaded', eq', frozen', describes'⟩ := h'.load_dump format
  refine ⟨loaded, loaded', eq, eq', describes.languages_perm describes' perm, ?_⟩
  intro language source base
  refine ⟨_, Scan.scan_eq_fresh frozen language source base, ?_⟩
  rw [← describes.scan_perm describes' perm frozen frozen', Scan.scan_eq_fresh frozen]

end Describes

end Tincture
