import Mathlib.Data.Finset.Sort
import Mathlib.Data.String.Basic
import Tincture.Proofs.Lexer.Parts
import Tincture.Registry

/-!
A registry as a list of entries.

What a registry holds is a list of entries, each with the names it was given and its rules. No name
is in two entries, for a name keeps its first entry, and no entry is without names, for a lexer that
would get none is not kept. `Describes` relates a registry to its entries, and `Describes.enter`
says that entering rules adds an entry of the names that were free, if there were any.

A lexer is given its names before it has its place among the lexers. `foldl_claim` is what holds of
the names when all of them have been looked at, whether the lexer is then kept or not.
-/

namespace Tincture

/-- The names of a language and its rules. -/
structure Entry where
  names : Finset String
  rules : RuleSet

namespace Entry

/-- The names of all entries. -/
def allNames (es : List Entry) : Finset String := es.foldr (fun e names => e.names ∪ names) ∅

/-- Adds an entry with the names that are free, if there are any. -/
def extend (es : List Entry) (names : List String) (rules : RuleSet) : List Entry :=
  let free := names.toFinset \ allNames es
  if free = ∅ then es else es ++ [⟨free, rules⟩]

theorem mem_allNames {es : List Entry} {name : String} :
    name ∈ allNames es ↔ ∃ e ∈ es, name ∈ e.names := by
  induction es with
  | nil => simp [allNames]
  | cons e es ih =>
    simp only [allNames, List.foldr_cons, Finset.mem_union, List.mem_cons, exists_eq_or_imp] at ih ⊢
    rw [ih]

end Entry

/-- The registry holds these entries: the lexers are compiled from their rules, each name has the
place of its entry, and names are neither lacking nor shared. -/
structure Describes (r : Registry) (es : List Entry) : Prop where
  compiled : List.Forall₂ (fun l e => Lexer.compile e.rules = .ok l) r.lexers.toList es
  mem_ids_iff : ∀ name id, (name, id) ∈ r.ids ↔ ∃ e, es[id]? = some e ∧ name ∈ e.names
  nodup : (r.ids.map (·.1)).Nodup
  nonempty : ∀ e ∈ es, e.names.Nonempty
  disjoint : es.Pairwise fun a b => Disjoint a.names b.names

/-! ### Looking names up -/

theorem lookup_isSome_iff_mem {ids : List (String × Nat)} {name : String} :
    (ids.lookup name).isSome ↔ name ∈ ids.map (·.1) := by
  simp [List.lookup_isSome_iff]

/-- When every name is there once, looking a name up finds the pair that has it. -/
theorem lookup_eq_some_iff_mem {ids : List (String × Nat)} (nodup : (ids.map (·.1)).Nodup)
    {name : String} {id : Nat} : ids.lookup name = some id ↔ (name, id) ∈ ids := by
  induction ids with
  | nil => simp
  | cons e ids ih =>
    obtain ⟨fresh, nodup⟩ := List.nodup_cons.mp nodup
    rw [List.lookup_cons, List.mem_cons]
    by_cases same : name = e.1
    · subst same
      have absent : (e.1, id) ∉ ids := fun mem => fresh (List.mem_map.mpr ⟨_, mem, rfl⟩)
      simp [absent, Prod.ext_iff, eq_comm]
    · have other : (name == e.1) = false := by simpa using same
      rw [other, ih nodup]
      simp [Prod.ext_iff, same]

/-- Names without repetitions are sorted as the set of them. -/
theorem sorted_eq_sort {names : List String} (once : names.Nodup) {set : Finset String}
    (mem_iff : ∀ name, name ∈ names ↔ name ∈ set) : Registry.sorted names = set.sort := by
  have same : names.toFinset = set := Finset.ext fun name => List.mem_toFinset.trans (mem_iff name)
  have perm : (Registry.sorted names).Perm set.sort := by
    rw [← same]
    exact (List.mergeSort_perm _ _).trans
      ((List.toFinset_toList once).symm.trans (names.toFinset.sort_perm_toList _).symm)
  exact perm.eq_of_pairwise' (List.pairwise_mergeSort' (· ≤ ·) names) (set.pairwise_sort _)

namespace Registry

/-! ### Giving names -/

/-- What holds of the names when some of them have been looked at: the free ones among these have
been given to the lexer, each once, and whether there were any is known. -/
theorem foldl_claim (id : Nat) (names : List String) (ids : List (String × Nat)) (used : Bool) :
    ∃ given : List String,
      names.foldl (claim id) (ids, used) = (ids ++ given.map (·, id), used || !given.isEmpty) ∧
      given.Nodup ∧
      ∀ name, name ∈ given ↔ name ∈ names ∧ name ∉ ids.map (·.1) := by
  induction names generalizing ids used with
  | nil => exact ⟨[], by simp, List.nodup_nil, by simp⟩
  | cons name names ih =>
    rw [List.foldl_cons]
    by_cases taken : name ∈ ids.map (·.1)
    · obtain ⟨given, eq, nodup, mem_iff⟩ := ih ids used
      refine ⟨given, ?_, nodup, fun other => ?_⟩
      · rw [claim, if_pos (lookup_isSome_iff_mem.mpr taken), eq]
      · rw [mem_iff, List.mem_cons]
        constructor
        · rintro ⟨mem, free⟩
          exact ⟨.inr mem, free⟩
        · rintro ⟨rfl | mem, free⟩
          · exact absurd taken free
          · exact ⟨mem, free⟩
    · obtain ⟨given, eq, nodup, mem_iff⟩ := ih (ids ++ [(name, id)]) true
      have fresh : name ∉ given := by
        intro mem
        exact ((mem_iff name).mp mem).2 (by simp)
      refine ⟨name :: given, ?_, List.nodup_cons.mpr ⟨fresh, nodup⟩, fun other => ?_⟩
      · rw [claim, if_neg (mt lookup_isSome_iff_mem.mp taken), eq]
        simp
      · rw [List.mem_cons, mem_iff, List.mem_cons, List.map_append, List.mem_append]
        constructor
        · rintro (rfl | ⟨mem, free⟩)
          · exact ⟨.inl rfl, taken⟩
          · exact ⟨.inr mem, fun mem' => free (.inl mem')⟩
        · rintro ⟨rfl | mem, free⟩
          · exact .inl rfl
          · by_cases same : other = name
            · exact .inl same
            · refine .inr ⟨mem, ?_⟩
              rintro (mem' | mem')
              · exact free mem'
              · exact same (by simpa using mem')

end Registry

/-! ### Entering rules -/

namespace Describes

variable {r : Registry} {es : List Entry}

theorem empty : Describes {} [] :=
  ⟨.nil, by simp, List.nodup_nil, by simp, .nil⟩

theorem size_eq (h : Describes r es) : r.lexers.size = es.length := by
  rw [← Array.length_toList]
  exact h.compiled.length_eq

/-- The names of the entries are those that are taken. -/
theorem mem_allNames_iff (h : Describes r es) (name : String) :
    name ∈ Entry.allNames es ↔ name ∈ r.ids.map (·.1) := by
  rw [Entry.mem_allNames]
  constructor
  · rintro ⟨e, mem, named⟩
    obtain ⟨id, found⟩ := List.mem_iff_getElem?.mp mem
    exact List.mem_map.mpr ⟨(name, id), (h.mem_ids_iff name id).mpr ⟨e, found, named⟩, rfl⟩
  · intro mem
    obtain ⟨⟨other, id⟩, held, rfl⟩ := List.mem_map.mp mem
    obtain ⟨e, found, named⟩ := (h.mem_ids_iff other id).mp held
    exact ⟨e, List.mem_of_getElem? found, named⟩

/-- A lexer that is given some names, all of them free, makes a further entry. -/
theorem push (h : Describes r es) {lexer : Lexer} {rules : RuleSet}
    (compiles : Lexer.compile rules = .ok lexer) {given : List String} (some_given : given ≠ [])
    (nodup : given.Nodup) (free : ∀ name ∈ given, name ∉ r.ids.map (·.1)) :
    Describes
      { r with
        ids := r.ids ++ given.map (·, r.lexers.size)
        lexers := r.lexers.push lexer }
      (es ++ [⟨given.toFinset, rules⟩]) := by
  have size := h.size_eq
  refine ⟨?_, fun name id => ?_, ?_, ?_, ?_⟩
  · rw [Array.toList_push]
    exact List.rel_append h.compiled (.cons compiles .nil)
  · rw [List.mem_append, h.mem_ids_iff]
    constructor
    · rintro (⟨e, found, named⟩ | mem)
      · exact ⟨e, List.getElem?_append_left (List.getElem?_eq_some_iff.mp found).1 ▸ found, named⟩
      · obtain ⟨_, mem, eq⟩ := List.mem_map.mp mem
        cases eq
        exact ⟨⟨given.toFinset, rules⟩, by simp [size], List.mem_toFinset.mpr ‹_›⟩
    · rintro ⟨e, found, named⟩
      by_cases old : id < es.length
      · rw [List.getElem?_append_left old] at found
        exact .inl ⟨e, found, named⟩
      · rw [List.getElem?_append_right (Nat.le_of_not_lt old), List.getElem?_singleton] at found
        split at found
        · cases found
          have last : id = r.lexers.size := by omega
          exact .inr (List.mem_map.mpr ⟨name, List.mem_toFinset.mp named, by rw [last]⟩)
        · cases found
  · have names : (given.map (·, r.lexers.size)).map (·.1) = given := by simp [Function.comp_def]
    rw [List.map_append, names]
    exact h.nodup.append nodup fun name taken mem => free name mem taken
  · intro e mem
    rcases List.mem_append.mp mem with mem | mem
    · exact h.nonempty e mem
    · rw [List.mem_singleton.mp mem]
      exact (List.toFinset_nonempty_iff given).mpr some_given
  · refine List.pairwise_append.mpr ⟨h.disjoint, List.pairwise_singleton _ _, ?_⟩
    intro e mem f mem'
    rw [List.mem_singleton.mp mem']
    refine Finset.disjoint_left.mpr ?_
    intro name named given
    refine free name (List.mem_toFinset.mp given) ?_
    exact (h.mem_allNames_iff name).mp (Entry.mem_allNames.mpr ⟨e, mem, named⟩)

/-- Entering rules that compile adds an entry of the names that are free. -/
theorem enter (h : Describes r es) (open_ : r.frozen = false) {lexer : Lexer} {rules : RuleSet}
    (compiles : Lexer.compile rules = .ok lexer) (names : List String) :
    ∃ r', r.enter names rules = (.ok (), r') ∧ r'.frozen = false ∧
      Describes r' (Entry.extend es names rules) := by
  obtain ⟨given, claimed, nodup, mem_iff⟩ :=
    Registry.foldl_claim r.lexers.size names r.ids false
  have free : names.toFinset \ Entry.allNames es = given.toFinset := by
    ext name
    rw [Finset.mem_sdiff, List.mem_toFinset, List.mem_toFinset, h.mem_allNames_iff, mem_iff]
  have entered : r.enter names rules =
      (.ok (), { r with
        ids := r.ids ++ given.map (·, r.lexers.size)
        lexers := if !given.isEmpty then r.lexers.push lexer else r.lexers }) := by
    rw [Registry.enter, if_neg (by simp [open_]), compiles]
    simp only [claimed, Bool.false_or]
  refine ⟨_, entered, open_, ?_⟩
  rw [Entry.extend, free]
  by_cases none : given = []
  · subst none
    simpa using h
  · have kept : (!given.isEmpty) = true := by simpa using none
    have some_free : given.toFinset ≠ ∅ := by simpa using none
    rw [if_pos kept, if_neg some_free]
    exact h.push compiles none nodup fun name mem => ((mem_iff name).mp mem).2

/-! ### What a registry answers -/

theorem lookup_eq_some_iff (h : Describes r es) {name : String} {id : Nat} :
    r.ids.lookup name = some id ↔ ∃ e, es[id]? = some e ∧ name ∈ e.names := by
  rw [lookup_eq_some_iff_mem h.nodup, h.mem_ids_iff]

/-- The place of every name is that of a lexer. -/
theorem id_lt_size (h : Describes r es) {name : String} {id : Nat} (mem : (name, id) ∈ r.ids) :
    id < r.lexers.size := by
  obtain ⟨e, found, -⟩ := (h.mem_ids_iff name id).mp mem
  rw [h.size_eq]
  exact (List.getElem?_eq_some_iff.mp found).1

/-- Every lexer has a name. -/
theorem exists_name (h : Describes r es) {id : Nat} (lt : id < r.lexers.size) :
    ∃ name, (name, id) ∈ r.ids := by
  rw [h.size_eq] at lt
  obtain ⟨name, named⟩ := h.nonempty es[id] (List.getElem_mem lt)
  exact ⟨name, (h.mem_ids_iff name id).mpr ⟨es[id], List.getElem?_eq_getElem lt, named⟩⟩

/-- The lexer at a place has the rules of the entry there. -/
theorem rules_getElem? (h : Describes r es) (id : Nat) :
    r.lexers[id]?.map (·.rules) = es[id]?.map (·.rules) := by
  have same : r.lexers.toList.map (·.rules) = es.map (·.rules) :=
    List.forall₂_eq_eq_eq ▸ List.forall₂_map_left_iff.mpr
      (List.forall₂_map_right_iff.mpr (h.compiled.imp fun _ _ => Lexer.rules_of_compile))
  rw [← Array.getElem?_toList, ← List.getElem?_map, same, List.getElem?_map]

/-- The lexer at a place is compiled from the rules of the entry there. -/
theorem compile_getElem? (h : Describes r es) {id : Nat} {e : Entry} (found : es[id]? = some e) :
    ∃ l, r.lexers[id]? = some l ∧ Lexer.compile e.rules = .ok l := by
  obtain ⟨lt, rfl⟩ := List.getElem?_eq_some_iff.mp found
  have lt' : id < r.lexers.toList.length := h.compiled.length_eq ▸ lt
  refine ⟨r.lexers.toList[id], ?_, h.compiled.get lt' lt⟩
  rw [← Array.getElem?_toList, List.getElem?_eq_getElem lt']

/-- A name leads to the rules of the entry that has it. -/
theorem lexer?_rules (h : Describes r es) (name : String) :
    (r.lexer? name).map (·.rules) = (es.find? (name ∈ ·.names)).map (·.rules) := by
  cases found : r.ids.lookup name with
  | none =>
    have absent : es.find? (name ∈ ·.names) = none := by
      refine List.find?_eq_none.mpr fun e mem named => ?_
      obtain ⟨id, at_id⟩ := List.mem_iff_getElem?.mp mem
      rw [h.lookup_eq_some_iff.mpr ⟨e, at_id, of_decide_eq_true named⟩] at found
      cases found
    rw [absent, Registry.lexer?, Registry.find?, found]
    rfl
  | some id =>
    obtain ⟨e, at_id, named⟩ := h.lookup_eq_some_iff.mp found
    have present : es.find? (name ∈ ·.names) = some e := by
      cases first : es.find? (name ∈ ·.names) with
      | none =>
        have := List.find?_eq_none.mp first e (List.mem_of_getElem? at_id)
        exact absurd (decide_eq_true named) this
      | some f =>
        -- The first entry with the name has the place the name leads to.
        obtain ⟨other, at_other⟩ := List.mem_iff_getElem?.mp (List.mem_of_find?_eq_some first)
        have named' := List.find?_some first
        have same := h.lookup_eq_some_iff.mpr ⟨f, at_other, of_decide_eq_true named'⟩
        rw [found] at same
        cases same
        rw [← at_id, at_other]
    have rules := h.rules_getElem? id
    rw [at_id] at rules
    rw [present, ← rules, Registry.lexer?, Registry.find?, found, Option.bind_some, Option.map_map,
      Option.map_map]
    rfl

/-- All names are listed in ascending order. -/
theorem languages_eq (h : Describes r es) : r.languages = (Entry.allNames es).sort :=
  sorted_eq_sort h.nodup fun name => (h.mem_allNames_iff name).symm

/-- The names of the lexer at a place are those of the entry there. -/
theorem sorted_names_eq (h : Describes r es) {id : Nat} {e : Entry} (found : es[id]? = some e) :
    Registry.sorted ((r.ids.filter (·.2 == id)).map (·.1)) = e.names.sort := by
  have once : ((r.ids.filter (·.2 == id)).map (·.1)).Nodup :=
    h.nodup.sublist (List.filter_sublist.map _)
  refine sorted_eq_sort once ?_
  intro name
  constructor
  · intro mem
    obtain ⟨⟨other, place⟩, held, rfl⟩ := List.mem_map.mp mem
    obtain ⟨kept, here⟩ := List.mem_filter.mp held
    obtain rfl : place = id := eq_of_beq here
    obtain ⟨f, found', named⟩ := (h.mem_ids_iff other place).mp kept
    rw [found] at found'
    cases found'
    exact named
  · intro named
    refine List.mem_map.mpr ⟨(name, id), List.mem_filter.mpr ⟨?_, by simp⟩, rfl⟩
    exact (h.mem_ids_iff name id).mpr ⟨e, found, named⟩

/-- The definitions are the entries, with their names in ascending order. -/
theorem definitions_eq (h : Describes r es) :
    r.definitions = es.map fun e => { names := e.names.sort, rules := some e.rules } := by
  refine List.ext_getElem? ?_
  intro id
  have rules := h.rules_getElem? id
  rw [Registry.definitions, List.getElem?_map, List.getElem?_map, List.getElem?_zipIdx,
    Array.getElem?_toList, Nat.zero_add]
  cases found : es[id]? with
  | none =>
    rw [found] at rules
    rw [Option.map_eq_none_iff.mp rules]
    rfl
  | some e =>
    rw [found] at rules
    obtain ⟨lexer, at_id, same⟩ := Option.map_eq_some_iff.mp rules
    simp only [at_id, Option.map_some, h.sorted_names_eq found, same]

end Describes

end Tincture
