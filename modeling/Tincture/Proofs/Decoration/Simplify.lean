import Mathlib.Data.List.Chain
import Tincture.Proofs.Decoration.Painting

/-!
The simplified form of a list of decorations.

`simplify` works in place: it reads the array from left to right and moves what it keeps down over
what it has read. The loop invariant `Compaction.Holds` says that it never writes where it has still
to read, and hence that the result is that of two separate passes, `dropEmpty` and `dropRepeats`.

For ordered lists the result is a canonical form: it paints the same, it is `Canonical`, and among
canonical lists only one paints the same (`Canonical.ext`).
-/

namespace Tincture

/-! ### Two passes -/

/-- Drops each decoration whose position is that of the next one, or the end of the text. -/
def dropEmpty (stop : Nat) : List Decoration → List Decoration
  | [] => []
  | d :: rest =>
    if nextPosition stop rest = d.position then dropEmpty stop rest else d :: dropEmpty stop rest

/-- Drops each decoration whose tag is that of the last one kept; `last` is that of the one kept
before. -/
def dropRepeats : Option Tag → List Decoration → List Decoration
  | _, [] => []
  | last, d :: rest =>
    if last = some d.tag then dropRepeats last rest else d :: dropRepeats (some d.tag) rest

theorem dropEmpty_append (stop : Nat) (ds es : List Decoration) :
    dropEmpty stop (ds ++ es) = dropEmpty (nextPosition stop es) ds ++ dropEmpty stop es := by
  induction ds with
  | nil => rfl
  | cons d ds ih =>
    have next : nextPosition stop (ds ++ es) = nextPosition (nextPosition stop es) ds := by
      cases ds <;> rfl
    simp only [List.cons_append, dropEmpty, next, ih]
    split <;> rfl

theorem dropRepeats_append (last : Option Tag) (ds es : List Decoration) :
    dropRepeats last (ds ++ es) = dropRepeats last ds ++
      dropRepeats (((dropRepeats last ds).getLast?.map (·.tag)).or last) es := by
  induction ds generalizing last with
  | nil => rfl
  | cons d ds ih =>
    simp only [List.cons_append, dropRepeats]
    split
    · exact ih last
    · rw [ih, List.cons_append, List.getLast?_cons]
      cases (dropRepeats (some d.tag) ds).getLast? <;> rfl

theorem dropEmpty_sublist (stop : Nat) (ds : List Decoration) : (dropEmpty stop ds).Sublist ds := by
  induction ds with
  | nil => exact .slnil
  | cons d ds ih =>
    simp only [dropEmpty]
    split
    · exact ih.cons d
    · exact ih.cons_cons d

theorem dropRepeats_sublist (last : Option Tag) (ds : List Decoration) :
    (dropRepeats last ds).Sublist ds := by
  induction ds generalizing last with
  | nil => exact .slnil
  | cons d ds ih =>
    simp only [dropRepeats]
    split
    · exact (ih last).cons d
    · exact (ih (some d.tag)).cons_cons d

/-! ### The loop -/

namespace Compaction

/-- The loop has read `front` and has still to read `rest`: what it keeps fits into what it has
read, the rest is as it was, and the final decorations are those the two passes leave of `front`. -/
structure Holds (stop : Nat) (front rest : List Decoration) (c : Compaction) : Prop where
  kept_le : c.kept ≤ front.length
  unread : c.cells.toList.drop front.length = rest
  final : c.cells.toList.take c.kept = dropRepeats none (dropEmpty (nextPosition stop rest) front)

variable {stop : Nat} {front rest : List Decoration} {d : Decoration} {c : Compaction}

theorem Holds.start (stop : Nat) (ds : List Decoration) :
    Holds stop [] ds { cells := ds.toArray } :=
  ⟨Nat.le_refl _, rfl, rfl⟩

theorem Holds.cell_eq (h : Holds stop front rest c) (k : Nat) :
    c.cells[front.length + k]? = rest[k]? := by
  rw [← h.unread, List.getElem?_drop, Array.getElem?_toList]

theorem Holds.endAt_eq (h : Holds stop front (d :: rest) c) :
    c.endAt stop front.length = nextPosition stop rest := by
  have next := h.cell_eq 1
  rw [Compaction.endAt, next]
  cases rest <;> rfl

/-- The tag kept last is that of the last decoration the two passes leave. -/
theorem Holds.lastTag?_eq (h : Holds stop front (d :: rest) c) :
    c.lastTag? = (c.cells.toList.take c.kept).getLast?.map (·.tag) := by
  have long : front.length < c.cells.toList.length := by
    by_contra short
    have := h.unread
    rw [List.drop_eq_nil_of_le (Nat.le_of_not_lt short)] at this
    cases this
  unfold lastTag?
  rw [List.getLast?_take]
  split
  · rfl
  · rename_i kept
    have inside : c.kept - 1 < c.cells.toList.length := by
      have := h.kept_le
      omega
    rw [Array.getElem?_toList, Array.getElem?_eq_getElem inside]
    rfl

/-- One step of the loop. -/
theorem Holds.step (h : Holds stop front (d :: rest) c) :
    Holds stop (front ++ [d]) rest (c.step stop front.length) := by
  have read : c.cells[front.length]? = some d := h.cell_eq 0
  have final := h.final
  rw [show nextPosition stop (d :: rest) = d.position from rfl] at final
  have tail : c.cells.toList.drop (front.length + 1) = rest := by
    rw [← List.drop_drop, h.unread]
    rfl
  have passes : dropEmpty (nextPosition stop rest) (front ++ [d]) =
      dropEmpty d.position front ++ dropEmpty (nextPosition stop rest) [d] :=
    dropEmpty_append _ _ _
  simp only [Compaction.step, read, h.endAt_eq, h.lastTag?_eq]
  split
  · -- The decoration covers no text.
    rename_i empty
    refine ⟨?_, by simpa using tail, ?_⟩
    · rw [List.length_append]
      exact Nat.le_succ_of_le h.kept_le
    · rw [passes, dropEmpty, nextPosition, if_pos empty, dropEmpty, List.append_nil, final]
  · rename_i covers
    have kept : dropEmpty (nextPosition stop rest) [d] = [d] := by
      rw [dropEmpty, nextPosition, if_neg covers, dropEmpty]
    rw [kept] at passes
    split
    · -- It repeats the tag kept last.
      rename_i repeated
      refine ⟨?_, by simpa using tail, ?_⟩
      · rw [List.length_append]
        exact Nat.le_succ_of_le h.kept_le
      · rw [passes, dropRepeats_append, ← final, repeated, Option.some_or, dropRepeats,
          if_pos rfl, dropRepeats, List.append_nil]
    · rename_i fresh
      have below : c.kept < c.cells.toList.length := by
        have := h.kept_le
        have := (List.getElem?_eq_some_iff.mp (by rwa [Array.getElem?_toList] :
          c.cells.toList[front.length]? = some d)).1
        omega
      refine ⟨?_, ?_, ?_⟩
      · rw [List.length_append]
        exact Nat.succ_le_succ h.kept_le
      · -- The write lies before what is still to be read.
        rw [Array.toList_setIfInBounds, List.length_append, List.drop_set_of_lt]
        · exact tail
        · exact Nat.lt_succ_of_le h.kept_le
      · rw [passes, dropRepeats_append, ← final, Option.or_none, dropRepeats, if_neg fresh,
          dropRepeats, Array.toList_setIfInBounds, List.take_add_one, List.getElem?_set_self below,
          List.take_set_of_le (Nat.le_refl _)]
        rfl

/-- The whole loop. -/
theorem Holds.run (h : Holds stop front rest c) :
    Holds stop (front ++ rest) []
      ((List.range' front.length rest.length).foldl (Compaction.step stop) c) := by
  induction rest generalizing front c with
  | nil => simpa using h
  | cons d rest ih =>
    have after := ih h.step
    rw [List.append_assoc, List.length_append] at after
    exact after

end Compaction

/-- The loop in place does what the two passes do, on any list. -/
theorem simplify_eq_passes (ds : List Decoration) (stop : Nat) :
    simplify ds stop = dropRepeats none (dropEmpty stop ds) := by
  have done := (Compaction.Holds.start stop ds).run.final
  rw [List.nil_append] at done
  rw [simplify, List.range_eq_range']
  exact done

/-! ### What is painted -/

theorem Ordered.sublist {stop : Nat} {ds es : List Decoration} (h : Ordered stop ds)
    (sub : es.Sublist ds) : Ordered stop es :=
  ⟨h.ascending.sublist sub, fun d mem => h.within d (sub.subset mem)⟩

/-- A decoration that covers no text does not show. -/
theorem tagAt?_dropEmpty {stop p : Nat} (before : p < stop) (ds : List Decoration) :
    tagAt? (dropEmpty stop ds) p = tagAt? ds p := by
  induction ds with
  | nil => rfl
  | cons d ds ih =>
    simp only [dropEmpty]
    split
    · rename_i empty
      rw [ih, tagAt?_cons]
      by_cases le : d.position ≤ p
      · -- The decoration that ends where it begins is covered by the next one.
        cases ds with
        | nil =>
          simp only [nextPosition] at empty
          omega
        | cons e rest =>
          simp only [nextPosition] at empty
          have covered : tagAt? (e :: rest) p ≠ none :=
            tagAt?_ne_none List.mem_cons_self (by omega)
          obtain ⟨tag, eq⟩ := Option.ne_none_iff_exists'.mp covered
          rw [eq, Option.some_or]
      · rw [if_neg le, Option.or_none]
    · rw [tagAt?_cons, tagAt?_cons, ih]

/-- After a tag that holds already, repeating it makes no difference. -/
theorem tagAt?_dropRepeats_getD {stop p : Nat} {ds : List Decoration} (h : Ordered stop ds)
    (tag : Tag) :
    (tagAt? (dropRepeats (some tag) ds) p).getD tag = (tagAt? ds p).getD tag := by
  induction ds generalizing tag with
  | nil => rfl
  | cons d ds ih =>
    simp only [dropRepeats]
    split
    · rename_i same
      cases same
      rw [ih h.tail, tagAt?_cons]
      cases tagAt? ds p with
      | some tag => rfl
      | none => by_cases le : d.position ≤ p <;> simp [le]
    · rw [tagAt?_cons, tagAt?_cons]
      by_cases le : d.position ≤ p
      · have tail := ih h.tail d.tag
        rw [if_pos le]
        revert tail
        cases tagAt? (dropRepeats (some d.tag) ds) p <;> cases tagAt? ds p <;> simp
      · have later : ∀ e ∈ ds, p < e.position := fun e mem => by
          have := h.first_le e mem
          omega
        rw [tagAt?_eq_none_iff.mpr later,
          tagAt?_eq_none_iff.mpr fun e mem => later e ((dropRepeats_sublist _ _).subset mem)]

theorem tagAt?_dropRepeats {stop p : Nat} {ds : List Decoration} (h : Ordered stop ds) :
    tagAt? (dropRepeats none ds) p = tagAt? ds p := by
  cases ds with
  | nil => rfl
  | cons d ds =>
    have tail := tagAt?_dropRepeats_getD (p := p) h.tail d.tag
    simp only [dropRepeats, reduceCtorEq, if_false, tagAt?_cons]
    by_cases le : d.position ≤ p
    · rw [if_pos le]
      revert tail
      cases tagAt? (dropRepeats (some d.tag) ds) p <;> cases tagAt? ds p <;> simp
    · have later : ∀ e ∈ ds, p < e.position := fun e mem => by
        have := h.first_le e mem
        omega
      rw [tagAt?_eq_none_iff.mpr later,
        tagAt?_eq_none_iff.mpr fun e mem => later e ((dropRepeats_sublist _ _).subset mem)]

/-- Simplifying an ordered list leaves every tag before the end of the text as it was. -/
theorem tagAt?_simplify {stop p : Nat} {ds : List Decoration} (h : Ordered stop ds)
    (before : p < stop) : tagAt? (simplify ds stop) p = tagAt? ds p := by
  rw [simplify_eq_passes, tagAt?_dropRepeats (h.sublist (dropEmpty_sublist stop ds)),
    tagAt?_dropEmpty before]

theorem painted_simplify {stop : Nat} {ds : List Decoration} (h : Ordered stop ds) :
    painted stop (simplify ds stop) = painted stop ds := by
  funext p
  unfold painted
  split
  · exact tagAt?_simplify h ‹_›
  · rfl

theorem simplify_sublist (ds : List Decoration) (stop : Nat) : (simplify ds stop).Sublist ds := by
  rw [simplify_eq_passes]
  exact (dropRepeats_sublist none _).trans (dropEmpty_sublist stop ds)

/-- Simplified decorations paint the text as before. -/
theorem Paints.simplify {pos : Nat} {text : List Char} {tags : List Tag} {ds : List Decoration}
    (h : Paints pos text tags ds) :
    Paints pos text tags (Tincture.simplify ds (pos + byteLength text)) := by
  have sub := simplify_sublist ds (pos + byteLength text)
  refine ⟨h.ascending.sublist sub, fun d mem => h.standing d (sub.subset mem), h.length_eq, ?_⟩
  intro b lt
  have := h.length_eq
  rw [tagAt?_simplify h.ordered (by omega), h.tagged b lt]

/-! ### The canonical form -/

/-- Every decoration covers some text and changes the tag. -/
structure Canonical (stop : Nat) (ds : List Decoration) : Prop where
  increasing : ds.Pairwise (·.position < ·.position)
  before : ∀ d ∈ ds, d.position < stop
  changing : ds.IsChain (·.tag ≠ ·.tag)

theorem dropEmpty_increasing {stop : Nat} {ds : List Decoration} (h : Ordered stop ds) :
    (dropEmpty stop ds).Pairwise (·.position < ·.position) ∧
      ∀ d ∈ dropEmpty stop ds, d.position < stop := by
  induction ds with
  | nil => exact ⟨.nil, fun _ mem => absurd mem List.not_mem_nil⟩
  | cons d ds ih =>
    obtain ⟨increasing, before⟩ := ih h.tail
    simp only [dropEmpty]
    split
    · exact ⟨increasing, before⟩
    · rename_i covers
      -- What covers text ends before anything after it begins.
      have ends : ∀ e ∈ ds, d.position < e.position := by
        cases ds with
        | nil => exact fun _ mem => absurd mem List.not_mem_nil
        | cons e rest =>
          simp only [nextPosition] at covers
          have first := h.first_le e List.mem_cons_self
          intro f mem
          rcases List.mem_cons.mp mem with rfl | mem
          · omega
          · have := h.tail.first_le f mem
            omega
      refine ⟨List.pairwise_cons.mpr ⟨fun e mem => ?_, increasing⟩, fun e mem => ?_⟩
      · exact ends e ((dropEmpty_sublist stop ds).subset mem)
      · rcases List.mem_cons.mp mem with rfl | mem
        · have := h.within e List.mem_cons_self
          cases ds with
          | nil =>
            simp only [nextPosition] at covers
            omega
          | cons f rest =>
            have := ends f List.mem_cons_self
            have := h.within f (List.mem_cons_of_mem e List.mem_cons_self)
            omega
        · exact before e mem

theorem dropRepeats_changing (last : Option Tag) (ds : List Decoration) :
    (dropRepeats last ds).IsChain (·.tag ≠ ·.tag) ∧
      ∀ d ∈ (dropRepeats last ds).head?, last ≠ some d.tag := by
  induction ds generalizing last with
  | nil => exact ⟨.nil, by simp [dropRepeats]⟩
  | cons d ds ih =>
    simp only [dropRepeats]
    split
    · exact ih last
    · rename_i fresh
      obtain ⟨changing, first⟩ := ih (some d.tag)
      refine ⟨List.isChain_cons.mpr ⟨fun e mem => ?_, changing⟩, by simpa using fresh⟩
      intro same
      exact first e mem (congrArg some same)

theorem canonical_simplify {stop : Nat} {ds : List Decoration} (h : Ordered stop ds) :
    Canonical stop (simplify ds stop) := by
  obtain ⟨increasing, before⟩ := dropEmpty_increasing h
  rw [simplify_eq_passes]
  have sub := dropRepeats_sublist none (dropEmpty stop ds)
  exact ⟨increasing.sublist sub, fun d mem => before d (sub.subset mem),
    (dropRepeats_changing none _).1⟩

namespace Canonical

variable {stop : Nat} {d : Decoration} {ds es : List Decoration}

theorem tail (h : Canonical stop (d :: ds)) : Canonical stop ds :=
  ⟨(List.pairwise_cons.mp h.increasing).2, fun e mem => h.before e (List.mem_cons_of_mem d mem),
    h.changing.of_cons⟩

theorem ordered (h : Canonical stop ds) : Ordered stop ds :=
  ⟨h.increasing.imp Nat.le_of_lt, fun d mem => Nat.le_of_lt (h.before d mem)⟩

theorem first_lt (h : Canonical stop (d :: ds)) : ∀ e ∈ ds, d.position < e.position :=
  (List.pairwise_cons.mp h.increasing).1

/-- A canonical list has its first tag up to where the next decoration stands, and there another. -/
theorem tagAt?_first (h : Canonical stop (d :: ds)) :
    tagAt? (d :: ds) d.position = some d.tag :=
  tagAt?_cons_of_eq_none (tagAt?_eq_none_iff.mpr h.first_lt) (Nat.le_refl _)

/-- If two canonical lists paint the same, the first begins no earlier than the second. -/
theorem first_le_of_tagAt? {e : Decoration} (h : Canonical stop (d :: ds))
    (g : Canonical stop (e :: es))
    (same : ∀ p < stop, tagAt? (d :: ds) p = tagAt? (e :: es) p) : d.position ≤ e.position := by
  have tagged := same e.position (g.before e List.mem_cons_self)
  rw [g.tagAt?_first] at tagged
  by_contra later
  have none : tagAt? (d :: ds) e.position = none := by
    refine tagAt?_eq_none_iff.mpr fun f mem => ?_
    rcases List.mem_cons.mp mem with rfl | mem
    · omega
    · have := h.first_lt f mem
      omega
  rw [none] at tagged
  cases tagged

/-- Where the rest of one list gives a tag, so does the rest of another that paints the same and has
the same first decoration. -/
theorem tail_tagAt?_ne_none (h : Canonical stop (d :: ds))
    (same : ∀ p < stop, tagAt? (d :: ds) p = tagAt? (d :: es) p) {p : Nat}
    (tagged : tagAt? ds p ≠ none) : tagAt? es p ≠ none := by
  cases ds with
  | nil => exact absurd rfl tagged
  | cons e ds =>
    have first : e.position ≤ p := by
      by_contra later
      refine tagged (tagAt?_eq_none_iff.mpr fun f mem => ?_)
      rcases List.mem_cons.mp mem with rfl | mem
      · omega
      · have := h.tail.first_lt f mem
        omega
    intro untagged
    -- At the second decoration the one list changes its tag, and the other would not.
    have earlier : tagAt? es e.position = none :=
      tagAt?_eq_none_iff.mpr fun f mem =>
        Nat.lt_of_le_of_lt first (tagAt?_eq_none_iff.mp untagged f mem)
    have here := same e.position (h.tail.before e List.mem_cons_self)
    rw [tagAt?_cons_of_ne_none (by rw [h.tail.tagAt?_first]; exact Option.some_ne_none _),
      h.tail.tagAt?_first, tagAt?_cons_of_eq_none earlier
        (Nat.le_of_lt (h.first_lt e List.mem_cons_self))] at here
    exact (List.isChain_cons_cons.mp h.changing).1 (Option.some.inj here).symm

/-- A canonical list is determined by what it paints. -/
theorem ext (h : Canonical stop ds) (g : Canonical stop es)
    (same : ∀ p < stop, tagAt? ds p = tagAt? es p) : ds = es := by
  induction ds generalizing es with
  | nil =>
    cases es with
    | nil => rfl
    | cons e es =>
      have tagged := same e.position (g.before e List.mem_cons_self)
      rw [g.tagAt?_first] at tagged
      cases tagged
  | cons d ds ih =>
    cases es with
    | nil =>
      have tagged := same d.position (h.before d List.mem_cons_self)
      rw [h.tagAt?_first] at tagged
      cases tagged
    | cons e es =>
      have position : d.position = e.position :=
        Nat.le_antisymm (h.first_le_of_tagAt? g same)
          (g.first_le_of_tagAt? h fun p lt => (same p lt).symm)
      have tag : d.tag = e.tag := by
        have tagged := same d.position (h.before d List.mem_cons_self)
        rw [h.tagAt?_first, position, g.tagAt?_first] at tagged
        exact Option.some.inj tagged
      obtain rfl : d = e := by
        cases d
        cases e
        cases position
        cases tag
        rfl
      refine congrArg (d :: ·) (ih h.tail g.tail ?_)
      intro p lt
      by_cases tagged : tagAt? ds p = none
      · by_contra differ
        have other : tagAt? es p ≠ none := fun untagged => differ (tagged.trans untagged.symm)
        exact g.tail_tagAt?_ne_none (fun p lt => (same p lt).symm) other tagged
      · have other := h.tail_tagAt?_ne_none same tagged
        have here := same p lt
        rwa [tagAt?_cons_of_ne_none tagged, tagAt?_cons_of_ne_none other] at here

end Canonical

/-! ### Spans -/

/-- The spans cover the text between the two positions one after the other, each some of it. -/
def Tiles (start stop : Nat) : List Span → Prop
  | [] => start = stop
  | s :: rest => s.start = start ∧ start < s.stop ∧ Tiles s.stop stop rest

/-- The spans of a canonical list tile the text from its first decoration on. -/
theorem Canonical.tiles {stop : Nat} {d : Decoration} {ds : List Decoration}
    (h : Canonical stop (d :: ds)) : Tiles d.position stop (spans stop (d :: ds)) := by
  induction ds generalizing d with
  | nil => exact ⟨rfl, h.before d List.mem_cons_self, rfl⟩
  | cons e ds ih => exact ⟨rfl, h.first_lt e List.mem_cons_self, ih h.tail⟩

/-- The spans of the simplified list tile the text from the first decoration of the list on. -/
theorem tiles_simplify {stop : Nat} {d : Decoration} {ds : List Decoration}
    (h : Ordered stop (d :: ds)) :
    Tiles d.position stop (spans stop (simplify (d :: ds) stop)) := by
  have canonical := canonical_simplify h
  have painted (p : Nat) (lt : p < stop) := tagAt?_simplify h lt
  cases eq : simplify (d :: ds) stop with
  | nil =>
    -- Nothing is left only when the list begins at the end of the text.
    refine Nat.le_antisymm (h.within d List.mem_cons_self) (Nat.le_of_not_lt ?_)
    intro lt
    have tagged := painted d.position lt
    rw [eq] at tagged
    exact tagAt?_ne_none List.mem_cons_self (Nat.le_refl _) tagged.symm
  | cons e es =>
    rw [eq] at canonical painted
    have position : e.position = d.position := by
      refine Nat.le_antisymm (Nat.le_of_not_lt fun lt => ?_) ?_
      · have before := Nat.lt_trans lt (canonical.before e List.mem_cons_self)
        have none : tagAt? (e :: es) d.position = none := by
          refine tagAt?_eq_none_iff.mpr fun f mem => ?_
          rcases List.mem_cons.mp mem with rfl | mem
          · exact lt
          · exact Nat.lt_trans lt (canonical.first_lt f mem)
        rw [painted d.position before] at none
        exact tagAt?_ne_none List.mem_cons_self (Nat.le_refl _) none
      · refine Nat.le_of_not_lt ?_
        intro lt
        have before := canonical.before e List.mem_cons_self
        have tagged := painted e.position before
        rw [canonical.tagAt?_first] at tagged
        have none : tagAt? (d :: ds) e.position = none := by
          refine tagAt?_eq_none_iff.mpr fun f mem => ?_
          rcases List.mem_cons.mp mem with rfl | mem
          · exact lt
          · exact Nat.lt_of_lt_of_le lt (h.first_le f mem)
        rw [none] at tagged
        cases tagged
    rw [← position]
    exact canonical.tiles

/-! ### Main result -/

theorem simplify_eq_iff {stop : Nat} {ds es : List Decoration} (h : Ordered stop ds)
    (g : Ordered stop es) :
    simplify ds stop = simplify es stop ↔ painted stop ds = painted stop es := by
  constructor
  · intro eq
    rw [← painted_simplify h, ← painted_simplify g, eq]
  · intro same
    refine (canonical_simplify h).ext (canonical_simplify g) ?_
    intro p lt
    have here := congrFun same p
    simp only [painted, if_pos lt] at here
    rw [tagAt?_simplify h lt, tagAt?_simplify g lt, here]

theorem length_simplify_le (ds : List Decoration) (stop : Nat) :
    (simplify ds stop).length ≤ ds.length :=
  (simplify_sublist ds stop).length_le

/-- Simplification computes a canonical form. An ordered list paints from its first position to the
end of the text; its simplified form paints the same, is canonical, and tiles that stretch by its
spans. Two ordered lists have one simplified form exactly when they paint the same, so that
simplifying again changes nothing and no ordered list that paints the same is shorter. On any list
at all, the loop in place does what the two passes do. -/
theorem simplify_canonical_form (stop : Nat) :
    (∀ ds, Ordered stop ds →
      (∀ d ∈ ds.head?, ∀ p, painted stop ds p ≠ none ↔ d.position ≤ p ∧ p < stop) ∧
      painted stop (simplify ds stop) = painted stop ds ∧
      Canonical stop (simplify ds stop) ∧
      (∀ d ∈ ds.head?, Tiles d.position stop (spans stop (simplify ds stop))) ∧
      simplify (simplify ds stop) stop = simplify ds stop ∧
      ∀ es, Ordered stop es →
        (simplify ds stop = simplify es stop ↔ painted stop ds = painted stop es) ∧
        (painted stop es = painted stop ds → (simplify ds stop).length ≤ es.length)) ∧
    ∀ ds, simplify ds stop = dropRepeats none (dropEmpty stop ds) := by
  refine ⟨fun ds h => ⟨?_, painted_simplify h, canonical_simplify h, ?_, ?_, fun es g => ⟨?_, ?_⟩⟩,
    fun ds => simplify_eq_passes ds stop⟩
  · cases ds with
    | nil => simp
    | cons d ds =>
      rintro _ ⟨⟩
      exact h.painted_ne_none_iff
  · cases ds with
    | nil => simp
    | cons d ds =>
      rintro _ ⟨⟩
      exact tiles_simplify h
  · exact (simplify_eq_iff (canonical_simplify h).ordered h).mpr (painted_simplify h)
  · exact simplify_eq_iff h g
  · intro same
    rw [← (simplify_eq_iff g h).mpr same]
    exact length_simplify_le es stop

/-- A list with repeated positions and tags, and another one that paints the same. -/
theorem simplify_canonical_form_repeated :
    Ordered 6 [⟨0, .plain⟩, ⟨0, .keyword⟩, ⟨2, .plain⟩, ⟨2, .plain⟩, ⟨5, .comment⟩, ⟨6, .string⟩] ∧
    Ordered 6 [⟨0, .keyword⟩, ⟨1, .keyword⟩, ⟨2, .plain⟩, ⟨5, .comment⟩] ∧
    simplify [⟨0, .plain⟩, ⟨0, .keyword⟩, ⟨2, .plain⟩, ⟨2, .plain⟩, ⟨5, .comment⟩, ⟨6, .string⟩] 6 =
      [⟨0, .keyword⟩, ⟨2, .plain⟩, ⟨5, .comment⟩] ∧
    painted 6 [⟨0, .plain⟩, ⟨0, .keyword⟩, ⟨2, .plain⟩, ⟨2, .plain⟩, ⟨5, .comment⟩, ⟨6, .string⟩] =
      painted 6 [⟨0, .keyword⟩, ⟨1, .keyword⟩, ⟨2, .plain⟩, ⟨5, .comment⟩] := by
  have first : Ordered 6
      [⟨0, .plain⟩, ⟨0, .keyword⟩, ⟨2, .plain⟩, ⟨2, .plain⟩, ⟨5, .comment⟩, ⟨6, .string⟩] :=
    ⟨by decide, by decide⟩
  have second : Ordered 6 [⟨0, .keyword⟩, ⟨1, .keyword⟩, ⟨2, .plain⟩, ⟨5, .comment⟩] :=
    ⟨by decide, by decide⟩
  obtain ⟨-, -, -, -, -, others⟩ := (simplify_canonical_form 6).1 _ first
  exact ⟨first, second, by decide, ((others _ second).1).mp (by decide)⟩

end Tincture
