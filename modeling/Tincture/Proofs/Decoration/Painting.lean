import Mathlib.Data.List.Basic
import Tincture.Decoration
import Tincture.Proofs.Text.Utf8

/-!
What a list of decorations paints.

At each position the last decoration of the list that stands at or before it gives the tag. Read up
to the end of a text, a list is a partial function from positions to tags, `painted`. Lists that
paint neighbouring texts may be put one behind the other, since the second begins where the first
ends (`Paints.append`).
-/

namespace Tincture

/-- The tag of the last decoration of the list at or before the position. -/
def tagAt? (ds : List Decoration) (p : Nat) : Option Tag :=
  (ds.filter (·.position ≤ p)).getLast?.map (·.tag)

/-- The tag at each position up to the end of the text. -/
def painted (stop : Nat) (ds : List Decoration) (p : Nat) : Option Tag :=
  if p < stop then tagAt? ds p else none

/-- The positions never decrease and do not go beyond the end of the text. -/
structure Ordered (stop : Nat) (ds : List Decoration) : Prop where
  ascending : ds.Pairwise (·.position ≤ ·.position)
  within : ∀ d ∈ ds, d.position ≤ stop

/-! ### Tags at a position -/

@[simp] theorem tagAt?_nil (p : Nat) : tagAt? [] p = none := rfl

theorem tagAt?_append (ds es : List Decoration) (p : Nat) :
    tagAt? (ds ++ es) p = (tagAt? es p).or (tagAt? ds p) := by
  simp only [tagAt?, List.filter_append, List.getLast?_append]
  cases (es.filter (·.position ≤ p)).getLast? <;> rfl

theorem tagAt?_singleton (d : Decoration) (p : Nat) :
    tagAt? [d] p = if d.position ≤ p then some d.tag else none := by
  by_cases h : d.position ≤ p <;> simp [tagAt?, h]

theorem tagAt?_cons (d : Decoration) (ds : List Decoration) (p : Nat) :
    tagAt? (d :: ds) p = (tagAt? ds p).or (if d.position ≤ p then some d.tag else none) := by
  rw [← List.singleton_append, tagAt?_append, tagAt?_singleton]

/-- There is no tag exactly where all decorations stand further on. -/
theorem tagAt?_eq_none_iff {ds : List Decoration} {p : Nat} :
    tagAt? ds p = none ↔ ∀ d ∈ ds, p < d.position := by
  induction ds with
  | nil => simp
  | cons d ds ih =>
    rw [tagAt?_cons, Option.or_eq_none_iff, ih]
    by_cases h : d.position ≤ p
    · simp [h, Nat.not_lt_of_le h]
    · simp [h, Nat.lt_of_not_le h]

theorem tagAt?_ne_none {ds : List Decoration} {d : Decoration} {p : Nat} (mem : d ∈ ds)
    (le : d.position ≤ p) : tagAt? ds p ≠ none := by
  intro h
  have := tagAt?_eq_none_iff.mp h d mem
  omega

/-- A decoration before others that already give a tag is of no account. -/
theorem tagAt?_cons_of_ne_none {d : Decoration} {ds : List Decoration} {p : Nat}
    (h : tagAt? ds p ≠ none) : tagAt? (d :: ds) p = tagAt? ds p := by
  obtain ⟨tag, eq⟩ := Option.ne_none_iff_exists'.mp h
  rw [tagAt?_cons, eq, Option.some_or]

/-- Before the other decorations the first one gives the tag. -/
theorem tagAt?_cons_of_eq_none {d : Decoration} {ds : List Decoration} {p : Nat}
    (h : tagAt? ds p = none) (le : d.position ≤ p) : tagAt? (d :: ds) p = some d.tag := by
  rw [tagAt?_cons, h, Option.none_or, if_pos le]

/-! ### Ordered lists -/

theorem Ordered.tail {stop : Nat} {d : Decoration} {ds : List Decoration}
    (h : Ordered stop (d :: ds)) : Ordered stop ds :=
  ⟨(List.pairwise_cons.mp h.ascending).2, fun e mem => h.within e (List.mem_cons_of_mem d mem)⟩

theorem Ordered.first_le {stop : Nat} {d : Decoration} {ds : List Decoration}
    (h : Ordered stop (d :: ds)) : ∀ e ∈ ds, d.position ≤ e.position :=
  (List.pairwise_cons.mp h.ascending).1

/-- An ordered list paints exactly what lies between its first position and the end of the text. -/
theorem Ordered.painted_ne_none_iff {stop : Nat} {d : Decoration} {ds : List Decoration}
    (h : Ordered stop (d :: ds)) (p : Nat) :
    painted stop (d :: ds) p ≠ none ↔ d.position ≤ p ∧ p < stop := by
  unfold painted
  split
  · rename_i before
    constructor
    · intro tagged
      refine ⟨?_, before⟩
      by_contra beyond
      refine tagged (tagAt?_eq_none_iff.mpr fun e mem => ?_)
      rcases List.mem_cons.mp mem with rfl | mem
      · omega
      · have := h.first_le e mem
        omega
    · rintro ⟨le, -⟩
      exact tagAt?_ne_none List.mem_cons_self le
  · rename_i beyond
    simp [beyond]

/-! ### Painting a stretch of text -/

/-- The decorations give each byte of the text, which begins at `pos`, its tag. They never go back,
and each stands before some character of the text. -/
structure Paints (pos : Nat) (text : List Char) (tags : List Tag) (ds : List Decoration) :
    Prop where
  ascending : ds.Pairwise (·.position ≤ ·.position)
  standing : ∀ d ∈ ds, ∃ before after, text = before ++ after ∧ after ≠ [] ∧
    d.position = pos + byteLength before
  length_eq : tags.length = byteLength text
  tagged : ∀ b (h : b < tags.length), tagAt? ds (pos + b) = some tags[b]

namespace Paints

theorem nil (pos : Nat) : Paints pos [] [] [] :=
  ⟨.nil, fun _ mem => absurd mem List.not_mem_nil, rfl, fun _ h => absurd h (Nat.not_lt_zero _)⟩

/-- A single decoration paints a whole text. -/
theorem replicate (pos : Nat) (tag : Tag) {text : List Char} (nonempty : text ≠ []) :
    Paints pos text (List.replicate (byteLength text) tag) [⟨pos, tag⟩] := by
  refine ⟨List.pairwise_singleton _ _, ?_, List.length_replicate, ?_⟩
  · rintro d mem
    rw [List.mem_singleton.mp mem]
    exact ⟨[], text, rfl, nonempty, rfl⟩
  · intro b h
    rw [tagAt?_singleton, if_pos (Nat.le_add_right pos b), List.getElem_replicate]

variable {pos : Nat} {text rest : List Char} {tags others : List Tag} {ds es : List Decoration}

theorem inside (h : Paints pos text tags ds) {d : Decoration} (mem : d ∈ ds) :
    pos ≤ d.position ∧ d.position < pos + byteLength text := by
  obtain ⟨before, after, rfl, nonempty, eq⟩ := h.standing d mem
  have := byteLength_pos nonempty
  rw [byteLength_append]
  omega

/-- Texts that follow one another are painted by their decorations one behind the other. -/
theorem append (first : Paints pos text tags ds)
    (second : Paints (pos + byteLength text) rest others es) :
    Paints pos (text ++ rest) (tags ++ others) (ds ++ es) := by
  refine ⟨?_, ?_, ?_, ?_⟩
  · refine List.pairwise_append.mpr ⟨first.ascending, second.ascending, ?_⟩
    intro d mem e mem'
    have := first.inside mem
    have := second.inside mem'
    omega
  · intro d mem
    rcases List.mem_append.mp mem with mem | mem
    · obtain ⟨before, after, rfl, nonempty, eq⟩ := first.standing d mem
      refine ⟨before, after ++ rest, List.append_assoc _ _ _, ?_, eq⟩
      simp [nonempty]
    · obtain ⟨before, after, rfl, nonempty, eq⟩ := second.standing d mem
      refine ⟨text ++ before, after, (List.append_assoc _ _ _).symm, nonempty, ?_⟩
      rw [eq, byteLength_append, Nat.add_assoc]
  · rw [List.length_append, byteLength_append, first.length_eq, second.length_eq]
  · intro b h
    rw [tagAt?_append]
    have size := first.length_eq
    by_cases lt : b < tags.length
    · have none : tagAt? es (pos + b) = none := by
        refine tagAt?_eq_none_iff.mpr fun e mem => ?_
        have := second.inside mem
        omega
      rw [none, Option.none_or, first.tagged b lt, List.getElem_append_left lt]
    · have le : tags.length ≤ b := Nat.le_of_not_lt lt
      have shorter : b - tags.length < others.length := by
        rw [List.length_append] at h
        omega
      have tagged := second.tagged (b - tags.length) shorter
      rw [show pos + byteLength text + (b - tags.length) = pos + b by omega] at tagged
      rw [tagged, Option.some_or, List.getElem_append_right le]

/-- A further decoration at the beginning shows nowhere. -/
theorem cons (tag : Tag) (h : Paints pos text tags ds) (nonempty : text ≠ []) :
    Paints pos text tags (⟨pos, tag⟩ :: ds) := by
  refine ⟨?_, ?_, h.length_eq, ?_⟩
  · exact List.pairwise_cons.mpr ⟨fun d mem => (h.inside mem).1, h.ascending⟩
  · intro d mem
    rcases List.mem_cons.mp mem with rfl | mem
    · exact ⟨[], text, rfl, nonempty, rfl⟩
    · exact h.standing d mem
  · intro b lt
    have tagged := h.tagged b lt
    rw [tagAt?_cons_of_ne_none (by simp [tagged]), tagged]

/-- Up to the end of the text the decorations are in order. -/
theorem ordered (h : Paints pos text tags ds) : Ordered (pos + byteLength text) ds :=
  ⟨h.ascending, fun _ mem => Nat.le_of_lt (h.inside mem).2⟩

end Paints

end Tincture
