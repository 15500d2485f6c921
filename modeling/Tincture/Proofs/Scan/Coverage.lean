import Tincture.Proofs.Scan.Reference

/-!
Where the decorations of a scan stand.

What a scan returns begins with its text, ends before the end of it and never stands inside a
character; no decoration is without text and none repeats the tag of the one before. All of it
follows from what the decorations paint (`scan_paints`, `simplified_paints`), for languages of the
registry as for any other lexer.
-/

namespace Tincture

/-- The decorations lie in order in the text, which begins at `base`. -/
structure Covers (source : String) (base : Nat) (ds : List Decoration) : Prop where
  eq_nil_iff : ds = [] ↔ source = ""
  first_eq : ∀ d ∈ ds.head?, d.position = base
  canonical : Canonical (base + source.utf8ByteSize) ds
  boundary : ∀ d ∈ ds, base ≤ d.position ∧ String.Pos.Raw.IsValid source ⟨d.position - base⟩

namespace Paints

variable {base : Nat} {source : String} {tags : List Tag} {ds : List Decoration}

/-- What paints a text that is not empty has a decoration at its beginning. -/
theorem tagAt?_first {text : List Char} (h : Paints base text tags ds) (nonempty : text ≠ []) :
    tagAt? ds base ≠ none := by
  have positive := byteLength_pos nonempty
  rw [← h.length_eq] at positive
  have tagged := h.tagged 0 positive
  rw [Nat.add_zero] at tagged
  simp [tagged]

theorem covers (h : Paints base source.toList tags ds)
    (canonical : Canonical (base + byteLength source.toList) ds) : Covers source base ds := by
  rw [byteLength_toList] at canonical
  refine ⟨?_, ?_, canonical, ?_⟩
  · constructor
    · rintro rfl
      by_contra nonempty
      exact h.tagAt?_first (by simpa using nonempty) rfl
    · rintro rfl
      refine List.eq_nil_iff_forall_not_mem.mpr ?_
      intro d mem
      have := h.inside mem
      simp at this
      omega
  · intro d first
    cases ds with
    | nil => cases first
    | cons e es =>
      obtain rfl : e = d := Option.some.inj first
      have inside := h.inside List.mem_cons_self
      refine Nat.le_antisymm (Nat.le_of_not_lt fun later => ?_) inside.1
      refine h.tagAt?_first (fun empty => ?_) (tagAt?_eq_none_iff.mpr fun f mem => ?_)
      · rw [empty] at inside
        simp at inside
        omega
      · rcases List.mem_cons.mp mem with rfl | mem
        · exact later
        · exact Nat.lt_trans later (canonical.first_lt f mem)
  · intro d mem
    obtain ⟨before, after, eq, -, position⟩ := h.standing d mem
    refine ⟨(h.inside mem).1, ?_⟩
    rw [position, Nat.add_sub_cancel_left]
    exact isValid_of_append eq

end Paints

namespace Scan

/-- Whatever a frozen registry scans, in any language and with any lexer, the decorations lie in
order in the text, as long as the text ends at a position. -/
theorem scan_covers {E : Type} [Engine E] [Engine.Confined E] (r : Registry E)
    (frozen : r.frozen = true) (source : String) (base : Nat)
    (fits : base + source.utf8ByteSize < positionLimit) :
    (∀ language, ∃ ds, r.scan language source base = .ok ds ∧ Covers source base ds) ∧
      ∀ lexer, ∃ ds, r.scanWith lexer source base = .ok ds ∧ Covers source base ds := by
  constructor
  · intro language
    obtain ⟨ds, scanned, paints, canonical⟩ := scan_paints frozen language fits
    exact ⟨ds, scanned, paints.covers canonical⟩
  · intro lexer
    have known : Known r lexer ⟨none, lexer⟩ := rfl
    rw [← byteLength_toList] at fits
    obtain ⟨paints, canonical⟩ := simplified_paints known fits
    exact ⟨_, if_pos frozen, paints.covers canonical⟩

/-- A text with a character of two bytes and an embedded language. -/
theorem scan_covers_bracketed :
    ∃ r : Registry, Registry.ofDefinitions bracketed = .ok r ∧ r.frozen = true ∧
      3 + "é<x>".utf8ByteSize < positionLimit ∧
      let ds : List Decoration :=
        [⟨3, .keyword⟩, ⟨5, .punctuation⟩, ⟨6, .string⟩, ⟨7, .punctuation⟩]
      r.scan "outer" "é<x>" 3 = .ok ds ∧ Covers "é<x>" 3 ds ∧
        ∀ lexer, ∃ ds, r.scanWith lexer "é<x>" 3 = .ok ds ∧ Covers "é<x>" 3 ds := by
  obtain ⟨r, eq⟩ := exists_bracketed
  have frozen := Registry.frozen_of_ofDefinitions eq
  have fits : 3 + "é<x>".utf8ByteSize < positionLimit := by decide
  obtain ⟨named, brought⟩ := scan_covers r frozen "é<x>" 3 fits
  have scanned : r.scan "outer" "é<x>" 3 =
      .ok [⟨3, .keyword⟩, ⟨5, .punctuation⟩, ⟨6, .string⟩, ⟨7, .punctuation⟩] :=
    scan_bracketed eq (by decide +kernel)
  obtain ⟨ds, scanned', covers⟩ := named "outer"
  cases scanned.symm.trans scanned'
  exact ⟨r, eq, frozen, fits, scanned, covers, brought⟩

end Scan

end Tincture
