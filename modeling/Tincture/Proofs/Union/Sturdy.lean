import Tincture.Proofs.Regex.Enclosure
import Tincture.Union.Tokens

/-!
Patterns that compile in every union.

A pattern that compiles alone need not do so in a union, where it is rewritten and stands in
parentheses. `Pattern.Sturdy` is about a pattern by itself, but patterns that are sturdy can be
joined with all others that are (`Union.compile_of_sturdy`): since they do not refer back to their
groups, none of them captures anything in a union, so they are written the same wherever they stand.
`Pattern.passes` finds out whether a pattern is sturdy by reading it and its alternatives once.
-/

namespace Tincture

open Regex Tincture.Union

namespace Union

/-- Without references, it does not matter how many groups are captured before a pattern. -/
theorem writeParts_of_unreferenced (fold : Bool) (captured : Nat) (kept : List Nat) {opened : Nat}
    {parts : List Part} (h : Part.references opened parts = []) :
    writeParts fold captured kept opened parts = writeParts fold 0 kept opened parts := by
  induction parts generalizing opened with
  | nil => rfl
  | cons part rest ih =>
    cases part with
    | numeric text value =>
      rw [Part.references] at h
      split at h
      · cases h
      · rename_i unreferenced
        rw [writeParts, writeParts, ih h]
        by_cases zero : value = 0
        · rw [if_pos zero, if_pos zero]
        · have beyond : ¬ value ≤ opened := fun le => unreferenced ⟨zero, le⟩
          rw [if_neg zero, if_neg zero, if_neg beyond, if_neg beyond]
    | _ => simp only [writeParts, ih h]

/-- A pattern without references captures nothing in a union. -/
theorem alternativeOf_of_unreferenced (fold : Bool) (captured : Nat) {source : List Char}
    (h : Part.references 0 (Part.split source) = []) :
    alternativeOf fold captured source = ((alternativeOf fold 0 source).1, captured) := by
  simp only [alternativeOf, h, List.eraseDups_nil, List.length_nil, Nat.add_zero]
  rw [writeParts_of_unreferenced fold captured [] h]

end Union

/-- The pattern compiles, and so does every union of patterns like it. -/
structure Pattern.Sturdy (p : Pattern) : Prop where
  unflagged : p.forbiddenFlag? = none
  alone : Outline.closes p.ignoreCase p.source.toList = true
  unreferenced : Part.references 0 (Part.split p.source.toList) = []
  enclosed : ∀ foldCase, Enclosed (alternativeOf (p.ignoreCase && foldCase) 0 p.source.toList).1

namespace Pattern

/-- Whether a text is read without a group being opened for good or captured. -/
def encloses (text : List Char) : Bool :=
  (Outline.within? {} text).any fun o => o.groups == 0 && o.outer.isEmpty

theorem within_of_encloses {text : List Char} (h : encloses text = true) :
    ∃ filled, Outline.within? {} text = some ⟨0, filled, []⟩ := by
  rw [encloses, Option.any_eq_true_iff_get] at h
  obtain ⟨some_, bare⟩ := h
  obtain ⟨⟨groups, filled, outer⟩, within⟩ := Option.isSome_iff_exists.mp some_
  simp only [within, Option.get_some, Bool.and_eq_true, beq_iff_eq, List.isEmpty_iff] at bare
  obtain ⟨rfl, rfl⟩ := bare
  exact ⟨filled, within⟩

theorem enclosed_of_encloses {text : List Char} (h : encloses text = true) : Enclosed text := by
  obtain ⟨filled, within⟩ := within_of_encloses h
  exact enclosed_of_within within

/-- Whether the text of a pattern is sturdy. -/
def passes (ignoreCase : Bool) (source : List Char) : Bool :=
  Outline.closes ignoreCase source && (Part.references 0 (Part.split source)).isEmpty
    && encloses (alternativeOf false 0 source).1
    && (!ignoreCase || encloses (alternativeOf true 0 source).1)

theorem sturdy_of_passes {p : Pattern} {source : List Char} (unflagged : p.forbiddenFlag? = none)
    (spelled : p.source = String.ofList source) (h : passes p.ignoreCase source = true) :
    p.Sturdy := by
  have spelled : p.source.toList = source := by rw [spelled, String.toList_ofList]
  simp only [passes, Bool.and_eq_true, Bool.or_eq_true, List.isEmpty_iff] at h
  obtain ⟨⟨⟨alone, unreferenced⟩, minding⟩, folding⟩ := h
  rw [← spelled] at alone unreferenced minding folding
  refine ⟨unflagged, alone, unreferenced, fun foldCase => enclosed_of_encloses ?_⟩
  cases ignoring : p.ignoreCase with
  | false => exact minding
  | true =>
    cases foldCase with
    | false => exact minding
    | true => exact folding.resolve_left (by rw [ignoring]; exact Bool.false_ne_true)

theorem Sturdy.check {p : Pattern} (h : p.Sturdy) : p.check = .ok () := by
  rw [Pattern.check, h.unflagged]

theorem Sturdy.compile {p : Pattern} (h : p.Sturdy) : ∃ regex, p.compile = .ok regex := by
  obtain ⟨⟨node, groups⟩, parsed⟩ := parse_of_closes h.alone
  refine ⟨{ node }, ?_⟩
  simp only [Pattern.compile, h.check, bind, Except.bind, compileSource,
    Engine.compile_regex, Regex.compile, parsed,
    Except.map]

end Pattern

theorem catchAll_sturdy : catchAll.Sturdy :=
  Pattern.sturdy_of_passes rfl rfl (by decide +kernel)

namespace Union

/-- The alternatives of sturdy patterns are enclosed. -/
theorem alternativesOf_enclosed {patterns : List Pattern} (h : ∀ p ∈ patterns, p.Sturdy)
    (mode : CaseMode) : ∀ text ∈ alternativesOf mode 0 patterns, Enclosed text := by
  induction patterns with
  | nil => exact fun _ mem => absurd mem List.not_mem_nil
  | cons p rest ih =>
    have sturdy := h p List.mem_cons_self
    have written :=
      alternativeOf_of_unreferenced (p.ignoreCase && mode.foldCase) 0 sturdy.unreferenced
    intro text mem
    rw [alternativesOf, written] at mem
    rcases List.mem_cons.mp mem with rfl | mem
    · exact sturdy.enclosed mode.foldCase
    · exact ih (fun q mem => h q (List.mem_cons_of_mem p mem)) text mem

theorem sourceOf_toList (patterns : List Pattern) :
    (sourceOf patterns).toList =
      ['|'].intercalate ((alternativesOf (CaseMode.detect patterns) 0 patterns).map grouped) := by
  rw [sourceOf, String.toList_intercalate, List.map_map]
  congr 1
  refine List.map_congr_left ?_
  intro text _
  simp [grouped]

/-- Patterns can be joined if they may be used in rules and the text of the union can be parsed. -/
theorem compile_of_parse {patterns : List Pattern} {node : Node} {groups : Nat}
    (checks : ∀ p ∈ patterns ++ [catchAll], p.check = .ok ())
    (parsed : Node.parse (CaseMode.detect (patterns ++ [catchAll])).ignoreCase
      (sourceOf (patterns ++ [catchAll])).toList = .ok (node, groups)) :
    compile patterns = .ok ⟨sourceOf (patterns ++ [catchAll]), (patterns ++ [catchAll]).length,
      { node, nonEmpty := true }⟩ := by
  simp only [compile, forM_eq_ok_iff.mpr checks, bind, Except.bind, Pattern.compileSource,
    Engine.compile_regex, Regex.compile, parsed, Except.map]
  rfl

/-- Sturdy patterns can be joined. -/
theorem compile_of_sturdy {patterns : List Pattern} (h : ∀ p ∈ patterns, p.Sturdy) :
    ∃ union, compile patterns = .ok union := by
  have all : ∀ p ∈ patterns ++ [catchAll], p.Sturdy := by
    intro p mem
    rcases List.mem_append.mp mem with mem | mem
    · exact h p mem
    · rw [List.mem_singleton.mp mem]
      exact catchAll_sturdy
  have closes := closes_intercalate
    (alternativesOf_enclosed all (CaseMode.detect (patterns ++ [catchAll])))
    (CaseMode.detect (patterns ++ [catchAll])).ignoreCase
  rw [← sourceOf_toList] at closes
  obtain ⟨⟨node, groups⟩, parsed⟩ := parse_of_closes closes
  exact ⟨_, compile_of_parse (fun p mem => (all p mem).check) parsed⟩

end Union

end Tincture
