import Tincture.Proofs.Regex.WhiteSpace
import Tincture.Proofs.Union.ClassMeaning
import Tincture.Proofs.Union.Leading

/-!
Patterns that refuse white space.

A pattern of atoms and groups refuses white space if each of its alternatives asks for something
solid, outside of what is quantified (`Phrase.asksForSolid`). Whether an atom is solid can be seen
from how it is written, also that a class of ranges is (`Atom.isSolid`), so this is checked on the
phrase, before anything is compiled (`Pattern.RefusesSpace.of_phrase`). Patterns that are no phrases
are checked by parsing them (`Pattern.RefusesSpace.of_parse`).
-/

namespace Tincture

open Regex Tincture.Union

namespace Regex

/-! ### Solid atoms -/

/-- A bracket class with a plain body. -/
def Atom.ofBody (body : List Char) (plain : isClassBody body = true)
    (filled : body ≠ [] ∧ body ≠ ['^']) : Atom :=
  .bracket body (.of_isClassBody plain) filled

/-- The members of a class are characters, in ranges that have no white space; there are several. -/
def isSolidClass (ms : List (List Char)) : Bool :=
  decide (Tame ms) && ms != [] && ms.head? != some ['^'] &&
    match Contents.ofMembers ms with
    | ⟨[], ranges⟩ => ranges.all (fun r => Class.spaces.all fun n => n < r.1 || r.2 < n) &&
        ranges.any fun r => r.1 < r.2
    | _ => false

/-- The atom is no white space, as can be seen from how it is written. -/
def Atom.isSolid (ignoreCase : Bool) : Atom → Bool
  | .bracket body _ _ => isSolidClass (body.map fun c => [c])
  | a => (a.node ignoreCase).refusesSpace

theorem isSolidClass_cases {ms : List (List Char)} (h : isSolidClass ms = true) :
    Tame ms ∧ ms ≠ [] ∧ ms.head? ≠ some ['^'] ∧ ∃ ranges, Contents.ofMembers ms = ⟨[], ranges⟩ ∧
      (∀ r ∈ ranges, ∀ n ∈ Class.spaces, n < r.1 ∨ r.2 < n) ∧ ∃ r ∈ ranges, r.1 < r.2 := by
  simp only [isSolidClass, Bool.and_eq_true, decide_eq_true_eq, bne_iff_ne] at h
  obtain ⟨⟨⟨tame, nonempty⟩, caret⟩, h⟩ := h
  split at h
  · rename_i ranges contents
    simp only [Bool.and_eq_true, List.all_eq_true, List.any_eq_true, Bool.or_eq_true,
      decide_eq_true_eq] at h
    exact ⟨tame, nonempty, caret, ranges, contents, h.1, h.2⟩
  · cases h

/-- Solid atoms refuse white space. -/
theorem Atom.refusesSpace_of_isSolid {ignoreCase : Bool} {a : Atom}
    (solid : a.isSolid ignoreCase = true) : (a.node ignoreCase).refusesSpace = true := by
  cases a with
  | symbol | escape => exact solid
  | bracket body inside filled =>
    obtain ⟨tame, nonempty, caret, ranges, contents, apart, r, mem, lt⟩ := isSolidClass_cases solid
    obtain ⟨c, meant, read⟩ := read_class tame nonempty fun (_ : false = false) => caret
    have flat : (withCaret false (body.map fun c => [c])).flatten = body := by
      simp [withCaret, ← List.flatMap_def]
    have lexeme : (Atom.bracket body inside filled).lexeme = .ok (.bracket c) := by
      have here := read []
      rw [flat] at here
      rw [Atom.lexeme, here]
      rfl
    rw [Atom.node, lexeme]
    have holds (n : Nat) :
        c.members.set.contains n = true ↔ ∃ r ∈ ranges, r.1 ≤ n ∧ n ≤ r.2 := by
      rw [meant.contains_iff, contents]
      simp [Contents.Holds, covered]
    refine refusesSpace_classNode _ meant.negated ?_ fun n white =>
      Bool.eq_false_iff.mpr fun own => ?_
    · -- With a single member, the range would not have two ends.
      refine Option.eq_none_iff_forall_ne_some.mpr fun m only => ?_
      have same (n : Nat) (le : r.1 ≤ n) (le' : n ≤ r.2) : n = m := by
        have own := (holds n).mpr ⟨r, mem, le, le'⟩
        rw [CodeSet.eq_single_of_only? only] at own
        simpa using own
      have := same r.1 (Nat.le_refl _) (Nat.le_of_lt lt)
      have := same r.2 (Nat.le_of_lt lt) (Nat.le_refl _)
      omega
    · obtain ⟨r, own, low, high⟩ := (holds n).mp own
      have := apart r own n white
      omega

/-! ### Phrases -/

namespace Phrase

/-- Each alternative has something solid that is not quantified; `seen` says whether the one at hand
has had it before. -/
def asksForSolid (ignoreCase : Bool) : Phrase → Bool → Bool
  | .done, seen => seen
  | .atom a none rest, seen => rest.asksForSolid ignoreCase (seen || a.isSolid ignoreCase)
  | .group .plain body none rest, seen =>
    rest.asksForSolid ignoreCase (seen || body.asksForSolid ignoreCase false)
  | .atom _ _ rest, seen | .brace _ rest, seen | .group _ _ _ rest, seen =>
    rest.asksForSolid ignoreCase seen
  | .bar rest, seen => seen && rest.asksForSolid ignoreCase false

/-- Such a phrase refuses white space, in a group whose other alternatives do. -/
theorem refusesSpace_of_asksForSolid {ignoreCase : Bool} (x : Phrase) {seen : Bool} {n : Nat}
    {c : Content} (solid : x.asksForSolid ignoreCase seen = true)
    (before : ∀ a ∈ c.branches, a.refusesSpace = true)
    (current : seen = true → c.items.any Node.refusesSpace = true) :
    (x.onto ignoreCase n c).2.node.refusesSpace = true := by
  fun_induction asksForSolid ignoreCase x seen generalizing n c with
  | case1 seen =>
    have last : (Node.sequence c.items.reverse).refusesSpace = true := by
      rw [Node.refusesSpace_sequence, List.any_reverse]
      exact current solid
    rw [onto, Content.node, Content.branch, Node.refusesSpace_alternatives (by simp),
      List.all_reverse, List.all_eq_true]
    exact List.forall_mem_cons.mpr ⟨last, before⟩
  | case2 seen a rest ih =>
    refine ih solid before fun h => ?_
    rw [Content.push, List.any_cons, Bool.or_eq_true]
    rcases Bool.or_eq_true_iff.mp h with h | own
    · exact .inr (current h)
    · exact .inl (Atom.refusesSpace_of_isSolid own)
  | case3 seen body rest ih ihBody =>
    refine ihBody solid before fun h => ?_
    rw [Content.push, List.any_cons, Bool.or_eq_true]
    rcases Bool.or_eq_true_iff.mp h with h | own
    · exact .inr (current h)
    · exact .inl (ih own (by simp) (absurd · Bool.false_ne_true))
  | case4 seen a q rest _ ih =>
    refine ih solid before fun h => ?_
    rw [Content.push, List.any_cons, current h, Bool.or_true]
  | case5 seen q rest ih =>
    refine ih solid before fun h => ?_
    rw [Content.push, List.any_cons, current h, Bool.or_true]
  | case6 seen g body q rest _ ih =>
    refine ih solid before fun h => ?_
    rw [Content.push, List.any_cons, current h, Bool.or_true]
  | case7 seen rest ih =>
    obtain ⟨h, solid⟩ := Bool.and_eq_true_iff.mp solid
    refine ih solid (List.forall_mem_cons.mpr ⟨?_, before⟩) (absurd · Bool.false_ne_true)
    rw [Node.refusesSpace_sequence, List.any_reverse]
    exact current h

end Phrase

end Regex

/-! ### Patterns -/

namespace Pattern

/-- What a caret and a phrase are compiled to. -/
theorem node_of_compile {p : Pattern} {x : Phrase} (literal : x.isLiteral = true)
    (source : p.source.toList = '^' :: x.text) {regex : Regex} (made : p.compile = .ok regex) :
    x.Sound ∧
      regex = { node := (x.onto p.ignoreCase 0 ⟨[], [.anchor .start]⟩).2.node } := by
  obtain ⟨node, groups, parsed, rfl⟩ := parse_of_compile made
  rw [source] at parsed
  have sound : x.Sound := Phrase.sound_of_parse literal true parsed
  rw [Phrase.parse_caret x sound] at parsed
  cases parsed
  exact ⟨sound, rfl⟩

/-- Once it is compiled, the pattern refuses white space. -/
def RefusesSpace (p : Pattern) : Prop :=
  ∀ regex, p.compile = .ok regex → regex.node.refusesSpace = true

variable {p : Pattern}

theorem RefusesSpace.of_parse {source : List Char} (spelled : p.source = String.ofList source)
    (reads : (match Node.parse p.ignoreCase source with
      | .ok (a, _) => a.refusesSpace
      | .error _ => false) = true) : p.RefusesSpace := by
  intro regex made
  obtain ⟨node, groups, parsed, rfl⟩ := parse_of_compile made
  rw [spelled, String.toList_ofList] at parsed
  rw [parsed] at reads
  exact reads

theorem RefusesSpace.of_phrase {x : Phrase} (literal : x.isLiteral = true)
    (source : p.source.toList = '^' :: x.text)
    (solid : x.asksForSolid p.ignoreCase false = true) : p.RefusesSpace := by
  intro regex made
  obtain ⟨-, rfl⟩ := node_of_compile literal source made
  exact x.refusesSpace_of_asksForSolid solid nofun nofun

end Pattern

end Tincture
