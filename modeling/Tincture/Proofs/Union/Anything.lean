import Tincture.Proofs.Regex.Phrase

/-!
The alternative for any character.

A union ends with the class of all white space and all that is none. Its members are worked out with
the rest of the class tables, so that nothing is missing is a fact about sets: if membership begins
at zero and does not end at any bound, it does not end at all (`union_eq_everything`). Where case is
ignored the class is closed under folding, and that adds nothing (`run_anything`).
-/

namespace Tincture

/-! ### Everything -/

namespace CodeSet

/-- The set of all code points. -/
def everything : CodeSet := ⟨#[0]⟩

theorem everything_contains (n : Nat) : everything.contains n = true := by
  simp [contains, crossings, everything, firstAbove]

/-- A union to which all bounds belong, zero among them, is everything. -/
theorem union_eq_everything {s t : CodeSet} (nonempty : s.bounds.isEmpty = false)
    (nonempty' : t.bounds.isEmpty = false) (zero : 0 ∈ s.bounds.toList ++ t.bounds.toList)
    (all : ∀ n ∈ s.bounds.toList ++ t.bounds.toList, (s.contains n || t.contains n) = true) :
    s.union t = everything := by
  have constant {points : List Nat}
      (all : ∀ n ∈ points, (s.contains n || t.contains n) = true) :
      changes (fun n => s.contains n || t.contains n) true points = [] := by
    induction points with
    | nil => rfl
    | cons n points ih =>
      obtain ⟨here, others⟩ := List.forall_mem_cons.mp all
      simpa [changes, here] using ih others
  simp only [union, nonempty, nonempty', Bool.false_eq_true, if_false, ofPoints]
  generalize s.bounds.toList ++ t.bounds.toList = bounds at zero all
  have sorted : (bounds.mergeSort (· ≤ ·)).Pairwise fun a b => decide (a ≤ b) = true :=
    List.pairwise_mergeSort (by simp; omega) (by simp; omega) bounds
  have zero : 0 ∈ bounds.mergeSort (· ≤ ·) := List.mem_mergeSort.mpr zero
  have all : ∀ n ∈ bounds.mergeSort (· ≤ ·), (s.contains n || t.contains n) = true :=
    fun n mem => all n (List.mem_mergeSort.mp mem)
  cases points : bounds.mergeSort (· ≤ ·) with
  | nil =>
    rw [points] at zero
    cases zero
  | cons n rest =>
    rw [points] at zero sorted all
    obtain ⟨here, others⟩ := List.forall_mem_cons.mp all
    have least : n = 0 := by
      rcases List.mem_cons.mp zero with same | later
      · exact same.symm
      · have := (List.pairwise_cons.mp sorted).1 0 later
        simpa using this
    subst least
    simp [changes, here, constant others, everything]

theorem everything_union (s : CodeSet) : everything.union s = everything := by
  cases empty : s.bounds.isEmpty with
  | true =>
    simp only [union, empty, if_true]
    rfl
  | false =>
    refine union_eq_everything rfl empty (by simp [everything]) fun n _ => ?_
    rw [everything_contains, Bool.true_or]

end CodeSet

namespace Regex

/-! ### Alternatives -/

/-- Alternatives are tried one after the other. -/
theorem run_alternatives {as : List Node} (nonempty : as ≠ []) (t : Subject) (k : Next)
    (s : Spot) : (Node.alternatives as).run t k s = as.findSome? fun a => a.run t k s := by
  induction as with
  | nil => exact absurd rfl nonempty
  | cons a as ih =>
    cases as with
    | nil => simp [Node.alternatives]
    | cons b as =>
      rw [List.findSome?_cons, ← ih (List.cons_ne_nil b as)]
      change (Node.alt a (Node.alternatives (b :: as))).run t k s = _
      rw [run_alt_eq_or]
      cases a.run t k s <;> rfl

/-- The first alternative that matches wins. -/
theorem matchAt?_alternatives {as : List Node} (nonempty : as ≠ []) (text : Array Char)
    (pos : Nat) :
    ({ node := Node.alternatives as, nonEmpty := true } : Regex).matchAt? text pos =
      as.findSome? fun a => ({ node := a, nonEmpty := true } : Regex).matchAt? text pos :=
  run_alternatives nonempty _ _ _

/-! ### Any character -/

/-- What is white space, and what is none. -/
theorem space_union_complement :
    Class.space.union Class.space.complement = CodeSet.everything :=
  CodeSet.union_eq_everything rfl rfl (by decide +kernel) (by decide +kernel)

/-- The phrase for any single character. -/
def anything : Phrase :=
  .atom (.bracket ['\\', 's', '\\', 'S'] (.of_isClassBody rfl) (by decide)) none .done

theorem read_anything : ClassText.read ['\\', 's', '\\', 'S', ']'] =
    .ok (⟨⟨CodeSet.everything, .empty, true⟩, false⟩, 5) := by
  have members : ((({} : Members).union { set := Class.space, wide := true }).union
      { set := Class.space.complement, wide := true }) = ⟨CodeSet.everything, .empty, true⟩ := by
    rw [← space_union_complement]
    rfl
  rw [← members]
  simp [ClassText.read, Bracket.opened, Bracket.openedAfter, Bracket.read_escape,
    Bracket.read_close, Bracket.pushEscape, Class.ofLetter?, Bracket.pushNamed, Bracket.settle,
    Bracket.close, bind, Except.bind, Except.map, pure, Except.pure]

theorem lexeme_anything : Atom.lexeme (.bracket ['\\', 's', '\\', 'S']
    (.of_isClassBody rfl) (by decide)) =
      .ok (.bracket ⟨⟨CodeSet.everything, .empty, true⟩, false⟩) :=
  congrArg (Except.map _) read_anything

theorem anything_sound : anything.Sound := ⟨⟨_, lexeme_anything⟩, ⟨id, rfl⟩, trivial⟩

/-- Within the text, any character matches. -/
theorem run_anything {t : Subject} {k : Next} {s r : Spot} (ignoreCase : Bool)
    (inside : s.pos < t.text.size) (goes_on : k (s.moveTo (s.pos + 1)) = some r) :
    (anything.node ignoreCase).run t k s = some r := by
  have one : (Node.one CodeSet.everything).run t k s = some r := by
    have held : t.holdsAt CodeSet.everything s.pos = true := by
      simp only [Subject.holdsAt, Array.getElem?_eq_getElem inside, CodeSet.holds,
        CodeSet.everything_contains]
    simp only [Node.run, held, if_true, goes_on]
  have node : anything.node ignoreCase = ({ flags := { ignoreCase } } : Draft).classNode
      ⟨⟨CodeSet.everything, .empty, true⟩, false⟩ := by
    change Atom.node ignoreCase _ = _
    simp only [Atom.node, lexeme_anything, Lexeme.node]
  rw [node]
  cases ignoreCase with
  | false => exact one
  | true =>
    have several : CodeSet.everything.only? = none := rfl
    simp only [Draft.classNode, Bool.not_true, Bool.false_eq_true, if_false, several,
      Fold.closure, CodeSet.everything_union]
    rw [run_alternatives (List.cons_ne_nil _ _), List.findSome?_cons, one]

theorem matchAt?_anything (ignoreCase : Bool) {text : Array Char} {pos : Nat}
    (inside : pos < text.size) :
    ({ node := anything.node ignoreCase, nonEmpty := true } : Regex).matchAt? text pos =
      some { pos := pos + 1 } :=
  run_anything (s := { pos }) ignoreCase inside (by simp [Spot.moveTo])

end Regex

end Tincture
