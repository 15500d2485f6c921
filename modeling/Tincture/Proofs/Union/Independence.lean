import Tincture.Proofs.Union.Leading
import Tincture.Proofs.Union.References

/-!
What the alternatives of a union have to do with one another.

The patterns of a union share how it treats case and how its groups are numbered, and nothing else.
The first is settled by the patterns as a set, although they are looked at in order and not always
to the end (`CaseMode.detectFrom_eq`). As to the second, an alternative is told part by part
(`Part.written`), and how many groups are captured before it only moves on the numbers of its
references (`Part.map_lower_written`). So a union whose patterns stand in another order has the same
alternatives, up to that (`alternatives_of_perm`).
-/

namespace Tincture.Union

/-! ### Case -/

/-- Whether a pattern minds case and has letters outside its escapes. -/
def mindsCase (p : Pattern) : Bool := !p.ignoreCase && hasBareLetters p.source.toList

namespace CaseMode

/-- A pattern that minds case settles the mode, whatever comes before or after it. -/
theorem detectFrom_eq (ignoreCase : Bool) (patterns : List Pattern) :
    detectFrom ignoreCase patterns =
      if patterns.any mindsCase then ⟨false, true⟩
      else ⟨ignoreCase || patterns.any (·.ignoreCase), false⟩ := by
  induction patterns generalizing ignoreCase with
  | nil => simp [detectFrom]
  | cons p rest ih =>
    rw [detectFrom, ih, ih, List.any_cons, List.any_cons, mindsCase]
    cases p.ignoreCase <;> cases hasBareLetters p.source.toList <;> simp

theorem detect_eq (patterns : List Pattern) :
    detect patterns =
      ⟨patterns.any (·.ignoreCase) && !patterns.any mindsCase, patterns.any mindsCase⟩ := by
  rw [detect, detectFrom_eq]
  cases patterns.any mindsCase <;> simp

theorem detect_perm {ps qs : List Pattern} (perm : ps.Perm qs) : detect qs = detect ps := by
  rw [detect_eq, detect_eq, perm.any_eq, perm.any_eq]

/-- The alternative for any character does not count. -/
theorem detect_catchAll (patterns : List Pattern) :
    detect (patterns ++ [catchAll]) = detect patterns := by
  have silent : mindsCase catchAll = false := by decide +kernel
  have minding : catchAll.ignoreCase = false := rfl
  simp [detect_eq, silent, minding]

end CaseMode

/-! ### Alternatives in parts -/

namespace Part

/-- The parts that the parts of a pattern are written as, where `captured` groups are captured
before, those in `kept` go on capturing and `opened` have been opened so far. -/
def written (fold : Bool) (captured : Nat) (kept : List Nat) (opened : Nat) :
    List Part → List Part
  | [] => []
  | .group :: rest =>
    (if kept.contains (opened + 1) then .group else wrapper)
      :: written fold captured kept (opened + 1) rest
  | .numeric text value :: rest =>
    (if value = 0 then .numeric text value
      else if value ≤ opened then
        .numeric ('\\' :: Nat.toDigits 10 (newNumber captured kept value))
          (newNumber captured kept value)
      else .escape (codePoint value)) :: written fold captured kept opened rest
  | .caret :: rest =>
    (if rest.head? = some .caret then [.caret] else []) ++ written fold captured kept opened rest
  | .bracket text :: rest =>
    .bracket (if fold then foldClass text else text) :: written fold captured kept opened rest
  | .literal text :: rest =>
    .literal (if fold then foldLetters text else text) :: written fold captured kept opened rest
  | part :: rest => part :: written fold captured kept opened rest

theorem text_written (fold : Bool) (captured : Nat) (kept : List Nat) (opened : Nat)
    (parts : List Part) :
    (written fold captured kept opened parts).flatMap text =
      writeParts fold captured kept opened parts := by
  induction parts generalizing opened with
  | nil => rfl
  | cons part rest ih =>
    cases part with
    | group =>
      rw [written, writeParts, List.flatMap_cons, ih]
      split <;> rfl
    | numeric text value =>
      rw [written, writeParts, List.flatMap_cons, ih]
      split_ifs <;> rfl
    | caret =>
      rw [written, writeParts, List.flatMap_append, ih]
      split_ifs <;> rfl
    | _ => simp only [written, writeParts, List.flatMap_cons, ih, text]

/-- The part, the number of groups captured before being subtracted if it is a reference. -/
def lower (captured : Nat) : Part → Part
  | .numeric text value =>
    if value = 0 then .numeric text value
    else .numeric ('\\' :: Nat.toDigits 10 (value - captured)) (value - captured)
  | part => part

theorem newNumber_eq (captured : Nat) (kept : List Nat) (group : Nat) :
    newNumber captured kept group = captured + newNumber 0 kept group := by
  rw [newNumber, newNumber, Nat.zero_add]

/-- A reference is to a group of the same alternative, so its number is beyond those of the groups
captured before. -/
theorem newNumber_lower (captured : Nat) {kept : List Nat} {value : Nat} (own : value ∈ kept)
    (positive : value ≠ 0) :
    captured < newNumber captured kept value ∧
      newNumber captured kept value - captured = newNumber 0 kept value := by
  obtain ⟨group, rfl⟩ := Nat.exists_eq_succ_of_ne_zero positive
  have first := @newNumber_pos 0 kept group own
  rw [newNumber_eq]
  exact ⟨Nat.lt_add_of_pos_right first, Nat.add_sub_cancel_left _ _⟩

variable {fold : Bool} {opened : Nat} {kept : List Nat} {parts : List Part}

theorem mem_references_numeric (text : List Char) (value : Nat) {number : Nat}
    (mem : number ∈ references opened parts) :
    number ∈ references opened (.numeric text value :: parts) := by
  rw [references]
  split
  · exact List.mem_cons_of_mem value mem
  · exact mem

theorem lt_of_mem_written (captured : Nat)
    (refers : ∀ number ∈ references opened parts, number ∈ kept) {t : List Char} {number : Nat}
    (mem : .numeric t number ∈ written fold captured kept opened parts) :
    number = 0 ∨ captured < number := by
  induction parts generalizing opened with
  | nil => cases mem
  | cons part rest ih =>
    cases part with
    | numeric text value =>
      rcases List.mem_cons.mp mem with eq | mem
      · split_ifs at eq with zero within
        · cases eq
          exact .inl zero
        · cases eq
          rw [references, if_pos ⟨zero, within⟩] at refers
          exact .inr (newNumber_lower captured (refers value List.mem_cons_self) zero).1
      · exact ih (fun number mem => refers number (mem_references_numeric text value mem)) mem
    | group =>
      rcases List.mem_cons.mp mem with eq | mem
      · split at eq <;> cases eq
      · exact ih refers mem
    | caret =>
      rcases List.mem_append.mp mem with own | mem
      · split at own <;> simp at own
      · exact ih refers mem
    | _ =>
      rcases List.mem_cons.mp mem with eq | mem
      · cases eq
      · exact ih refers mem

/-- Groups captured before an alternative move on the numbers of its references. -/
theorem map_lower_written (captured : Nat)
    (refers : ∀ number ∈ references opened parts, number ∈ kept) :
    (written fold captured kept opened parts).map (lower captured) =
      written fold 0 kept opened parts := by
  induction parts generalizing opened with
  | nil => rfl
  | cons part rest ih =>
    cases part with
    | numeric text value =>
      have others := ih fun number mem => refers number (mem_references_numeric text value mem)
      rw [written, written, List.map_cons, others]
      congr 1
      split_ifs with zero within
      · rw [lower, if_pos zero]
      · rw [references, if_pos ⟨zero, within⟩] at refers
        obtain ⟨lt, eq⟩ := newNumber_lower captured (refers value List.mem_cons_self) zero
        rw [lower, if_neg (by omega), eq]
      · rfl
    | group =>
      rw [written, written, List.map_cons, ih refers]
      split <;> rfl
    | caret =>
      rw [written, written, List.map_append, ih refers]
      split_ifs <;> rfl
    | _ => simp only [written, List.map_cons, ih refers, lower]

/-- The groups that go on capturing are numbered one after the other. -/
theorem count_written (captured : Nat) :
    newNumber captured kept opened + (written fold captured kept opened parts).count .group =
      newNumber captured kept (opened + parts.count .group) := by
  induction parts generalizing opened with
  | nil => rfl
  | cons part rest ih =>
    cases part with
    | group =>
      have next := @ih (opened + 1)
      rw [newNumber_succ] at next
      rw [written, List.count_cons_self, Nat.add_comm (rest.count _) 1, ← Nat.add_assoc opened]
      split
      · rename_i own
        rw [if_pos own] at next
        rw [List.count_cons_self]
        omega
      · rename_i other
        rw [if_neg other] at next
        rw [List.count_cons_of_ne wrapper_ne_group]
        omega
    | numeric text value =>
      rw [written, count_group (by split_ifs <;> simp), count_group (by simp), ih]
    | caret =>
      rw [written, count_group (by simp), List.count_append, ← ih]
      split <;> simp
    | _ =>
      simp only [written]
      rw [count_group (by simp), count_group (by simp), ih]

end Part

/-! ### All alternatives -/

/-- The alternative for a pattern in parts, `captured` groups being captured before it. -/
def alternativeParts (mode : CaseMode) (captured : Nat) (p : Pattern) : List Part :=
  let parts := Part.split p.source.toList
  Part.written (p.ignoreCase && mode.foldCase) captured (Part.references 0 parts).eraseDups 0 parts

/-- The alternatives of a union in parts. The groups of each come after those of the ones before. -/
def partsOf (mode : CaseMode) (captured : Nat) : List Pattern → List (List Part)
  | [] => []
  | p :: rest =>
    let parts := alternativeParts mode captured p
    parts :: partsOf mode (captured + parts.count .group) rest

variable {mode : CaseMode}

/-- The groups that an alternative keeps are those its pattern refers to. -/
theorem count_alternativeParts (captured : Nat) (p : Pattern) :
    (alternativeParts mode captured p).count .group =
      (Part.references 0 (Part.split p.source.toList)).eraseDups.length := by
  have bounds : ∀ number ∈ (Part.references 0 (Part.split p.source.toList)).eraseDups,
      number ≠ 0 ∧ number ≤ 0 + (Part.split p.source.toList).count .group := by
    intro number mem
    exact Part.references_bounds number (List.mem_eraseDups.mp mem)
  have nodup := nodup_eraseDups (Part.references 0 (Part.split p.source.toList))
  rw [alternativeParts]
  generalize (Part.references 0 (Part.split p.source.toList)).eraseDups = kept at *
  have counted := @Part.count_written (p.ignoreCase && mode.foldCase) 0 kept
    (Part.split p.source.toList) captured
  rw [newNumber_zero fun mem => (bounds 0 mem).1 rfl,
    newNumber_total nodup fun number mem => (bounds number mem).2] at counted
  exact Nat.add_left_cancel counted

/-- The parts make up the alternatives. -/
theorem alternativesOf_eq (captured : Nat) (patterns : List Pattern) :
    alternativesOf mode captured patterns =
      (partsOf mode captured patterns).map (·.flatMap Part.text) := by
  induction patterns generalizing captured with
  | nil => rfl
  | cons p rest ih =>
    rw [partsOf, List.map_cons, count_alternativeParts, ← ih, alternativeParts, Part.text_written]
    rfl

/-- How many groups the alternatives in front of a place keep. -/
def keptBefore (mode : CaseMode) (patterns : List Pattern) (place : Nat) : Nat :=
  ((partsOf mode 0 patterns).take place).flatten.count .group

/-- Other patterns bear on an alternative only by the groups they keep before it. -/
theorem getElem?_partsOf (captured : Nat) (patterns : List Pattern) (place : Nat) :
    (partsOf mode captured patterns)[place]? = patterns[place]?.map (alternativeParts mode
      (captured + ((partsOf mode captured patterns).take place).flatten.count .group)) := by
  induction patterns generalizing captured place with
  | nil => rfl
  | cons p rest ih =>
    cases place with
    | zero => rfl
    | succ place =>
      rw [partsOf, List.getElem?_cons_succ, List.getElem?_cons_succ, ih, List.take_succ_cons,
        List.flatten_cons, List.count_append, Nat.add_assoc]

/-- The alternative of a pattern is the same in all unions of that mode, once the number of groups
kept before it is subtracted from its references. -/
theorem lower_partsOf (mode : CaseMode) {patterns : List Pattern} {place : Nat} {p : Pattern}
    (placed : patterns[place]? = some p) :
    ∃ parts, (partsOf mode 0 patterns)[place]? = some parts ∧
      (∀ text number, .numeric text number ∈ parts →
        number = 0 ∨ keptBefore mode patterns place < number) ∧
      parts.map (Part.lower (keptBefore mode patterns place)) = alternativeParts mode 0 p := by
  have refers : ∀ number ∈ Part.references 0 (Part.split p.source.toList),
      number ∈ (Part.references 0 (Part.split p.source.toList)).eraseDups :=
    fun number mem => List.mem_eraseDups.mpr mem
  refine ⟨_, by rw [getElem?_partsOf, placed, Option.map_some, Nat.zero_add, ← keptBefore],
    fun text number mem => ?_, ?_⟩
  · exact Part.lt_of_mem_written _ refers mem
  · exact Part.map_lower_written _ refers

/-- The alternative of a pattern that has no references, wherever it stands in a union. -/
def alternativeText (mode : CaseMode) (p : Pattern) : String :=
  "(?:" ++ String.ofList (leading mode p) ++ ")"

/-- Without references the alternatives are written one by one. -/
theorem sourceOf_of_unreferenced {patterns : List Pattern}
    (unreferenced : ∀ p ∈ patterns, Part.references 0 (Part.split p.source.toList) = []) :
    sourceOf (patterns ++ [catchAll]) =
      "|".intercalate ((patterns ++ [catchAll]).map
        (alternativeText (CaseMode.detect patterns))) := by
  rw [sourceOf, CaseMode.detect_catchAll, alternativesOf_append _ unreferenced, List.map_append,
    List.map_append, List.map_map]
  rfl

/-! ### Main result -/

/-- Patterns in another order make up a union with the same case mode, which is told by the patterns
as a set. An alternative differs only by the groups kept before it: subtract their number from each
reference, and it is the same in both unions. Without references, the alternatives are the same, in
the order of the patterns. -/
theorem alternatives_of_perm {ps qs : List Pattern} (perm : ps.Perm qs) :
    (CaseMode.detect qs = CaseMode.detect ps ∧
      CaseMode.detect (ps ++ [catchAll]) = CaseMode.detect ps ∧
      ((CaseMode.detect ps).ignoreCase = true ↔ (∃ p ∈ ps, p.ignoreCase = true) ∧
        ∀ p ∈ ps, p.ignoreCase = false → hasBareLetters p.source.toList = false) ∧
      ((CaseMode.detect ps).foldCase = true ↔
        ∃ p ∈ ps, p.ignoreCase = false ∧ hasBareLetters p.source.toList = true)) ∧
    (∀ (mode : CaseMode) (patterns : List Pattern), alternativesOf mode 0 patterns =
      (partsOf mode 0 patterns).map (·.flatMap Part.text)) ∧
    (∀ mode i j p, (ps ++ [catchAll])[i]? = some p → (qs ++ [catchAll])[j]? = some p →
      ∃ parts parts', (partsOf mode 0 (ps ++ [catchAll]))[i]? = some parts ∧
        (partsOf mode 0 (qs ++ [catchAll]))[j]? = some parts' ∧
        (∀ text number, .numeric text number ∈ parts →
          number = 0 ∨ keptBefore mode (ps ++ [catchAll]) i < number) ∧
        (∀ text number, .numeric text number ∈ parts' →
          number = 0 ∨ keptBefore mode (qs ++ [catchAll]) j < number) ∧
        parts.map (Part.lower (keptBefore mode (ps ++ [catchAll]) i)) =
          parts'.map (Part.lower (keptBefore mode (qs ++ [catchAll]) j))) ∧
    ((∀ p ∈ ps, Part.references 0 (Part.split p.source.toList) = []) →
      sourceOf (ps ++ [catchAll]) =
          "|".intercalate ((ps ++ [catchAll]).map (alternativeText (CaseMode.detect ps))) ∧
        sourceOf (qs ++ [catchAll]) =
          "|".intercalate ((qs ++ [catchAll]).map (alternativeText (CaseMode.detect ps)))) := by
  refine ⟨⟨CaseMode.detect_perm perm, CaseMode.detect_catchAll ps, ?_, ?_⟩,
    fun mode patterns => alternativesOf_eq 0 patterns, ?_, ?_⟩
  · simp [CaseMode.detect_eq, mindsCase]
  · simp [CaseMode.detect_eq, mindsCase]
  · intro mode i j p placed placed'
    obtain ⟨parts, found, beyond, lowered⟩ := lower_partsOf mode placed
    obtain ⟨parts', found', beyond', lowered'⟩ := lower_partsOf mode placed'
    exact ⟨parts, parts', found, found', beyond, beyond', lowered.trans lowered'.symm⟩
  · intro unreferenced
    refine ⟨sourceOf_of_unreferenced unreferenced, ?_⟩
    rw [sourceOf_of_unreferenced fun p mem => unreferenced p (perm.mem_iff.mpr mem),
      CaseMode.detect_perm perm]

/-- Two patterns that refer to groups, the first of which minds case. -/
def referring : List Pattern :=
  [{ source := "(a)\\1" }, { source := "(b)(c)\\2", ignoreCase := true }]

theorem alternatives_of_perm_referring :
    referring.Perm referring.reverse ∧
      sourceOf (referring ++ [catchAll]) =
        "(?:(a)\\1)|(?:(?:[Bb])([Cc])\\2)|(?:[\\s\\S])" ∧
      sourceOf (referring.reverse ++ [catchAll]) =
        "(?:(?:[Bb])([Cc])\\1)|(?:(a)\\2)|(?:[\\s\\S])" ∧
      ∃ parts parts', (partsOf ⟨false, true⟩ 0 (referring ++ [catchAll]))[0]? = some parts ∧
        (partsOf ⟨false, true⟩ 0 (referring.reverse ++ [catchAll]))[1]? = some parts' ∧
        parts.map (Part.lower 0) = parts'.map (Part.lower 1) := by
  have perm : referring.Perm referring.reverse := (List.reverse_perm referring).symm
  obtain ⟨parts, parts', found, found', -, -, same⟩ :=
    (alternatives_of_perm perm).2.2.1 ⟨false, true⟩ 0 1 { source := "(a)\\1" } rfl rfl
  have none : keptBefore ⟨false, true⟩ (referring ++ [catchAll]) 0 = 0 := rfl
  have one : keptBefore ⟨false, true⟩ (referring.reverse ++ [catchAll]) 1 = 1 := by decide +kernel
  rw [none, one] at same
  exact ⟨perm, by decide +kernel, by decide +kernel, parts, parts', found, found', same⟩

end Tincture.Union
