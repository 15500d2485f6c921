import Mathlib.Data.List.Forall2
import Tincture.Proofs.Html.Block

/-!
The lines that are written for a decorated text.

The text of all spans is cut at the line feeds, whereas the lines are written span by span, each
with several lines or with part of one. What connects the two is an invariant of the lines while
they are written (`Lines.Hold`): those that are finished and the one being written stand for the
pieces of the text so far. Text without a line feed continues the last piece, a line feed begins
another one.
-/

namespace Tincture.Html

/-! ### Texts cut at line feeds -/

/-- The characters of the spans that are ranges of the text, with their tags. -/
def shown (source : List Char) (ds : List Decoration) : List (Char × Tag) :=
  (spans (byteLength source) ds).flatMap fun s =>
    ((sliceBytes? source s.start s.stop).getD []).map (·, s.tag)

/-- Whether a line ends with the character. -/
def endsLine (x : Char × Tag) : Bool := x.1 == '\n'

/-- What stands between the line feeds. -/
def cutLines (shown : List (Char × Tag)) : List (List (Char × Tag)) := shown.splitOnP endsLine

/-- Characters without a line feed continue the last piece. -/
theorem cutLines_append {before new cur : List (Char × Tag)} {fin : List (List (Char × Tag))}
    (within : ∀ x ∈ new, endsLine x = false) (cut : cutLines before = fin ++ [cur]) :
    cutLines (before ++ new) = fin ++ [cur ++ new] := by
  unfold cutLines at cut ⊢
  induction before generalizing fin cur with
  | nil =>
    rw [List.splitOnP_nil] at cut
    obtain ⟨rfl, last⟩ := List.append_inj' (show [] ++ [[]] = fin ++ [cur] from cut) rfl
    obtain rfl := List.head_eq_of_cons_eq last
    exact List.splitOnP_eq_singleton within
  | cons x before ih =>
    obtain ⟨fin', cur', rest⟩ : ∃ fin' cur', before.splitOnP endsLine = fin' ++ [cur'] :=
      ⟨_, _, (List.dropLast_append_getLast (List.splitOnP_ne_nil endsLine before)).symm⟩
    rw [List.splitOnP_cons_eq_if_modifyHead, rest] at cut
    rw [List.cons_append, List.splitOnP_cons_eq_if_modifyHead, ih rest]
    by_cases ends : endsLine x = true
    · rw [if_pos ends, ← List.cons_append] at cut
      obtain ⟨rfl, last⟩ := List.append_inj' cut rfl
      obtain rfl := List.head_eq_of_cons_eq last
      rw [if_pos ends, List.cons_append]
    · rw [if_neg ends] at cut
      rw [if_neg ends]
      cases fin' with
      | nil =>
        obtain ⟨rfl, last⟩ :=
          List.append_inj' (show [] ++ [x :: cur'] = fin ++ [cur] from cut) rfl
        obtain rfl := List.head_eq_of_cons_eq last
        rfl
      | cons first fin' =>
        rw [List.cons_append, List.modifyHead_cons, ← List.cons_append] at cut
        obtain ⟨rfl, last⟩ := List.append_inj' cut rfl
        obtain rfl := List.head_eq_of_cons_eq last
        rfl

/-- A line feed begins another piece. -/
theorem cutLines_lineFeed (before : List (Char × Tag)) (tag : Tag) :
    cutLines (before ++ [('\n', tag)]) = cutLines before ++ [[]] := by
  have ends : endsLine ('\n', tag) = true := rfl
  rw [cutLines, List.splitOnP_append_cons _ _ ends, List.splitOnP_nil, ← cutLines]

/-- The lines of a text: the pieces between its line feeds. Where the source ends with a line feed,
a last piece without characters is no line. -/
def linesOf (source : List Char) (shown : List (Char × Tag)) : List (List (Char × Tag)) :=
  if source.getLast? = some '\n' ∧ (cutLines shown).getLast? = some [] then
    (cutLines shown).dropLast
  else cutLines shown

/-! ### What is written for a piece -/

namespace Page

variable {p : Page}

/-- Each character under the class of its tag. -/
def classed (p : Page) (piece : List (Char × Tag)) : List (Char × List Char) :=
  piece.map fun (c, tag) => (c, p.classMark.toList ++ tag.name.toList)

/-- What is written stands for the characters of the piece. -/
structure Writes (p : Page) (written : String) (piece : List (Char × Tag)) : Prop where
  spans : ∃ ss : List Styled, written.toList = ss.flatMap Styled.text ∧
    (∀ s ∈ ss, s.Proper ∧ s.cls ≠ Line.numberClass) ∧
    (ss.mapM Styled.read?).map List.flatten = some (p.classed piece)
  empty_iff : written = "" ↔ piece = []

theorem Writes.nil : p.Writes "" [] :=
  ⟨⟨[], rfl, List.forall_mem_nil _, rfl⟩, iff_of_true rfl rfl⟩

theorem Writes.append {first second : String} {xs ys : List (Char × Tag)}
    (h : p.Writes first xs) (g : p.Writes second ys) : p.Writes (first ++ second) (xs ++ ys) := by
  obtain ⟨⟨ss, textS, properS, readS⟩, emptyS⟩ := h
  obtain ⟨⟨ts, textT, properT, readT⟩, emptyT⟩ := g
  obtain ⟨as, readAs, flatAs⟩ := Option.map_eq_some_iff.mp readS
  obtain ⟨bs, readBs, flatBs⟩ := Option.map_eq_some_iff.mp readT
  refine ⟨⟨ss ++ ts, ?_, ?_, ?_⟩, ?_⟩
  · rw [String.toList_append, textS, textT, List.flatMap_append]
  · exact List.forall_mem_append.mpr ⟨properS, properT⟩
  · rw [List.mapM_append, readAs, readBs]
    change some (as ++ bs).flatten = _
    rw [List.flatten_append, flatAs, flatBs, classed, classed, classed, List.map_append]
  · rw [String.append_eq_empty_iff, emptyS, emptyT, List.append_eq_nil_iff]

theorem plain_name (tag : Tag) : Plain tag.name.toList := by
  cases tag <;> decide

/-- No tag is named so that its class could be that of a line's number. -/
theorem numberClass_ne (mark : List Char) (tag : Tag) :
    mark ++ tag.name.toList ≠ Line.numberClass := by
  have differ : ¬ tag.name.toList <:+ Line.numberClass := by cases tag <;> decide
  intro eq
  exact differ ⟨mark, eq⟩

theorem Writes.piece (mark : Plain p.classMark.toList) (tag : Tag)
    (cs : List Char) : p.Writes (p.piece tag cs) (cs.map (·, tag)) := by
  cases cs with
  | nil => exact .nil
  | cons c cs =>
    let span : Styled := ⟨p.classMark.toList ++ tag.name.toList, escape (c :: cs)⟩
    have proper : span.Proper :=
      ⟨List.forall_mem_append.mpr ⟨mark, plain_name tag⟩, inert_escape _⟩
    have text : (p.piece tag (c :: cs)).toList = span.text := by
      unfold Page.piece Styled.text
      simp [span]
    have read : span.read? = some (p.classed ((c :: cs).map (·, tag))) := by
      rw [Styled.read?, unescape?_escape, Option.map_some, classed, List.map_map]
      rfl
    -- The characters of an empty piece are not written, so what is written here is not empty.
    refine ⟨⟨[span], ?_, ?_, ?_⟩, ?_⟩
    · rw [text, List.flatMap_singleton]
    · exact List.forall_mem_singleton.mpr ⟨proper, numberClass_ne _ tag⟩
    · rw [List.mapM_cons, read]
      change some (_ ++ []) = _
      rw [List.append_nil]
    · refine iff_of_false (fun empty => ?_) (List.cons_ne_nil _ _)
      rw [empty] at text
      unfold Styled.text at text
      simp at text

end Page

/-! ### Writing span by span -/

/-- The lines stand for the pieces of the text that has been written. -/
def Lines.Hold (p : Page) (l : Lines) (text : List (Char × Tag)) : Prop :=
  ∃ fin cur, cutLines text = fin ++ [cur] ∧ List.Forall₂ p.Writes l.finished.reverse fin ∧
    p.Writes l.current cur

section Writing

variable {p : Page} {l : Lines} {text : List (Char × Tag)}

theorem Lines.Hold.start (p : Page) : Lines.Hold p {} [] :=
  ⟨[], [], rfl, .nil, .nil⟩

theorem Lines.Hold.endLine (h : Lines.Hold p l text) (tag : Tag) :
    Lines.Hold p l.endLine (text ++ [('\n', tag)]) := by
  obtain ⟨fin, cur, cut, finished, current⟩ := h
  refine ⟨fin ++ [cur], [], ?_, ?_, .nil⟩
  · rw [cutLines_lineFeed, cut]
  · rw [Lines.endLine, List.reverse_cons]
    exact List.rel_append finished (.cons current .nil)

variable (mark : Plain p.classMark.toList)
include mark

theorem Lines.Hold.piece (h : Lines.Hold p l text) (tag : Tag) {cs : List Char}
    (within : '\n' ∉ cs) : Lines.Hold p (l.write (p.piece tag cs)) (text ++ cs.map (·, tag)) := by
  obtain ⟨fin, cur, cut, finished, current⟩ := h
  refine ⟨fin, cur ++ cs.map (·, tag), cutLines_append ?_ cut, finished, ?_⟩
  · intro x mem
    obtain ⟨c, own, rfl⟩ := List.mem_map.mp mem
    exact beq_eq_false_iff_ne.mpr fun eq => within (eq ▸ own)
  · exact current.append (.piece mark tag cs)

/-- Text is written on, together with the part of its line that was waiting. -/
theorem Lines.Hold.writeText (h : Lines.Hold p l text) (tag : Tag) {part : List Char}
    (within : '\n' ∉ part) (cs : List Char) :
    Lines.Hold p (p.writeText tag l part cs) (text ++ (part.reverse ++ cs).map (·, tag)) := by
  -- What waits has not been written, so it goes with the characters and not with the lines.
  induction cs generalizing l text part with
  | nil =>
    rw [Page.writeText, List.append_nil]
    exact h.piece mark tag (by rwa [List.mem_reverse])
  | cons c cs ih =>
    rw [Page.writeText]
    split
    · rename_i lineFeed
      subst lineFeed
      have written := (h.piece mark tag (by rwa [List.mem_reverse])).endLine tag
      have rest := ih written List.not_mem_nil
      rw [List.reverse_nil, List.nil_append, List.append_assoc, List.append_assoc] at rest
      rwa [List.map_append, List.map_cons]
    · rename_i other
      have longer : '\n' ∉ c :: part :=
        List.not_mem_cons_of_ne_of_not_mem (Ne.symm other) within
      have rest := ih h longer
      rwa [List.reverse_cons, List.append_assoc, List.singleton_append] at rest

theorem Lines.Hold.writeSpans (h : Lines.Hold p l text) (source : List Char) (ss : List Span) :
    Lines.Hold p (ss.foldl (p.writeSpan source) l) (text ++ ss.flatMap fun s =>
      ((sliceBytes? source s.start s.stop).getD []).map (·, s.tag)) := by
  induction ss generalizing l text with
  | nil => rwa [List.flatMap_nil, List.append_nil]
  | cons s ss ih =>
    rw [List.foldl_cons, List.flatMap_cons, ← List.append_assoc]
    refine ih ?_
    unfold Page.writeSpan
    split
    · rename_i cs slice
      rw [slice]
      exact h.writeText mark s.tag List.not_mem_nil cs
    · rename_i slice
      rwa [slice, Option.getD_none, List.map_nil, List.append_nil]

/-- Each line that is written stands for one line of the text. -/
theorem writes_lines (source : List Char) (ds : List Decoration) :
    List.Forall₂ p.Writes (p.lines source ds) (linesOf source (shown source ds)) := by
  have hold := (Lines.Hold.start p).writeSpans mark source (spans (byteLength source) ds)
  obtain ⟨fin, cur, cut, finished, current⟩ := hold
  rw [List.nil_append, ← shown] at cut
  have unfinished : (source.getLast? = some '\n' ∧
      (cutLines (shown source ds)).getLast? = some []) ↔ source.getLast? = some '\n' ∧
        ((spans (byteLength source) ds).foldl (p.writeSpan source) {}).current.isEmpty := by
    rw [cut, List.getLast?_concat, Option.some_inj, String.isEmpty_iff, current.empty_iff]
  unfold linesOf Page.lines
  dsimp only
  by_cases ended : source.getLast? = some '\n' ∧
      ((spans (byteLength source) ds).foldl (p.writeSpan source) {}).current.isEmpty
  · rw [if_pos ended, if_pos (unfinished.mpr ended), cut, List.dropLast_concat]
    exact finished
  · rw [if_neg ended, if_neg (unfinished.not.mpr ended), cut, Lines.endLine, List.reverse_cons]
    exact List.rel_append finished (.cons current .nil)

end Writing

/-! ### Numbering -/

theorem inert_number (n : Int) : Inert (toString n).toList := by
  have digits (n : Nat) : Inert n.repr.toList := by
    intro c mem special
    rw [Nat.toList_repr] at mem
    have digit : c.isDigit = true := Nat.isDigit_of_mem_toDigits (by decide) (by decide) mem
    rcases isSpecial_iff.mp special with rfl | rfl | rfl | rfl | rfl <;> cases digit
  change Inert n.repr.toList
  rw [Int.repr_eq_if]
  split
  · exact digits _
  · rw [String.toList_append]
    intro c mem special
    rcases List.mem_append.mp mem with mem | mem
    · obtain rfl := List.mem_singleton.mp mem
      cases special
    · exact digits _ c mem special

/-- A line that is written as spans is wrapped as a line with these spans. -/
theorem wrapLines_cons (number : Option Int) {line : String} {ss : List Styled}
    (text : line.toList = ss.flatMap Styled.text) (rest : List String) :
    (Page.wrapLines number (line :: rest)).toList =
      (Line.mk (number.map fun n => (toString n).toList) ss).text ++
        (Page.wrapLines (number.map Page.nextNumber) rest).toList := by
  conv_lhs => unfold Page.wrapLines
  rw [String.toList_append, String.toList_append, String.toList_append, String.toList_append, text]
  congr 1
  unfold Line.text Line.content
  cases number with
  | none => simp
  | some n =>
    simp only [Option.map_some, Option.toList_some, List.map_singleton, List.singleton_append,
      List.flatMap_cons]
    unfold Styled.text Line.numberClass
    simp

/-- A line may have the number. -/
def IsLineNumber (n : Int) : Prop := -0x8000000000000000 ≤ n ∧ n < 0x8000000000000000

instance (n : Int) : Decidable (IsLineNumber n) := inferInstanceAs (Decidable (_ ∧ _))

theorem nextNumber_eq {n : Int} (h : IsLineNumber (n + 1)) : Page.nextNumber n = n + 1 :=
  Int.bmod_eq_of_le h.1 h.2

/-- Lines that are written for pieces are wrapped as proper lines with the numbers from the first
one on, as far as there are numbers, and stand for these pieces. -/
theorem exists_lines {p : Page} {written : List String} {pieces : List (List (Char × Tag))}
    (h : List.Forall₂ p.Writes written pieces) (number : Option Int) :
    ∃ ls : List Line, (Page.wrapLines number written).toList = ls.flatMap Line.text ∧
      (∀ l ∈ ls, l.Proper) ∧ ls.length = pieces.length ∧
      ls.mapM Line.read? = some (pieces.map p.classed) ∧
      ∀ i (lt : i < ls.length),
        (∀ n ∈ number, IsLineNumber n ∧ IsLineNumber (n + (i : Int))) →
          ls[i].number = number.map fun n : Int => (toString (n + (i : Int))).toList := by
  induction h generalizing number with
  | nil =>
    exact ⟨[], rfl, List.forall_mem_nil _, rfl, rfl, fun i lt => absurd lt (Nat.not_lt_zero i)⟩
  | @cons line piece written pieces own others ih =>
    -- The other lines count from the next number on, hence the line at `i + 1` from this one.
    obtain ⟨ls, text, proper, length, read, numbered⟩ := ih (number.map Page.nextNumber)
    obtain ⟨ss, textS, properS, readS⟩ := own.spans
    let first : Line := ⟨number.map fun n => (toString n).toList, ss⟩
    refine ⟨first :: ls, ?_, ?_, ?_, ?_, ?_⟩
    · rw [wrapLines_cons number textS, text, List.flatMap_cons]
    · refine List.forall_mem_cons.mpr ⟨⟨?_, properS⟩, proper⟩
      intro digits mem
      obtain ⟨n, -, rfl⟩ := Option.map_eq_some_iff.mp mem
      exact inert_number n
    · rw [List.length_cons, List.length_cons, length]
    · have readFirst : first.read? = some (p.classed piece) := readS
      rw [List.mapM_cons, readFirst, read]
      rfl
    · intro i lt words
      cases i with
      | zero => simp [first]
      | succ i =>
        cases number with
        | none => exact numbered i (Nat.lt_of_succ_lt_succ lt) nofun
        | some n =>
          obtain ⟨⟨least, -⟩, last⟩ := words n rfl
          have next : IsLineNumber (n + 1) := ⟨by omega, by have := last.2; omega⟩
          have shifted : n + 1 + (i : Int) = n + ((i + 1 : Nat) : Int) := by omega
          have further := numbered i (Nat.lt_of_succ_lt_succ lt)
          simp only [Option.map_some, nextNumber_eq next, Option.mem_def, Option.some_inj,
            forall_eq', shifted] at further
          exact further ⟨next, last⟩

end Tincture.Html
