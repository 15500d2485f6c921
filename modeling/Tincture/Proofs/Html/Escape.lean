import Tincture.Html

/-!
Escaped text and what it stands for.

`unescape?` reads the five references and takes every other character for itself, unless it is one
of those that have to be written as a reference. It undoes `escape`, whose result is `Inert`.
-/

namespace Tincture.Html

/-- Whether a character is written as a reference. -/
def isSpecial (c : Char) : Bool :=
  c == '<' || c == '>' || c == '&' || c == '\'' || c == '"'

theorem isSpecial_iff {c : Char} :
    isSpecial c = true ↔ c = '<' ∨ c = '>' ∨ c = '&' ∨ c = '\'' ∨ c = '"' := by
  simp only [isSpecial, Bool.or_eq_true, beq_iff_eq, or_assoc]

/-- Text in which nothing is written as a reference. -/
def Plain (cs : List Char) : Prop := ∀ c ∈ cs, isSpecial c = false

/-- Text that opens no tag and closes no quote. -/
def Inert (cs : List Char) : Prop := ∀ c ∈ cs, isSpecial c = true → c = '&'

instance (cs : List Char) : Decidable (Plain cs) :=
  List.decidableBAll (fun c => isSpecial c = false) cs

instance (cs : List Char) : Decidable (Inert cs) :=
  List.decidableBAll (fun c => isSpecial c = true → c = '&') cs

theorem Plain.not_mem {cs : List Char} (h : Plain cs) {c : Char} (special : isSpecial c = true) :
    c ∉ cs := by
  intro mem
  rw [h c mem] at special
  cases special

theorem Inert.not_mem {cs : List Char} (h : Inert cs) {c : Char} (special : isSpecial c = true)
    (other : c ≠ '&') : c ∉ cs :=
  fun mem => other (h c mem special)

theorem Plain.inert {cs : List Char} (h : Plain cs) : Inert cs :=
  fun _ mem special => absurd mem (h.not_mem special)

/-- What escaped text stands for; `none` if it is not escaped. -/
def unescape? : List Char → Option (List Char)
  | [] => some []
  | '&' :: 'g' :: 't' :: ';' :: rest => (unescape? rest).map ('>' :: ·)
  | '&' :: 'l' :: 't' :: ';' :: rest => (unescape? rest).map ('<' :: ·)
  | '&' :: 'a' :: 'm' :: 'p' :: ';' :: rest => (unescape? rest).map ('&' :: ·)
  | '&' :: '#' :: '3' :: '9' :: ';' :: rest => (unescape? rest).map ('\'' :: ·)
  | '&' :: 'q' :: 'u' :: 'o' :: 't' :: ';' :: rest => (unescape? rest).map ('"' :: ·)
  | c :: rest => if isSpecial c then none else (unescape? rest).map (c :: ·)

theorem escapeChar_of_not_isSpecial {c : Char} (plain : isSpecial c = false) :
    escapeChar c = [c] := by
  unfold escapeChar
  split
  any_goals cases plain
  rfl

theorem unescape?_cons {c : Char} (plain : isSpecial c = false) (rest : List Char) :
    unescape? (c :: rest) = (unescape? rest).map (c :: ·) := by
  have other : c ≠ '&' := by
    rintro rfl
    cases plain
  rw [unescape?, plain]
  · rfl
  all_goals
    intros
    exact absurd ‹c = '&'› other

/-- Text as it is written for a character is read as that character. -/
theorem unescape?_escapeChar (c : Char) (rest : List Char) :
    unescape? (escapeChar c ++ rest) = (unescape? rest).map (c :: ·) := by
  by_cases plain : isSpecial c = false
  · rw [escapeChar_of_not_isSpecial plain, List.singleton_append, unescape?_cons plain]
  · rw [Bool.not_eq_false, isSpecial_iff] at plain
    rcases plain with rfl | rfl | rfl | rfl | rfl <;> rfl

theorem unescape?_escape (cs : List Char) : unescape? (escape cs) = some cs := by
  induction cs with
  | nil => rfl
  | cons c cs ih =>
    rw [escape, List.flatMap_cons, unescape?_escapeChar, ← escape, ih, Option.map_some]

theorem inert_escapeChar (c : Char) : Inert (escapeChar c) := by
  by_cases plain : isSpecial c = false
  · rw [escapeChar_of_not_isSpecial plain]
    exact Plain.inert (List.forall_mem_singleton.mpr plain)
  · rw [Bool.not_eq_false, isSpecial_iff] at plain
    rcases plain with rfl | rfl | rfl | rfl | rfl <;> decide

/-- Escaped text opens no tag and closes no quote. -/
theorem inert_escape (cs : List Char) : Inert (escape cs) := by
  intro c mem
  obtain ⟨d, -, own⟩ := List.mem_flatMap.mp mem
  exact inert_escapeChar d c own

end Tincture.Html
