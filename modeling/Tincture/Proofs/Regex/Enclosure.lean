import Tincture.Proofs.Regex.Locality
import Tincture.Proofs.Regex.Outline

/-!
Expressions in parentheses.

A text is `Enclosed` if it can stand in a group: whatever follows the closing parenthesis, reading
the text leads to that parenthesis with nothing but what was open before. Whether a text is enclosed
can be found out by reading it alone, in front of a single closing parenthesis (`Outline.within?`),
because no lexeme looks further than that (`enclosed_of_within`). Enclosed texts can be joined by
bars (`closes_intercalate`).
-/

namespace Tincture.Regex

/-- Without flags in it, an expression has the same lexemes whether case is ignored or not. -/
theorem Lexeme.read_ignoreCase {groups : Nat} {c : Char} {cs : List Char} {lexeme : Lexeme}
    {used : Nat} (ignoreCase : Bool) (h : read {} groups c cs = .ok (lexeme, used))
    (steady : lexeme.Steady) : read { ignoreCase } groups c cs = .ok (lexeme, used) := by
  unfold read at h ⊢
  split at h
  case h_3 =>
    unfold group at h ⊢
    split at h
    · exact h
    · split at h
      case h_10 => exact absurd steady (flagged_unsteady h)
      all_goals exact h
    · exact h
  all_goals exact h

namespace Outline

variable {ignoreCase : Bool} {o o' : Outline} {lexeme : Lexeme}

/-- Reads a text in front of a closing parenthesis, without looking further. -/
def within? (o : Outline) : List Char → Option Outline
  | [] => some o
  | c :: cs =>
    match Lexeme.read {} o.groups c (cs ++ [')']) with
    | .error _ => none
    | .ok (lexeme, used) =>
      if used ≤ cs.length then
        match o.take? lexeme with
        | none => none
        | some o => within? o (cs.drop used)
      else none
termination_by cs => cs.length
decreasing_by
  rw [List.length_drop, List.length_cons]
  omega

theorem steady_of_take? (taken : o.take? lexeme = some o') : lexeme.Steady := by
  cases lexeme with
  | quoted codes => cases taken
  | blank => cases taken
  | opening opening =>
    cases opening with
    | flagged flags => cases taken
    | flags flags => cases taken
    | comment => cases taken
    | plain | capture | atomic | ahead _ | behind _ => trivial
  | _ => trivial

/-- An outline with more groups around. -/
def around (o : Outline) (below : List Bool) : Outline := { o with outer := o.outer ++ below }

/-- Taking a lexeme does not depend on how many groups are around. -/
theorem around_take? (below : List Bool) (taken : o.take? lexeme = some o') :
    (o.around below).take? lexeme = some (o'.around below) := by
  cases lexeme with
  | close =>
    cases outer : o.outer with
    | nil => simp [take?, outer] at taken
    | cons other rest =>
      simp only [take?, outer, Option.some.injEq] at taken
      subst taken
      simp only [take?, around, outer, List.cons_append]
  | quantifier least most greedy possessive =>
    simp only [take?] at taken
    split at taken
    · rename_i filled
      cases taken
      exact if_pos filled
    · cases taken
  | opening opening =>
    cases opening with
    | plain | capture | atomic | ahead _ =>
      cases taken
      rfl
    | _ => cases taken
  | code _ | dot | set _ | bracket _ | anchor _ | bar =>
    cases taken
    rfl
  | _ => cases taken

/-- What is read within parentheses is read with anything after them. -/
theorem read?_of_within {text : List Char} (h : within? o text = some o') (below : List Bool)
    (more : List Char) :
    read? { ignoreCase } (o.around below) (text ++ ')' :: more) =
      read? { ignoreCase } (o'.around below) (')' :: more) := by
  induction left : text.length using Nat.strongRecOn generalizing o text with
  | ind n ih =>
    cases text with
    | nil =>
      rw [within?] at h
      cases h
      rfl
    | cons c cs =>
      rw [within?] at h
      cases lexed : Lexeme.read {} o.groups c (cs ++ [')']) with
      | error fault =>
        rw [lexed] at h
        cases h
      | ok result =>
        obtain ⟨lexeme, used⟩ := result
        rw [lexed] at h
        dsimp only at h
        split at h
        · rename_i le
          cases taken : o.take? lexeme with
          | none =>
            rw [taken] at h
            cases h
          | some next =>
            rw [taken] at h
            have steady := steady_of_take? taken
            have longer := Lexeme.read_append more lexed steady le
            have same : (o.around below).groups = o.groups := rfl
            rw [List.cons_append, read?, same, Lexeme.read_ignoreCase ignoreCase longer steady]
            dsimp only
            rw [around_take? below taken]
            dsimp only
            rw [List.drop_append_of_le_length le]
            refine ih (cs.drop used).length ?_ h rfl
            rw [← left, List.length_cons, List.length_drop]
            omega
        · cases h

end Outline

/-- The text can stand in a group. -/
def Enclosed (text : List Char) : Prop :=
  ∀ (ignoreCase : Bool) (outer : List Bool), ∃ filled, ∀ more,
    Outline.read? { ignoreCase } ⟨0, false, outer⟩ (text ++ ')' :: more) =
      Outline.read? { ignoreCase } ⟨0, filled, outer⟩ (')' :: more)

theorem enclosed_of_within {text : List Char} {filled : Bool}
    (h : Outline.within? {} text = some ⟨0, filled, []⟩) : Enclosed text :=
  fun _ outer => ⟨filled, Outline.read?_of_within h outer⟩

/-- Reading a group whose text is enclosed. -/
theorem Enclosed.read?_group {text : List Char} (h : Enclosed text) (ignoreCase filled : Bool)
    (outer : List Bool) (more : List Char) :
    Outline.read? { ignoreCase } ⟨0, filled, outer⟩ ('(' :: '?' :: ':' :: text ++ ')' :: more) =
      Outline.read? { ignoreCase } ⟨0, true, outer⟩ more := by
  obtain ⟨inside, read⟩ := h ignoreCase (filled :: outer)
  have opens : Outline.read? { ignoreCase } ⟨0, filled, outer⟩
      ('(' :: '?' :: ':' :: text ++ ')' :: more) =
        Outline.read? { ignoreCase } ⟨0, false, filled :: outer⟩ (text ++ ')' :: more) := by
    rw [List.cons_append, Outline.read?]
    rfl
  rw [opens, read, Outline.read?]
  rfl

/-- A text as a group that does not capture. -/
def grouped (text : List Char) : List Char := '(' :: '?' :: ':' :: text ++ [')']

/-- Groups whose texts are enclosed can be joined by bars. -/
theorem closes_intercalate {texts : List (List Char)} (h : ∀ text ∈ texts, Enclosed text)
    (ignoreCase : Bool) :
    Outline.closes ignoreCase (['|'].intercalate (texts.map grouped)) = true := by
  have reads (filled : Bool) : ∃ after,
      Outline.read? { ignoreCase } ⟨0, filled, []⟩ (['|'].intercalate (texts.map grouped)) =
        some ⟨0, after, []⟩ := by
    induction texts generalizing filled with
    | nil => exact ⟨filled, by rw [List.map_nil, List.intercalate_nil, Outline.read?]⟩
    | cons text texts ih =>
      have first := (h text List.mem_cons_self).read?_group ignoreCase filled []
      cases texts with
      | nil =>
        refine ⟨true, ?_⟩
        rw [List.map_singleton, List.intercalate_singleton]
        exact (first []).trans (Outline.read?.eq_1 _ _)
      | cons next texts =>
        obtain ⟨after, rest⟩ := ih (fun t mem => h t (List.mem_cons_of_mem text mem)) false
        refine ⟨after, ?_⟩
        rw [List.map_cons, List.map_cons, List.intercalate_cons_cons, ← List.map_cons, grouped,
          List.append_assoc, List.append_assoc]
        refine (first ('|' :: _)).trans ?_
        rw [Outline.read?]
        exact rest
  obtain ⟨after, read⟩ := reads false
  exact congrArg (·.any (·.outer.isEmpty)) read

end Tincture.Regex
