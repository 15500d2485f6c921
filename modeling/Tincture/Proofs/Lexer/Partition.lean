import Tincture.Lexer
import Tincture.Proofs.Regex.Confinement

/-!
How a lexer takes a text apart.

Whatever its regular expression answers, a lexer cuts a text into tokens that are not empty and that
make up the text again. A token with embedded text is in turn cut in three, the middle part being
not empty: the group that was found lies within the token, if matching stays within the text.
-/

namespace Tincture

/-! ### Tokens -/

namespace Union

/-- Up to the end, one more range is cut off, which is not empty. -/
theorem exists_cuts (reach : Nat → Option Nat) {size pos : Nat} (lt : pos < size) :
    ∃ stop, pos < stop ∧ cuts reach size pos = (pos, stop) :: cuts reach size stop := by
  have step : ∃ stop, pos < stop ∧
      cuts reach size pos = (pos, stop) :: cuts reach size (max stop (pos + 1)) := by
    rw [cuts, if_pos lt]
    cases reach pos with
    | none => exact ⟨pos + 1, Nat.lt_succ_self pos, rfl⟩
    | some stop =>
      by_cases further : pos < stop
      · exact ⟨stop, further, by simp [further]⟩
      · exact ⟨pos + 1, Nat.lt_succ_self pos, by simp [further]⟩
  obtain ⟨stop, further, eq⟩ := step
  rw [Nat.max_eq_left further] at eq
  exact ⟨stop, further, eq⟩

theorem cuts_of_le {reach : Nat → Option Nat} {size pos : Nat} (le : size ≤ pos) :
    cuts reach size pos = [] := by
  rw [cuts, if_neg (Nat.not_lt_of_le le)]

/-- The ranges begin before the end and are not empty. -/
theorem lt_of_mem_cuts {reach : Nat → Option Nat} {size pos : Nat} {range : Nat × Nat}
    (h : range ∈ cuts reach size pos) : range.1 < size ∧ range.1 < range.2 := by
  induction left : size - pos using Nat.strongRecOn generalizing pos with
  | ind n ih =>
    by_cases lt : pos < size
    · obtain ⟨stop, further, eq⟩ := exists_cuts reach lt
      rw [eq] at h
      rcases List.mem_cons.mp h with rfl | h
      · exact ⟨lt, further⟩
      · exact ih (size - stop) (by omega) h rfl
    · rw [cuts_of_le (Nat.le_of_not_lt lt)] at h
      cases h

/-- The ranges follow one another up to the end of the text. -/
theorem flatten_cuts (reach : Nat → Option Nat) (text : Array Char) (pos : Nat) :
    ((cuts reach text.size pos).map fun (start, stop) => (text.extract start stop).toList).flatten =
      text.toList.drop pos := by
  induction left : text.size - pos using Nat.strongRecOn generalizing pos with
  | ind n ih =>
    by_cases lt : pos < text.size
    · obtain ⟨stop, further, eq⟩ := exists_cuts reach lt
      rw [eq, List.map_cons, List.flatten_cons, ih (text.size - stop) (by omega) stop rfl]
      change (text.extract pos stop).toList ++ _ = _
      rw [Array.toList_extract, List.extract_eq_take_drop]
      have next : text.toList.drop stop = (text.toList.drop pos).drop (stop - pos) := by
        rw [List.drop_drop, Nat.add_sub_cancel' (Nat.le_of_lt further)]
      rw [next, List.take_append_drop]
    · have le := Nat.le_of_not_lt lt
      rw [cuts_of_le le, List.drop_eq_nil_of_le le]
      rfl

theorem cuts_of_reach {reach : Nat → Option Nat} {size pos stop : Nat} (lt : pos < size)
    (reached : reach pos = some stop) (further : pos < stop) :
    cuts reach size pos = (pos, stop) :: cuts reach size stop := by
  rw [cuts, if_pos lt, reached]
  simp only [if_pos further, Nat.max_eq_left further]

/-- Where `reach` says nothing further on, a single character is cut off. -/
theorem cuts_of_stay {reach : Nat → Option Nat} {size pos : Nat} (lt : pos < size)
    (stay : ∀ stop, reach pos = some stop → stop ≤ pos) :
    cuts reach size pos = (pos, pos + 1) :: cuts reach size (pos + 1) := by
  rw [cuts, if_pos lt]
  cases reached : reach pos with
  | none => simp only [Nat.max_self]
  | some stop => simp only [if_neg (Nat.not_lt_of_le (stay stop reached)), Nat.max_self]

/-- Where `reach` says nothing, it might as well say that a single character is cut off. -/
theorem cuts_of_lt (reach : Nat → Option Nat) {size pos : Nat} (lt : pos < size) :
    let stop := max (pos + 1) ((reach pos).getD (pos + 1))
    cuts reach size pos = (pos, stop) :: cuts reach size stop := by
  cases reached : reach pos with
  | none => simpa using cuts_of_stay lt (by simp [reached])
  | some stop =>
    dsimp only [Option.getD_some]
    rcases Nat.lt_or_ge pos stop with further | le
    · rw [Nat.max_eq_right further]
      exact cuts_of_reach lt reached further
    · rw [Nat.max_eq_left (Nat.le_succ_of_le le)]
      exact cuts_of_stay lt (by simpa [reached] using le)

theorem cuts_congr {reach reach' : Nat → Option Nat} {size : Nat}
    (same : ∀ pos < size, (reach pos).getD (pos + 1) = (reach' pos).getD (pos + 1)) (pos : Nat) :
    cuts reach size pos = cuts reach' size pos := by
  induction left : size - pos using Nat.strongRecOn generalizing pos with
  | ind n ih =>
    by_cases lt : pos < size
    · rw [cuts_of_lt reach lt, cuts_of_lt reach' lt, same pos lt]
      exact congrArg _ (ih _ (by omega) _ rfl)
    · rw [cuts_of_le (Nat.le_of_not_lt lt), cuts_of_le (Nat.le_of_not_lt lt)]

/-- Beyond the end it makes no difference where the ranges would begin. -/
theorem cuts_min (reach : Nat → Option Nat) (size pos : Nat) :
    cuts reach size (min pos size) = cuts reach size pos := by
  rcases Nat.le_total pos size with le | le
  · rw [Nat.min_eq_left le]
  · rw [Nat.min_eq_right le, cuts_of_le (Nat.le_refl size), cuts_of_le le]

/-- A range that is followed by others begins where those before it end, and ends where `reach`
says, if that is further on. -/
theorem extract_of_cuts {reach : Nat → Option Nat} {text : Array Char} {pos : Nat}
    {before after : List (List Char)} {token : List Char}
    (h : (cuts reach text.size pos).map (fun (start, stop) => (text.extract start stop).toList) =
      before ++ token :: after) :
    pos + before.flatten.length < text.size ∧
      ∀ stop, reach (pos + before.flatten.length) = some stop →
        pos + before.flatten.length < stop →
          token = (text.extract (pos + before.flatten.length) stop).toList := by
  induction before generalizing pos with
  | nil =>
    by_cases lt : pos < text.size
    · refine ⟨lt, fun stop reached further => ?_⟩
      rw [cuts_of_reach lt reached further] at h
      exact (List.cons.inj h).1.symm
    · rw [cuts_of_le (Nat.le_of_not_lt lt)] at h
      cases h
  | cons first before ih =>
    by_cases lt : pos < text.size
    · obtain ⟨stop, further, eq⟩ := exists_cuts reach lt
      rw [eq] at h
      obtain ⟨same, rest⟩ := List.cons.inj h
      have inside : stop < text.size := by
        by_contra beyond
        rw [cuts_of_le (Nat.le_of_not_lt beyond)] at rest
        cases before <;> cases rest
      have length : first.length = stop - pos := by
        rw [← same, Array.length_toList, Array.size_extract]
        omega
      have start : pos + (first :: before).flatten.length = stop + before.flatten.length := by
        rw [List.flatten_cons, List.length_append, length]
        omega
      rw [start]
      exact ih rest
    · rw [cuts_of_le (Nat.le_of_not_lt lt)] at h
      cases h

variable {E : Type} [Engine E]

/-- The tokens of a text make up the text. -/
theorem flatten_tokens (u : Union E) (text : List Char) : (u.tokens text).flatten = text :=
  flatten_cuts _ text.toArray 0

/-- No token is empty. -/
theorem ne_nil_of_mem_tokens {u : Union E} {text token : List Char} (h : token ∈ u.tokens text) :
    token ≠ [] := by
  obtain ⟨⟨start, stop⟩, mem, rfl⟩ := List.mem_map.mp h
  obtain ⟨inside, further⟩ := lt_of_mem_cuts mem
  intro empty
  have size := congrArg List.length empty
  rw [Array.length_toList, Array.size_extract, List.length_nil] at size
  omega

end Union

namespace Lexer

variable {E : Type} [Engine E]

@[simp] theorem tokens_nil (l : Lexer E) : l.tokens [] = [] := by
  simp [tokens, Union.tokens, Union.cuts_of_le]

@[simp] theorem flatten_tokens (l : Lexer E) (text : List Char) : (l.tokens text).flatten = text :=
  l.union.flatten_tokens text

theorem ne_nil_of_mem_tokens {l : Lexer E} {text token : List Char} (h : token ∈ l.tokens text) :
    token ≠ [] :=
  Union.ne_nil_of_mem_tokens h

/-! ### Embedded text -/

theorem search?_of_firstFound {token : Array Char} {rules : List (CompiledRule E)}
    {r : CompiledRule E} {s : Regex.Spot} (h : firstFound token rules = some (r, s)) :
    Engine.search? r.regex token = some s := by
  induction rules with
  | nil => cases h
  | cons first rest ih =>
    simp only [firstFound] at h
    split at h
    · rename_i found
      cases h
      exact found
    · exact ih h

/-- A rule embeds only the first group of a spot, and only if it is not empty. -/
theorem group?_of_apply {r : Rule} {spot : Option Regex.Spot} {language : String} {start stop : Nat}
    (h : apply r spot = .embedded language start stop) :
    ∃ s, spot = some s ∧ s.group? 1 = some (start, stop) ∧ start < stop := by
  unfold apply at h
  split at h
  · cases h
  · split at h
    · rename_i found
      obtain ⟨s, eq, group⟩ := Option.bind_eq_some_iff.mp found
      split at h
      · rename_i lt
        cases h
        exact ⟨s, eq, group, lt⟩
      · cases h
    · cases h

theorem start_lt_stop_of_classify {l : Lexer E} {token : List Char} {language : String}
    {start stop : Nat} (h : l.classify token = .embedded language start stop) : start < stop := by
  unfold classify at h
  split at h
  · obtain ⟨_, -, -, lt⟩ := group?_of_apply h
    exact lt
  · split at h
    · obtain ⟨_, -, -, lt⟩ := group?_of_apply h
      exact lt
    · cases h

/-- The three parts of a token with embedded text make up the token. -/
theorem parts_of_classify {l : Lexer E} {token : List Char} {language : String} {start stop : Nat}
    (h : l.classify token = .embedded language start stop) :
    token.take start ++ ((token.take stop).drop start ++ token.drop stop) = token := by
  have lt := start_lt_stop_of_classify h
  have first : token.take start = (token.take stop).take start := by
    rw [List.take_take, Nat.min_eq_left (Nat.le_of_lt lt)]
  rw [first, ← List.append_assoc, List.take_append_drop, List.take_append_drop]

variable [Engine.Confined E]

/-- Embedded text is a part of its token, and not empty. -/
theorem range_of_classify {l : Lexer E} {token : List Char} {language : String} {start stop : Nat}
    (h : l.classify token = .embedded language start stop) :
    start < stop ∧ stop ≤ token.length := by
  have within (e : E) (s : Regex.Spot) (found : Engine.search? e token.toArray = some s)
      (group : s.group? 1 = some (start, stop)) : stop ≤ token.length := by
    simpa using ((Engine.search?_within found).group?_le group).2
  unfold classify at h
  split at h
  · rename_i r _
    obtain ⟨s, found, group, lt⟩ := group?_of_apply h
    exact ⟨lt, within r.regex s found group⟩
  · split at h
    · rename_i r s found
      obtain ⟨_, ⟨⟩, group, lt⟩ := group?_of_apply h
      exact ⟨lt, within r.regex s (search?_of_firstFound found) group⟩
    · cases h

theorem group_ne_nil_of_classify {l : Lexer E} {token : List Char} {language : String}
    {start stop : Nat} (h : l.classify token = .embedded language start stop) :
    (token.take stop).drop start ≠ [] := by
  obtain ⟨lt, le⟩ := range_of_classify h
  rw [ne_eq, List.drop_eq_nil_iff, List.length_take]
  omega

end Lexer

end Tincture
