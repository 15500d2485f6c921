import Mathlib.Data.List.Basic
import Tincture.Regex.Matcher

/-!
Ways through a text.

Without its groups, an expression is a *way*: from a position of the text it tries positions in
order of preference, until the goal it was given succeeds at one of them. This is the algebra of
ways. A way is `Orderly` if the order does not depend on the goal and leads forward within the text;
then repeating it as often as possible, or as seldom as possible, has one solution
(`eq_star`), and repetitions of repetitions are again simple ones.

A round of a repetition that consumes nothing is the last, so the goal stands in for the repetition
at the position where the round began (`past`). It makes no difference to the result if a goal is
replaced, at some of the positions, by the result itself (`Orderly.absorb`). All equations between
repetitions come down to that.
-/

namespace Tincture.Regex

/-- What is tried at a position; the position that it succeeds with, if any. -/
abbrev Goal := Nat → Option Nat

/-- The first of the positions reached from a position at which the goal succeeds. -/
abbrev Way := Goal → Goal

/-- Of going on and stopping, the greedy tries to go on first. -/
def choose (greedy : Bool) (further stop : Option Nat) : Option Nat :=
  if greedy then further.or stop else stop.or further

theorem choose_eq_or (greedy : Bool) (further stop : Option Nat) :
    choose greedy further stop = stop ∨
      choose greedy further stop = further.or stop := by
  cases greedy
  · cases stop with
    | none => exact .inr (by simp [choose])
    | some p => exact .inl (by simp [choose])
  · exact .inr rfl

/-- Greediness decides only if there is a choice to make once more. -/
theorem choose_choose (inner outer : Bool) (further stop : Option Nat) :
    choose outer (choose inner further stop) stop = choose (inner && outer) further stop := by
  cases inner <;> cases outer <;> cases further <;> cases stop <;> rfl

/-! ### Results that stand for themselves -/

section Absorb

variable {ends : List Nat} {f h : Goal} {stop stop' : Option Nat}

theorem findSome?_absorb {result : Option Nat} (eq : (ends.findSome? f).or stop = result)
    (each : ∀ u, h u = f u ∨ h u = result) (last : stop' = stop ∨ stop' = result) :
    (ends.findSome? h).or stop' = result := by
  induction ends with
  | nil =>
    rcases last with rfl | rfl
    · exact eq
    · rfl
  | cons u ends ih =>
    rw [List.findSome?_cons] at eq ⊢
    cases result with
    | none =>
      -- Then nothing has succeeded, and nothing that stands for it does.
      cases here : f u with
      | some p => simp [here] at eq
      | none =>
        rw [here] at eq
        have : h u = none := by simpa [here] using each u
        rw [this]
        exact ih eq
    | some p =>
      rcases each u with same | found
      · cases here : f u with
        | some q =>
          rw [here] at same eq
          rw [same]
          exact eq
        | none =>
          rw [here] at same eq
          rw [same]
          exact ih eq
      · rw [found]
        rfl

theorem choose_absorb {greedy : Bool} {result : Option Nat}
    (eq : choose greedy (ends.findSome? f) stop = result)
    (each : ∀ u, h u = f u ∨ h u = result) (last : stop' = stop ∨ stop' = result) :
    choose greedy (ends.findSome? h) stop' = result := by
  cases greedy with
  | true => exact findSome?_absorb eq each last
  | false =>
    change stop.or _ = _ at eq
    change stop'.or _ = _
    cases stop with
    | some p =>
      cases eq
      rcases last with rfl | rfl <;> rfl
    | none =>
      rw [Option.none_or] at eq
      have rest : ends.findSome? h = result := by
        have := @findSome?_absorb ends f h none none result (by rw [Option.or_none, eq]) each
          (.inl rfl)
        rwa [Option.or_none] at this
      rw [rest]
      rcases last with rfl | rfl
      · rfl
      · exact Option.or_self

end Absorb

namespace Way

/-! ### Orderly ways -/

/-- The way tries the same positions, in the same order, whatever the goal; they are not before the
position it starts from, and within a text of `size` characters unless they are that position. -/
def Orderly (size : Nat) (w : Way) : Prop :=
  ∀ p, ∃ ends : List Nat, (∀ u ∈ ends, p ≤ u ∧ (p < u → u ≤ size)) ∧
    ∀ goal, w goal p = ends.findSome? goal

namespace Orderly

variable {size : Nat} {w v : Way}

/-- Goals that agree on the positions that can be reached are the same to the way. -/
theorem congr (h : Orderly size w) {f g : Goal} {p : Nat}
    (same : ∀ u, p ≤ u → (p < u → u ≤ size) → f u = g u) : w f p = w g p := by
  obtain ⟨ends, bounds, eq⟩ := h p
  rw [eq, eq]
  have on_ends : ∀ u ∈ ends, f u = g u := fun u mem => same u (bounds u mem).1 (bounds u mem).2
  clear eq bounds
  induction ends with
  | nil => rfl
  | cons u ends ih =>
    obtain ⟨here, others⟩ := List.forall_mem_cons.mp on_ends
    rw [List.findSome?_cons, List.findSome?_cons, here, ih others]

/-- The result may stand for the goal wherever it likes. -/
theorem absorb (h : Orderly size w) {greedy : Bool} {f g : Goal} {stop stop' : Option Nat} {p : Nat}
    (each : ∀ u, g u = f u ∨ g u = choose greedy (w f p) stop)
    (last : stop' = stop ∨ stop' = choose greedy (w f p) stop) :
    choose greedy (w g p) stop' = choose greedy (w f p) stop := by
  obtain ⟨ends, -, eq⟩ := h p
  rw [eq] at each last ⊢
  rw [eq]
  exact choose_absorb rfl each last

/-! ### Ways put together -/

theorem stay : Orderly size fun goal => goal := by
  refine fun p => ⟨[p], ?_, fun goal => by simp⟩
  intro u mem
  rw [List.mem_singleton.mp mem]
  exact ⟨Nat.le_refl p, fun lt => absurd lt (Nat.lt_irrefl p)⟩

/-- A way that reaches one position at most. -/
theorem of_step {step : Nat → Option Nat}
    (forward : ∀ p u, step p = some u → p ≤ u ∧ (p < u → u ≤ size)) :
    Orderly size fun goal p => (step p).bind goal := by
  intro p
  refine ⟨(step p).toList, fun u mem => forward p u (Option.mem_toList.mp mem), fun goal => ?_⟩
  dsimp only
  cases step p with
  | none => rfl
  | some u => simp

theorem findSome?_flatMap (ends : List Nat) (further : Nat → List Nat) (goal : Goal) :
    (ends.flatMap further).findSome? goal =
      ends.findSome? fun u => (further u).findSome? goal := by
  induction ends with
  | nil => rfl
  | cons u ends ih =>
    rw [List.flatMap_cons, List.findSome?_append, ih, List.findSome?_cons]
    cases (further u).findSome? goal <;> rfl

theorem seq (h : Orderly size w) (h' : Orderly size v) : Orderly size fun goal => w (v goal) := by
  intro p
  obtain ⟨ends, bounds, eq⟩ := h p
  choose further bounds' eq' using h'
  refine ⟨ends.flatMap further, ?_, ?_⟩
  · intro u mem
    obtain ⟨q, first, second⟩ := List.mem_flatMap.mp mem
    have := bounds q first
    have := bounds' q u second
    omega
  · intro goal
    rw [findSome?_flatMap]
    exact (eq (v goal)).trans (congrArg (ends.findSome? ·) (funext fun q => eq' q goal))

theorem choose (h : Orderly size w) (h' : Orderly size v) (greedy : Bool) :
    Orderly size fun goal p => Regex.choose greedy (w goal p) (v goal p) := by
  intro p
  obtain ⟨ends, bounds, eq⟩ := h p
  obtain ⟨ends', bounds', eq'⟩ := h' p
  cases greedy with
  | true =>
    refine ⟨ends ++ ends', List.forall_mem_append.mpr ⟨bounds, bounds'⟩, fun goal => ?_⟩
    rw [List.findSome?_append, ← eq, ← eq']
    rfl
  | false =>
    refine ⟨ends' ++ ends, List.forall_mem_append.mpr ⟨bounds', bounds⟩, fun goal => ?_⟩
    rw [List.findSome?_append, ← eq, ← eq']
    rfl

end Orderly

/-! ### Repetitions -/

/-- The way exactly `n` times. -/
def times (w : Way) : Nat → Way
  | 0 => fun goal => goal
  | n + 1 => fun goal => w (w.times n goal)

/-- The goal at the position where a round began, and what goes on elsewhere. -/
def past (p : Nat) (goal further : Goal) : Goal := fun u => if u = p then goal u else further u

/-- The way at most `n` times. A round that consumes nothing is the last. -/
def rounds (w : Way) (greedy : Bool) : Nat → Way
  | 0 => fun goal => goal
  | n + 1 => fun goal p =>
    Regex.choose greedy (w (past p goal (w.rounds greedy n goal)) p) (goal p)

/-- The way as often as there is text left. -/
def star (size : Nat) (greedy : Bool) (w : Way) : Way := fun goal p =>
  w.rounds greedy (size - p + 1) goal p

/-- The way, or nothing. -/
def query (greedy : Bool) (w : Way) : Way := fun goal p => Regex.choose greedy (w goal p) (goal p)

/-- The way, and then as often as there is text left. -/
def plus (size : Nat) (greedy : Bool) (w : Way) : Way := fun goal => w (w.star size greedy goal)

theorem past_self (p : Nat) (goal further : Goal) : past p goal further p = goal p := if_pos rfl

theorem past_of_ne {p u : Nat} (ne : u ≠ p) (goal further : Goal) :
    past p goal further u = further u := if_neg ne

theorem past_congr {p u : Nat} {goal further further' : Goal}
    (same : u ≠ p → further u = further' u) :
    past p goal further u = past p goal further' u := by
  by_cases here : u = p
  · rw [here, past_self, past_self]
  · rw [past_of_ne here, past_of_ne here, same here]

/-- What comes after a round is the goal or what goes on. -/
theorem past_eq_or (p : Nat) (goal further : Goal) (u : Nat) :
    past p goal further u = goal u ∨ past p goal further u = further u := by
  by_cases here : u = p
  · exact .inl (if_pos here)
  · exact .inr (if_neg here)

variable {size : Nat} {w : Way} {greedy : Bool}

namespace Orderly

theorem times (h : Orderly size w) (n : Nat) : Orderly size (w.times n) := by
  induction n with
  | zero => exact stay
  | succ n ih => exact h.seq ih

theorem rounds (h : Orderly size w) (greedy : Bool) (n : Nat) :
    Orderly size (w.rounds greedy n) := by
  induction n with
  | zero => exact stay
  | succ n ih =>
    intro p
    -- From the position where the round began nothing goes on; from the others, further rounds.
    have guarded : Orderly size fun goal => past p goal (w.rounds greedy n goal) := by
      intro u
      by_cases here : u = p
      · obtain ⟨ends, bounds, eq⟩ := @stay size u
        exact ⟨ends, bounds, fun goal => (if_pos here).trans (eq goal)⟩
      · obtain ⟨ends, bounds, eq⟩ := ih u
        exact ⟨ends, bounds, fun goal => (if_neg here).trans (eq goal)⟩
    exact (h.seq guarded).choose stay greedy p

theorem star (h : Orderly size w) (greedy : Bool) : Orderly size (w.star size greedy) :=
  fun p => h.rounds greedy (size - p + 1) p

theorem query (h : Orderly size w) (greedy : Bool) : Orderly size (w.query greedy) :=
  h.choose stay greedy

theorem plus (h : Orderly size w) (greedy : Bool) : Orderly size (w.plus size greedy) :=
  h.seq (h.star greedy)

end Orderly

/-! ### Ways that agree -/

/-- From a position of the text on, the ways do the same. -/
def AgreeFrom (origin : Nat) (w v : Way) : Prop := ∀ goal p, origin ≤ p → w goal p = v goal p

namespace AgreeFrom

variable {origin : Nat} {w w' v v' : Way}

theorem of_eq (same : w = v) : AgreeFrom origin w v := fun _ _ _ => by rw [same]

theorem symm (h : AgreeFrom origin w v) : AgreeFrom origin v w :=
  fun goal p le => (h goal p le).symm

theorem trans (h : AgreeFrom origin w v) (h' : AgreeFrom origin v v') : AgreeFrom origin w v' :=
  fun goal p le => (h goal p le).trans (h' goal p le)

/-- What comes second only goes on from positions that the first has reached. -/
theorem seq (h : AgreeFrom origin w v) (orderly : Orderly size v) (h' : AgreeFrom origin w' v') :
    AgreeFrom origin (fun goal => w (w' goal)) (fun goal => v (v' goal)) := by
  intro goal p le
  refine (h (w' goal) p le).trans ?_
  exact orderly.congr fun u ge _ => h' goal u (Nat.le_trans le ge)

theorem times (h : AgreeFrom origin w v) (orderly : Orderly size v) (n : Nat) :
    AgreeFrom origin (w.times n) (v.times n) := by
  induction n with
  | zero => exact .of_eq rfl
  | succ n ih => exact h.seq orderly ih

theorem rounds (h : AgreeFrom origin w v) (orderly : Orderly size v) (greedy : Bool) (n : Nat) :
    AgreeFrom origin (w.rounds greedy n) (v.rounds greedy n) := by
  induction n with
  | zero => exact .of_eq rfl
  | succ n ih =>
    intro goal p le
    have same : w (past p goal (w.rounds greedy n goal)) p =
        v (past p goal (v.rounds greedy n goal)) p := by
      rw [h _ p le]
      exact orderly.congr fun u ge _ => past_congr fun _ => ih goal u (Nat.le_trans le ge)
    exact congrArg (Regex.choose greedy · (goal p)) same

end AgreeFrom

/-! ### The equation of a repetition -/

/-- As many rounds as there are characters left are enough. -/
theorem rounds_stable (h : Orderly size w) (goal : Goal) {n m p : Nat} (le : size - p ≤ n)
    (le' : size - p ≤ m) : w.rounds greedy n goal p = w.rounds greedy m goal p := by
  -- At the end of the text a round consumes nothing, so the goal is all there is.
  have at_end {m p : Nat} (ended : size ≤ p) : w.rounds greedy m goal p = goal p := by
    cases m with
    | zero => rfl
    | succ m =>
      have same : w (past p goal (w.rounds greedy m goal)) p = w (fun _ => goal p) p := by
        refine h.congr fun u ge le => ?_
        have : u = p := by omega
        rw [this, past_self]
      obtain ⟨ends, -, eq⟩ := h p
      have nothing : Regex.choose greedy (ends.findSome? fun _ => none) (goal p) = goal p := by
        rw [List.findSome?_eq_none_iff.mpr fun _ _ => rfl]
        cases greedy <;> simp [Regex.choose]
      change Regex.choose greedy (w (past p goal (w.rounds greedy m goal)) p) (goal p) = goal p
      rw [same, eq]
      exact choose_absorb nothing (fun _ => .inr rfl) (.inl rfl)
  induction n generalizing m p with
  | zero =>
    rw [at_end (by omega), at_end (by omega)]
  | succ n ih =>
    cases m with
    | zero => rw [at_end (by omega), at_end (by omega)]
    | succ m =>
      have same : w (past p goal (w.rounds greedy n goal)) p =
          w (past p goal (w.rounds greedy m goal)) p :=
        h.congr fun u ge le => past_congr fun ne => ih (by omega) (by omega)
      exact congrArg (Regex.choose greedy · (goal p)) same

theorem star_eq (h : Orderly size w) (goal : Goal) (p : Nat) :
    w.star size greedy goal p =
      Regex.choose greedy (w (past p goal (w.star size greedy goal)) p) (goal p) := by
  have same : w (past p goal (w.rounds greedy (size - p) goal)) p =
      w (past p goal (w.star size greedy goal)) p :=
    h.congr fun u ge le => past_congr fun ne => rounds_stable h goal (by omega) (by omega)
  rw [← same]
  rfl

/-- What satisfies the equation of a repetition is that repetition. -/
theorem eq_star (h : Orderly size w) {goal found : Goal}
    (eq : ∀ p, found p = Regex.choose greedy (w (past p goal found) p) (goal p)) :
    w.star size greedy goal = found := by
  funext p
  induction left : size - p using Nat.strongRecOn generalizing p with
  | ind n ih =>
    have same : w (past p goal (w.star size greedy goal)) p = w (past p goal found) p :=
      h.congr fun u ge le => past_congr fun ne => ih (size - u) (by omega) u rfl
    rw [star_eq h, eq p, same]

/-- A repetition goes on after a round also where nothing was consumed. -/
theorem star_fix (h : Orderly size w) (goal : Goal) (p : Nat) :
    w.star size greedy goal p = Regex.choose greedy (w (w.star size greedy goal) p) (goal p) := by
  rw [star_eq h]
  symm
  refine h.absorb (fun u => ?_) (.inl rfl)
  rw [← star_eq h]
  by_cases here : u = p
  · exact .inr (by rw [here])
  · exact .inl (past_of_ne here _ _).symm

/-- The repetition is the same if it may stand for its goal at some positions. -/
theorem star_congr (h : Orderly size w) {goal goal' : Goal}
    (either : ∀ p, goal' p = goal p ∨ goal' p = w.star size greedy goal p) :
    w.star size greedy goal' = w.star size greedy goal := by
  refine eq_star h fun p => ?_
  rw [star_eq h]
  symm
  refine h.absorb (fun u => ?_) ?_
  · rw [← star_eq h]
    by_cases here : u = p
    · rw [here, past_self, past_self]
      exact either p
    · exact .inl (by rw [past_of_ne here, past_of_ne here])
  · rw [← star_eq h]
    exact either p

/-! ### Repetitions of repetitions -/

/-- Once more, or nothing, of a choice is a choice again. -/
theorem query_query (inner outer : Bool) (w : Way) :
    (w.query inner).query outer = w.query (inner && outer) := by
  funext goal p
  exact choose_choose inner outer (w goal p) (goal p)

/-- A repetition of a choice is seldom if one of them is. -/
theorem star_query (h : Orderly size w) (inner outer : Bool) :
    (w.query inner).star size outer = w.star size (inner && outer) := by
  funext goal
  refine eq_star (h.query inner) fun p => ?_
  rw [query, past_self, choose_choose, star_eq h]

/-- At least one of a choice, repeated, unless the choice is made at once and the repetition is
not. -/
theorem plus_query (h : Orderly size w) {inner outer : Bool} (usual : inner = true → outer = true) :
    (w.query inner).plus size outer = w.star size (inner && outer) := by
  funext goal p
  have fix : w.star size (inner && outer) goal p =
      Regex.choose (inner && outer) (w (w.star size (inner && outer) goal) p) (goal p) :=
    star_fix h goal p
  rw [plus, star_query h, query]
  generalize w (w.star size (inner && outer) goal) p = further at fix ⊢
  rw [fix]
  cases inner with
  | false =>
    cases further <;> cases goal p <;> rfl
  | true =>
    cases usual rfl
    cases further <;> cases goal p <;> rfl

/-- Wherever its goal succeeds, or the way has led there and stopped, the goal may stand for what
the way would find. -/
def Saturated (w : Way) : Prop :=
  ∀ goal goal' : Goal, (∀ p, goal' p = goal p ∨ goal' p = (w goal p).or (goal p)) →
    w goal' = w goal

theorem star_or_self (h : Orderly size w) (goal : Goal) (p : Nat) :
    (w.star size greedy goal p).or (goal p) = w.star size greedy goal p := by
  rw [star_eq h]
  generalize w _ p = further
  cases greedy <;> cases further <;> cases goal p <;> rfl

theorem star_saturated (h : Orderly size w) (greedy : Bool) : Saturated (w.star size greedy) := by
  intro goal goal' either
  refine star_congr h fun p => ?_
  rw [← star_or_self h]
  exact either p

theorem plus_saturated (h : Orderly size w) : Saturated (w.plus size true) := by
  intro goal goal' either
  refine congrArg w (star_congr h fun p => ?_)
  rw [star_fix h]
  exact either p

namespace Saturated

variable {y : Way}

/-- What comes after a round of a saturated way makes no difference to it. -/
theorem past (saturated : Saturated y) {goal further : Goal} (p : Nat)
    (either : ∀ u, further u = goal u ∨ further u = (y goal u).or (goal u)) :
    y (Way.past p goal further) = y goal := by
  refine saturated goal _ fun u => ?_
  rcases past_eq_or p goal further u with eq | eq
  · exact .inl eq
  · rw [eq]
    exact either u

theorem either_query (outer : Bool) (goal : Goal) (p : Nat) :
    y.query outer goal p = goal p ∨ y.query outer goal p = (y goal p).or (goal p) :=
  choose_eq_or outer (y goal p) (goal p)

theorem star (saturated : Saturated y) (h : Orderly size y) (outer : Bool) :
    y.star size outer = y.query outer := by
  funext goal
  refine eq_star h fun p => ?_
  rw [saturated.past p (either_query outer goal)]
  rfl

theorem plus (saturated : Saturated y) (h : Orderly size y) (outer : Bool) :
    y.plus size outer = y := by
  funext goal
  rw [Way.plus, saturated.star h]
  exact saturated goal _ (either_query outer goal)

/-- Two rounds of a saturated way are no more than one. -/
theorem rounds (saturated : Saturated y) (n : Nat) : y.rounds true (n + 1) = y.query true := by
  funext goal p
  have either : ∀ u, y.rounds true n goal u = goal u ∨
      y.rounds true n goal u = (y goal u).or (goal u) := by
    induction n with
    | zero => exact fun u => .inl rfl
    | succ n ih =>
      intro u
      have step : y.rounds true (n + 1) goal u = y.query true goal u :=
        congrArg (fun further : Goal => Regex.choose true (further u) (goal u))
          (saturated.past u ih)
      rw [step]
      exact either_query true goal u
  exact congrArg (fun further : Goal => Regex.choose true (further p) (goal p))
    (saturated.past p either)

theorem times_query (saturated : Saturated y) (n : Nat) (goal : Goal) :
    y.times (n + 1) (y.query true goal) = y.times (n + 1) goal := by
  induction n with
  | zero => exact saturated goal _ (either_query true goal)
  | succ n ih => exact congrArg y ih

/-- Of a saturated way, more than once is once. -/
theorem bounded (saturated : Saturated y) {least most : Nat} (lt : 1 < most) (goal : Goal) :
    y.times least (y.rounds true (most - least) goal) =
      y.times least (y.rounds true (max 1 least - least) goal) := by
  cases least with
  | zero =>
    obtain ⟨more, rfl⟩ : ∃ n, most = n + 1 := ⟨most - 1, by omega⟩
    rw [Nat.sub_zero, saturated.rounds, Nat.max_eq_left (Nat.zero_le 1), Nat.sub_zero,
      saturated.rounds 0]
  | succ least =>
    have nothing : max 1 (least + 1) - (least + 1) = 0 := by omega
    rw [nothing]
    cases most - (least + 1) with
    | zero => rfl
    | succ more =>
      rw [saturated.rounds]
      exact saturated.times_query least goal

end Saturated

/-- At least once, or nothing. -/
theorem query_plus (h : Orderly size w) (greedy : Bool) :
    (w.plus size greedy).query greedy = w.star size greedy := by
  funext goal p
  rw [star_fix h]
  rfl

/-- A seldom repetition of a seldom one. -/
theorem star_lazyPlus (h : Orderly size w) :
    (w.plus size false).star size false = w.star size false := by
  funext goal
  refine eq_star (h.plus false) fun p => ?_
  have same : w.star size false (past p goal (w.star size false goal)) = w.star size false goal :=
    star_congr h (past_eq_or p goal _)
  rw [plus, same]
  exact star_fix h goal p

theorem plus_lazyPlus (h : Orderly size w) :
    (w.plus size false).plus size false = w.plus size false := by
  funext goal
  rw [plus, star_lazyPlus h]
  exact congrArg w (star_congr h fun p => .inr rfl)

end Way

end Tincture.Regex
