import Mathlib.Data.List.Basic
import Tincture.Regex.Compiled

/-!
Matching stays within the text.

Expressions are run with a continuation, so what there is to know about the positions of a match is
where the continuation is called. `Confined` says that an expression succeeds only through its
continuation, called at a spot whose position and groups lie within the text; `Node.run_confined`
proves it of every expression, one case for each way `Node.run` goes. Hence a match, and every group
it captured, ends within the text. An engine of which this is true is `Engine.Confined`, and what a
search finds is within the text as well (`Engine.search?_within`).
-/

namespace Tincture

namespace Regex

/-- The position and the ends of all groups lie within a text of `size` characters. -/
structure Spot.Within (size : Nat) (s : Spot) : Prop where
  pos_le : s.pos ≤ size
  opened_le : ∀ e ∈ s.opened, e.2 ≤ size
  closed_le : ∀ e ∈ s.closed, e.2 ≤ size

/-- Success comes only from the continuation, at a spot within the text. -/
def Confined (size : Nat) (f : Next → Next) : Prop :=
  ∀ k s r, s.Within size → f k s = some r → ∃ u : Spot, u.Within size ∧ k u = some r

/-! ### Spots -/

namespace Spot.Within

variable {size : Nat} {s : Spot}

theorem moveTo (h : s.Within size) {pos : Nat} (le : pos ≤ size) : (s.moveTo pos).Within size :=
  ⟨le, h.opened_le, h.closed_le⟩

theorem openGroup (h : s.Within size) (group : Nat) : (s.openGroup group).Within size := by
  refine ⟨h.pos_le, fun e mem => ?_, h.closed_le⟩
  rcases List.mem_cons.mp mem with rfl | mem
  · exact h.pos_le
  · exact h.opened_le e mem

theorem closeGroup (h : s.Within size) (group : Nat) : (s.closeGroup group).Within size := by
  refine ⟨h.pos_le, h.opened_le, ?_⟩
  intro e mem
  rcases List.mem_cons.mp mem with rfl | mem
  · exact h.pos_le
  · exact h.closed_le e mem

theorem start {pos : Nat} (le : pos ≤ size) : Spot.Within size { pos } :=
  ⟨le, fun _ mem => absurd mem List.not_mem_nil, fun _ mem => absurd mem List.not_mem_nil⟩

/-- The range of a group ends within the text. -/
theorem group?_le (h : s.Within size) {group start stop : Nat}
    (found : s.group? group = some (start, stop)) : start ≤ size ∧ stop ≤ size := by
  unfold Spot.group? at found
  cases opened : s.opened.lookup group with
  | none => simp [opened] at found
  | some a =>
    cases closed : s.closed.lookup group with
    | none => simp [opened, closed] at found
    | some b =>
      simp only [opened, closed, Option.some.injEq, Prod.mk.injEq] at found
      obtain ⟨rfl, rfl⟩ := found
      obtain ⟨_, _, openings, -⟩ := List.lookup_eq_some_iff.mp opened
      obtain ⟨_, _, closings, -⟩ := List.lookup_eq_some_iff.mp closed
      exact ⟨h.opened_le (group, a) (by simp [openings]),
        h.closed_le (group, b) (by simp [closings])⟩

end Spot.Within

/-! ### Trying in order -/

theorem exists_of_firstDown {α : Type} {f : Nat → Option α} {low count : Nat} {a : α}
    (h : firstDown f low count = some a) : ∃ i, low ≤ i ∧ i ≤ low + count ∧ f i = some a := by
  induction count with
  | zero => exact ⟨low, Nat.le_refl _, Nat.le_refl _, h⟩
  | succ count ih =>
    simp only [firstDown] at h
    split at h
    · rename_i found
      exact ⟨low + count + 1, by omega, by omega, by rw [found, h]⟩
    · obtain ⟨i, le, ge, found⟩ := ih h
      exact ⟨i, le, by omega, found⟩

theorem exists_of_firstUp {α : Type} {f : Nat → Option α} {low count : Nat} {a : α}
    (h : firstUp f low count = some a) : ∃ i, low ≤ i ∧ i ≤ low + count ∧ f i = some a := by
  induction count generalizing low with
  | zero => exact ⟨low, Nat.le_refl _, Nat.le_refl _, h⟩
  | succ count ih =>
    simp only [firstUp] at h
    split at h
    · rename_i found
      exact ⟨low, Nat.le_refl _, by omega, by rw [found, h]⟩
    · obtain ⟨i, le, ge, found⟩ := ih h
      exact ⟨i, by omega, by omega, found⟩

/-! ### The text -/

namespace Subject

variable {t : Subject}

theorem reach_le (set : CodeSet) (pos room : Nat) : t.reach set pos room ≤ room := by
  induction room generalizing pos with
  | zero => exact Nat.le_refl _
  | succ room ih =>
    simp only [reach]
    split
    · exact Nat.succ_le_succ (ih (pos + 1))
    · exact Nat.zero_le _

/-- A sweep ends where it begins if there is no member. -/
theorem reach_of_not_holdsAt {set : CodeSet} {pos : Nat} (h : t.holdsAt set pos = false)
    (room : Nat) : t.reach set pos room = 0 := by
  cases room with
  | zero => rfl
  | succ room =>
    rw [reach, h]
    rfl

/-- It uses all its room if there are only members. -/
theorem reach_of_holdsAt {set : CodeSet} {pos room : Nat}
    (all : ∀ p, pos ≤ p → p < pos + room → t.holdsAt set p = true) :
    t.reach set pos room = room := by
  induction room generalizing pos with
  | zero => rfl
  | succ room ih =>
    rw [reach, if_pos (all pos (Nat.le_refl pos) (by omega)),
      ih fun p le lt => all p (by omega) (by omega)]

theorem lt_size_of_holdsAt {set : CodeSet} {pos : Nat} (h : t.holdsAt set pos = true) :
    pos < t.text.size := by
  by_contra beyond
  rw [holdsAt, Array.getElem?_eq_none (Nat.le_of_not_lt beyond)] at h
  cases h

theorem lt_size_of_getElem? {pos : Nat} {c : Char} (h : t.text[pos]? = some c) :
    pos < t.text.size :=
  (Array.getElem?_eq_some_iff.mp h).1

theorem literal?_le {codes : List Nat} {pos stop : Nat} (le : pos ≤ t.text.size)
    (h : t.literal? codes pos = some stop) : stop ≤ t.text.size := by
  induction codes generalizing pos with
  | nil =>
    cases h
    exact le
  | cons n codes ih =>
    simp only [literal?] at h
    split at h
    · rename_i found
      split at h
      · exact ih (lt_size_of_getElem? found) h
      · cases h
    · cases h

theorem foldedIn?_le {room : Nat} {codes : List Nat} {pos stop : Nat} (le : pos ≤ t.text.size)
    (h : t.foldedIn? room codes pos = some stop) : stop ≤ t.text.size := by
  induction room generalizing codes pos with
  | zero =>
    cases codes with
    | nil =>
      cases h
      exact le
    | cons n codes => cases h
  | succ room ih =>
    cases codes with
    | nil =>
      cases h
      exact le
    | cons n codes =>
      simp only [foldedIn?] at h
      split at h
      · rename_i found
        split at h
        · exact ih (lt_size_of_getElem? found) h
        · cases h
      · cases h

theorem repeats?_le {start count pos stop : Nat} (le : pos ≤ t.text.size)
    (h : t.repeats? start count pos = some stop) : stop ≤ t.text.size := by
  induction count generalizing start pos with
  | zero =>
    cases h
    exact le
  | succ count ih =>
    simp only [repeats?] at h
    split at h
    · rename_i found
      split at h
      · exact ih (lt_size_of_getElem? found) h
      · cases h
    · cases h

theorem repeatsFolded?_le {start count room pos stop : Nat} (le : pos ≤ t.text.size)
    (h : t.repeatsFolded? start count room pos = some stop) : stop ≤ t.text.size := by
  induction count generalizing start room pos with
  | zero =>
    cases h
    exact le
  | succ count ih =>
    simp only [repeatsFolded?] at h
    split at h
    · rename_i found
      split at h
      · exact ih (lt_size_of_getElem? found) h
      · cases h
    · cases h

theorem referenced?_le {folded : Bool} {start stop pos next : Nat} (le : pos ≤ t.text.size)
    (h : t.referenced? folded start stop pos = some next) : next ≤ t.text.size := by
  unfold referenced? at h
  split at h
  · dsimp only at h
    split at h
    · exact repeatsFolded?_le le h
    · cases h
  · exact repeats?_le le h

end Subject

/-! ### Repetitions -/

namespace Node

variable {size : Nat} {t : Subject} {body other : Next → Next} {set : CodeSet}

theorem times_confined (h : Confined size body) (n : Nat) : Confined size (times body n) := by
  induction n with
  | zero => exact fun _ s _ within found => ⟨s, within, found⟩
  | succ n ih =>
    intro k s r within found
    obtain ⟨u, within, found⟩ := h _ s r within found
    exact ih k u r within found

theorem greedily_confined (h : Confined size body) (n : Nat) : Confined size (greedily body n) := by
  induction n with
  | zero => exact fun _ s _ within found => ⟨s, within, found⟩
  | succ n ih =>
    intro k s r within found
    simp only [greedily] at found
    split at found
    · rename_i round
      cases found
      obtain ⟨u, inside, found⟩ := h _ s r within round
      split at found
      · exact ⟨u, inside, found⟩
      · exact ih k u r inside found
    · exact ⟨s, within, found⟩

theorem lazily_confined (h : Confined size body) (n : Nat) : Confined size (lazily body n) := by
  induction n with
  | zero => exact fun _ s _ within found => ⟨s, within, found⟩
  | succ n ih =>
    intro k s r within found
    simp only [lazily] at found
    split at found
    · rename_i done
      cases found
      exact ⟨s, within, done⟩
    · obtain ⟨u, inside, found⟩ := h _ s r within found
      split at found
      · exact ⟨u, inside, found⟩
      · exact ih k u r inside found

/-- A sweep over the members of a set ends within the text. -/
theorem le_of_sweep {s : Spot} {pos : Nat} (within : s.Within t.text.size)
    (le : pos ≤ s.pos + t.reach set s.pos (t.text.size - s.pos)) : pos ≤ t.text.size := by
  have := within.pos_le
  have := t.reach_le set s.pos (t.text.size - s.pos)
  omega

theorem sweepGreedily_confined (h : Confined t.text.size other) (n : Nat) :
    Confined t.text.size (sweepGreedily t set other n) := by
  induction n with
  | zero => exact fun _ s _ within found => ⟨s, within, found⟩
  | succ n ih =>
    intro k s r within found
    obtain ⟨pos, -, le, found⟩ := exists_of_firstDown found
    have here := within.moveTo (le_of_sweep within le)
    split at found
    · rename_i round
      cases found
      obtain ⟨u, inside, found⟩ := h _ _ r here round
      split at found
      · exact ⟨u, inside, found⟩
      · exact ih k u r inside found
    · exact ⟨_, here, found⟩

theorem sweepLazily_confined (h : Confined t.text.size other) (n : Nat) :
    Confined t.text.size (sweepLazily t set other n) := by
  induction n with
  | zero => exact fun _ s _ within found => ⟨s, within, found⟩
  | succ n ih =>
    intro k s r within found
    simp only [sweepLazily] at found
    split at found
    · rename_i done
      cases found
      obtain ⟨pos, -, le, found⟩ := exists_of_firstUp done
      exact ⟨_, within.moveTo (le_of_sweep within le), found⟩
    · obtain ⟨pos, -, le, found⟩ := exists_of_firstDown found
      obtain ⟨u, inside, found⟩ := h _ _ r (within.moveTo (le_of_sweep within le)) found
      split at found
      · exact ⟨u, inside, found⟩
      · exact ih k u r inside found

theorem choice_confined (h : Confined t.text.size other) :
    Confined t.text.size (choice t set other) := by
  intro k s r within found
  unfold choice at found
  split at found
  · rename_i member
    split at found
    · rename_i done
      cases found
      exact ⟨_, within.moveTo (Subject.lt_size_of_holdsAt member), done⟩
    · exact h k s r within found
  · exact h k s r within found

/-- A sweep over a set alone, `room` characters of the text being looked at. -/
theorem exists_of_sweep {k : Next} {s r : Spot} {least room : Nat} {greedy : Bool}
    (within : s.Within t.text.size) (room_le : room ≤ t.text.size - s.pos)
    (found : (if t.reach set s.pos room < least then none
      else if greedy then
        firstDown (fun pos => k (s.moveTo pos)) (s.pos + least) (t.reach set s.pos room - least)
      else firstUp (fun pos => k (s.moveTo pos)) (s.pos + least)
        (t.reach set s.pos room - least)) = some r) :
    ∃ u : Spot, u.Within t.text.size ∧ k u = some r := by
  have := t.reach_le set s.pos room
  have := within.pos_le
  split at found
  · cases found
  · split at found
    · obtain ⟨pos, -, le, found⟩ := exists_of_firstDown found
      exact ⟨_, within.moveTo (by omega), found⟩
    · obtain ⟨pos, -, le, found⟩ := exists_of_firstUp found
      exact ⟨_, within.moveTo (by omega), found⟩

theorem sweepSet_confined (least : Nat) (most : Option Nat) (greedy : Bool) :
    Confined t.text.size (sweepSet t set least most greedy) := by
  intro k s r within found
  cases most with
  | none => exact exists_of_sweep within (Nat.le_refl _) found
  | some m => exact exists_of_sweep within (Nat.min_le_right _ _) found

/-- A look-behind runs its body from some way back, and only a run that ends where it stands counts.
-/
theorem within_of_behind {s u : Spot} {least far : Nat} (h : Confined t.text.size body)
    (within : s.Within t.text.size)
    (found : (if least ≤ far then
        firstUp (fun back => body (fun v => if v.pos = s.pos then some v else none)
          (s.moveTo (s.pos - back))) least (far - least)
      else none) = some u) : u.Within t.text.size := by
  split at found
  · obtain ⟨back, -, -, found⟩ := exists_of_firstUp found
    have earlier : s.pos - back ≤ t.text.size := by
      have := within.pos_le
      omega
    obtain ⟨v, inside, eq⟩ := h _ _ u (within.moveTo earlier) found
    split at eq
    · cases eq
      exact inside
    · cases eq
  · cases found

/-! ### Expressions -/

/-- Every expression succeeds only through its continuation, at a spot within the text. -/
theorem run_confined (t : Subject) (a : Node) : Confined t.text.size (a.run t) := by
  induction a using Node.run.induct with
  | case1 => exact fun _ s _ within found => ⟨s, within, found⟩
  | case2 codes folded =>
    intro k s r within found
    simp only [run] at found
    split at found
    · rename_i pos reached
      refine ⟨_, within.moveTo ?_, found⟩
      cases folded
      · exact Subject.literal?_le within.pos_le reached
      · exact Subject.foldedIn?_le within.pos_le reached
    · cases found
  | case3 set =>
    intro k s r within found
    simp only [run] at found
    split at found
    · rename_i member
      exact ⟨_, within.moveTo (Subject.lt_size_of_holdsAt member), found⟩
    · cases found
  | case4 a b iha ihb =>
    intro k s r within found
    obtain ⟨u, inside, found⟩ := iha _ s r within found
    exact ihb k u r inside found
  | case5 a b iha ihb =>
    intro k s r within found
    simp only [run] at found
    split at found
    · rename_i done
      cases found
      exact iha k s r within done
    · exact ihb k s r within found
  | case6 group a ih =>
    intro k s r within found
    obtain ⟨u, inside, found⟩ := ih _ _ r (within.openGroup group) found
    exact ⟨_, inside.closeGroup group, found⟩
  | case7 least most greedy set =>
    rw [run]
    exact sweepSet_confined least most greedy
  | case8 least greedy set other ih =>
    intro k s r within found
    rw [run] at found
    obtain ⟨u, inside, found⟩ := times_confined (choice_confined ih) least _ s r within found
    split at found
    · exact sweepGreedily_confined ih _ k u r inside found
    · exact sweepLazily_confined ih _ k u r inside found
  | case9 least most greedy a notOne notChoice ih =>
    intro k s r within found
    rw [run.eq_9 t least most greedy a notOne notChoice] at found
    obtain ⟨u, inside, found⟩ := times_confined ih least _ s r within found
    split at found
    · exact greedily_confined ih _ k u r inside found
    · exact lazily_confined ih _ k u r inside found
  | case10 a ih =>
    intro k s r within found
    simp only [run] at found
    split at found
    · rename_i u done
      obtain ⟨v, inside, eq⟩ := ih some s u within done
      cases eq
      exact ⟨u, inside, found⟩
    · cases found
  | case11 negated a ih =>
    intro k s r within found
    simp only [run] at found
    split at found
    · rename_i u done
      split at found
      · cases found
      · obtain ⟨v, inside, eq⟩ := ih some s u within done
        cases eq
        exact ⟨_, inside.moveTo within.pos_le, found⟩
    · split at found
      · exact ⟨s, within, found⟩
      · cases found
  | case12 negated a ih =>
    intro k s r within found
    simp only [run] at found
    split at found
    · rename_i u done
      split at found
      · cases found
      · exact ⟨u, within_of_behind ih within done, found⟩
    · split at found
      · exact ⟨s, within, found⟩
      · cases found
  | case13 a =>
    intro k s r within found
    simp only [run] at found
    split at found
    · exact ⟨s, within, found⟩
    · cases found
  | case14 group folded =>
    intro k s r within found
    simp only [run] at found
    split at found
    · split at found
      · rename_i reached
        exact ⟨_, within.moveTo (Subject.referenced?_le within.pos_le reached), found⟩
      · cases found
    · cases found

end Node

/-! ### Matches -/

/-- A match that is accepted at its end is a spot within the text. -/
theorem within_of_run {t : Subject} {a : Node} {s r : Spot} {accepts : Spot → Bool}
    (within : s.Within t.text.size)
    (h : a.run t (fun u => if accepts u then none else some u) s = some r) :
    r.Within t.text.size := by
  obtain ⟨u, inside, eq⟩ := Node.run_confined t a _ s r within h
  split at eq
  · cases eq
  · cases eq
    exact inside

end Regex

namespace Engine

/-- Whatever is matched at a position of a text ends within the text, and so do the groups. -/
class Confined (E : Type) [Engine E] : Prop where
  within {e : E} {text : Array Char} {origin pos : Nat} {s : Regex.Spot} (inside : pos ≤ text.size)
    (h : matchFrom? e text origin pos = some s) : s.Within text.size

instance : Confined Regex where
  within {_ text origin _ _} inside h :=
    Regex.within_of_run (t := { text, origin }) (.start inside) h

variable {E : Type} [Engine E] [Confined E]

theorem searchFrom?_within {e : E} {text : Array Char} {pos room : Nat} {s : Regex.Spot}
    (le : pos + room ≤ text.size + 1) (h : searchFrom? e text pos room = some s) :
    s.Within text.size := by
  induction room generalizing pos with
  | zero => cases h
  | succ room ih =>
    simp only [searchFrom?] at h
    split at h
    · rename_i done
      cases h
      exact Confined.within (by omega) done
    · exact ih (by omega) h

/-- A match found in a text and all its groups end within the text. -/
theorem search?_within {e : E} {text : Array Char} {s : Regex.Spot}
    (h : search? e text = some s) : s.Within text.size :=
  searchFrom?_within (by omega) h

end Engine

end Tincture
