import Tincture.Proofs.Regex.Confinement
import Tincture.Proofs.Regex.Way

/-!
What an expression matches, by positions alone.

An expression without back-references is a way through the text: `Node.walk` leaves out the groups,
and repeats everything in the same manner, where `Node.run` sweeps over sets. Both find the same
position (`run_follows_walk`).
-/

namespace Tincture.Regex

namespace Node

/-- A repetition can be done at all. -/
def Feasible (least : Nat) (most : Option Nat) : Prop := ∀ m ∈ most, least ≤ m

/-- The expression neither refers back nor looks behind, its repetitions are feasible, and its
literal runs are all folded or all not. -/
def Plain (folded : Bool) : Node → Prop
  | .empty | .one _ | .anchor _ => True
  | .text _ f => f = folded
  | .seq a b | .alt a b => a.Plain folded ∧ b.Plain folded
  | .capture _ a | .atomic a | .ahead _ a => a.Plain folded
  | .repetition least most _ a => Feasible least most ∧ a.Plain folded
  | .behind _ _ | .reference _ _ => False

/-- The way of an expression through a text. -/
def walk (t : Subject) : Node → Way
  | .empty => fun goal => goal
  | .text codes folded => fun goal p =>
    (if folded then t.folded? codes p else t.literal? codes p).bind goal
  | .one set => fun goal p => if t.holdsAt set p then goal (p + 1) else none
  | .seq a b => fun goal => a.walk t (b.walk t goal)
  | .alt a b => fun goal p => (a.walk t goal p).or (b.walk t goal p)
  | .capture _ a => a.walk t
  | .repetition least most greedy a => fun goal =>
    (a.walk t).times least fun p => (a.walk t).rounds greedy (rounds t least most p) goal p
  | .atomic a => fun goal p => (a.walk t some p).bind goal
  | .ahead negated a => fun goal p =>
    if (a.walk t some p).isSome = negated then none else goal p
  | .anchor a => fun goal p => if t.satisfies p a then goal p else none
  | .behind _ _ | .reference _ _ => fun _ _ => none

end Node

open Node

/-! ### Walks are orderly -/

namespace Subject

variable {t : Subject} {set : CodeSet} {p : Nat}

theorem literal?_forward {codes : List Nat} {u : Nat} (h : t.literal? codes p = some u) :
    p ≤ u ∧ (p < u → u ≤ t.text.size) := by
  induction codes generalizing p with
  | nil =>
    cases h
    exact ⟨Nat.le_refl _, fun lt => absurd lt (Nat.lt_irrefl _)⟩
  | cons n codes ih =>
    simp only [literal?] at h
    split at h
    · rename_i found
      split at h
      · have inside := lt_size_of_getElem? found
        obtain ⟨le, further⟩ := ih h
        exact ⟨by omega, fun _ => by omega⟩
      · cases h
    · cases h

theorem foldedIn?_forward {room : Nat} {codes : List Nat} {u : Nat}
    (h : t.foldedIn? room codes p = some u) : p ≤ u ∧ (p < u → u ≤ t.text.size) := by
  fun_induction foldedIn? t room codes p with
  | case1 room p =>
    cases h
    exact ⟨Nat.le_refl _, fun lt => absurd lt (Nat.lt_irrefl _)⟩
  | case2 n codes p => cases h
  | case3 _ _ _ _ _ found _ _ ih =>
    have inside := lt_size_of_getElem? found
    obtain ⟨le, further⟩ := ih h
    exact ⟨by omega, fun _ => by omega⟩
  | case4 => cases h
  | case5 => cases h

theorem literal?_append (a b : List Nat) (p : Nat) :
    t.literal? (a ++ b) p = (t.literal? a p).bind (t.literal? b) := by
  induction a generalizing p with
  | nil => rfl
  | cons n a ih =>
    simp only [List.cons_append, literal?]
    split
    · split
      · exact ih (p + 1)
      · rfl
    · rfl

/-- A member of a set. -/
def member (t : Subject) (set : CodeSet) : Way := fun goal p =>
  if t.holdsAt set p then goal (p + 1) else none

theorem member_orderly (set : CodeSet) : Way.Orderly t.text.size (t.member set) := by
  have eq : t.member set = fun goal p =>
      (if t.holdsAt set p then some (p + 1) else none).bind goal := by
    funext goal p
    unfold member
    split <;> rfl
  rw [eq]
  refine .of_step fun p u found => ?_
  split at found
  · rename_i held
    have := lt_size_of_holdsAt held
    cases found
    omega
  · cases found

end Subject

open Way

theorem walk_orderly (t : Subject) {folded : Bool} {a : Node} (plain : a.Plain folded) :
    Orderly t.text.size (a.walk t) := by
  induction a with
  | empty => exact .stay
  | text codes folded =>
    refine .of_step fun p u found => ?_
    cases folded
    · exact Subject.literal?_forward found
    · exact Subject.foldedIn?_forward found
  | one set => exact Subject.member_orderly set
  | seq a b iha ihb => exact (iha plain.1).seq (ihb plain.2)
  | alt a b iha ihb => exact (iha plain.1).choose (ihb plain.2) true
  | capture group a ih => exact ih plain
  | repetition least most greedy a ih =>
    have body := ih plain.2
    refine (body.times least).seq (v := fun goal p =>
      (a.walk t).rounds greedy (Node.rounds t least most p) goal p) ?_
    exact fun p => body.rounds greedy _ p
  | atomic a ih =>
    refine .of_step fun p u found => ?_
    obtain ⟨ends, bounds, eq⟩ := ih plain p
    rw [eq] at found
    obtain ⟨v, mem, same⟩ := List.exists_of_findSome?_eq_some found
    cases same
    exact bounds u mem
  | ahead negated a ih =>
    intro p
    by_cases refused : (a.walk t some p).isSome = negated
    · exact ⟨[], fun _ mem => absurd mem List.not_mem_nil, fun goal => if_pos refused⟩
    · obtain ⟨ends, bounds, eq⟩ := @Orderly.stay t.text.size p
      exact ⟨ends, bounds, fun goal => (if_neg refused).trans (eq goal)⟩
  | behind negated a ih => exact plain.elim
  | anchor a =>
    intro p
    by_cases holds : t.satisfies p a = true
    · obtain ⟨ends, bounds, eq⟩ := @Orderly.stay t.text.size p
      exact ⟨ends, bounds, fun goal => (if_pos holds).trans (eq goal)⟩
    · exact ⟨[], fun _ mem => absurd mem List.not_mem_nil, fun goal => if_neg holds⟩
  | reference group folded => exact plain.elim

/-! ### Running and walking -/

/-- At every spot the continuation finds the position that the goal finds. -/
def Mirrors (k : Next) (goal : Goal) : Prop := ∀ s : Spot, (k s).map (·.pos) = goal s.pos

/-- With continuations that mirror goals the expression mirrors the way. -/
def Follows (f : Next → Next) (w : Way) : Prop := ∀ k goal, Mirrors k goal → Mirrors (f k) (w goal)

section Trying

variable {α β : Type}

theorem firstDown_last (f : Nat → Option α) (low count : Nat) :
    firstDown f low (count + 1) = (f (low + count + 1)).or (firstDown f low count) := by
  rw [firstDown]
  cases f (low + count + 1) <;> rfl

theorem firstDown_of_last {f : Nat → Option α} {low count : Nat} {a : α}
    (h : f (low + count) = some a) : firstDown f low count = some a := by
  cases count with
  | zero => exact h
  | succ count =>
    rw [firstDown_last, Nat.add_assoc, h]
    rfl

theorem firstDown_succ (f : Nat → Option α) (low count : Nat) :
    firstDown f low (count + 1) = (firstDown f (low + 1) count).or (f low) := by
  induction count with
  | zero => exact firstDown_last f low 0
  | succ count ih =>
    have same : low + (count + 1) + 1 = low + 1 + count + 1 := by omega
    rw [firstDown_last, ih, firstDown_last f (low + 1), same, Option.or_assoc]

theorem firstUp_succ (f : Nat → Option α) (low count : Nat) :
    firstUp f low (count + 1) = (f low).or (firstUp f (low + 1) count) := by
  rw [firstUp]
  cases f low <;> rfl

theorem map_firstDown {f : Nat → Option α} {g : Nat → Option β} {h : α → β}
    (same : ∀ i, (f i).map h = g i) (low count : Nat) :
    (firstDown f low count).map h = firstDown g low count := by
  induction count with
  | zero => exact same low
  | succ count ih =>
    rw [firstDown_last, firstDown_last, Option.map_or, ih, same]

theorem map_firstUp {f : Nat → Option α} {g : Nat → Option β} {h : α → β}
    (same : ∀ i, (f i).map h = g i) (low count : Nat) :
    (firstUp f low count).map h = firstUp g low count := by
  induction count generalizing low with
  | zero => exact same low
  | succ count ih => rw [firstUp_succ, firstUp_succ, Option.map_or, ih, same]

end Trying

/-! ### Sweeps over a set -/

namespace Subject

variable {t : Subject} {set : CodeSet} {p : Nat}

/-- Beyond the end of the text nothing belongs to a set. -/
theorem reach_of_le (le : t.text.size ≤ p) (room : Nat) : t.reach set p room = 0 := by
  refine reach_of_not_holdsAt (Bool.eq_false_iff.mpr fun held => ?_) room
  have := lt_size_of_holdsAt held
  omega

/-- Looking further than the text is long finds no more. -/
theorem reach_stable {room room' : Nat} (le : t.text.size - p ≤ room)
    (le' : t.text.size - p ≤ room') : t.reach set p room = t.reach set p room' := by
  induction room generalizing p room' with
  | zero => rw [reach_of_le (by omega), reach_of_le (by omega)]
  | succ room ih =>
    cases room' with
    | zero => rw [reach_of_le (by omega), reach_of_le (by omega)]
    | succ room' =>
      have further : t.reach set (p + 1) room = t.reach set (p + 1) room' :=
        ih (by omega) (by omega)
      rw [reach, reach, further]

theorem reach_min (set : CodeSet) (p m : Nat) :
    t.reach set p (min m (t.text.size - p)) = t.reach set p m := by
  by_cases short : m ≤ t.text.size - p
  · rw [Nat.min_eq_left short]
  · exact reach_stable (by omega) (by omega)

/-- Members on the first `least` positions, and then further ones. -/
theorem reach_add (set : CodeSet) (p least more : Nat) :
    t.reach set p (least + more) =
      if t.reach set p least < least then t.reach set p least
      else least + t.reach set (p + least) more := by
  induction least generalizing p with
  | zero => simp [reach]
  | succ least ih =>
    rw [Nat.add_right_comm, reach, reach]
    by_cases held : t.holdsAt set p = true
    · rw [if_pos held, if_pos held, ih]
      have next : p + 1 + least = p + (least + 1) := by omega
      rw [next]
      split <;> split <;> omega
    · rw [if_neg held, if_neg held, if_pos (Nat.succ_pos least)]

theorem member_times (least : Nat) (goal : Goal) :
    (t.member set).times least goal p =
      if t.reach set p least < least then none else goal (p + least) := by
  induction least generalizing p with
  | zero => rfl
  | succ least ih =>
    change t.member set ((t.member set).times least goal) p = _
    rw [member, ih, reach]
    by_cases held : t.holdsAt set p = true
    · have next : p + 1 + least = p + (least + 1) := by omega
      rw [if_pos held, if_pos held, next]
      by_cases short : t.reach set (p + 1) least < least
      · rw [if_pos short, if_pos (by omega)]
      · rw [if_neg short, if_neg (by omega)]
    · rw [if_neg held, if_neg held, if_pos (Nat.succ_pos least)]

/-- Rounds of members try one end after the other. -/
theorem member_rounds (greedy : Bool) (n : Nat) (goal : Goal) :
    (t.member set).rounds greedy n goal p =
      if greedy then firstDown goal p (t.reach set p n) else firstUp goal p (t.reach set p n) := by
  induction n generalizing p with
  | zero => cases greedy <;> rfl
  | succ n ih =>
    have step : (t.member set).rounds greedy (n + 1) goal p = choose greedy
        (if t.holdsAt set p then (t.member set).rounds greedy n goal (p + 1) else none)
        (goal p) := by
      have ne : p + 1 ≠ p := Nat.succ_ne_self p
      change choose greedy (t.member set (past p goal _) p) (goal p) = _
      rw [member, past_of_ne ne]
    rw [step, ih, reach]
    by_cases held : t.holdsAt set p = true
    · rw [if_pos held, if_pos held, firstDown_succ, firstUp_succ]
      cases greedy <;> rfl
    · rw [if_neg held, if_neg held]
      cases greedy <;> simp [choose, firstDown, firstUp]

end Subject

/-- A sweep looks at as many characters as the bounds allow. -/
theorem sweepSet_eq (t : Subject) (set : CodeSet) {least : Nat} {most : Option Nat} (greedy : Bool)
    (feasible : Feasible least most) (k : Next) (s : Spot) :
    sweepSet t set least most greedy k s =
      let far := t.reach set s.pos (least + Node.rounds t least most (s.pos + least))
      if far < least then none
      else if greedy then firstDown (fun pos => k (s.moveTo pos)) (s.pos + least) (far - least)
      else firstUp (fun pos => k (s.moveTo pos)) (s.pos + least) (far - least) := by
  unfold sweepSet
  cases most with
  | none =>
    have same : t.reach set s.pos (t.text.size - s.pos) =
        t.reach set s.pos (least + Node.rounds t least none (s.pos + least)) :=
      Subject.reach_stable (Nat.le_refl _) (by simp only [Node.rounds]; omega)
    dsimp only
    rw [same]
  | some m =>
    have room : least + Node.rounds t least (some m) (s.pos + least) = m :=
      Nat.add_sub_cancel' (feasible m rfl)
    dsimp only
    rw [Subject.reach_min, room]

/-- A sweep over a set does what repeating the set does. -/
theorem sweepSet_follows (t : Subject) (set : CodeSet) {least : Nat} {most : Option Nat}
    (greedy : Bool) (feasible : Feasible least most) :
    Follows (sweepSet t set least most greedy)
      ((Node.repetition least most greedy (.one set)).walk t) := by
  intro k goal mirrors s
  have each : ∀ i, (k (s.moveTo i)).map (·.pos) = goal i := fun i => mirrors (s.moveTo i)
  change _ = (t.member set).times least
    (fun p => (t.member set).rounds greedy (Node.rounds t least most p) goal p) s.pos
  rw [Subject.member_times, Subject.member_rounds, sweepSet_eq t set greedy feasible,
    Subject.reach_add]
  dsimp only
  by_cases short : t.reach set s.pos least < least
  · rw [if_pos short, if_pos short, if_pos short]
    rfl
  · rw [if_neg short, if_neg short, if_neg (by omega), Nat.add_sub_cancel_left]
    cases greedy
    · exact map_firstUp each _ _
    · exact map_firstDown each _ _

/-! ### Sweeps over a set or something else -/

section Mixed

variable {t : Subject} {set : CodeSet} {other : Way} {goal : Goal} {p : Nat}

/-- A member of a set, or else something else. -/
def either (t : Subject) (set : CodeSet) (other : Way) : Way := fun goal p =>
  (t.member set goal p).or (other goal p)

/-- Members of a set up to the next character outside it, and then the other way, again and again.
-/
def sweeps (t : Subject) (set : CodeSet) (other : Way) (greedy : Bool) : Nat → Way
  | 0 => fun goal => goal
  | n + 1 => fun goal p =>
    let far := t.reach set p (t.text.size - p)
    let onward q := other (past q goal (sweeps t set other greedy n goal)) q
    if greedy then firstDown (fun q => (onward q).or (goal q)) p far
    else (firstUp goal p far).or (firstDown onward p far)

theorem either_orderly (h : Orderly t.text.size other) : Orderly t.text.size (either t set other) :=
  (Subject.member_orderly set).choose h true

/-- A repetition of both passes the members one by one, and comes back by the other way. -/
theorem star_either (h : Orderly t.text.size other) (greedy : Bool) {room : Nat}
    (le : t.text.size - p ≤ room) :
    (either t set other).star t.text.size greedy goal p =
      let far := t.reach set p room
      let onward q := other (past q goal ((either t set other).star t.text.size greedy goal)) q
      if greedy then firstDown (fun q => (onward q).or (goal q)) p far
      else (firstUp goal p far).or (firstDown onward p far) := by
  induction room generalizing p with
  | zero =>
    have outside : t.holdsAt set p ≠ true := by
      intro held
      have := Subject.lt_size_of_holdsAt held
      omega
    rw [star_eq (either_orderly h), either, Subject.member, if_neg outside]
    cases greedy <;> simp [choose, Subject.reach, firstDown, firstUp]
  | succ room ih =>
    have ne : p + 1 ≠ p := Nat.succ_ne_self p
    rw [star_eq (either_orderly h), either, Subject.member, past_of_ne ne, Subject.reach]
    by_cases held : t.holdsAt set p = true
    · rw [if_pos held, if_pos held, ih (by omega)]
      cases greedy with
      | true => simp only [choose, if_true, firstDown_succ, Option.or_assoc]
      | false =>
        simp only [choose, Bool.false_eq_true, if_false, firstDown_succ, firstUp_succ,
          Option.or_assoc]
    · rw [if_neg held, if_neg held]
      cases greedy <;> simp [choose, firstDown, firstUp]

/-- With enough rounds a sweep is the repetition. -/
theorem sweeps_eq_star (h : Orderly t.text.size other) (greedy : Bool) {n : Nat}
    (enough : t.text.size - p + 1 ≤ n) :
    sweeps t set other greedy n goal p = (either t set other).star t.text.size greedy goal p := by
  induction n generalizing p with
  | zero => omega
  | succ n ih =>
    have onward (q : Nat) (le : p ≤ q) : other (past q goal (sweeps t set other greedy n goal)) q =
        other (past q goal ((either t set other).star t.text.size greedy goal)) q :=
      h.congr fun u ge inside => past_congr fun ne => ih (by omega)
    have down {f g : Nat → Option Nat} (same : ∀ q, p ≤ q → f q = g q) (count : Nat) :
        firstDown f p count = firstDown g p count := by
      induction count with
      | zero => exact same p (Nat.le_refl p)
      | succ count ih => rw [firstDown_last, firstDown_last, same _ (by omega), ih]
    rw [star_either h greedy (Nat.le_refl _), sweeps]
    cases greedy with
    | true => exact down (fun q le => congrArg (·.or (goal q)) (onward q le)) _
    | false => exact congrArg (Option.or (firstUp goal p _)) (down onward _)

end Mixed

section Following

variable {t : Subject} {set : CodeSet} {body : Next → Next} {w : Way} {k : Next} {goal : Goal}

theorem greedily_eq_or (body : Next → Next) (n : Nat) (k : Next) (s : Spot) :
    greedily body (n + 1) k s =
      (body (fun u => if u.pos = s.pos then k u else greedily body n k u) s).or (k s) := by
  simp only [greedily]
  cases body _ s <;> rfl

theorem lazily_eq_or (body : Next → Next) (n : Nat) (k : Next) (s : Spot) :
    lazily body (n + 1) k s =
      (k s).or (body (fun u => if u.pos = s.pos then k u else lazily body n k u) s) := by
  simp only [lazily]
  cases k s <;> rfl

theorem sweepGreedily_eq_or (t : Subject) (set : CodeSet) (other : Next → Next) (n : Nat) (k : Next)
    (s : Spot) :
    sweepGreedily t set other (n + 1) k s = firstDown
      (fun q => (other (fun u => if u.pos = q then k u else sweepGreedily t set other n k u)
        (s.moveTo q)).or (k (s.moveTo q)))
      s.pos (t.reach set s.pos (t.text.size - s.pos)) := by
  simp only [sweepGreedily]
  congr 1
  funext q
  cases other _ (s.moveTo q) <;> rfl

theorem sweepLazily_eq_or (t : Subject) (set : CodeSet) (other : Next → Next) (n : Nat) (k : Next)
    (s : Spot) :
    sweepLazily t set other (n + 1) k s =
      (firstUp (fun q => k (s.moveTo q)) s.pos (t.reach set s.pos (t.text.size - s.pos))).or
        (firstDown
          (fun q => other (fun u => if u.pos = q then k u else sweepLazily t set other n k u)
            (s.moveTo q))
          s.pos (t.reach set s.pos (t.text.size - s.pos))) := by
  simp only [sweepLazily]
  cases firstUp _ s.pos _ <;> rfl

theorem choice_eq_or (t : Subject) (set : CodeSet) (other : Next → Next) (k : Next) (s : Spot) :
    choice t set other k s =
      (if t.holdsAt set s.pos then k (s.moveTo (s.pos + 1)) else none).or (other k s) := by
  unfold choice
  split
  · cases k (s.moveTo (s.pos + 1)) <;> rfl
  · rfl

theorem run_alt_eq_or (t : Subject) (a b : Node) (k : Next) (s : Spot) :
    (Node.alt a b).run t k s = (a.run t k s).or (b.run t k s) := by
  simp only [run]
  cases a.run t k s <;> rfl

/-- What comes after a round. -/
theorem Mirrors.past (mirrors : Mirrors k goal) {next : Next} {further : Goal}
    (goes_on : Mirrors next further) (p : Nat) :
    Mirrors (fun u => if u.pos = p then k u else next u) (Way.past p goal further) := by
  intro u
  dsimp only [Way.past]
  split
  · exact mirrors u
  · exact goes_on u

theorem Follows.times (h : Follows body w) (n : Nat) : Follows (times body n) (w.times n) := by
  induction n with
  | zero => exact fun _ _ mirrors => mirrors
  | succ n ih => exact fun k goal mirrors => h _ _ (ih k goal mirrors)

theorem Follows.greedily (h : Follows body w) (n : Nat) :
    Follows (greedily body n) (w.rounds true n) := by
  induction n with
  | zero => exact fun _ _ mirrors => mirrors
  | succ n ih =>
    intro k goal mirrors s
    rw [greedily_eq_or, Option.map_or, mirrors s, h _ _ (mirrors.past (ih k goal mirrors) s.pos) s]
    rfl

theorem Follows.lazily (h : Follows body w) (n : Nat) :
    Follows (lazily body n) (w.rounds false n) := by
  induction n with
  | zero => exact fun _ _ mirrors => mirrors
  | succ n ih =>
    intro k goal mirrors s
    rw [lazily_eq_or, Option.map_or, mirrors s, h _ _ (mirrors.past (ih k goal mirrors) s.pos) s]
    rfl

theorem Follows.sweepGreedily (h : Follows body w) (n : Nat) :
    Follows (sweepGreedily t set body n) (sweeps t set w true n) := by
  induction n with
  | zero => exact fun _ _ mirrors => mirrors
  | succ n ih =>
    intro k goal mirrors s
    rw [sweepGreedily_eq_or]
    refine map_firstDown (fun q => ?_) _ _
    rw [Option.map_or, mirrors, h _ _ (mirrors.past (ih k goal mirrors) q)]
    rfl

theorem Follows.sweepLazily (h : Follows body w) (n : Nat) :
    Follows (sweepLazily t set body n) (sweeps t set w false n) := by
  induction n with
  | zero => exact fun _ _ mirrors => mirrors
  | succ n ih =>
    intro k goal mirrors s
    have up := map_firstUp (fun q => mirrors (s.moveTo q)) s.pos
      (t.reach set s.pos (t.text.size - s.pos))
    have down := map_firstDown (fun q => h _ _ (mirrors.past (ih k goal mirrors) q) (s.moveTo q))
      s.pos (t.reach set s.pos (t.text.size - s.pos))
    rw [sweepLazily_eq_or, Option.map_or, up, down]
    rfl

theorem Follows.choice (h : Follows body w) : Follows (choice t set body) (either t set w) := by
  intro k goal mirrors s
  rw [choice_eq_or, Option.map_or, h k goal mirrors s, either, Subject.member]
  split
  · rw [mirrors]
    rfl
  · rfl

end Following

/-- An expression finds the position that its way finds. -/
theorem run_follows_walk (t : Subject) {folded : Bool} {a : Node} (plain : a.Plain folded) :
    Follows (a.run t) (a.walk t) := by
  induction a using Node.run.induct with
  | case1 => exact fun _ _ mirrors => mirrors
  | case2 codes folded =>
    intro k goal mirrors s
    simp only [run, walk]
    cases (if folded = true then t.folded? codes s.pos else t.literal? codes s.pos) with
    | none => rfl
    | some p => exact mirrors (s.moveTo p)
  | case3 set =>
    intro k goal mirrors s
    simp only [run, walk]
    split
    · exact mirrors (s.moveTo (s.pos + 1))
    · rfl
  | case4 a b iha ihb => exact fun k goal mirrors => iha plain.1 _ _ (ihb plain.2 k goal mirrors)
  | case5 a b iha ihb =>
    intro k goal mirrors s
    rw [run_alt_eq_or, Option.map_or, iha plain.1 k goal mirrors s, ihb plain.2 k goal mirrors s]
    rfl
  | case6 group a ih =>
    intro k goal mirrors s
    exact ih plain (fun u => k (u.closeGroup group)) goal (fun u => mirrors (u.closeGroup group))
      (s.openGroup group)
  | case7 least most greedy set =>
    rw [run]
    exact sweepSet_follows t set greedy plain.1
  | case8 least greedy set other ih =>
    intro k goal mirrors
    have orderly := walk_orderly t plain.2.2
    rw [run]
    refine (ih plain.2.2).choice.times least _ _ fun s => ?_
    have sweep : sweeps t set (other.walk t) greedy (Node.rounds t least none s.pos) goal s.pos =
        (either t set (other.walk t)).rounds greedy (Node.rounds t least none s.pos) goal s.pos :=
      sweeps_eq_star orderly greedy (Nat.le_refl _)
    refine Eq.trans ?_ sweep
    cases greedy
    · exact (ih plain.2.2).sweepLazily _ k goal mirrors s
    · exact (ih plain.2.2).sweepGreedily _ k goal mirrors s
  | case9 least most greedy a notOne notChoice ih =>
    intro k goal mirrors
    rw [run.eq_9 t least most greedy a notOne notChoice]
    refine (ih plain.2).times least _ _ fun s => ?_
    cases greedy
    · exact (ih plain.2).lazily _ k goal mirrors s
    · exact (ih plain.2).greedily _ k goal mirrors s
  | case10 a ih =>
    intro k goal mirrors s
    have found := ih plain some some (fun _ => rfl) s
    simp only [run, walk]
    rw [← found]
    cases a.run t some s with
    | none => rfl
    | some u => exact mirrors u
  | case11 negated a ih =>
    intro k goal mirrors s
    have found := ih plain some some (fun _ => rfl) s
    simp only [run, walk]
    rw [← found]
    cases a.run t some s with
    | none =>
      cases negated
      · rfl
      · exact mirrors s
    | some u =>
      cases negated
      · exact mirrors (u.moveTo s.pos)
      · rfl
  | case12 negated a ih => exact plain.elim
  | case13 a =>
    intro k goal mirrors s
    simp only [run, walk]
    split
    · exact mirrors s
    · rfl
  | case14 group folded => exact plain.elim

/-! ### Matches -/

section Matches

variable {r : Regex} {folded : Bool} {text : Array Char} {pos : Nat}

/-- A match ends where the way of its expression does. -/
theorem matchAt?_eq_walk (plain : r.node.Plain folded) (text : Array Char) (pos : Nat) :
    (r.matchAt? text pos).map (·.pos) = r.node.walk { text, origin := pos }
      (fun u => if r.nonEmpty && u == pos then none else some u) pos := by
  have mirrors : Mirrors (fun s => if r.nonEmpty && s.pos == pos then none else some s)
      (fun u => if r.nonEmpty && u == pos then none else some u) := by
    intro s
    dsimp only
    split <;> rfl
  exact run_follows_walk _ plain _ _ mirrors { pos }

/-- A match that is not empty ends after the position it begins at, within the text. -/
theorem bounds_of_matchAt? (plain : r.node.Plain folded) (nonEmpty : r.nonEmpty = true) {stop : Nat}
    (h : (r.matchAt? text pos).map (·.pos) = some stop) : pos < stop ∧ stop ≤ text.size := by
  obtain ⟨ends, bounds, eq⟩ := walk_orderly { text, origin := pos } plain pos
  rw [matchAt?_eq_walk plain, eq] at h
  obtain ⟨u, mem, accepted⟩ := List.exists_of_findSome?_eq_some h
  rw [nonEmpty, Bool.true_and] at accepted
  split at accepted
  · cases accepted
  · rename_i further
    cases accepted
    obtain ⟨le, inside⟩ := bounds stop mem
    have ne : stop ≠ pos := fun same => further (beq_iff_eq.mpr same)
    have lt : pos < stop := by omega
    exact ⟨lt, inside lt⟩

end Matches

end Tincture.Regex
