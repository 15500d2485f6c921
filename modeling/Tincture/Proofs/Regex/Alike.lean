import Mathlib.Data.List.Forall2
import Tincture.Proofs.Regex.Outline
import Tincture.Proofs.Regex.Walk

/-!
Expressions that match alike.

While an expression is built, literal runs that meet are joined and repetitions of repetitions are
merged. The expression stays the same way through a text: one after the other (`agree_before`) and
repeated as the quantifier says (`walk_repeated`). So expressions that are the same way through a
text, `AlikeOn` it, are alike when they are built from parts that are. Only what lies behind the
origin of a match counts, since no way leads back. Whether parts of an expression are groups makes
no difference to where it matches.

That runs can be joined is not so where case is ignored and one character may stand for several of a
run; it is a condition on the text there (`Joins`). Where case matters it holds of every text, and
where case is ignored of texts whose characters, from the origin on, each fold to a single one
(`joins_folded`).
-/

namespace Tincture.Regex

open Node Way

namespace Node

/-! ### Plain expressions -/

theorem Plain.hereditary (folded : Bool) : Hereditary (Plain folded) Feasible where
  empty := trivial
  join := fun first _ => first
  seq_iff := Iff.rfl
  alt_iff := Iff.rfl
  atomic_iff := Iff.rfl
  repetition_iff := Iff.rfl
  sign := by
    intro s a plain
    cases s <;> exact ⟨by simp [Feasible], plain⟩
  capped := by
    rintro least _ ⟨⟩
    exact Nat.le_max_right 1 least

variable {t : Subject} {folded : Bool} {a b : Node}

/-! ### Sequences -/

/-- From the origin on, literal runs can be joined. -/
def Joins (t : Subject) (folded : Bool) : Prop := ∀ codes more : List Nat,
  AgreeFrom t.origin ((Node.text (codes ++ more) folded).walk t)
    fun goal => (Node.text codes folded).walk t ((Node.text more folded).walk t goal)

/-- Where case matters, they can. -/
theorem joins_literal (t : Subject) : Joins t false := by
  intro codes more goal p _
  simp only [walk, Bool.false_eq_true, if_false, Subject.literal?_append, Option.bind_assoc]

end Node

namespace Subject

/-- From the origin on, every character of the text folds to a single one. -/
def Single (t : Subject) : Prop := ∀ c ∈ t.text.toList.drop t.origin, (fold c.toNat).length = 1

variable {t : Subject} {p : Nat}

theorem folded?_nil (t : Subject) (p : Nat) : t.folded? [] p = some p := by
  rw [folded?, List.length_nil, foldedIn?]

/-- One code point of a folded run is compared with one character. -/
theorem Single.folded?_cons (single : t.Single) (le : t.origin ≤ p) (n : Nat) (codes : List Nat) :
    t.folded? (n :: codes) p =
      if t.text[p]?.any (fun c => fold c.toNat = [n]) then t.folded? codes (p + 1) else none := by
  simp only [folded?, List.length_cons, foldedIn?]
  cases found : t.text[p]? with
  | none => rfl
  | some c =>
    have behind : c ∈ t.text.toList.drop t.origin := by
      refine List.mem_of_getElem? (i := p - t.origin) ?_
      rw [List.getElem?_drop, Nat.add_sub_cancel' le, Array.getElem?_toList, found]
    obtain ⟨k, eq⟩ := List.length_eq_one_iff.mp (single c behind)
    by_cases same : k = n
    · simp [eq, dropRun?, same]
    · simp [eq, dropRun?, same]

theorem Single.folded?_append (single : t.Single) (le : t.origin ≤ p) (codes more : List Nat) :
    t.folded? (codes ++ more) p = (t.folded? codes p).bind (t.folded? more) := by
  induction codes generalizing p with
  | nil => rw [folded?_nil, List.nil_append, Option.bind_some]
  | cons n codes ih =>
    rw [List.cons_append, single.folded?_cons le, single.folded?_cons le,
      ih (Nat.le_succ_of_le le)]
    split <;> rfl

end Subject

namespace Node

/-- Where case is ignored, they can if no character of the text stands for several. -/
theorem joins_folded {t : Subject} (single : t.Single) : Joins t true := by
  intro codes more goal p le
  simp only [walk, if_true, single.folded?_append le, Option.bind_assoc]

variable {t : Subject} {folded : Bool} {a b : Node}

/-- Joining literal runs makes no difference. -/
theorem agree_before (join : Joins t folded) (plain : a.Plain folded) :
    AgreeFrom t.origin ((a.before b).walk t) fun goal => a.walk t (b.walk t goal) := by
  unfold before
  split
  · split
    · rename_i same
      subst same
      cases plain
      exact join _ _
    · exact .of_eq rfl
  · split
    · rename_i same
      subst same
      cases plain
      exact fun goal => join _ _ _
    · exact .of_eq rfl
  · exact .of_eq rfl

/-! ### Repetitions -/

/-- The repetition of a way that a sign stands for. -/
def Sign.way (size : Nat) : Sign → Way → Way
  | .query => Way.query true
  | .star => Way.star size true
  | .plus => Way.plus size true
  | .lazyQuery => Way.query false
  | .lazyStar => Way.star size false
  | .lazyPlus => Way.plus size false

theorem walk_apply (s : Sign) (a : Node) :
    (s.apply a).walk t = s.way t.text.size (a.walk t) := by
  have once (greedy : Bool) : (Node.repetition 0 (some 1) greedy a).walk t =
      (a.walk t).query greedy := by
    funext goal p
    have same : past p goal goal = goal := funext fun u => ite_self _
    change choose greedy (a.walk t (past p goal goal) p) (goal p) = _
    rw [same]
    rfl
  cases s
  case query => exact once true
  case lazyQuery => exact once false
  all_goals rfl

/-- Merged repetitions are the repetition of a repetition. -/
theorem walk_twice (plain : a.Plain folded) (inner outer : Sign) :
    (inner.twice outer a).walk t =
      outer.way t.text.size (inner.way t.text.size (a.walk t)) := by
  have h := walk_orderly t plain
  -- A repetition that ends with a choice, and the choice once more.
  have query_star (greedy again : Bool) : ((a.walk t).star t.text.size greedy).query again =
      ((a.walk t).plus t.text.size greedy).query (greedy && again) := by
    rw [← query_plus h, query_query]
  have star_star (greedy again : Bool) :
      ((a.walk t).star t.text.size greedy).star t.text.size again =
        ((a.walk t).plus t.text.size greedy).query (greedy && again) := by
    rw [(star_saturated h greedy).star (h.star greedy), query_star]
  have plus_star (greedy again : Bool) :
      ((a.walk t).star t.text.size greedy).plus t.text.size again =
        (a.walk t).star t.text.size greedy :=
    (star_saturated h greedy).plus (h.star greedy) again
  have star_plus (again : Bool) : ((a.walk t).plus t.text.size true).star t.text.size again =
      ((a.walk t).plus t.text.size true).query again :=
    (plus_saturated h).star (h.plus true) again
  have plus_plus (again : Bool) : ((a.walk t).plus t.text.size true).plus t.text.size again =
      (a.walk t).plus t.text.size true :=
    (plus_saturated h).plus (h.plus true) again
  cases inner with
  | query =>
    cases outer
    case lazyPlus =>
      rw [← walk_apply, ← walk_apply]
      rfl
    all_goals simp [Sign.twice, walk_apply, Sign.way, query_query, star_query h, plus_query h]
  | lazyQuery =>
    cases outer <;>
      simp [Sign.twice, walk_apply, Sign.way, query_query, star_query h, plus_query h]
  | star =>
    cases outer <;>
      simp [Sign.twice, walk_apply, Sign.way, query_star, star_star, plus_star, query_plus h]
  | lazyStar =>
    cases outer <;>
      simp [Sign.twice, walk_apply, Sign.way, query_star, star_star, plus_star, query_plus h]
  | plus =>
    cases outer <;>
      simp [Sign.twice, walk_apply, Sign.way, star_plus, plus_plus, query_plus h]
  | lazyPlus =>
    cases outer <;>
      simp [Sign.twice, walk_apply, Sign.way, query_plus h, star_lazyPlus h, plus_lazyPlus h]

/-- A sign stands for its bounds. -/
theorem apply_of_of? {least : Nat} {most : Option Nat} {greedy : Bool} {s : Sign}
    (signed : Sign.of? least most greedy = some s) (a : Node) :
    s.apply a = .repetition least most greedy a := by
  unfold Sign.of? at signed
  split at signed
  all_goals cases greedy <;> cases signed <;> rfl

theorem walk_repeated (plain : a.Plain folded) (least : Nat) (most : Option Nat) (greedy : Bool) :
    (repeated least most greedy a).walk t = (Node.repetition least most greedy a).walk t := by
  unfold repeated
  split
  · rename_i innerLeast innerMost innerGreedy body
    have h := walk_orderly t plain.2
    split
    · rename_i inner outer inside outside
      rw [walk_twice plain.2, ← walk_apply, ← walk_apply, apply_of_of? inside, apply_of_of? outside]
    · rename_i inner inside outside
      split
      · rename_i unlimited
        simp only [Bool.and_eq_true, Bool.or_eq_true, decide_eq_true_eq,
          Option.any_eq_true] at unlimited
        obtain ⟨⟨unlimited, rfl⟩, m, rfl, lt⟩ := unlimited
        have saturated : Saturated (inner.way t.text.size (body.walk t)) := by
          rcases unlimited with rfl | rfl
          · exact star_saturated h true
          · exact plus_saturated h
        rw [← walk_apply, apply_of_of? inside] at saturated
        funext goal
        exact (saturated.bounded lt goal).symm
      · rfl
    · rfl
  · rfl

end Node

/-! ### Expressions that match alike -/

/-- From the origin of the match on, two expressions are the same way through a text. Their literal
runs may be folded or not. -/
structure AlikeOn (t : Subject) (folded folded' : Bool) (a b : Node) : Prop where
  plain : a.Plain folded
  plain' : b.Plain folded'
  agree : AgreeFrom t.origin (a.walk t) (b.walk t)

namespace AlikeOn

variable {t : Subject} {folded folded' : Bool} {a a' b b' : Node} {as bs : List Node}

theorem refl (plain : a.Plain folded) : AlikeOn t folded folded a a := ⟨plain, plain, .of_eq rfl⟩

theorem before (join : Joins t folded) (join' : Joins t folded')
    (first : AlikeOn t folded folded' a a') (second : AlikeOn t folded folded' b b') :
    AlikeOn t folded folded' (a.before b) (a'.before b') := by
  refine ⟨(Plain.hereditary folded).before first.plain second.plain,
    (Plain.hereditary folded').before first.plain' second.plain', ?_⟩
  exact ((agree_before join first.plain).trans
    (first.agree.seq (walk_orderly t first.plain') second.agree)).trans
      (agree_before join' first.plain').symm

theorem sequence (join : Joins t folded) (join' : Joins t folded')
    (all : List.Forall₂ (AlikeOn t folded folded') as bs) :
    AlikeOn t folded folded' (Node.sequence as) (Node.sequence bs) := by
  induction all with
  | nil => exact ⟨trivial, trivial, .of_eq rfl⟩
  | cons first others ih =>
    cases others with
    | nil => exact first
    | cons second others => exact before join join' first ih

theorem alternatives (all : List.Forall₂ (AlikeOn t folded folded') as bs) :
    AlikeOn t folded folded' (Node.alternatives as) (Node.alternatives bs) := by
  induction all with
  | nil => exact ⟨trivial, trivial, .of_eq rfl⟩
  | cons first others ih =>
    cases others with
    | nil => exact first
    | cons second others =>
      refine ⟨⟨first.plain, ih.plain⟩, ⟨first.plain', ih.plain'⟩, fun goal p le => ?_⟩
      exact congrArg₂ Option.or (first.agree goal p le) (ih.agree goal p le)

/-- Groups make no difference. -/
theorem capture (h : AlikeOn t folded folded' a b) (group : Nat) :
    AlikeOn t folded folded' (.capture group a) b :=
  ⟨h.plain, h.plain', h.agree⟩

theorem ahead (h : AlikeOn t folded folded' a b) (negated : Bool) :
    AlikeOn t folded folded' (.ahead negated a) (.ahead negated b) := by
  refine ⟨h.plain, h.plain', fun goal p le => ?_⟩
  simp only [walk, h.agree some p le]

theorem atomic (h : AlikeOn t folded folded' a b) :
    AlikeOn t folded folded' (.atomic a) (.atomic b) := by
  refine ⟨h.plain, h.plain', fun goal p le => ?_⟩
  simp only [walk, h.agree some p le]

theorem repetition (h : AlikeOn t folded folded' a b) {least : Nat} {most : Option Nat}
    (greedy : Bool) :
    AgreeFrom t.origin ((Node.repetition least most greedy a).walk t)
      ((Node.repetition least most greedy b).walk t) := by
  have orderly := walk_orderly t h.plain'
  exact (h.agree.times orderly least).seq (orderly.times least) fun goal p le =>
    h.agree.rounds orderly greedy (Node.rounds t least most p) goal p le

theorem quantified (h : AlikeOn t folded folded' a b) {least : Nat} {most : Option Nat}
    (feasible : Feasible least most) (greedy possessive : Bool) :
    AlikeOn t folded folded' (Node.quantified least most greedy possessive a)
      (Node.quantified least most greedy possessive b) := by
  have repeated : AlikeOn t folded folded' (Node.repeated least most greedy a)
      (Node.repeated least most greedy b) := by
    refine ⟨(Plain.hereditary folded).repeated h.plain feasible greedy,
      (Plain.hereditary folded').repeated h.plain' feasible greedy, ?_⟩
    rw [walk_repeated h.plain, walk_repeated h.plain']
    exact h.repetition greedy
  unfold Node.quantified
  split
  · exact h
  · split
    · exact repeated.atomic
    · exact repeated

end AlikeOn

/-- At the origin, regular expressions whose expressions are alike match the same text. -/
theorem matchAt?_of_alike {r r' : Regex} {folded folded' : Bool} {text : Array Char} {pos : Nat}
    (h : AlikeOn { text, origin := pos } folded folded' r.node r'.node)
    (nonEmpty : r.nonEmpty = r'.nonEmpty) :
    (r.matchAt? text pos).map (·.pos) = (r'.matchAt? text pos).map (·.pos) := by
  rw [matchAt?_eq_walk h.plain, matchAt?_eq_walk h.plain', nonEmpty]
  exact h.agree _ pos (Nat.le_refl pos)

end Tincture.Regex
