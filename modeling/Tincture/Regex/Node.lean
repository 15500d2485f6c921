import Tincture.Text.Fold
import Tincture.Regex.Fault

/-!
Regular expressions as trees.

Literal text is kept in runs of code points, folded already where case is ignored, because one
character of the text may fold to several of the run. The constructors at the end of the module join
neighbouring runs and merge a repetition of a repetition into one.
-/

namespace Tincture.Regex

/-- A condition on a position of the text. -/
inductive Anchor where
  | start
  | finish
  /-- The end, or just before a line feed that ends the text. -/
  | finishOrNewline
  | lineStart
  | lineFinish
  | wordEdge
  | noWordEdge
  /-- The position at which matching began. -/
  | origin
deriving DecidableEq

/-- A regular expression. -/
inductive Node where
  | empty
  /-- A run of code points; a `folded` one is compared with the folding of the text. -/
  | text (codes : List Nat) (folded : Bool)
  /-- One character of a set. -/
  | one (set : CodeSet)
  | seq (first second : Node)
  /-- The first alternative is preferred. -/
  | alt (first second : Node)
  | capture (group : Nat) (body : Node)
  /-- At least `least` and at most `most` times the body, as often as possible if `greedy`. -/
  | repetition (least : Nat) (most : Option Nat) (greedy : Bool) (body : Node)
  /-- The first way to match the body is the only one. -/
  | atomic (body : Node)
  | ahead (negated : Bool) (body : Node)
  | behind (negated : Bool) (body : Node)
  | anchor (a : Anchor)
  /-- The text of a group again. -/
  | reference (group : Nat) (folded : Bool)
deriving Inhabited

namespace Node

/-! ### Lengths and faults -/

/-- The least and the greatest number of characters the expression can match, no greatest number
standing for no limit. A folded run of `n` code points is matched by at least a third as many
characters. -/
def width : Node → Nat × Option Nat
  | .empty | .ahead _ _ | .behind _ _ | .anchor _ => (0, some 0)
  | .text codes folded =>
    if folded then ((codes.length + 2) / 3, some codes.length)
    else (codes.length, some codes.length)
  | .one _ => (1, some 1)
  | .seq a b =>
    (a.width.1 + b.width.1, a.width.2.bind fun m => b.width.2.map (m + ·))
  | .alt a b =>
    (min a.width.1 b.width.1, a.width.2.bind fun m => b.width.2.map (max m ·))
  | .capture _ a | .atomic a => a.width
  | .repetition least most _ a =>
    (least * a.width.1, if a.width.2 = some 0 then some 0
      else most.bind fun m => a.width.2.map (m * ·))
  | .reference _ _ => (0, none)

/-- Whether a group captures anywhere in the expression. -/
def captures : Node → Bool
  | .capture _ _ => true
  | .seq a b | .alt a b => a.captures || b.captures
  | .repetition _ _ _ a | .atomic a | .ahead _ a | .behind _ a => a.captures
  | _ => false

/-- The first thing wrong with an expression of so many groups: a reference to a group that does not
exist, or a group that captures in a negated look-behind. -/
def fault? (groups : Nat) : Node → Option Fault
  | .reference group _ => if group ≤ groups then none else some .invalidReference
  | .behind negated a =>
    if negated && a.captures then some .invalidLookBehind else a.fault? groups
  | .seq a b | .alt a b => (a.fault? groups).or (b.fault? groups)
  | .capture _ a | .repetition _ _ _ a | .atomic a | .ahead _ a => a.fault? groups
  | _ => none

/-! ### Building -/

/-- Puts an expression before another, joining literal runs that meet. -/
def before : Node → Node → Node
  | .text a f, .text b g => if f = g then .text (a ++ b) f else .seq (.text a f) (.text b g)
  | .text a f, .seq (.text b g) rest =>
    if f = g then .seq (.text (a ++ b) f) rest else .seq (.text a f) (.seq (.text b g) rest)
  | a, b => .seq a b

/-- The expressions one after the other. -/
def sequence : List Node → Node
  | [] => .empty
  | [a] => a
  | a :: rest => before a (sequence rest)

/-- The expressions as alternatives, in order of preference. -/
def alternatives : List Node → Node
  | [] => .empty
  | [a] => a
  | a :: rest => .alt a (alternatives rest)

/-- The repetitions that have a sign of their own. -/
inductive Sign where
  | query | star | plus
  | lazyQuery | lazyStar | lazyPlus
deriving DecidableEq

/-- The sign of a repetition. -/
def Sign.of? (least : Nat) (most : Option Nat) (greedy : Bool) : Option Sign :=
  match least, most with
  | 0, some 1 => some (if greedy then .query else .lazyQuery)
  | 0, none => some (if greedy then .star else .lazyStar)
  | 1, none => some (if greedy then .plus else .lazyPlus)
  | _, _ => none

/-- The repetition with a sign. -/
def Sign.apply : Sign → Node → Node
  | .query => .repetition 0 (some 1) true
  | .star => .repetition 0 none true
  | .plus => .repetition 1 none true
  | .lazyQuery => .repetition 0 (some 1) false
  | .lazyStar => .repetition 0 none false
  | .lazyPlus => .repetition 1 none false

/-- The expression `body`, repeated by the `inner` sign and then by the `outer` one, with as few
repetitions as will do. -/
def Sign.twice (inner outer : Sign) (body : Node) : Node :=
  match inner, outer with
  | .query, .query => Sign.query.apply body
  | .query, .star => Sign.star.apply body
  | .query, .plus => Sign.star.apply body
  | .query, .lazyQuery => Sign.lazyQuery.apply body
  | .query, .lazyStar => Sign.lazyStar.apply body
  | .query, .lazyPlus => Sign.lazyPlus.apply (Sign.query.apply body)
  | .star, .lazyQuery => Sign.lazyQuery.apply (Sign.plus.apply body)
  | .star, .lazyStar => Sign.lazyQuery.apply (Sign.plus.apply body)
  | .star, _ => Sign.star.apply body
  | .plus, .query => Sign.star.apply body
  | .plus, .star => Sign.star.apply body
  | .plus, .plus => Sign.plus.apply body
  | .plus, .lazyQuery => Sign.lazyQuery.apply (Sign.plus.apply body)
  | .plus, .lazyStar => Sign.lazyQuery.apply (Sign.plus.apply body)
  | .plus, .lazyPlus => Sign.plus.apply body
  | .lazyQuery, .query => Sign.lazyQuery.apply body
  | .lazyQuery, .lazyQuery => Sign.lazyQuery.apply body
  | .lazyQuery, _ => Sign.lazyStar.apply body
  | .lazyStar, _ => Sign.lazyStar.apply body
  | .lazyPlus, .lazyQuery => Sign.lazyStar.apply body
  | .lazyPlus, .lazyStar => Sign.lazyStar.apply body
  | .lazyPlus, .lazyPlus => Sign.lazyPlus.apply body
  | .lazyPlus, outer => outer.apply (Sign.lazyPlus.apply body)

/-- The target repeated. A repetition of a repetition is merged where both have a sign, and one that
asks for as much as possible of an unlimited repetition asks for no more than it must. -/
def repeated (least : Nat) (most : Option Nat) (greedy : Bool) (target : Node) : Node :=
  match target with
  | .repetition innerLeast innerMost innerGreedy body =>
    match Sign.of? innerLeast innerMost innerGreedy, Sign.of? least most greedy with
    | some inner, some outer => inner.twice outer body
    | some inner, none =>
      if (inner = .star || inner = .plus) && greedy && most.any (1 < ·) then
        .repetition least (some (max 1 least)) greedy target
      else .repetition least most greedy target
    | _, _ => .repetition least most greedy target
  | _ => .repetition least most greedy target

/-- The target repeated as a quantifier says. Exactly once is the target itself; what a possessive
quantifier has taken it does not give back. -/
def quantified (least : Nat) (most : Option Nat) (greedy possessive : Bool) (target : Node) :
    Node :=
  if least = 1 ∧ most = some 1 then target
  else if possessive then .atomic (repeated least most greedy target)
  else repeated least most greedy target

end Node

end Tincture.Regex
