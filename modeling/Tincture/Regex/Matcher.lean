import Tincture.Regex.Class
import Tincture.Regex.Node

/-!
Matching.

An expression is run on a text with a continuation that says what must match after it, and ways to
match are tried in order of preference: `Node.run` gives the first whose continuation succeeds. The
result carries the position reached and where each group was opened and closed last.

Repetitions of a single set, and of a set or something else, sweep over the members of the set in
one go; they try the same ways in the same order as the general repetition.
-/

namespace Tincture.Regex

/-- How far a match has come. -/
structure Spot where
  pos : Nat
  /-- Where groups were opened, the latest first. -/
  opened : List (Nat × Nat) := []
  /-- Where groups were closed, the latest first. -/
  closed : List (Nat × Nat) := []
deriving DecidableEq, Inhabited

namespace Spot

/-- The same groups at another position. -/
def moveTo (s : Spot) (pos : Nat) : Spot := { s with pos }

/-- Opens a group. -/
def openGroup (s : Spot) (group : Nat) : Spot := { s with opened := (group, s.pos) :: s.opened }

/-- Closes a group. -/
def closeGroup (s : Spot) (group : Nat) : Spot := { s with closed := (group, s.pos) :: s.closed }

/-- The range of a group that has taken part. -/
def group? (s : Spot) (group : Nat) : Option (Nat × Nat) :=
  match s.opened.lookup group, s.closed.lookup group with
  | some start, some stop => some (start, stop)
  | _, _ => none

end Spot

/-- What comes after an expression. -/
abbrev Next := Spot → Option Spot

/-- The text a match runs on and the position it began at. -/
structure Subject where
  text : Array Char
  origin : Nat := 0

namespace Subject

/-- Whether the character at a position belongs to a set. -/
def holdsAt (t : Subject) (set : CodeSet) (pos : Nat) : Bool :=
  match t.text[pos]? with
  | some c => set.holds c
  | none => false

/-- How many of the next `room` characters belong to a set without a gap. -/
def reach (t : Subject) (set : CodeSet) (pos : Nat) : Nat → Nat
  | 0 => 0
  | room + 1 => if t.holdsAt set pos then t.reach set (pos + 1) room + 1 else 0

/-- Where the run of code points ends if it stands at the position. -/
def literal? (t : Subject) : List Nat → Nat → Option Nat
  | [], pos => some pos
  | n :: rest, pos =>
    match t.text[pos]? with
    | some c => if c.toNat = n then t.literal? rest (pos + 1) else none
    | none => none

/-- Drops one run from the front of another. -/
def dropRun? : List Nat → List Nat → Option (List Nat)
  | [], codes => some codes
  | a :: as, b :: bs => if a = b then dropRun? as bs else none
  | _ :: _, [] => none

/-- Where the folded run of code points ends if characters from the position on fold to it; `room`
characters may be used. -/
def foldedIn? (t : Subject) : Nat → List Nat → Nat → Option Nat
  | _, [], pos => some pos
  | 0, _ :: _, _ => none
  | room + 1, codes, pos =>
    match t.text[pos]? with
    | some c =>
      match dropRun? (fold c.toNat) codes with
      | some rest => t.foldedIn? room rest (pos + 1)
      | none => none
    | none => none

/-- Where the folded run ends if it stands at the position. -/
def folded? (t : Subject) (codes : List Nat) (pos : Nat) : Option Nat :=
  t.foldedIn? codes.length codes pos

/-- Where a group's text ends if it stands at the position again: `count` characters from `start`
on. -/
def repeats? (t : Subject) (start : Nat) : Nat → Nat → Option Nat
  | 0, pos => some pos
  | count + 1, pos =>
    match t.text[start]?, t.text[pos]? with
    | some a, some b => if a = b then repeats? t (start + 1) count (pos + 1) else none
    | _, _ => none

/-- The number of bytes of the `count` characters from `start` on. -/
def bytes (t : Subject) (start : Nat) : Nat → Nat
  | 0 => 0
  | count + 1 =>
    (match t.text[start]? with | some c => c.utf8Size | none => 0) + t.bytes (start + 1) count

/-- As `repeats?`, without regard to case: the characters correspond one to one, within `room`
bytes. -/
def repeatsFolded? (t : Subject) (start : Nat) : Nat → Nat → Nat → Option Nat
  | 0, _, pos => some pos
  | count + 1, room, pos =>
    match t.text[start]?, t.text[pos]? with
    | some a, some b =>
      if b.utf8Size ≤ room ∧ fold a.toNat = fold b.toNat then
        repeatsFolded? t (start + 1) count (room - b.utf8Size) (pos + 1)
      else none
    | _, _ => none

/-- Where a group's text from `start` to `stop` ends if it stands at the position again. When case
is ignored as many bytes as the group has must be left. -/
def referenced? (t : Subject) (folded : Bool) (start stop pos : Nat) : Option Nat :=
  if folded then
    let size := t.bytes start (stop - start)
    if size ≤ t.bytes pos (min size (t.text.size - pos)) then
      t.repeatsFolded? start (stop - start) size pos
    else none
  else t.repeats? start (stop - start) pos

/-- Whether a word character stands on exactly one side of the position. -/
def isWordEdge (t : Subject) (pos : Nat) : Bool :=
  (pos != 0 && t.holdsAt Class.word (pos - 1)) != t.holdsAt Class.word pos

/-- Whether a condition holds at a position. -/
def satisfies (t : Subject) (pos : Nat) : Anchor → Bool
  | .start => pos == 0
  | .finish => pos == t.text.size
  | .finishOrNewline =>
    pos == t.text.size || (pos + 1 == t.text.size && t.text[pos]? == some '\n')
  | .lineStart => pos == 0 || (t.text[pos - 1]? == some '\n' && pos != t.text.size)
  | .lineFinish => pos == t.text.size || t.text[pos]? == some '\n'
  | .wordEdge => t.isWordEdge pos
  | .noWordEdge => !t.isWordEdge pos
  | .origin => pos == t.origin

end Subject

/-! ### Trying in order -/

/-- The first success for `low + count`, and then one less each time down to `low`. -/
def firstDown {α : Type} (f : Nat → Option α) (low : Nat) : Nat → Option α
  | 0 => f low
  | count + 1 =>
    match f (low + count + 1) with
    | some a => some a
    | none => firstDown f low count

/-- The first success for `low`, and then one more each time up to `low + count`. -/
def firstUp {α : Type} (f : Nat → Option α) (low : Nat) : Nat → Option α
  | 0 => f low
  | count + 1 =>
    match f low with
    | some a => some a
    | none => firstUp f (low + 1) count

namespace Node

/-- The body exactly `n` times. -/
def times (body : Next → Next) : Nat → Next → Next
  | 0, k => k
  | n + 1, k => body (times body n k)

/-- The body at most `n` times, more being preferred. A round that consumes nothing is the last. -/
def greedily (body : Next → Next) : Nat → Next → Next
  | 0, k => k
  | n + 1, k => fun s =>
    match body (fun u => if u.pos = s.pos then k u else greedily body n k u) s with
    | some r => some r
    | none => k s

/-- The body at most `n` times, fewer being preferred. A round that consumes nothing is the last. -/
def lazily (body : Next → Next) : Nat → Next → Next
  | 0, k => k
  | n + 1, k => fun s =>
    match k s with
    | some r => some r
    | none => body (fun u => if u.pos = s.pos then k u else lazily body n k u) s

/-- Members of a set or else the `other` expression, as often as possible. The members up to the
next character outside the set are taken in one go; then, from the last position back to the first,
the other expression is tried and after it the end of the repetition. -/
def sweepGreedily (t : Subject) (set : CodeSet) (other : Next → Next) : Nat → Next → Next
  | 0, k => k
  | n + 1, k => fun s =>
    firstDown
      (fun pos =>
        match other (fun u => if u.pos = pos then k u else sweepGreedily t set other n k u)
            (s.moveTo pos) with
        | some r => some r
        | none => k (s.moveTo pos))
      s.pos (t.reach set s.pos (t.text.size - s.pos))

/-- Members of a set or else the `other` expression, as seldom as possible. The end of the
repetition is tried at each position up to the next character outside the set, and then, from the
last position back to the first, the other expression. -/
def sweepLazily (t : Subject) (set : CodeSet) (other : Next → Next) : Nat → Next → Next
  | 0, k => k
  | n + 1, k => fun s =>
    let far := t.reach set s.pos (t.text.size - s.pos)
    match firstUp (fun pos => k (s.moveTo pos)) s.pos far with
    | some r => some r
    | none =>
      firstDown
        (fun pos =>
          other (fun u => if u.pos = pos then k u else sweepLazily t set other n k u)
            (s.moveTo pos))
        s.pos far

/-- One member of a set, or else the `other` expression. -/
def choice (t : Subject) (set : CodeSet) (other : Next → Next) : Next → Next :=
  fun k s =>
    if t.holdsAt set s.pos then
      match k (s.moveTo (s.pos + 1)) with
      | some r => some r
      | none => other k s
    else other k s

/-- Members of a set, at least `least` and at most `most`. -/
def sweepSet (t : Subject) (set : CodeSet) (least : Nat) (most : Option Nat) (greedy : Bool) :
    Next → Next :=
  fun k s =>
    let left := t.text.size - s.pos
    let far := t.reach set s.pos (match most with | some m => min m left | none => left)
    if far < least then none
    else if greedy then firstDown (fun pos => k (s.moveTo pos)) (s.pos + least) (far - least)
    else firstUp (fun pos => k (s.moveTo pos)) (s.pos + least) (far - least)

/-- How often an optional part may be repeated: as often as its bounds say, or once more than there
are characters left. -/
def rounds (t : Subject) (least : Nat) (most : Option Nat) (pos : Nat) : Nat :=
  match most with
  | some m => m - least
  | none => t.text.size - pos + 1

/-- The first way to match the expression at a spot after which the continuation succeeds. -/
def run (t : Subject) : Node → Next → Next
  | .empty => fun k s => k s
  | .text codes folded => fun k s =>
    match if folded then t.folded? codes s.pos else t.literal? codes s.pos with
    | some pos => k (s.moveTo pos)
    | none => none
  | .one set => fun k s => if t.holdsAt set s.pos then k (s.moveTo (s.pos + 1)) else none
  | .seq a b => fun k s => a.run t (b.run t k) s
  | .alt a b => fun k s =>
    match a.run t k s with
    | some r => some r
    | none => b.run t k s
  | .capture group a => fun k s => a.run t (fun u => k (u.closeGroup group)) (s.openGroup group)
  | .repetition least most greedy (.one set) => sweepSet t set least most greedy
  | .repetition least none greedy (.alt (.one set) other) => fun k =>
    times (choice t set (other.run t)) least fun s =>
      if greedy then sweepGreedily t set (other.run t) (rounds t least none s.pos) k s
      else sweepLazily t set (other.run t) (rounds t least none s.pos) k s
  | .repetition least most greedy a => fun k =>
    times (a.run t) least fun s =>
      if greedy then greedily (a.run t) (rounds t least most s.pos) k s
      else lazily (a.run t) (rounds t least most s.pos) k s
  | .atomic a => fun k s =>
    match a.run t some s with
    | some u => k u
    | none => none
  | .ahead negated a => fun k s =>
    match a.run t some s with
    | some u => if negated then none else k (u.moveTo s.pos)
    | none => if negated then k s else none
  | .behind negated a => fun k s =>
    let (least, most) := a.width
    let far := match most with | some m => min m s.pos | none => s.pos
    let found :=
      if least ≤ far then
        firstUp (fun back => a.run t (fun u => if u.pos = s.pos then some u else none)
          (s.moveTo (s.pos - back))) least (far - least)
      else none
    match found with
    | some u => if negated then none else k u
    | none => if negated then k s else none
  | .anchor a => fun k s => if t.satisfies s.pos a then k s else none
  | .reference group folded => fun k s =>
    match s.group? group with
    | some (start, stop) =>
      match t.referenced? folded start stop s.pos with
      | some pos => k (s.moveTo pos)
      | none => none
    | none => none

end Node

end Tincture.Regex
