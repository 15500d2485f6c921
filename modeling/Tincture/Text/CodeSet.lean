/-!
Sets of code points.

A set is written down as the ascending list of the code points at which membership changes: a code
point belongs to the set exactly when an odd number of the bounds are at most it. Complement, union
and intersection then only move bounds about, and a look-up is one binary search.
-/

namespace Tincture

/-- A set of code points, given by its bounds in ascending order: membership begins at the first
bound, ends at the second, begins again at the third, and so on. -/
structure CodeSet where
  bounds : Array Nat
deriving DecidableEq, Inhabited

/-- The first index from `low` on, below `high`, at which the ascending `key` exceeds `n`; `high`
when there is none. -/
def firstAbove (key : Nat → Nat) (n low high : Nat) : Nat :=
  if low < high then
    let middle := (low + high) / 2
    if key middle ≤ n then firstAbove key n (middle + 1) high else firstAbove key n low middle
  else low
termination_by high - low

namespace CodeSet

/-- How many bounds are at most `n`. -/
def crossings (s : CodeSet) (n : Nat) : Nat :=
  firstAbove (s.bounds.getD · 0) n 0 s.bounds.size

/-- Membership of a code point. -/
def contains (s : CodeSet) (n : Nat) : Bool :=
  s.crossings n % 2 == 1

/-- Membership of a character. -/
def holds (s : CodeSet) (c : Char) : Bool :=
  s.contains c.toNat

/-- The set without members. -/
def empty : CodeSet := ⟨#[]⟩

/-- The code points from `first` to `last`, both included; none when `last` is before `first`. -/
def range (first last : Nat) : CodeSet :=
  if first ≤ last then ⟨#[first, last + 1]⟩ else empty

/-- The set of one code point. -/
def single (n : Nat) : CodeSet := range n n

/-- Keeps each of the ascending `points` at which `member` differs from its value before. -/
def changes (member : Nat → Bool) : Bool → List Nat → List Nat
  | _, [] => []
  | before, n :: rest =>
    if member n == before then changes member before rest
    else n :: changes member (member n) rest

/-- The set whose membership is `member`, a function that changes at most at the `points`. -/
def ofPoints (member : Nat → Bool) (points : List Nat) : CodeSet :=
  ⟨(changes member false (points.mergeSort (· ≤ ·))).toArray⟩

/-- All code points that are not members. -/
def complement (s : CodeSet) : CodeSet :=
  if s.bounds.getD 0 1 == 0 then ⟨s.bounds.extract 1 s.bounds.size⟩ else ⟨#[0] ++ s.bounds⟩

/-- The code points in either set. -/
def union (s t : CodeSet) : CodeSet :=
  if s.bounds.isEmpty then t
  else if t.bounds.isEmpty then s
  else ofPoints (fun n => s.contains n || t.contains n) (s.bounds.toList ++ t.bounds.toList)

/-- The code points in both sets. -/
def inter (s t : CodeSet) : CodeSet :=
  ofPoints (fun n => s.contains n && t.contains n) (s.bounds.toList ++ t.bounds.toList)

/-- The code points of the first set that are not in the second. -/
def diff (s t : CodeSet) : CodeSet :=
  ofPoints (fun n => s.contains n && !t.contains n) (s.bounds.toList ++ t.bounds.toList)

/-- The bounds still to come once a run of members has reached `last`, the further members being
ascending. -/
def runsFrom (last : Nat) : List Nat → List Nat
  | [] => [last + 1]
  | n :: rest => if n ≤ last + 1 then runsFrom n rest else (last + 1) :: n :: runsFrom n rest

/-- The set of the listed code points. -/
def ofList (ns : List Nat) : CodeSet :=
  match ns.mergeSort (· ≤ ·) with
  | [] => empty
  | n :: rest => ⟨(n :: runsFrom n rest).toArray⟩

/-- The only member, if there is exactly one. -/
def only? (s : CodeSet) : Option Nat :=
  if s.bounds.size = 2 then
    let first := s.bounds.getD 0 0
    if s.bounds.getD 1 0 = first + 1 then some first else none
  else none

end CodeSet

end Tincture
