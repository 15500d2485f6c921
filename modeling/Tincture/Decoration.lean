import Tincture.Style

/-!
Decorations.

A text is painted by a list of starting positions with tags: each tag holds up to the next position,
the last one up to the end of the text. `simplify` brings such a list into the shortest form, in one
pass over the array that holds it, and `spans` reads it as ranges.
-/

namespace Tincture

/-- Positions are machine words: all of them are less than this. -/
def positionLimit : Nat := UInt64.size

/-- The position a number of bytes behind another. Counting begins again at 0 where words end. -/
def advance (pos bytes : Nat) : Nat := (pos + bytes) % positionLimit

theorem advance_of_lt {pos bytes : Nat} (h : pos + bytes < positionLimit) :
    advance pos bytes = pos + bytes :=
  Nat.mod_eq_of_lt h

/-- The position at which a tag begins to hold, in bytes. -/
structure Decoration where
  position : Nat
  tag : Tag
deriving DecidableEq, Inhabited

/-- A range of bytes and its tag. -/
structure Span where
  start : Nat
  stop : Nat
  tag : Tag
deriving DecidableEq, Inhabited

/-- Where the decoration before the given ones ends: at the next position, or at the end of the
text. -/
def nextPosition (stop : Nat) : List Decoration → Nat
  | [] => stop
  | d :: _ => d.position

/-- Decorations that are being simplified in place. Those before `kept` are final. -/
structure Compaction where
  cells : Array Decoration
  kept : Nat := 0

namespace Compaction

/-- The tag of the decoration kept last. -/
def lastTag? (c : Compaction) : Option Tag :=
  if c.kept = 0 then none else c.cells[c.kept - 1]?.map (·.tag)

/-- Where the decoration at `read` ends: where the one after it stands, or at the end of the text.
-/
def endAt (stop : Nat) (c : Compaction) (read : Nat) : Nat :=
  match c.cells[read + 1]? with
  | some next => next.position
  | none => stop

/-- Passes over the decoration at `read`. It is moved down to the final ones unless it covers no
text or repeats the tag of the last of them. -/
def step (stop : Nat) (c : Compaction) (read : Nat) : Compaction :=
  match c.cells[read]? with
  | none => c
  | some d =>
    if c.endAt stop read = d.position then c
    else if c.lastTag? = some d.tag then c
    else { cells := c.cells.setIfInBounds c.kept d, kept := c.kept + 1 }

end Compaction

/-- Drops decorations that cover no text and merges neighbours with one tag; the text ends at
`stop`. -/
def simplify (ds : List Decoration) (stop : Nat) : List Decoration :=
  let done := (List.range ds.length).foldl (Compaction.step stop) { cells := ds.toArray }
  done.cells.toList.take done.kept

/-- The range of each decoration; the text ends at `stop`. -/
def spans (stop : Nat) : List Decoration → List Span
  | [] => []
  | d :: rest => ⟨d.position, nextPosition stop rest, d.tag⟩ :: spans stop rest

end Tincture
