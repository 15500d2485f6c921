import Tincture.Regex.Lexeme

/-!
Parsing regular expressions.

Lexemes are taken from left to right. The groups that are still open stand on a stack; each holds
its finished alternatives and the expressions of the current one. Closing a group makes one
expression of it, which joins the group around.
-/

namespace Tincture.Regex

/-- A group that is open. -/
structure Level where
  opening : Opening
  /-- The number of the group, if it captures. -/
  group : Nat := 0
  /-- The flags outside the group. -/
  outside : Flags := {}
  /-- Whether the group stands in a look-behind. -/
  inBehind : Bool := false
  /-- The finished alternatives, the last one first. -/
  branches : List Node := []
  /-- The expressions of the current alternative, the last one first. -/
  items : List Node := []

namespace Level

/-- Adds an expression to the current alternative. -/
def push (l : Level) (a : Node) : Level := { l with items := a :: l.items }

/-- Ends the current alternative. -/
def branch (l : Level) : Level :=
  { l with branches := Node.sequence l.items.reverse :: l.branches, items := [] }

/-- The expression of the whole group. -/
def node (l : Level) : Node :=
  let body := Node.alternatives (l.branch.branches.reverse)
  match l.opening with
  | .capture => .capture l.group body
  | .atomic => .atomic body
  | .ahead negated => .ahead negated body
  | .behind negated => .behind negated body
  | _ => body

end Level

/-- An expression that is being parsed. -/
structure Draft where
  flags : Flags
  /-- How many groups have been opened. -/
  groups : Nat := 0
  /-- The innermost open group. -/
  level : Level := { opening := .plain }
  /-- The groups around it, from the inside out. -/
  outer : List Level := []

namespace Draft

/-- Adds an expression to the innermost group. -/
def push (d : Draft) (a : Node) : Draft := { d with level := d.level.push a }

/-- The expression for a code point. Where case is ignored, characters of a look-behind fold one by
one. -/
def literal (d : Draft) (n : Nat) : Node :=
  if !d.flags.ignoreCase then .text [n] false
  else if d.level.inBehind then .one (Fold.closure (.single n))
  else .text (fold n) true

/-- The expression for a class. Where case is ignored, a class without negation also matches the
characters to which one of its members folds. -/
def classNode (d : Draft) (c : ClassText) : Node :=
  if !d.flags.ignoreCase then .one c.set
  else if c.negated then
    .one { c with members := { c.members with set := Fold.closure c.members.set } }.set
  else
    match c.members.set.only? with
    | some n => d.literal n
    | none =>
      let set := Fold.closure c.members.set
      let runs := if d.level.inBehind then [] else Fold.sequencesIn set
      Node.alternatives (.one set :: runs.map (.text · true))

/-- Opens a group. -/
def openGroup (d : Draft) (o : Opening) : Draft :=
  let behind := match o with | .behind _ => true | _ => d.level.inBehind
  let captures := match o with | .capture => true | _ => false
  let flags := match o with | .flagged flags => flags | .flags flags => flags | _ => d.flags
  let groups := if captures then d.groups + 1 else d.groups
  { flags, groups
    level := { opening := o, group := groups, outside := d.flags, inBehind := behind }
    outer := d.level :: d.outer }

/-- Closes the groups that only set flags for the rest of the group around them. -/
def closeFlags (level : Level) (flags : Flags) : List Level → Level × Flags × List Level
  | [] => (level, flags, [])
  | around :: outer =>
    match level.opening with
    | .flags _ => closeFlags (around.push level.node) level.outside outer
    | _ => (level, flags, around :: outer)

/-- Closes the innermost group. -/
def closeGroup (d : Draft) : Except Fault Draft :=
  match closeFlags d.level d.flags d.outer with
  | (_, _, []) => .error .unmatchedClose
  | (level, _, around :: outer) =>
    .ok { d with flags := level.outside, level := around.push level.node, outer }

/-- Takes a quantifier for the last expression. -/
def quantify (d : Draft) (least : Nat) (most : Option Nat) (greedy possessive : Bool) :
    Except Fault Draft :=
  match d.level.items with
  | [] => .error .missingTarget
  | a :: rest =>
    .ok { d with
      level := { d.level with items := Node.quantified least most greedy possessive a :: rest } }

/-- Takes a lexeme. -/
def take (d : Draft) : Lexeme → Except Fault Draft
  | .code n => .ok (d.push (d.literal n))
  | .never => .ok (d.push (.one .empty))
  | .quoted [] => .ok (d.push .empty)
  | .quoted codes => .ok (codes.foldl (fun d n => d.push (d.literal n)) d)
  | .dot => .ok (d.push (.one (if d.flags.dotAll then Class.all else Class.notNewline)))
  | .set s => .ok (d.push (.one s))
  | .bracket c => .ok (d.push (d.classNode c))
  | .anchor a => .ok (d.push (.anchor a))
  | .reference group => .ok (d.push (.reference group d.flags.ignoreCase))
  | .opening .comment => .ok d
  | .opening o => .ok (d.openGroup o)
  | .close => d.closeGroup
  | .bar => .ok { d with level := d.level.branch }
  | .quantifier least most greedy possessive => d.quantify least most greedy possessive
  | .blank => .ok d

/-- Takes the lexemes of the characters. -/
def read (d : Draft) : List Char → Except Fault Draft
  | [] => .ok d
  | c :: cs =>
    match Lexeme.read d.flags d.groups c cs with
    | .error fault => .error fault
    | .ok (lexeme, used) =>
      match d.take lexeme with
      | .error fault => .error fault
      | .ok d => read d (cs.drop used)
termination_by cs => cs.length

/-- The whole expression, once all groups are closed. -/
def finish (d : Draft) : Except Fault Node :=
  match closeFlags d.level d.flags d.outer with
  | (level, _, []) => .ok level.node
  | (_, _, _ :: _) => .error .unmatchedOpen

end Draft

/-- The expression a text stands for, and the number of its groups. -/
def Node.parse (ignoreCase : Bool) (source : List Char) : Except Fault (Node × Nat) := do
  let draft ← Draft.read { flags := { ignoreCase } } source
  let node ← draft.finish
  match node.fault? draft.groups with
  | some fault => .error fault
  | none => return (node, draft.groups)

end Tincture.Regex
