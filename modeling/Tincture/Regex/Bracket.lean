import Tincture.Regex.Class
import Tincture.Regex.Escape

/-!
Bracket classes.

A class is read from left to right. Its members are collected while the member read last waits,
since a dash may yet make it the beginning of a range. Classes nest, and `&&` intersects what stands
before it with what follows; brackets that are still open wait on a stack.

The dash is a member itself at the beginning and at the end of a class, before `&&`, after a range
and after a named class. Colons have no meaning next to brackets: `[[:alpha:]]` is a class of the
colon and four letters, nested in another, and matches no other letters.
-/

namespace Tincture.Regex

/-- The members of a class. Bytes above 127 that do not make up a character are kept apart: they
belong to no text by themselves. -/
structure Members where
  set : CodeSet := .empty
  bytes : CodeSet := .empty
  /-- Whether anything beyond ASCII has been named. -/
  wide : Bool := false
deriving Inhabited

namespace Members

/-- The members of either. -/
def union (a b : Members) : Members :=
  ⟨a.set.union b.set, a.bytes.union b.bytes, a.wide || b.wide⟩

/-- The members of both. -/
def inter (a b : Members) : Members :=
  ⟨a.set.inter b.set, a.bytes.inter b.bytes, a.wide || b.wide⟩

/-- The code points whose UTF-8 form begins with one of the bytes. -/
def ledBy (bytes : CodeSet) : CodeSet :=
  let two := (List.range 32).filterMap fun k =>
    if bytes.contains (0xc0 + k) then some (CodeSet.range (k * 64) (k * 64 + 63)) else none
  let three := (List.range 16).filterMap fun k =>
    if bytes.contains (0xe0 + k) then some (CodeSet.range (k * 4096) (k * 4096 + 4095)) else none
  let four := (List.range 5).filterMap fun k =>
    if bytes.contains (0xf0 + k) then some (CodeSet.range (k * 262144) (k * 262144 + 262143))
    else none
  let join (sets : List CodeSet) := sets.foldl CodeSet.union .empty
  (((join two).diff (.range 0 0x7f)).union ((join three).diff (.range 0 0x7ff))).union
    ((join four).diff (.range 0 0xffff))

/-- The code points a class excludes when it is negated. -/
def excluded (m : Members) : CodeSet :=
  if m.wide then m.set else m.set.union (ledBy m.bytes)

end Members

/-- One member as written. -/
structure Member where
  code : Nat
  /-- Whether it is a byte above 127. -/
  raw : Bool := false

namespace Member

/-- Whether the member lies beyond ASCII. -/
def isWide (m : Member) : Bool := !m.raw && 128 ≤ m.code

/-- The member alone. -/
def members (m : Member) : Members :=
  if m.raw then { bytes := .single m.code } else { set := .single m.code, wide := m.isWide }

/-- The members from one to another. Between two single bytes the range is one of bytes. -/
def rangeTo (a b : Member) : Except Fault Members :=
  if b.code < a.code then .error .emptyRange
  else if a.isWide || b.isWide then
    .ok { set := .range a.code b.code, wide := true }
  else
    .ok
      { set := (CodeSet.range a.code b.code).inter (.range 0 0x7f)
        bytes := (CodeSet.range a.code b.code).inter (.range 0x80 0xff) }

end Member

/-- What the member read last waits for. -/
inductive Pending where
  /-- Nothing has been read. -/
  | start
  /-- A member that may begin a range. -/
  | member (m : Member)
  /-- A named class. -/
  | named
  /-- A member and a dash. -/
  | range (m : Member)
  /-- A range or a nested class is complete. -/
  | complete

/-- A bracket that is open. -/
structure Bracket where
  negated : Bool
  /-- The members before the last `&&`. -/
  before : Option Members := none
  members : Members := {}
  pending : Pending := .start

/-- A class: its members, and whether it stands for all the others. -/
structure ClassText where
  members : Members
  negated : Bool

namespace ClassText

/-- The code points the class stands for. -/
def set (c : ClassText) : CodeSet :=
  if c.negated then c.members.excluded.complement else c.members.set

end ClassText

namespace Bracket

/-- Adds the member that waits. -/
def settle (b : Bracket) : Bracket :=
  match b.pending with
  | .member m => { b with members := b.members.union m.members }
  | _ => b

/-- Takes the next member. -/
def push (b : Bracket) (m : Member) : Except Fault Bracket :=
  match b.pending with
  | .range first => do
    let range ← first.rangeTo m
    return { b with members := b.members.union range, pending := .complete }
  | _ => return { b.settle with pending := .member m }

/-- Takes a named class. -/
def pushNamed (b : Bracket) (set : CodeSet) : Except Fault Bracket :=
  match b.pending with
  | .range _ => .error .classEndsRange
  | _ =>
    let b := b.settle
    return { b with members := b.members.union { set, wide := true }, pending := .named }

/-- Takes a nested class. A range that waits for its end is dropped. -/
def pushNested (b : Bracket) (c : ClassText) : Bracket :=
  { b with
    members := b.members.union { c.members with set := c.set, wide := c.members.wide || c.negated }
    pending := .complete }

/-- Takes a dash, followed by `rest`. -/
def pushDash (b : Bracket) (rest : List Char) : Except Fault Bracket :=
  match b.pending with
  | .member m =>
    match rest with
    | ']' :: _ => b.push ⟨45, false⟩
    | '&' :: '&' :: _ => b.push ⟨45, false⟩
    | _ => return { b with pending := .range m }
  | _ => b.push ⟨45, false⟩

/-- Takes `&&`. -/
def intersect (b : Bracket) : Bracket :=
  let b := b.settle
  let before := match b.before with
    | some m => m.inter b.members
    | none => b.members
  { b with before := some before, members := {}, pending := .start }

/-- Takes the closing bracket. -/
def close (b : Bracket) : ClassText :=
  let b := b.settle
  let members := match b.before with
    | some m => m.inter b.members
    | none => b.members
  ⟨members, b.negated⟩

/-- The bracket opened before the characters, `used` others belonging to its opening as well. A
closing bracket that comes first is a member when another one follows somewhere. -/
def openedAfter (negated : Bool) (used : Nat) : List Char → Except Fault (Bracket × Nat)
  | ']' :: more =>
    if more.contains ']' then .ok ({ negated, pending := .member ⟨93, false⟩ }, used + 1)
    else .error .emptyClass
  | _ => .ok ({ negated }, used)

/-- The bracket opened before the characters, and how many of them belong to its opening. -/
def opened : List Char → Except Fault (Bracket × Nat)
  | '^' :: rest => openedAfter true 1 rest
  | cs => openedAfter false 0 cs

/-- The escape with letter `c`, followed by `rest`. Within brackets every octal digit begins a byte.
-/
def escaped (c : Char) (rest : List Char) : Except Fault (Escaped × Nat) :=
  if isDigitIn 8 c then
    let (n, used) := Escape.octal 3 (c :: rest)
    if n < 256 then .ok (.byte n 8, used - 1) else .error .bigNumber
  else Escape.read c rest

/-- Takes what an escape stands for, `used` characters after its letter having been read and `rest`
following. A byte takes along the byte escapes that complete its character. -/
def pushEscaped (b : Bracket) (rest : List Char) (used : Nat) :
    Escaped → Except Fault (Bracket × Nat)
  | .code n => (b.push ⟨n, false⟩).map (·, used)
  | .byte n radix =>
    let count := Escape.followers n
    match Escape.bytes? (some radix) count rest with
    | none => .error .shortSequence
    | some (bytes, more) =>
      if count = 0 then (b.push ⟨n, 128 ≤ n⟩).map (·, used)
      else
        match Escape.sequence? n bytes with
        | some code => (b.push ⟨code, false⟩).map (·, used + more)
        | none => .error .invalidCodePoint

/-- Takes an escape, whose letter is `c`, and says how many of the characters after the letter
belong to it. -/
def pushEscape (b : Bracket) (c : Char) (rest : List Char) : Except Fault (Bracket × Nat) :=
  match Class.ofLetter? c with
  | some set => (b.pushNamed set).map (·, 0)
  | none =>
    if (c == 'p' || c == 'P') && rest.head? == some '{' then
      let name := rest.tail.takeWhile (· != '}')
      match Class.ofProperty? name with
      | some set =>
        (b.pushNamed (if c == 'P' then set.complement else set)).map (·, name.length + 2)
      | none => .error (.invalidProperty (String.ofList name))
    else
      match escaped c rest with
      | .ok (e, used) => b.pushEscaped (rest.drop used) used e
      | .error fault => .error fault

/-- Reads on in the innermost bracket, the brackets around it being `outer`: the class, and what
follows its closing bracket. -/
def read (b : Bracket) (outer : List Bracket) : List Char → Except Fault (ClassText × List Char)
  | [] => .error .openClass
  | c :: cs =>
    if c == ']' then
      match outer with
      | [] => .ok (b.close, cs)
      | o :: outer => read (o.pushNested b.close) outer cs
    else if c == '-' then
      match b.pushDash cs with
      | .ok b => read b outer cs
      | .error fault => .error fault
    else if c == '\\' then
      match cs with
      | [] => .error .endAtEscape
      | e :: rest =>
        match b.pushEscape e rest with
        | .ok (b, used) => read b outer (rest.drop used)
        | .error fault => .error fault
    else if c == '[' then
      match opened cs with
      | .error fault => .error fault
      | .ok (inner, used) => read inner (b.settle :: outer) (cs.drop used)
    else if c == '&' && cs.head? == some '&' then
      read b.intersect outer (cs.drop 1)
    else
      match b.push ⟨c.toNat, false⟩ with
      | .ok b => read b outer cs
      | .error fault => .error fault
termination_by cs => cs.length
decreasing_by all_goals (simp_all; try omega)

end Bracket

/-- The class whose opening bracket stands before the characters, and how many of them belong to
it. -/
def ClassText.read (cs : List Char) : Except Fault (ClassText × Nat) := do
  let (bracket, used) ← Bracket.opened cs
  let (text, rest) ← bracket.read [] (cs.drop used)
  return (text, cs.length - rest.length)

end Tincture.Regex
