import Mathlib.Data.List.Basic
import Tincture.Regex.Compiled

/-!
Which regular expressions compile.

Whether an expression compiles depends on little of what is known while it is read: how many groups
have been opened, how many are still open, and whether there is something a quantifier can follow.
`Outline` keeps just that and reads the same lexemes. Where an outline can be read to the end with
all groups closed, parsing succeeds (`parse_of_closes`).

An outline refuses back-references, look-behinds, quotations and flags, which expressions may have,
too; what it accepts has nothing that could be at fault once it is read.
-/

namespace Tincture.Regex

/-! ### What expressions inherit from their parts -/

namespace Node

/-- The property holds of an expression if it holds of its parts, as far as expressions are built
from lexemes; repetitions must have such bounds. -/
structure Hereditary (P : Node → Prop) (Bounds : Nat → Option Nat → Prop) : Prop where
  empty : P .empty
  join {a b : List Nat} {folded : Bool} :
    P (.text a folded) → P (.text b folded) → P (.text (a ++ b) folded)
  seq_iff {a b : Node} : P (.seq a b) ↔ P a ∧ P b
  alt_iff {a b : Node} : P (.alt a b) ↔ P a ∧ P b
  atomic_iff {a : Node} : P (.atomic a) ↔ P a
  repetition_iff {least : Nat} {most : Option Nat} {greedy : Bool} {a : Node} :
    P (.repetition least most greedy a) ↔ Bounds least most ∧ P a
  sign (s : Sign) {a : Node} : P a → P (s.apply a)
  capped (least : Nat) : Bounds least (some (max 1 least))

namespace Hereditary

variable {P : Node → Prop} {Bounds : Nat → Option Nat → Prop} (h : Hereditary P Bounds)
include h

theorem before {a b : Node} (ha : P a) (hb : P b) : P (a.before b) := by
  unfold Node.before
  split
  · split
    · rename_i same
      subst same
      exact h.join ha hb
    · exact h.seq_iff.mpr ⟨ha, hb⟩
  · obtain ⟨first, rest⟩ := h.seq_iff.mp hb
    split
    · rename_i same
      subst same
      exact h.seq_iff.mpr ⟨h.join ha first, rest⟩
    · exact h.seq_iff.mpr ⟨ha, hb⟩
  · exact h.seq_iff.mpr ⟨ha, hb⟩

theorem sequence {as : List Node} (all : ∀ a ∈ as, P a) : P (Node.sequence as) := by
  induction as with
  | nil => exact h.empty
  | cons a as ih =>
    obtain ⟨first, others⟩ := List.forall_mem_cons.mp all
    cases as with
    | nil => exact first
    | cons b as => exact h.before first (ih others)

theorem alternatives {as : List Node} (all : ∀ a ∈ as, P a) : P (Node.alternatives as) := by
  induction as with
  | nil => exact h.empty
  | cons a as ih =>
    obtain ⟨first, others⟩ := List.forall_mem_cons.mp all
    cases as with
    | nil => exact first
    | cons b as => exact h.alt_iff.mpr ⟨first, ih others⟩

theorem twice {a : Node} (ha : P a) (inner outer : Sign) : P (inner.twice outer a) := by
  unfold Sign.twice
  split <;> first | exact h.sign _ (h.sign _ ha) | exact h.sign _ ha

theorem repeated {a : Node} (ha : P a) {least : Nat} {most : Option Nat}
    (bounds : Bounds least most) (greedy : Bool) : P (Node.repeated least most greedy a) := by
  have again : P (.repetition least most greedy a) := h.repetition_iff.mpr ⟨bounds, ha⟩
  unfold Node.repeated
  split
  · obtain ⟨-, body⟩ := h.repetition_iff.mp ha
    split
    · exact h.twice body _ _
    · split
      · exact h.repetition_iff.mpr ⟨h.capped least, ha⟩
      · exact again
    · exact again
  · exact again

theorem quantified {a : Node} (ha : P a) {least : Nat} {most : Option Nat}
    (bounds : Bounds least most) (greedy possessive : Bool) :
    P (Node.quantified least most greedy possessive a) := by
  unfold Node.quantified
  split
  · exact ha
  · split
    · exact h.atomic_iff.mpr (h.repeated ha bounds greedy)
    · exact h.repeated ha bounds greedy

end Hereditary

/-! ### Faultless expressions -/

/-- There is nothing wrong with the expression, however many groups there are. -/
def Faultless (a : Node) : Prop := ∀ groups, a.fault? groups = none

namespace Faultless

theorem text (codes : List Nat) (folded : Bool) : Faultless (.text codes folded) := fun _ => rfl

theorem one (set : CodeSet) : Faultless (.one set) := fun _ => rfl

theorem hereditary : Hereditary Faultless fun _ _ => True where
  empty := fun _ => rfl
  join := fun _ _ => text _ _
  seq_iff := by simp [Faultless, fault?, forall_and]
  alt_iff := by simp [Faultless, fault?, forall_and]
  atomic_iff := Iff.rfl
  repetition_iff := ⟨fun fine => ⟨trivial, fine⟩, And.right⟩
  sign := by
    intro s a fine
    cases s <;> exact fine
  capped := fun _ => trivial

end Faultless

end Node

/-! ### Outlines -/

/-- What matters of an expression that is being read. -/
structure Outline where
  /-- How many groups have been opened. -/
  groups : Nat := 0
  /-- Whether the current alternative has something a quantifier can follow. -/
  filled : Bool := false
  /-- The same of the groups around, from the inside out. -/
  outer : List Bool := []
deriving DecidableEq

namespace Outline

/-- Opens a group. -/
def nest (o : Outline) : Outline := { o with filled := false, outer := o.filled :: o.outer }

/-- Takes a lexeme. -/
def take? (o : Outline) : Lexeme → Option Outline
  | .code _ | .dot | .set _ | .bracket _ | .anchor _ => some { o with filled := true }
  | .opening .plain | .opening .atomic | .opening (.ahead _) => some o.nest
  | .opening .capture => some { o.nest with groups := o.groups + 1 }
  | .close =>
    match o.outer with
    | [] => none
    | _ :: outer => some { o with filled := true, outer }
  | .bar => some { o with filled := false }
  | .quantifier _ _ _ _ => if o.filled then some o else none
  | _ => none

/-- Takes the lexemes of the characters. -/
def read? (flags : Flags) (o : Outline) : List Char → Option Outline
  | [] => some o
  | c :: cs =>
    match Lexeme.read flags o.groups c cs with
    | .error _ => none
    | .ok (lexeme, used) =>
      match o.take? lexeme with
      | none => none
      | some o => read? flags o (cs.drop used)
termination_by cs => cs.length

/-- Whether an expression can be read to its end with all groups closed. -/
def closes (ignoreCase : Bool) (source : List Char) : Bool :=
  (read? { ignoreCase } {} source).any (·.outer.isEmpty)

end Outline

/-! ### Drafts and their outlines -/

/-- The group holds nothing at fault, and something to repeat if its outline says so. -/
structure Level.Fits (l : Level) (filled : Bool) : Prop where
  target : filled = true → l.items ≠ []
  items : ∀ a ∈ l.items, a.Faultless
  branches : ∀ a ∈ l.branches, a.Faultless
  opening : l.opening ≠ .behind false ∧ l.opening ≠ .behind true ∧ ∀ flags, l.opening ≠ .flags flags

namespace Level.Fits

variable {l : Level} {filled : Bool}

theorem of_empty (items : l.items = []) (branches : l.branches = [])
    (opening : l.opening ≠ .behind false ∧ l.opening ≠ .behind true ∧
      ∀ flags, l.opening ≠ .flags flags) : l.Fits false := by
  refine ⟨?_, ?_, ?_, opening⟩
  · rintro ⟨⟩
  · simp [items]
  · simp [branches]

theorem push (h : l.Fits filled) {a : Node} (fine : a.Faultless) : (l.push a).Fits true := by
  refine ⟨fun _ => List.cons_ne_nil _ _, ?_, h.branches, h.opening⟩
  intro b mem
  rcases List.mem_cons.mp mem with rfl | mem
  · exact fine
  · exact h.items b mem

theorem branch (h : l.Fits filled) : l.branch.Fits false := by
  refine ⟨?_, ?_, ?_, h.opening⟩
  · rintro ⟨⟩
  · rintro b ⟨⟩
  intro b mem
  rcases List.mem_cons.mp mem with rfl | mem
  · exact Node.Faultless.hereditary.sequence fun a mem => h.items a (List.mem_reverse.mp mem)
  · exact h.branches b mem

theorem node (h : l.Fits filled) : l.node.Faultless := by
  have body : (Node.alternatives l.branch.branches.reverse).Faultless :=
    Node.Faultless.hereditary.alternatives fun a mem =>
      h.branch.branches a (List.mem_reverse.mp mem)
  have fault (groups : Nat) := body groups
  unfold Level.node
  split
  · exact fault
  · exact fault
  · exact fault
  · rename_i negated opening
    cases negated
    · exact absurd opening h.opening.1
    · exact absurd opening h.opening.2.1
  · exact fault

end Level.Fits

/-- The open groups of a draft fit the outline; each but the outermost one restores the flags. -/
inductive Nested (flags : Flags) : Level → List Level → Bool → List Bool → Prop where
  | root {l : Level} {filled : Bool} (fits : l.Fits filled) : Nested flags l [] filled []
  | inner {l around : Level} {outer : List Level} {filled other : Bool} {rest : List Bool}
      (fits : l.Fits filled) (outside : l.outside = flags)
      (nested : Nested flags around outer other rest) :
      Nested flags l (around :: outer) filled (other :: rest)

/-- The draft has this outline. -/
structure Draft.Fits (d : Draft) (flags : Flags) (o : Outline) : Prop where
  flags_eq : d.flags = flags
  groups_eq : d.groups = o.groups
  nested : Nested flags d.level d.outer o.filled o.outer

namespace Nested

variable {flags : Flags} {l m : Level} {outer : List Level} {filled other : Bool} {rest : List Bool}

theorem fits (h : Nested flags l outer filled rest) : l.Fits filled := by
  cases h with
  | root fits => exact fits
  | inner fits outside nested => exact fits

/-- The innermost group may go on as another that restores the same flags. -/
theorem replace (h : Nested flags l outer filled rest) (fits : m.Fits other)
    (outside : m.outside = l.outside) : Nested flags m outer other rest := by
  cases h with
  | root _ => exact .root fits
  | inner _ restores nested => exact .inner fits (outside.trans restores) nested

end Nested

namespace Draft

variable {d : Draft} {flags : Flags} {o o' : Outline}

theorem literal_faultless (d : Draft) (n : Nat) : (d.literal n).Faultless := by
  unfold literal
  split
  · exact .text _ _
  · split
    · exact .one _
    · exact .text _ _

theorem classNode_faultless (d : Draft) (c : ClassText) : (d.classNode c).Faultless := by
  unfold classNode
  split
  · exact .one _
  · split
    · exact .one _
    · split
      · exact d.literal_faultless _
      · refine Node.Faultless.hereditary.alternatives ?_
        intro a mem
        rcases List.mem_cons.mp mem with rfl | mem
        · exact .one _
        · obtain ⟨run, -, rfl⟩ := List.mem_map.mp mem
          exact .text _ _

namespace Fits

theorem push (h : d.Fits flags o) {a : Node} (fine : a.Faultless) :
    (d.push a).Fits flags { o with filled := true } :=
  ⟨h.flags_eq, h.groups_eq, h.nested.replace (h.nested.fits.push fine) rfl⟩

theorem closeGroup (h : d.Fits flags o) {other : Bool} {rest : List Bool}
    (outer : o.outer = other :: rest) :
    ∃ d', d.closeGroup = .ok d' ∧ d'.Fits flags { o with filled := true, outer := rest } := by
  have nested := h.nested
  rw [outer] at nested
  obtain ⟨level_flags, groups, level, outer_levels⟩ := d
  cases nested with
  | inner fits outside nested =>
    rename_i around outer_levels
    have closed : closeFlags level level_flags (around :: outer_levels) =
        (level, level_flags, around :: outer_levels) := by
      unfold closeFlags
      split
      · rename_i opening
        exact absurd opening (fits.opening.2.2 _)
      · rfl
    refine ⟨_, by rw [Draft.closeGroup, closed], ?_⟩
    exact ⟨outside, h.groups_eq, nested.replace (nested.fits.push fits.node) rfl⟩

theorem quantify (h : d.Fits flags o) (filled : o.filled = true) (least : Nat) (most : Option Nat)
    (greedy possessive : Bool) :
    ∃ d', d.quantify least most greedy possessive = .ok d' ∧ d'.Fits flags o := by
  have fits := h.nested.fits
  cases items : d.level.items with
  | nil => exact absurd items (fits.target filled)
  | cons a rest =>
    have fine := fits.items
    rw [items] at fine
    have quantified : d.quantify least most greedy possessive = .ok { d with
        level := { d.level with
          items := Node.quantified least most greedy possessive a :: rest } } := by
      simp only [Draft.quantify, items]
    refine ⟨_, quantified, h.flags_eq, h.groups_eq, h.nested.replace ?_ rfl⟩
    refine ⟨fun _ => List.cons_ne_nil _ _, ?_, fits.branches, fits.opening⟩
    intro b mem
    rcases List.mem_cons.mp mem with rfl | mem
    · exact Node.Faultless.hereditary.quantified (fine a List.mem_cons_self) trivial greedy
        possessive
    · exact fine b (List.mem_cons_of_mem a mem)

theorem bar (h : d.Fits flags o) :
    Fits { d with level := d.level.branch } flags { o with filled := false } :=
  ⟨h.flags_eq, h.groups_eq, h.nested.replace h.nested.fits.branch rfl⟩

/-- A draft takes what its outline takes. -/
theorem take (h : d.Fits flags o) {lexeme : Lexeme} (taken : o.take? lexeme = some o') :
    ∃ d', d.take lexeme = .ok d' ∧ d'.Fits flags o' := by
  cases lexeme with
  | code n =>
    cases taken
    exact ⟨_, rfl, h.push (d.literal_faultless n)⟩
  | dot =>
    cases taken
    exact ⟨_, rfl, h.push (.one _)⟩
  | set s =>
    cases taken
    exact ⟨_, rfl, h.push (.one s)⟩
  | bracket c =>
    cases taken
    exact ⟨_, rfl, h.push (d.classNode_faultless c)⟩
  | anchor a =>
    cases taken
    exact ⟨_, rfl, h.push fun _ => rfl⟩
  | opening opening =>
    cases opening with
    | plain =>
      cases taken
      exact ⟨_, rfl, h.flags_eq, h.groups_eq,
        .inner (.of_empty rfl rfl (by simp [openGroup])) h.flags_eq h.nested⟩
    | atomic =>
      cases taken
      exact ⟨_, rfl, h.flags_eq, h.groups_eq,
        .inner (.of_empty rfl rfl (by simp [openGroup])) h.flags_eq h.nested⟩
    | ahead negated =>
      cases taken
      exact ⟨_, rfl, h.flags_eq, h.groups_eq,
        .inner (.of_empty rfl rfl (by simp [openGroup])) h.flags_eq h.nested⟩
    | capture =>
      cases taken
      exact ⟨_, rfl, h.flags_eq, congrArg (· + 1) h.groups_eq,
        .inner (.of_empty rfl rfl (by simp [openGroup])) h.flags_eq h.nested⟩
    | behind negated => cases taken
    | flagged f => cases taken
    | flags f => cases taken
    | comment => cases taken
  | close =>
    cases outer : o.outer with
    | nil => simp [Outline.take?, outer] at taken
    | cons other rest =>
      simp only [Outline.take?, outer, Option.some.injEq] at taken
      subst taken
      exact h.closeGroup outer
  | bar =>
    cases taken
    exact ⟨_, rfl, h.bar⟩
  | quantifier least most greedy possessive =>
    simp only [Outline.take?] at taken
    split at taken
    · rename_i filled
      cases taken
      exact h.quantify filled least most greedy possessive
    · cases taken
  | never => cases taken
  | quoted codes => cases taken
  | reference group => cases taken
  | blank => cases taken

/-- A draft reads what its outline reads. -/
theorem read {cs : List Char} (h : d.Fits flags o) (readable : o.read? flags cs = some o') :
    ∃ d', d.read cs = .ok d' ∧ d'.Fits flags o' := by
  induction left : cs.length using Nat.strongRecOn generalizing d o cs with
  | ind n ih =>
    cases cs with
    | nil =>
      rw [Outline.read?] at readable
      cases readable
      exact ⟨d, by rw [Draft.read], h⟩
    | cons c cs =>
      rw [Outline.read?] at readable
      rw [Draft.read, h.flags_eq, h.groups_eq]
      cases lexed : Lexeme.read flags o.groups c cs with
      | error fault =>
        rw [lexed] at readable
        cases readable
      | ok result =>
        obtain ⟨lexeme, used⟩ := result
        rw [lexed] at readable
        dsimp only at readable ⊢
        cases taken : o.take? lexeme with
        | none =>
          rw [taken] at readable
          cases readable
        | some next =>
          rw [taken] at readable
          obtain ⟨d', took, fits⟩ := h.take taken
          rw [took]
          refine ih (cs.drop used).length ?_ fits readable rfl
          rw [← left, List.length_cons, List.length_drop]
          omega

theorem finish (h : d.Fits flags o) (closed : o.outer = []) :
    ∃ a : Node, d.finish = .ok a ∧ a.Faultless := by
  have nested := h.nested
  rw [closed] at nested
  cases outer : d.outer with
  | nil => exact ⟨d.level.node, by rw [Draft.finish, outer]; rfl, h.nested.fits.node⟩
  | cons around outer_levels =>
    rw [outer] at nested
    cases nested

end Fits

end Draft

/-! ### Compiling -/

/-- An expression whose outline closes can be parsed. -/
theorem parse_of_closes {ignoreCase : Bool} {source : List Char}
    (h : Outline.closes ignoreCase source = true) :
    ∃ result, Node.parse ignoreCase source = .ok result := by
  unfold Outline.closes at h
  cases readable : Outline.read? { ignoreCase } {} source with
  | none =>
    rw [readable] at h
    cases h
  | some o =>
    rw [readable] at h
    have closed : o.outer = [] := List.isEmpty_iff.mp h
    have begins : Draft.Fits { flags := { ignoreCase } } { ignoreCase } {} :=
      ⟨rfl, rfl, .root (.of_empty rfl rfl (by simp))⟩
    obtain ⟨d, read, fits⟩ := begins.read readable
    obtain ⟨a, finished, fine⟩ := fits.finish closed
    refine ⟨(a, d.groups), ?_⟩
    simp only [Node.parse, bind, Except.bind, read, finished, fine d.groups]
    rfl

end Tincture.Regex
