import Mathlib.Data.List.Forall2
import Tincture.Proofs.Regex.Alike
import Tincture.Proofs.Regex.Atom

/-!
Phrases.

A `Phrase` is an expression of atoms, groups and look-aheads, which may be quantified, and bars. It
is written from left to right, and reading its text takes the same steps: a phrase in the middle of
a text adds its expressions to the group it stands in (`Phrase.read_text`), whatever comes before it
and whatever group or alternative after it. So putting phrases one after the other regroups nothing.

An opening brace is part of a phrase if it stands for itself. That depends on what follows, so it is
a condition on the phrase (`Phrase.isLiteral`); groups and bars end the bounds of a quantifier, so
where the phrase stands does not matter.

If its groups capture, a phrase reads as an expression with capturing groups. The `demoted` phrase,
whose groups do not, reads as one that is alike in every text in which literal runs can be joined
(`Phrase.alike_demoted`).
-/

namespace Tincture.Regex

/-! ### Contents of groups -/

/-- What a group holds, as far as it has been read. -/
structure Content where
  /-- The finished alternatives, the last one first. -/
  branches : List Node := []
  /-- The expressions of the current alternative, the last one first. -/
  items : List Node := []

namespace Content

/-- Adds an expression to the current alternative. -/
def push (c : Content) (a : Node) : Content := { c with items := a :: c.items }

/-- Ends the current alternative. -/
def branch (c : Content) : Content :=
  { branches := Node.sequence c.items.reverse :: c.branches }

/-- The expression of what the group holds. -/
def node (c : Content) : Node := Node.alternatives c.branch.branches.reverse

end Content

namespace Draft

/-- The draft, once `n` groups have been opened and its innermost one holds `c`. -/
def holding (d : Draft) (n : Nat) (c : Content) : Draft :=
  { d with groups := n, level := { d.level with branches := c.branches, items := c.items } }

/-- Nothing is read differently here, but for case. -/
def Ordinary (ignoreCase : Bool) (d : Draft) : Prop :=
  d.flags = { ignoreCase } ∧ d.level.inBehind = false

variable {d d' : Draft} {ignoreCase : Bool} {n : Nat} {c : Content} {more : List Char}

@[simp] theorem holding_push (a : Node) : (d.holding n c).push a = d.holding n (c.push a) := rfl

theorem read_of_take {first : Char} (tail : List Char) (lexeme : Lexeme)
    (lexed : Lexeme.read d.flags d.groups first (tail ++ more) = .ok (lexeme, tail.length))
    (taken : d.take lexeme = .ok d') : d.read (first :: tail ++ more) = d'.read more := by
  rw [List.cons_append, Draft.read, lexed]
  dsimp only
  rw [taken]
  dsimp only
  rw [List.drop_left]

theorem read_of_error {first : Char} (tail : List Char) {fault : Fault}
    (lexed : Lexeme.read d.flags d.groups first (tail ++ more) = .error fault) :
    d.read (first :: tail ++ more) = .error fault := by
  rw [List.cons_append, Draft.read, lexed]

/-- A lexeme that stands for an expression adds it. -/
theorem take_of_isAtomic (ordinary : d.Ordinary ignoreCase) {l : Lexeme}
    (atomic : l.isAtomic = true) : d.take l = .ok (d.push (l.node ignoreCase)) := by
  have literal (n : Nat) : d.literal n = ({ flags := { ignoreCase } } : Draft).literal n := by
    simp only [Draft.literal, ordinary.1, ordinary.2]
  cases l with
  | code n => simp only [Draft.take, Lexeme.node, literal]
  | dot => simp only [Draft.take, ordinary.1, Lexeme.node, Bool.false_eq_true, if_false]
  | set s => rfl
  | bracket c =>
    simp only [Draft.take, Lexeme.node, Draft.classNode, literal, ordinary.1, ordinary.2]
  | anchor a => rfl
  | _ => cases atomic

/-- An atom adds its expression. -/
theorem read_atom (ordinary : d.Ordinary ignoreCase) {a : Atom} {lexeme : Lexeme}
    (lexed : a.lexeme = .ok lexeme) (more : List Char) :
    d.read (a.text ++ more) = (d.push (lexeme.node ignoreCase)).read more := by
  obtain ⟨first, tail, text, -, read⟩ := a.exists_text
  have read := (read ignoreCase d.groups more (lexeme, tail.length)).mpr ⟨lexed, rfl⟩
  rw [← ordinary.1] at read
  rw [text]
  exact read_of_take tail lexeme read (take_of_isAtomic ordinary (Atom.isAtomic_of_lexeme lexed))

/-- What comes first has been read, if anything has. -/
theorem exists_lexeme {first : Char} (h : d.read (first :: more) = .ok d') :
    ∃ result, Lexeme.read d.flags d.groups first more = .ok result := by
  rw [Draft.read] at h
  cases lexed : Lexeme.read d.flags d.groups first more with
  | error fault =>
    rw [lexed] at h
    cases h
  | ok result => exact ⟨result, rfl⟩

theorem sound_of_read_atom (ordinary : d.Ordinary ignoreCase) {a : Atom}
    (h : d.read (a.text ++ more) = .ok d') : a.Sound := by
  obtain ⟨first, tail, text, -, read⟩ := a.exists_text
  rw [text] at h
  obtain ⟨result, lexed⟩ := exists_lexeme h
  rw [ordinary.1] at lexed
  exact ⟨_, ((read ignoreCase d.groups more result).mp lexed).1⟩

/-- A brace that stands for itself adds itself. -/
theorem read_brace (ordinary : d.Ordinary ignoreCase)
    (read : Lexeme.interval more = .ok (.code 123, 0)) :
    d.read ('\x7b' :: more) = (d.push ((Lexeme.code 123).node ignoreCase)).read more :=
  read_of_take [] (.code 123) read (take_of_isAtomic ordinary rfl)

end Draft

/-! ### Quantified parts -/

namespace Quantifier

/-- The text of a quantifier, if there is one. -/
def textOf (q : Option Quantifier) : List Char := q.elim [] text

/-- What the quantifier does to the expression before it. -/
def action : Option Quantifier → Except Fault (Node → Node)
  | none => .ok id
  | some q => q.count.bounds.map fun bounds =>
    Node.quantified bounds.1 bounds.2 (!q.isLazy) false

/-- The quantifier can be read. -/
def Sound (q : Option Quantifier) : Prop := ∃ act, action q = .ok act

/-- The expression, quantified. -/
def on (q : Option Quantifier) (a : Node) : Node :=
  match action q with
  | .ok act => act a
  | .error _ => a

end Quantifier

namespace Draft

variable {d d' : Draft} {ignoreCase : Bool} {more : List Char}

theorem read_quantifier (ordinary : d.Ordinary ignoreCase) (a : Node) (q : Option Quantifier)
    (loose : Loose more) :
    (d.push a).read (Quantifier.textOf q ++ more) =
      (Quantifier.action q).bind fun act => (d.push (act a)).read more := by
  cases q with
  | none => rfl
  | some q =>
    obtain ⟨first, tail, text, read⟩ := q.exists_text
    have read := read ignoreCase (d.push a).groups more loose
    have flags : (d.push a).flags = { ignoreCase } := ordinary.1
    rw [← flags] at read
    change (d.push a).read (q.text ++ more) = _
    rw [text]
    simp only [Quantifier.action]
    cases bounded : q.count.bounds with
    | error fault =>
      rw [bounded] at read
      exact read_of_error tail read
    | ok bounds =>
      rw [bounded] at read
      exact read_of_take tail _ read rfl

end Draft

/-! ### Phrases -/

/-- The groups a phrase can have. -/
inductive Grouping where
  | capture
  | plain
  | ahead (negated : Bool)

namespace Grouping

/-- What follows the opening parenthesis. -/
def mark : Grouping → List Char
  | .capture => []
  | .plain => ['?', ':']
  | .ahead negated => ['?', if negated then '!' else '=']

/-- How many groups have been opened after this one, if `n` have before. -/
def opens (n : Nat) : Grouping → Nat
  | .capture => n + 1
  | _ => n

/-- How the group is opened. -/
def opening : Grouping → Opening
  | .capture => .capture
  | .plain => .plain
  | .ahead negated => .ahead negated

/-- The expression of the group with this body. -/
def node (g : Grouping) (group : Nat) (body : Node) : Node :=
  match g with
  | .capture => .capture group body
  | .plain => body
  | .ahead negated => .ahead negated body

/-- The group, without capturing. -/
def demoted : Grouping → Grouping
  | .capture => .plain
  | g => g

end Grouping

/-- An expression of atoms, groups and look-aheads, from left to right. -/
inductive Phrase where
  | done
  | atom (a : Atom) (q : Option Quantifier) (rest : Phrase)
  /-- An opening brace. -/
  | brace (q : Option Quantifier) (rest : Phrase)
  | group (g : Grouping) (body : Phrase) (q : Option Quantifier) (rest : Phrase)
  | bar (rest : Phrase)

namespace Phrase

/-- The text of a phrase. -/
def text : Phrase → List Char
  | .done => []
  | .atom a q rest => a.text ++ (Quantifier.textOf q ++ rest.text)
  | .brace q rest => '\x7b' :: (Quantifier.textOf q ++ rest.text)
  | .group g body q rest =>
    '(' :: g.mark ++ (body.text ++ ')' :: (Quantifier.textOf q ++ rest.text))
  | .bar rest => '|' :: rest.text

/-- The braces of the phrase are not followed by bounds. -/
def isLiteral : Phrase → Bool
  | .done => true
  | .atom _ _ rest | .bar rest => rest.isLiteral
  | .brace q rest => !beginsBounds (Quantifier.textOf q ++ rest.text) && rest.isLiteral
  | .group _ body _ rest => body.isLiteral && rest.isLiteral

/-- All parts of the phrase can be read, its braces as themselves. -/
def Sound : Phrase → Prop
  | .done => True
  | .atom a q rest => a.Sound ∧ Quantifier.Sound q ∧ rest.Sound
  | .brace q rest => Lexeme.interval (Quantifier.textOf q ++ rest.text) = .ok (.code 123, 0) ∧
      Quantifier.Sound q ∧ rest.Sound
  | .group _ body q rest => body.Sound ∧ Quantifier.Sound q ∧ rest.Sound
  | .bar rest => rest.Sound

/-- The phrase with groups that do not capture. -/
def demoted : Phrase → Phrase
  | .done => .done
  | .atom a q rest => .atom a q rest.demoted
  | .brace q rest => .brace q rest.demoted
  | .group g body q rest => .group g.demoted body.demoted q rest.demoted
  | .bar rest => .bar rest.demoted

/-- The number of groups that have been opened and what the group holds, once the phrase has been
read in it. -/
def onto (ignoreCase : Bool) : Phrase → Nat → Content → Nat × Content
  | .done, n, c => (n, c)
  | .atom a q rest, n, c => rest.onto ignoreCase n (c.push (Quantifier.on q (a.node ignoreCase)))
  | .brace q rest, n, c =>
    rest.onto ignoreCase n (c.push (Quantifier.on q ((Lexeme.code 123).node ignoreCase)))
  | .group g body q rest, n, c =>
    let inner := body.onto ignoreCase (g.opens n) {}
    rest.onto ignoreCase inner.1 (c.push (Quantifier.on q (g.node (g.opens n) inner.2.node)))
  | .bar rest, n, c => rest.onto ignoreCase n c.branch

/-- The expression of a phrase by itself. -/
def node (ignoreCase : Bool) (x : Phrase) : Node := (x.onto ignoreCase 0 {}).2.node

/-! ### Reading -/

variable {d d' : Draft} {ignoreCase : Bool} {n : Nat} {c : Content} {more : List Char}

/-- No phrase begins with a sign that belongs to what stands before it. -/
theorem loose_text (x : Phrase) (loose : Loose more) : Loose (x.text ++ more) := by
  cases x with
  | done => exact loose
  | atom a q rest =>
    obtain ⟨first, tail, text, others, -⟩ := a.exists_text
    rw [Phrase.text, text]
    simpa [Loose] using others
  | brace q rest => simp [Loose, Phrase.text]
  | group g body q rest => simp [Loose, Phrase.text]
  | bar rest => simp [Loose, Phrase.text]

theorem text_atom_append (a : Atom) (q : Option Quantifier) (rest : Phrase) (more : List Char) :
    (Phrase.atom a q rest).text ++ more =
      a.text ++ (Quantifier.textOf q ++ (rest.text ++ more)) := by
  simp [text]

theorem text_brace_append (q : Option Quantifier) (rest : Phrase) (more : List Char) :
    (Phrase.brace q rest).text ++ more =
      '\x7b' :: (Quantifier.textOf q ++ (rest.text ++ more)) := by
  simp [text]

theorem text_group_append (g : Grouping) (body : Phrase) (q : Option Quantifier) (rest : Phrase)
    (more : List Char) :
    (Phrase.group g body q rest).text ++ more =
      '(' :: g.mark ++ (body.text ++ ')' :: (Quantifier.textOf q ++ (rest.text ++ more))) := by
  simp [text]

theorem ended_close (more : List Char) : Ended (')' :: more) := by
  simp [Ended]

theorem read_open (g : Grouping) (loose : Loose more) (nonempty : more ≠ []) (d : Draft) :
    d.read ('(' :: g.mark ++ more) = (d.openGroup g.opening).read more := by
  refine Draft.read_of_take g.mark (.opening g.opening) ?_ ?_
  · cases g with
    | capture =>
      cases more with
      | nil => exact absurd rfl nonempty
      | cons first more =>
        have query : first ≠ '?' := fun eq => loose.1 (congrArg some eq)
        simp [Lexeme.read, Lexeme.group, Grouping.mark, Grouping.opening, query]
    | plain => rfl
    | ahead negated => cases negated <;> rfl
  · cases g <;> rfl

theorem read_close (g : Grouping) (inner : Content) (n' : Nat) (more : List Char) :
    (((d.holding n c).openGroup g.opening).holding n' inner).read (')' :: more) =
      (d.holding n' (c.push (g.node (g.opens n) inner.node))).read more := by
  refine Draft.read_of_take [] .close rfl ?_
  cases g <;> rfl

theorem read_bar (more : List Char) :
    (d.holding n c).read ('|' :: more) = (d.holding n c.branch).read more :=
  Draft.read_of_take [] .bar rfl rfl

/-- What follows the phrase does not change a brace that stands for itself. -/
theorem interval_brace {q : Option Quantifier} {rest : Phrase} (ended : Ended more)
    (read : Lexeme.interval (Quantifier.textOf q ++ rest.text) = .ok (.code 123, 0)) :
    Lexeme.interval (Quantifier.textOf q ++ (rest.text ++ more)) = .ok (.code 123, 0) := by
  have literal := (Lexeme.interval_eq_code_iff read).mp rfl
  rw [← List.append_assoc, Lexeme.interval_append_ended literal ended, read]

/-- Reading a phrase in the middle of a text. -/
theorem read_text (x : Phrase) (sound : x.Sound) (ordinary : d.Ordinary ignoreCase)
    (ended : Ended more) :
    (d.holding n c).read (x.text ++ more) =
      (d.holding (x.onto ignoreCase n c).1 (x.onto ignoreCase n c).2).read more := by
  induction x generalizing d n c more with
  | done => rfl
  | atom a q rest ih =>
    obtain ⟨⟨lexeme, lexed⟩, ⟨act, acting⟩, sound⟩ := sound
    have first := Draft.read_atom (d := d.holding n c) ordinary lexed
    have second := Draft.read_quantifier (d := d.holding n c) ordinary (lexeme.node ignoreCase) q
      (rest.loose_text ended.loose)
    rw [text_atom_append, first]
    refine second.trans ?_
    simp only [acting, lexed, onto, Quantifier.on, Atom.node, Except.bind, Draft.holding_push]
    exact ih sound ordinary ended
  | brace q rest ih =>
    obtain ⟨read, ⟨act, acting⟩, sound⟩ := sound
    have first := Draft.read_brace (d := d.holding n c) ordinary (interval_brace ended read)
    have second := Draft.read_quantifier (d := d.holding n c) ordinary
      ((Lexeme.code 123).node ignoreCase) q (rest.loose_text ended.loose)
    rw [text_brace_append, first]
    refine second.trans ?_
    simp only [acting, onto, Quantifier.on, Except.bind, Draft.holding_push]
    exact ih sound ordinary ended
  | group g body q rest ihBody ih =>
    obtain ⟨soundBody, ⟨act, acting⟩, sound⟩ := sound
    have ordinaryBody : ((d.holding n c).openGroup g.opening).Ordinary ignoreCase := by
      cases g <;> exact ordinary
    have start : (d.holding n c).openGroup g.opening =
        ((d.holding n c).openGroup g.opening).holding (g.opens n) {} := by
      cases g <;> rfl
    rw [text_group_append, read_open g (body.loose_text (ended_close _).loose) (by simp), start,
      ihBody soundBody ordinaryBody (ended_close _), read_close]
    have second := Draft.read_quantifier
      (d := d.holding (body.onto ignoreCase (g.opens n) {}).1 c) ordinary
      (g.node (g.opens n) (body.onto ignoreCase (g.opens n) {}).2.node) q
      (rest.loose_text ended.loose)
    refine second.trans ?_
    simp only [acting, onto, Quantifier.on, Except.bind, Draft.holding_push]
    exact ih sound ordinary ended
  | bar rest ih =>
    rw [text, List.cons_append, read_bar]
    exact ih sound ordinary ended

/-- Only phrases all of whose parts can be read can be read. -/
theorem sound_of_read (x : Phrase) (literal : x.isLiteral = true)
    (ordinary : d.Ordinary ignoreCase) (ended : Ended more)
    (h : (d.holding n c).read (x.text ++ more) = .ok d') : x.Sound := by
  induction x generalizing d n c more with
  | done => trivial
  | atom a q rest ih =>
    rw [text_atom_append] at h
    obtain ⟨lexeme, lexed⟩ := Draft.sound_of_read_atom (d := d.holding n c) ordinary h
    rw [Draft.read_atom (d := d.holding n c) ordinary lexed] at h
    have second := Draft.read_quantifier (d := d.holding n c) ordinary (lexeme.node ignoreCase) q
      (rest.loose_text ended.loose)
    obtain ⟨act, acting, h⟩ := ok_of_bind (second.symm.trans h)
    rw [Draft.holding_push] at h
    exact ⟨⟨lexeme, lexed⟩, ⟨act, acting⟩, ih literal ordinary ended h⟩
  | brace q rest ih =>
    obtain ⟨bare, literal⟩ := Bool.and_eq_true_iff.mp literal
    have bare := Bool.not_eq_true' _ ▸ bare
    rw [text_brace_append] at h
    obtain ⟨result, read⟩ := Draft.exists_lexeme h
    have read : Lexeme.interval (Quantifier.textOf q ++ rest.text) = .ok result := by
      rw [← Lexeme.interval_append_ended bare ended, List.append_assoc]
      exact read
    obtain rfl := (Lexeme.interval_eq_code_iff read).mpr bare
    rw [Draft.read_brace (d := d.holding n c) ordinary (interval_brace ended read)] at h
    have second := Draft.read_quantifier (d := d.holding n c) ordinary
      ((Lexeme.code 123).node ignoreCase) q (rest.loose_text ended.loose)
    obtain ⟨act, acting, h⟩ := ok_of_bind (second.symm.trans h)
    rw [Draft.holding_push] at h
    exact ⟨read, ⟨act, acting⟩, ih literal ordinary ended h⟩
  | group g body q rest ihBody ih =>
    obtain ⟨literalBody, literal⟩ := Bool.and_eq_true_iff.mp literal
    have ordinaryBody : ((d.holding n c).openGroup g.opening).Ordinary ignoreCase := by
      cases g <;> exact ordinary
    have start : (d.holding n c).openGroup g.opening =
        ((d.holding n c).openGroup g.opening).holding (g.opens n) {} := by
      cases g <;> rfl
    rw [text_group_append, read_open g (body.loose_text (ended_close _).loose) (by simp),
      start] at h
    have soundBody := ihBody literalBody ordinaryBody (ended_close _) h
    rw [body.read_text soundBody ordinaryBody (ended_close _), read_close] at h
    have second := Draft.read_quantifier
      (d := d.holding (body.onto ignoreCase (g.opens n) {}).1 c) ordinary
      (g.node (g.opens n) (body.onto ignoreCase (g.opens n) {}).2.node) q
      (rest.loose_text ended.loose)
    obtain ⟨act, acting, h⟩ := ok_of_bind (second.symm.trans h)
    rw [Draft.holding_push] at h
    exact ⟨soundBody, ⟨act, acting⟩, ih literal ordinary ended h⟩
  | bar rest ih =>
    rw [text, List.cons_append, read_bar] at h
    exact ih literal ordinary ended h

end Phrase

/-! ### Expressions of phrases -/

namespace Node

/-- A plain expression has no faults. -/
theorem Plain.fault? {folded : Bool} {a : Node} (plain : a.Plain folded) (groups : Nat) :
    a.fault? groups = none := by
  induction a with
  | empty | text | one | anchor => rfl
  | seq a b iha ihb => rw [Node.fault?, iha plain.1, ihb plain.2, Option.or_none]
  | alt a b iha ihb => rw [Node.fault?, iha plain.1, ihb plain.2, Option.or_none]
  | capture group a ih => exact ih plain
  | repetition least most greedy a ih => exact ih plain.2
  | atomic a ih => exact ih plain
  | ahead negated a ih => exact ih plain
  | behind => exact plain.elim
  | reference => exact plain.elim

end Node

theorem Lexeme.node_plain (ignoreCase : Bool) (lexeme : Lexeme) :
    (lexeme.node ignoreCase).Plain ignoreCase := by
  have literal (n : Nat) :
      (({ flags := { ignoreCase } } : Draft).literal n).Plain ignoreCase := by
    cases ignoreCase <;> rfl
  cases lexeme with
  | code n => exact literal n
  | bracket c =>
    simp only [Lexeme.node, Draft.classNode]
    split
    · trivial
    · rename_i ignoring
      split
      · trivial
      · split
        · exact literal _
        · refine (Node.Plain.hereditary ignoreCase).alternatives ?_
          intro a mem
          rcases List.mem_cons.mp mem with rfl | mem
          · trivial
          · obtain ⟨run, -, rfl⟩ := List.mem_map.mp mem
            simpa [Node.Plain] using ignoring
  | _ => trivial

theorem Atom.node_plain (ignoreCase : Bool) (a : Atom) : (a.node ignoreCase).Plain ignoreCase := by
  unfold Atom.node
  split
  · exact Lexeme.node_plain ignoreCase _
  · trivial

namespace Quantifier

variable {folded : Bool} {q : Option Quantifier} {a b : Node}

/-- A quantifier that can be read repeats feasibly, if it does anything. -/
theorem on_eq (sound : Sound q) :
    (∀ a, on q a = a) ∨ ∃ least most greedy, Node.Feasible least most ∧
      ∀ a, on q a = Node.quantified least most greedy false a := by
  obtain ⟨act, acting⟩ := sound
  cases q with
  | none => exact .inl fun a => rfl
  | some q =>
    have acts := acting
    obtain ⟨⟨least, most⟩, bounded, rfl⟩ := ok_of_map acting
    refine .inr ⟨least, most, !q.isLazy, Count.feasible bounded, fun a => ?_⟩
    rw [on, acts]

theorem on_plain (sound : Sound q) (plain : a.Plain folded) : (on q a).Plain folded := by
  rcases on_eq sound with eq | ⟨least, most, greedy, feasible, eq⟩
  · rwa [eq]
  · rw [eq]
    exact (Node.Plain.hereditary folded).quantified plain feasible greedy false

theorem on_alike {t : Subject} (sound : Sound q) (h : AlikeOn t folded folded a b) :
    AlikeOn t folded folded (on q a) (on q b) := by
  rcases on_eq sound with eq | ⟨least, most, greedy, feasible, eq⟩
  · rwa [eq, eq]
  · rw [eq, eq]
    exact h.quantified feasible greedy false

end Quantifier

namespace Content

/-- What the group holds is plain. -/
def Plain (folded : Bool) (c : Content) : Prop :=
  (∀ a ∈ c.branches, a.Plain folded) ∧ ∀ a ∈ c.items, a.Plain folded

/-- Groups hold expressions that match alike. -/
structure Alike (t : Subject) (folded : Bool) (c c' : Content) : Prop where
  branches : List.Forall₂ (AlikeOn t folded folded) c.branches c'.branches
  items : List.Forall₂ (AlikeOn t folded folded) c.items c'.items

variable {t : Subject} {folded : Bool} {c c' : Content} {a b : Node}

namespace Plain

theorem push (h : c.Plain folded) (plain : a.Plain folded) : (c.push a).Plain folded :=
  ⟨h.1, List.forall_mem_cons.mpr ⟨plain, h.2⟩⟩

theorem branch (h : c.Plain folded) : c.branch.Plain folded := by
  refine ⟨List.forall_mem_cons.mpr ⟨?_, h.1⟩, fun _ mem => absurd mem List.not_mem_nil⟩
  exact (Node.Plain.hereditary folded).sequence fun a mem => h.2 a (List.mem_reverse.mp mem)

theorem node (h : c.Plain folded) : c.node.Plain folded :=
  (Node.Plain.hereditary folded).alternatives fun a mem => h.branch.1 a (List.mem_reverse.mp mem)

end Plain

namespace Alike

theorem push (h : Alike t folded c c') (alike : AlikeOn t folded folded a b) :
    Alike t folded (c.push a) (c'.push b) :=
  ⟨h.branches, .cons alike h.items⟩

theorem branch (joins : Node.Joins t folded) (h : Alike t folded c c') :
    Alike t folded c.branch c'.branch :=
  ⟨.cons (.sequence joins joins (List.forall₂_reverse_iff.mpr h.items)) h.branches, .nil⟩

theorem node (joins : Node.Joins t folded) (h : Alike t folded c c') :
    AlikeOn t folded folded c.node c'.node :=
  .alternatives (List.forall₂_reverse_iff.mpr (h.branch joins).branches)

end Alike

end Content

namespace Phrase

variable {ignoreCase : Bool} {n n' : Nat} {c c' : Content}

theorem onto_plain (x : Phrase) (sound : x.Sound) (plain : c.Plain ignoreCase) :
    (x.onto ignoreCase n c).2.Plain ignoreCase := by
  induction x generalizing n c with
  | done => exact plain
  | atom a q rest ih =>
    exact ih sound.2.2 (plain.push (Quantifier.on_plain sound.2.1 (a.node_plain ignoreCase)))
  | brace q rest ih =>
    exact ih sound.2.2 (plain.push (Quantifier.on_plain sound.2.1 (Lexeme.node_plain ignoreCase _)))
  | group g body q rest ihBody ih =>
    have inner := (ihBody (n := g.opens n) (c := {}) sound.1 ⟨by simp, by simp⟩).node
    refine ih sound.2.2 (plain.push (Quantifier.on_plain sound.2.1 ?_))
    cases g <;> exact inner
  | bar rest ih => exact ih sound plain.branch

theorem node_plain (x : Phrase) (sound : x.Sound) : (x.node ignoreCase).Plain ignoreCase :=
  (x.onto_plain sound ⟨by simp, by simp⟩).node

/-- A phrase by itself is parsed as its expression. -/
theorem parse_text (x : Phrase) (sound : x.Sound) (ignoreCase : Bool) :
    Node.parse ignoreCase x.text = .ok (x.node ignoreCase, (x.onto ignoreCase 0 {}).1) := by
  have read := x.read_text (d := { flags := { ignoreCase } }) (n := 0) (c := {}) sound ⟨rfl, rfl⟩
    .nil
  rw [List.append_nil, Draft.read.eq_1] at read
  have finish : Draft.finish (Draft.holding { flags := { ignoreCase } }
      (x.onto ignoreCase 0 {}).1 (x.onto ignoreCase 0 {}).2) = .ok (x.node ignoreCase) := rfl
  have start : Draft.holding { flags := { ignoreCase } } 0 {} =
      ({ flags := { ignoreCase } } : Draft) := rfl
  rw [start] at read
  simp only [Node.parse, read, bind, Except.bind, finish, (x.node_plain sound).fault?]
  rfl

/-- A phrase after a caret. -/
theorem parse_caret (x : Phrase) (sound : x.Sound) (ignoreCase : Bool) :
    Node.parse ignoreCase ('^' :: x.text) =
      .ok ((x.onto ignoreCase 0 ⟨[], [.anchor .start]⟩).2.node,
        (x.onto ignoreCase 0 ⟨[], [.anchor .start]⟩).1) := by
  have caret : Draft.read { flags := { ignoreCase } } ('^' :: [] ++ (x.text ++ [])) =
      Draft.read (Draft.push { flags := { ignoreCase } } (.anchor .start)) (x.text ++ []) :=
    Draft.read_of_take [] (.anchor .start) rfl rfl
  have read := x.read_text (d := { flags := { ignoreCase } }) (n := 0)
    (c := ⟨[], [.anchor .start]⟩) sound ⟨rfl, rfl⟩ .nil
  have whole := caret.trans read
  rw [List.append_nil, Draft.read.eq_1] at whole
  have plain : (x.onto ignoreCase 0 ⟨[], [.anchor .start]⟩).2.node.Plain ignoreCase :=
    (x.onto_plain sound ⟨by simp, by simp [Node.Plain]⟩).node
  have finish : Draft.finish (Draft.holding { flags := { ignoreCase } }
      (x.onto ignoreCase 0 ⟨[], [.anchor .start]⟩).1
      (x.onto ignoreCase 0 ⟨[], [.anchor .start]⟩).2) =
        .ok (x.onto ignoreCase 0 ⟨[], [.anchor .start]⟩).2.node := rfl
  rw [List.cons_append, List.nil_append] at whole
  simp only [Node.parse, whole, bind, Except.bind, finish, plain.fault?]
  rfl

/-- What follows a caret or nothing can be read if all of it can be parsed. -/
theorem sound_of_parse {x : Phrase} (literal : x.isLiteral = true) (anchored : Bool)
    {result : Node × Nat}
    (h : Node.parse ignoreCase ((if anchored then ['^'] else []) ++ x.text) = .ok result) :
    x.Sound := by
  obtain ⟨d, read, -⟩ := ok_of_bind h
  rw [← List.append_nil x.text] at read
  cases anchored with
  | false =>
    exact x.sound_of_read literal (d := { flags := { ignoreCase } }) (n := 0) (c := {})
      ⟨rfl, rfl⟩ .nil read
  | true =>
    have caret : Draft.read { flags := { ignoreCase } } ('^' :: [] ++ (x.text ++ [])) =
        Draft.read (Draft.push { flags := { ignoreCase } } (.anchor .start)) (x.text ++ []) :=
      Draft.read_of_take [] (.anchor .start) rfl rfl
    exact x.sound_of_read literal (d := { flags := { ignoreCase } }) (n := 0)
      (c := ⟨[], [.anchor .start]⟩) ⟨rfl, rfl⟩ .nil (caret.symm.trans read)

/-! ### Groups that do not capture -/

/-- Up to its first group the text of a phrase is that of the demoted phrase. -/
theorem exists_front (x : Phrase) : ∃ front left left', x.text = front ++ left ∧
    x.demoted.text = front ++ left' ∧ Ended left ∧ Ended left' := by
  induction x with
  | done => exact ⟨[], [], [], rfl, rfl, .nil, .nil⟩
  | atom a q rest ih =>
    obtain ⟨front, left, left', eq, eq', ended, ended'⟩ := ih
    refine ⟨a.text ++ (Quantifier.textOf q ++ front), left, left', ?_, ?_, ended, ended'⟩
    · simp [text, eq]
    · simp [demoted, text, eq']
  | brace q rest ih =>
    obtain ⟨front, left, left', eq, eq', ended, ended'⟩ := ih
    refine ⟨'\x7b' :: (Quantifier.textOf q ++ front), left, left', ?_, ?_, ended, ended'⟩
    · simp [text, eq]
    · simp [demoted, text, eq']
  | group g body q rest => exact ⟨[], _, _, rfl, rfl, by simp [Ended], by simp [Ended]⟩
  | bar rest => exact ⟨[], _, _, rfl, rfl, by simp [Ended], by simp [Ended]⟩

/-- Whether a brace stands for itself does not depend on the groups that follow. -/
theorem interval_demoted (q : Option Quantifier) (rest : Phrase) :
    Lexeme.interval (Quantifier.textOf q ++ rest.demoted.text) = .ok (.code 123, 0) ↔
      Lexeme.interval (Quantifier.textOf q ++ rest.text) = .ok (.code 123, 0) := by
  obtain ⟨front, left, left', eq, eq', ended, ended'⟩ := rest.exists_front
  have whole {left : List Char} (ended : Ended left) :
      Lexeme.interval (Quantifier.textOf q ++ (front ++ left)) = .ok (.code 123, 0) ↔
        Lexeme.interval (Quantifier.textOf q ++ front) = .ok (.code 123, 0) := by
    rw [← List.append_assoc]
    constructor
    · intro read
      have literal := (Lexeme.interval_eq_code_iff read).mp rfl
      rw [ended.beginsBounds_append] at literal
      rwa [Lexeme.interval_append_ended literal ended] at read
    · intro read
      have literal := (Lexeme.interval_eq_code_iff read).mp rfl
      rwa [Lexeme.interval_append_ended literal ended]
  rw [eq, eq', whole ended, whole ended']

theorem sound_demoted (x : Phrase) : x.demoted.Sound ↔ x.Sound := by
  induction x with
  | done => rfl
  | atom a q rest ih => simp only [demoted, Sound, ih]
  | brace q rest ih => simp only [demoted, Sound, ih, interval_demoted]
  | group g body q rest ihBody ih => simp only [demoted, Sound, ihBody, ih]
  | bar rest ih => exact ih

/-- Reading a demoted phrase opens no group that captures. -/
theorem onto_demoted_fst (x : Phrase) : (x.demoted.onto ignoreCase n c).1 = n := by
  induction x generalizing n c with
  | done => rfl
  | atom a q rest ih => exact ih
  | brace q rest ih => exact ih
  | group g body q rest ihBody ih =>
    refine ih.trans (ihBody.trans ?_)
    cases g <;> rfl
  | bar rest ih => exact ih

variable {t : Subject}

/-- If literal runs can be joined, capturing makes no difference to where a phrase matches. -/
theorem onto_alike (x : Phrase) (joins : Node.Joins t ignoreCase) (sound : x.Sound)
    (alike : Content.Alike t ignoreCase c c') :
    Content.Alike t ignoreCase (x.onto ignoreCase n c).2 (x.demoted.onto ignoreCase n' c').2 := by
  induction x generalizing n n' c c' with
  | done => exact alike
  | atom a q rest ih =>
    exact ih sound.2.2
      (alike.push (Quantifier.on_alike sound.2.1 (.refl (a.node_plain ignoreCase))))
  | brace q rest ih =>
    exact ih sound.2.2
      (alike.push (Quantifier.on_alike sound.2.1 (.refl (Lexeme.node_plain ignoreCase _))))
  | group g body q rest ihBody ih =>
    have inner : AlikeOn t ignoreCase ignoreCase (body.onto ignoreCase (g.opens n) {}).2.node
        (body.demoted.onto ignoreCase (g.demoted.opens n') {}).2.node :=
      (ihBody sound.1 ⟨.nil, .nil⟩).node joins
    refine ih sound.2.2 (alike.push (Quantifier.on_alike sound.2.1 ?_))
    cases g with
    | capture => exact inner.capture _
    | plain => exact inner
    | ahead negated => exact inner.ahead negated
  | bar rest ih => exact ih sound (alike.branch joins)

theorem alike_demoted (x : Phrase) (joins : Node.Joins t ignoreCase) (sound : x.Sound) :
    AlikeOn t ignoreCase ignoreCase (x.node ignoreCase) (x.demoted.node ignoreCase) :=
  (x.onto_alike joins sound ⟨.nil, .nil⟩).node joins

end Phrase

end Tincture.Regex
