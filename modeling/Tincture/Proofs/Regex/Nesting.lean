import Tincture.Proofs.Regex.Enclosure
import Tincture.Proofs.Regex.Phrase

/-!
Alternatives that are read one by one.

A union puts each of its patterns in a group of its own, with bars between. Reading it goes from
left to right, and what it has read stays: the alternatives that the outermost group has finished
are never taken back (`continues_read`), whatever follows. And what a group holds does not depend on
where the group stands (`Stands`), whether its text is a phrase (`Phrase.stands`) or has been
checked by reading it alone (`exists_stands`). So a union begins with the expressions of its first
patterns, each as it is parsed by itself (`parse_alternatives`).
-/

namespace Tincture.Regex

/-! ### The outermost group -/

/-- The group goes on as another, and the alternatives it has finished stay. -/
structure Level.Continues (l l' : Level) : Prop where
  opening : l'.opening = l.opening
  outside : l'.outside = l.outside
  branches : ∃ newer, l'.branches = newer ++ l.branches

namespace Level.Continues

variable {l l' l'' : Level}

theorem refl (l : Level) : l.Continues l := ⟨rfl, rfl, [], rfl⟩

theorem trans (h : l.Continues l') (h' : l'.Continues l'') : l.Continues l'' := by
  obtain ⟨newer, grown⟩ := h.branches
  obtain ⟨newer', grown'⟩ := h'.branches
  refine ⟨h'.opening.trans h.opening, h'.outside.trans h.outside, newer' ++ newer, ?_⟩
  rw [grown', grown, List.append_assoc]

theorem push (l : Level) (a : Node) : l.Continues (l.push a) := ⟨rfl, rfl, [], rfl⟩

theorem branch (l : Level) : l.Continues l.branch := ⟨rfl, rfl, [_], rfl⟩

/-- If the innermost group goes on, so does the outermost one. -/
theorem getLastD (h : l.Continues l') (outer : List Level) :
    (outer.getLastD l).Continues (outer.getLastD l') := by
  cases outer with
  | nil => exact h
  | cons around outer => exact refl _

/-- The expression of a group, none of whose alternatives is lost. -/
theorem node (h : l.Continues l') (plain : l.opening = .plain) :
    ∃ others, others ≠ [] ∧ l'.node = Node.alternatives (l.branches.reverse ++ others) := by
  obtain ⟨newer, grown⟩ := h.branches
  refine ⟨newer.reverse ++ [Node.sequence l'.items.reverse], by simp, ?_⟩
  simp [Level.node, h.opening, plain, Level.branch, grown]

end Level.Continues

namespace Draft

variable {d d' : Draft} {lexeme : Lexeme}

/-- The outermost group. -/
def bottom (d : Draft) : Level := d.outer.getLastD d.level

theorem continues_closeFlags (level : Level) (flags : Flags) (outer : List Level) :
    (outer.getLastD level).Continues
      ((closeFlags level flags outer).2.2.getLastD (closeFlags level flags outer).1) := by
  induction outer generalizing level flags with
  | nil => exact .refl level
  | cons around outer ih =>
    rw [closeFlags]
    split
    · rw [List.getLastD_cons]
      exact ((Level.Continues.push around level.node).getLastD outer).trans (ih _ _)
    · exact .refl _

theorem continues_push (d : Draft) (a : Node) : d.bottom.Continues (d.push a).bottom :=
  (Level.Continues.push d.level a).getLastD d.outer

theorem continues_openGroup (d : Draft) (o : Opening) :
    d.bottom.Continues (d.openGroup o).bottom := by
  have same : (d.openGroup o).bottom = d.bottom := List.getLastD_cons ..
  rw [same]
  exact .refl _

theorem continues_closeGroup (h : d.closeGroup = .ok d') : d.bottom.Continues d'.bottom := by
  have closed := continues_closeFlags d.level d.flags d.outer
  rw [closeGroup] at h
  split at h
  · cases h
  · rename_i level flags around outer eq
    cases h
    rw [eq, List.getLastD_cons] at closed
    exact closed.trans ((Level.Continues.push around level.node).getLastD outer)

theorem continues_quantify {least : Nat} {most : Option Nat} {greedy possessive : Bool}
    (h : d.quantify least most greedy possessive = .ok d') : d.bottom.Continues d'.bottom := by
  rw [quantify] at h
  split at h
  · cases h
  · cases h
    have level (items : List Node) : d.level.Continues { d.level with items } :=
      ⟨rfl, rfl, [], rfl⟩
    exact (level _).getLastD d.outer

/-- No lexeme takes back an alternative of the outermost group. -/
theorem continues_take (h : d.take lexeme = .ok d') : d.bottom.Continues d'.bottom := by
  cases lexeme with
  | code n | never | dot | set s | bracket c | anchor a | reference group =>
    cases h
    exact d.continues_push _
  | quoted codes =>
    have all (codes : List Nat) (d : Draft) :
        d.bottom.Continues (codes.foldl (fun d n => d.push (d.literal n)) d).bottom := by
      induction codes generalizing d with
      | nil => exact .refl _
      | cons n codes ih => exact (d.continues_push _).trans (ih _)
    cases codes with
    | nil =>
      cases h
      exact d.continues_push _
    | cons n codes =>
      cases h
      exact all (n :: codes) d
  | opening o =>
    cases o with
    | comment =>
      cases h
      exact .refl _
    | _ =>
      cases h
      exact d.continues_openGroup _
  | close => exact continues_closeGroup h
  | bar =>
    cases h
    exact (Level.Continues.branch d.level).getLastD d.outer
  | quantifier least most greedy possessive => exact continues_quantify h
  | blank =>
    cases h
    exact .refl _

/-- However a text goes on, the outermost group keeps its alternatives. -/
theorem continues_read {cs : List Char} (h : d.read cs = .ok d') :
    d.bottom.Continues d'.bottom := by
  induction left : cs.length using Nat.strongRecOn generalizing d cs with
  | ind n ih =>
    cases cs with
    | nil =>
      rw [read] at h
      cases h
      exact .refl _
    | cons c cs =>
      rw [read] at h
      split at h
      · cases h
      · rename_i lexeme used lexed
        split at h
        · cases h
        · rename_i next taken
          refine (continues_take taken).trans (ih (cs.drop used).length ?_ h rfl)
          rw [← left, List.length_cons, List.length_drop]
          omega

/-- The whole expression has the alternatives that the outermost group had finished. -/
theorem alternatives_of_finish {a : Node} (plain : d.bottom.opening = .plain)
    (h : d.finish = .ok a) :
    ∃ others, others ≠ [] ∧ a = Node.alternatives (d.bottom.branches.reverse ++ others) := by
  have closed := continues_closeFlags d.level d.flags d.outer
  rw [finish] at h
  split at h
  · rename_i level flags eq
    cases h
    rw [eq] at closed
    exact closed.node plain
  · cases h

end Draft

/-! ### Groups by themselves -/

/-- In a group of its own the text is read as the expression, wherever the group stands. -/
def Stands (ignoreCase : Bool) (text : List Char) (a : Node) : Prop :=
  ∀ (d : Draft) (more : List Char), d.Ordinary ignoreCase → d.groups = 0 →
    d.read (grouped text ++ more) = (d.push a).read more

variable {ignoreCase : Bool} {text : List Char} {a : Node}

/-- Phrases that do not capture. -/
theorem Phrase.stands (x : Phrase) (sound : x.Sound) (bare : (x.onto ignoreCase 0 {}).1 = 0) :
    Stands ignoreCase x.text (x.node ignoreCase) := by
  intro d more ordinary none
  obtain ⟨flags, groups, level, outer⟩ := d
  dsimp only at none
  subst none
  have spelled : grouped x.text ++ more =
      '(' :: Grouping.plain.mark ++ (x.text ++ ')' :: more) := by
    simp [grouped, Grouping.mark]
  rw [spelled, read_open .plain (x.loose_text (ended_close more).loose) (by simp)]
  refine (x.read_text (d := Draft.openGroup ⟨flags, 0, level, outer⟩ .plain) (n := 0) (c := {})
    sound ordinary (ended_close more)).trans ?_
  rw [bare]
  exact read_close (d := ⟨flags, 0, level, outer⟩) (n := 0) (c := ⟨level.branches, level.items⟩)
    .plain (x.onto ignoreCase 0 {}).2 0 more

namespace Draft

/-- The draft with more groups around it. -/
def around (d : Draft) (below : List Level) : Draft := { d with outer := d.outer ++ below }

variable {d d' : Draft} {flags : Flags} {o o' : Outline}

/-- What a draft takes it also takes with more groups around it. -/
theorem Fits.around_take (h : d.Fits flags o) {lexeme : Lexeme}
    (taken : o.take? lexeme = some o') (took : d.take lexeme = .ok d') (below : List Level) :
    (d.around below).take lexeme = .ok (d'.around below) := by
  cases lexeme with
  | code n | dot | set s | bracket c | anchor a | bar =>
    cases took
    rfl
  | opening opening =>
    cases opening with
    | plain | atomic | ahead negated | capture =>
      cases took
      rfl
    | _ => cases taken
  | close =>
    have nested := h.nested
    obtain ⟨flags', groups, level, outer⟩ := d
    cases outer with
    | nil => cases took
    | cons around outer =>
      have fits := nested.fits
      have closed (outer : List Level) : closeFlags level flags' (around :: outer) =
          (level, flags', around :: outer) := by
        unfold closeFlags
        split
        · rename_i opening
          exact absurd opening (fits.opening.2.2 _)
        · rfl
      rw [Draft.take, Draft.closeGroup, closed] at took
      cases took
      rw [Draft.take, Draft.closeGroup, Draft.around]
      dsimp only [List.cons_append]
      rw [closed]
      rfl
  | quantifier least most greedy possessive =>
    have items : (d.around below).level.items = d.level.items := rfl
    rw [Draft.take, Draft.quantify] at took ⊢
    rw [items]
    split at took
    · cases took
    · cases took
      rfl
  | _ => cases taken

/-- What stands within parentheses is read with the same result whatever is around them. -/
theorem Fits.read_within (h : d.Fits { ignoreCase } o) (within : o.within? text = some o') :
    ∃ d' : Draft, d'.Fits { ignoreCase } o' ∧ d.bottom.Continues d'.bottom ∧
      ∀ below more, (d.around below).read (text ++ ')' :: more) =
        (d'.around below).read (')' :: more) := by
  induction left : text.length using Nat.strongRecOn generalizing d o text with
  | ind n ih =>
    cases text with
    | nil =>
      rw [Outline.within?] at within
      cases within
      exact ⟨d, h, .refl _, fun _ _ => rfl⟩
    | cons c cs =>
      rw [Outline.within?] at within
      split at within
      · cases within
      rename_i lexeme used lexed
      split at within
      case isFalse => cases within
      rename_i le
      split at within
      · cases within
      rename_i next taken
      obtain ⟨d₁, took, fits⟩ := h.take taken
      have steady := Outline.steady_of_take? taken
      have shorter : (cs.drop used).length < n := by
        rw [← left, List.length_cons, List.length_drop]
        omega
      obtain ⟨d', fits', continues, read⟩ := ih _ shorter fits within rfl
      refine ⟨d', fits', (continues_take took).trans continues, fun below more => ?_⟩
      have lexed' : Lexeme.read (d.around below).flags (d.around below).groups c
          (cs ++ ')' :: more) = .ok (lexeme, used) := by
        have same : (d.around below).flags = { ignoreCase } ∧ (d.around below).groups = o.groups :=
          ⟨h.flags_eq, h.groups_eq⟩
        rw [same.1, same.2]
        exact Lexeme.read_ignoreCase ignoreCase (Lexeme.read_append more lexed steady le) steady
      rw [List.cons_append, Draft.read, lexed']
      dsimp only
      rw [h.around_take taken took below]
      dsimp only
      rw [List.drop_append_of_le_length le]
      exact read below more

end Draft

/-- A group that has just been opened, by itself. -/
def Draft.fresh (ignoreCase : Bool) : Draft where
  flags := { ignoreCase }
  level := { opening := .plain, outside := { ignoreCase } }

/-- A text that can be read in a group without a group being captured. -/
theorem exists_stands {filled : Bool} (h : Outline.within? {} text = some ⟨0, filled, []⟩)
    (ignoreCase : Bool) : ∃ a, Stands ignoreCase text a := by
  have begins : (Draft.fresh ignoreCase).Fits { ignoreCase } {} :=
    ⟨rfl, rfl, .root (.of_empty rfl rfl (by simp [Draft.fresh]))⟩
  obtain ⟨⟨flags, groups, level, outer⟩, ⟨flags_eq, groups_eq, nested⟩, continues, read⟩ :=
    begins.read_within h
  cases nested
  dsimp only at flags_eq groups_eq
  subst flags_eq groups_eq
  have outside : level.outside = { ignoreCase } := continues.outside
  have opening : level.opening = .plain := continues.opening
  refine ⟨level.node, fun d more ordinary none => ?_⟩
  obtain ⟨flags, groups, around, outer⟩ := d
  obtain ⟨flags_eq, behind⟩ := ordinary
  dsimp only at flags_eq behind none
  subst flags_eq none
  have opened : Draft.read ⟨{ ignoreCase }, 0, around, outer⟩ (grouped text ++ more) =
      ((Draft.fresh ignoreCase).around (around :: outer)).read (text ++ ')' :: more) := by
    have spelled : grouped text ++ more = '(' :: ['?', ':'] ++ (text ++ ')' :: more) := by
      simp [grouped]
    rw [spelled]
    refine Draft.read_of_take ['?', ':'] (.opening .plain) rfl ?_
    simp only [Draft.take, Draft.openGroup, behind, Draft.around]
    rfl
  have closed : Draft.closeFlags level { ignoreCase } (around :: outer) =
      (level, { ignoreCase }, around :: outer) := by
    rw [Draft.closeFlags, opening]
  rw [opened, read]
  refine Draft.read_of_take [] .close rfl ?_
  simp only [Draft.take, Draft.closeGroup, Draft.around, List.nil_append, closed, outside]
  rfl

namespace Stands

/-- Parsing the group alone gives the expression, unless it is at fault. -/
theorem parse (h : Stands ignoreCase text a) :
    Node.parse ignoreCase (grouped text) =
      match a.fault? 0 with
      | some fault => .error fault
      | none => .ok (a, 0) := by
  have read := h { flags := { ignoreCase } } [] ⟨rfl, rfl⟩ rfl
  rw [List.append_nil, Draft.read.eq_1] at read
  have finish : Draft.finish (Draft.push { flags := { ignoreCase } } a) = .ok a := rfl
  simp only [Node.parse, read, bind, Except.bind, finish]
  rfl

/-- What is found out by parsing the group alone holds of the expression. -/
theorem of_parse (h : Stands ignoreCase text a) {P : Node → Bool}
    (holds : (match Node.parse ignoreCase (grouped text) with
      | .ok (a, _) => P a
      | .error _ => false) = true) : P a = true := by
  rw [h.parse] at holds
  split at holds
  · rename_i parsed
    split at parsed
    · cases parsed
    · cases parsed
      exact holds
  · cases holds

end Stands

/-! ### Alternatives -/

/-- Groups and the bars after them are read as finished alternatives. -/
theorem read_alternatives {texts : List (List Char)} {as : List Node}
    (stand : List.Forall₂ (Stands ignoreCase) texts as) {d : Draft} (more : List Char)
    (ordinary : d.Ordinary ignoreCase) (none : d.groups = 0) (empty : d.level.items = []) :
    d.read (texts.flatMap (fun text => grouped text ++ ['|']) ++ more) =
      Draft.read { d with level := { d.level with
        branches := as.reverse ++ d.level.branches } } more := by
  induction stand generalizing d with
  | nil => rfl
  | @cons text a texts as first _ ih =>
    have spelled : (text :: texts).flatMap (fun text => grouped text ++ ['|']) ++ more =
        grouped text ++ ('|' :: [] ++
          (texts.flatMap (fun text => grouped text ++ ['|']) ++ more)) := by
      simp
    have bar : Draft.read (d.push a) ('|' :: [] ++
        (texts.flatMap (fun text => grouped text ++ ['|']) ++ more)) =
          Draft.read { d with level := { d.level with branches := a :: d.level.branches } }
            (texts.flatMap (fun text => grouped text ++ ['|']) ++ more) := by
      refine Draft.read_of_take [] .bar rfl ?_
      simp only [Draft.take, Draft.push, Level.push, Level.branch, empty]
      rfl
    rw [spelled, first d _ ordinary none, bar]
    refine (ih (d := { d with level := { d.level with branches := a :: d.level.branches } })
      ordinary none empty).trans ?_
    simp

/-- A union begins with the expressions of its first patterns, whatever the others are. -/
theorem parse_alternatives {texts : List (List Char)} {as : List Node}
    (stand : List.Forall₂ (Stands ignoreCase) texts as) {more : List Char} {node : Node}
    {groups : Nat} (h : Node.parse ignoreCase
      (texts.flatMap (fun text => grouped text ++ ['|']) ++ more) = .ok (node, groups)) :
    ∃ others, others ≠ [] ∧ node = Node.alternatives (as ++ others) := by
  obtain ⟨d, read, h⟩ := ok_of_bind h
  obtain ⟨a, finished, h⟩ := ok_of_bind h
  rw [read_alternatives stand more ⟨rfl, rfl⟩ rfl rfl] at read
  have continues := Draft.continues_read read
  obtain ⟨newer, grown⟩ := continues.branches
  obtain ⟨others, nonempty, rfl⟩ := Draft.alternatives_of_finish continues.opening finished
  refine ⟨newer.reverse ++ others, by simp [nonempty], ?_⟩
  have branches : d.bottom.branches.reverse = as ++ newer.reverse := by
    rw [grown]
    simp [Draft.bottom]
  rw [branches, List.append_assoc] at h
  split at h
  · cases h
  · cases h
    rfl

end Tincture.Regex
