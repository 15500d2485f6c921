import Tincture.Proofs.Regex.AsciiText

/-!
Two texts read in tandem.

One text is read without regard to case, and another with regard to it, that spells out the cases of
its letters. As long as pieces of the one that stand for an expression correspond to pieces of the
other that stand for one that is alike, and everything else is the same in both (`Twin`), the two
readings go through the same steps: each lexeme of the one is matched by one of the other
(`Twin.read`), open groups correspond one by one and hold expressions that are alike
(`Draft.Twin`), and in the end both fail with the same fault or give expressions that are alike
(`parse_twin`).
-/

namespace Tincture.Regex

open Node

/-! ### Results -/

/-- Both results are the same fault, or values that are related. -/
inductive Together {α β : Type} (R : α → β → Prop) : Except Fault α → Except Fault β → Prop
  | ok {a : α} {b : β} (h : R a b) : Together R (.ok a) (.ok b)
  | error (fault : Fault) : Together R (.error fault) (.error fault)

namespace Together

variable {α β γ δ : Type} {R : α → β → Prop} {S : γ → δ → Prop} {x : Except Fault α}
  {y : Except Fault β}

theorem bind {f : α → Except Fault γ} {g : β → Except Fault δ} (h : Together R x y)
    (next : ∀ a b, R a b → Together S (f a) (g b)) : Together S (x.bind f) (y.bind g) := by
  cases h with
  | ok h => exact next _ _ h
  | error fault => exact .error fault

end Together

/-! ### Texts -/

/-- Whether the character does not belong to a quantifier before it. -/
def isApart (c : Char) : Bool :=
  !c.isDigit && !(['?', '+', ',', '\x7d'].contains c)

/-- The lexeme with this text, whatever comes behind it. -/
structure Spells (ignoreCase : Bool) (text : List Char) (lexeme : Lexeme) : Prop where
  first : ∃ c tail, text = c :: tail ∧ isApart c = true ∧ ∀ (groups : Nat) (more : List Char),
    Lexeme.read { ignoreCase } groups c (tail ++ more) = .ok (lexeme, tail.length)

/-- What groups are opened with. -/
def Opening.isBasic : Opening → Bool
  | .plain | .atomic | .ahead _ => true
  | _ => false

variable {t : Subject}

/-- Lexemes with which two readings go on in the same way. -/
inductive Lexeme.Twin (t : Subject) : Lexeme → Lexeme → Prop
  | atom {l l' : Lexeme} (atomic : l.isAtomic = true) (atomic' : l'.isAtomic = true)
      (alike : AlikeOn t true false (l.node true) (l'.node false)) : Twin t l l'
  | opening {o : Opening} (basic : o.isBasic = true) : Twin t (.opening o) (.opening o)
  | close : Twin t .close .close
  | bar : Twin t .bar .bar
  | quantifier {least : Nat} {most : Option Nat} (feasible : Feasible least most)
      (greedy possessive : Bool) :
      Twin t (.quantifier least most greedy possessive) (.quantifier least most greedy possessive)

/-- Two texts that are read in tandem: pieces that stand for lexemes which go on in the same way,
and between them characters without case, which are the same in both. -/
inductive Twin (t : Subject) : List Char → List Char → Prop
  | nil : Twin t [] []
  | symbol {c : Char} {more more' : List Char} (plain : c ∉ ['[', '\\', '('])
      (uncased : caseless c.toNat = true) (rest : Twin t more more') :
      Twin t (c :: more) (c :: more')
  | piece {text text' more more' : List Char} {l l' : Lexeme} (spells : Spells true text l)
      (spells' : Spells false text' l') (twin : l.Twin t l') (rest : Twin t more more') :
      Twin t (text ++ more) (text' ++ more')

/-- What is left of two texts once a lexeme of each has been read. -/
def Onward (t : Subject) (cs cs' : List Char) (x y : Lexeme × Nat) : Prop :=
  x.1.Twin t y.1 ∧ Twin t (cs.drop x.2) (cs'.drop y.2)

/-! ### Quantifiers -/

theorem feasible_none (least : Nat) : Feasible least none := by simp [Feasible]

namespace Lexeme

theorem marked_of_isApart {c : Char} (apart : isApart c = true) (least : Nat) (most : Option Nat)
    (used : Nat) (more : List Char) :
    marked least most used (c :: more) = (.quantifier least most true false, used) := by
  unfold marked
  split
  · rename_i eq
    cases eq
    exact absurd apart (by decide)
  · rename_i eq
    cases eq
    exact absurd apart (by decide)
  · rfl

end Lexeme

namespace Twin

variable {more more' : List Char}

/-- The mark after a quantifier is the same in both texts. -/
theorem marked (h : Twin t more more') {least : Nat} {most : Option Nat}
    (feasible : Feasible least most) (front : List Char) :
    Onward t (front ++ more) (front ++ more') (Lexeme.marked least most front.length more)
      (Lexeme.marked least most front.length more') := by
  have alone : Onward t (front ++ more) (front ++ more')
      (.quantifier least most true false, front.length)
      (.quantifier least most true false, front.length) :=
    ⟨.quantifier feasible true false, by simpa using h⟩
  cases h with
  | nil => exact alone
  | @symbol c more more' plain uncased rest =>
    have after : Twin t ((front ++ c :: more).drop (front.length + 1))
        ((front ++ c :: more').drop (front.length + 1)) := by
      rw [List.drop_append, List.drop_append, List.drop_eq_nil_of_le (Nat.le_succ _),
        Nat.add_sub_cancel_left]
      exact rest
    by_cases query : c = '?'
    · subst query
      exact ⟨.quantifier feasible false false, after⟩
    · by_cases plus : c = '+'
      · subst plus
        exact ⟨.quantifier feasible true true, after⟩
      · simpa [Lexeme.marked, query, plus] using alone
  | @piece text text' more more' l l' spells spells' twin rest =>
    obtain ⟨c, tail, rfl, apart, -⟩ := spells.first
    obtain ⟨c', tail', rfl, apart', -⟩ := spells'.first
    rw [List.cons_append, List.cons_append, Lexeme.marked_of_isApart apart,
      Lexeme.marked_of_isApart apart']
    exact alone

/-- The digits that come first are the same in both texts. -/
theorem digits (h : Twin t more more') :
    ∃ ds rest rest', more = ds ++ rest ∧ more' = ds ++ rest' ∧ Twin t rest rest' ∧
      more.takeWhile Char.isDigit = ds ∧ more'.takeWhile Char.isDigit = ds := by
  have alone {c c' : Char} {cs cs' : List Char} (h : Twin t (c :: cs) (c' :: cs'))
      (other : c.isDigit = false) (other' : c'.isDigit = false) :
      ∃ ds rest rest', c :: cs = ds ++ rest ∧ c' :: cs' = ds ++ rest' ∧ Twin t rest rest' ∧
        (c :: cs).takeWhile Char.isDigit = ds ∧ (c' :: cs').takeWhile Char.isDigit = ds :=
    ⟨[], _, _, rfl, rfl, h, List.takeWhile_cons_of_neg (Bool.eq_false_iff.mp other),
      List.takeWhile_cons_of_neg (Bool.eq_false_iff.mp other')⟩
  induction h with
  | nil => exact ⟨[], [], [], rfl, rfl, .nil, rfl, rfl⟩
  | @symbol c more more' plain uncased rest ih =>
    cases digit : c.isDigit with
    | false => exact alone (.symbol plain uncased rest) digit digit
    | true =>
      obtain ⟨ds, left, left', rfl, rfl, twin, own, own'⟩ := ih
      exact ⟨c :: ds, left, left', rfl, rfl, twin, by simp [digit, own], by simp [digit, own']⟩
  | @piece text text' more more' l l' spells spells' twin rest ih =>
    have h := Twin.piece spells spells' twin rest
    obtain ⟨c, tail, rfl, apart, -⟩ := spells.first
    obtain ⟨c', tail', rfl, apart', -⟩ := spells'.first
    simp only [isApart, Bool.and_eq_true, Bool.not_eq_true'] at apart apart'
    exact alone h apart.1 apart'.1

/-- Which of the signs a reader of bounds looks for comes first. -/
theorem sign (h : Twin t more more') {c : Char} (sign : c = ',' ∨ c = '\x7d') :
    (∃ rest rest', more = c :: rest ∧ more' = c :: rest' ∧ Twin t rest rest') ∨
      (more.head? ≠ some c ∧ more'.head? ≠ some c) := by
  cases h with
  | nil => exact .inr ⟨by simp, by simp⟩
  | @symbol d more more' plain uncased rest =>
    by_cases same : d = c
    · subst same
      exact .inl ⟨more, more', rfl, rfl, rest⟩
    · exact .inr ⟨by simpa using same, by simpa using same⟩
  | @piece text text' more more' l l' spells spells' twin rest =>
    obtain ⟨d, tail, rfl, apart, -⟩ := spells.first
    obtain ⟨d', tail', rfl, apart', -⟩ := spells'.first
    have ne {d : Char} (apart : isApart d = true) : d ≠ c := by
      rintro rfl
      rcases sign with rfl | rfl
      · exact absurd apart (by decide)
      · exact absurd apart (by decide)
    exact .inr ⟨by simpa using ne apart, by simpa using ne apart'⟩

/-- What an opening brace is, is the same in both texts. -/
theorem interval (ascii : t.Ascii) (h : Twin t more more') :
    Together (Onward t more more') (Lexeme.interval more) (Lexeme.interval more') := by
  have itself : Together (Onward t more more') (.ok (.code 123, 0)) (.ok (.code 123, 0)) :=
    .ok ⟨.atom rfl rfl (alike_of_caseless ascii (by decide)), h⟩
  obtain ⟨ds, rest, rest', rfl, rfl, twin, own, own'⟩ := h.digits
  simp only [Lexeme.interval, own, own', List.drop_left]
  by_cases big : Lexeme.greatestBound < numeral 10 ds
  · rw [if_pos big, if_pos big]
    exact .error _
  rw [if_neg big, if_neg big]
  by_cases empty : ds.isEmpty = true
  · rw [if_pos empty, if_pos empty]
    exact itself
  rw [if_neg empty, if_neg empty]
  rcases twin.sign (.inl rfl) with ⟨more, more', rfl, rfl, after⟩ | ⟨no_comma, no_comma'⟩
  · obtain ⟨es, rest, rest', rfl, rfl, after, own, own'⟩ := after.digits
    simp only [own, own', List.drop_left]
    by_cases bigger : Lexeme.greatestBound < numeral 10 es
    · rw [if_pos bigger, if_pos bigger]
      exact .error _
    rw [if_neg bigger, if_neg bigger]
    rcases after.sign (.inr rfl) with ⟨more, more', rfl, rfl, further⟩ | ⟨no_brace, no_brace'⟩
    · have quantifier {least : Nat} {most : Option Nat} (feasible : Feasible least most) :
          Onward t (ds ++ ',' :: (es ++ '\x7d' :: more)) (ds ++ ',' :: (es ++ '\x7d' :: more'))
            (Lexeme.marked least most (ds.length + es.length + 2) more)
            (Lexeme.marked least most (ds.length + es.length + 2) more') := by
        have marked := further.marked feasible (ds ++ ',' :: (es ++ ['\x7d']))
        have length : (ds ++ ',' :: (es ++ ['\x7d'])).length = ds.length + es.length + 2 := by
          simp
          omega
        rw [length] at marked
        simpa using marked
      by_cases none : es.isEmpty = true
      · simp only [none, if_true]
        exact .ok (quantifier (feasible_none _))
      by_cases reversed : numeral 10 es < numeral 10 ds
      · simp only [none, reversed, Bool.false_eq_true, if_true, if_false]
        exact .error _
      simp only [none, reversed, Bool.false_eq_true, if_false]
      refine .ok (quantifier ?_)
      rintro _ ⟨⟩
      exact Nat.le_of_not_lt reversed
    · split
      · exact absurd rfl no_brace
      · split
        · exact absurd rfl no_brace'
        · exact itself
  · rcases twin.sign (.inr rfl) with ⟨more, more', rfl, rfl, further⟩ | ⟨no_brace, no_brace'⟩
    · have exactly : Feasible (numeral 10 ds) (some (numeral 10 ds)) := by
        rintro _ ⟨⟩
        exact Nat.le_refl _
      have marked := further.marked exactly (ds ++ ['\x7d'])
      rw [List.length_append, List.length_singleton] at marked
      exact .ok (by simpa using marked)
    · split
      · exact absurd rfl no_comma
      · exact absurd rfl no_brace
      · split
        · exact absurd rfl no_comma'
        · exact absurd rfl no_brace'
        · exact itself

/-! ### Lexemes -/

/-- Both texts have come to an end, or neither has. -/
theorem nil_or_cons (h : Twin t more more') :
    (more = [] ∧ more' = []) ∨ ∃ c cs c' cs', more = c :: cs ∧ more' = c' :: cs' := by
  cases h with
  | nil => exact .inl ⟨rfl, rfl⟩
  | symbol => exact .inr ⟨_, _, _, _, rfl, rfl⟩
  | piece spells spells' =>
    obtain ⟨c, tail, rfl, -⟩ := spells.first
    obtain ⟨c', tail', rfl, -⟩ := spells'.first
    exact .inr ⟨_, _, _, _, rfl, rfl⟩

/-- The first lexemes of both texts go on in the same way. -/
theorem read (ascii : t.Ascii) {c c' : Char} {cs cs' : List Char}
    (h : Twin t (c :: cs) (c' :: cs')) (groups groups' : Nat) :
    Together (Onward t cs cs') (Lexeme.read { ignoreCase := true } groups c cs)
      (Lexeme.read {} groups' c' cs') := by
  generalize eq : c :: cs = text at h
  generalize eq' : c' :: cs' = text' at h
  cases h with
  | nil => cases eq
  | @symbol d more more' plain uncased rest =>
    cases eq
    cases eq'
    have here {l l' : Lexeme} (twin : l.Twin t l') :
        Together (Onward t cs cs') (.ok (l, 0)) (.ok (l', 0)) := .ok ⟨twin, rest⟩
    have sign {least : Nat} {most : Option Nat} (feasible : Feasible least most) :=
      rest.marked feasible []
    simp only [List.mem_cons, List.not_mem_nil, or_false, not_or] at plain
    unfold Lexeme.read
    split
    · exact absurd rfl plain.2.1
    · exact absurd rfl plain.1
    · exact absurd rfl plain.2.2
    · exact here .close
    · exact here .bar
    · exact here (.atom rfl rfl ⟨trivial, trivial, .of_eq rfl⟩)
    · exact here (.atom rfl rfl ⟨trivial, trivial, .of_eq rfl⟩)
    · exact here (.atom rfl rfl ⟨trivial, trivial, .of_eq rfl⟩)
    · exact .ok (sign (feasible_none _))
    · exact .ok (sign (feasible_none _))
    · refine .ok (sign ?_)
      rintro _ ⟨⟩
      exact Nat.zero_le 1
    · exact rest.interval ascii
    · exact here (.atom rfl rfl (alike_of_caseless ascii uncased))
  | @piece text text' more more' l l' spells spells' twin rest =>
    obtain ⟨d, tail, rfl, -, read⟩ := spells.first
    obtain ⟨d', tail', rfl, -, read'⟩ := spells'.first
    obtain ⟨rfl, rfl⟩ : c = d ∧ cs = tail ++ more := by simpa using eq
    obtain ⟨rfl, rfl⟩ : c' = d' ∧ cs' = tail' ++ more' := by simpa using eq'
    rw [read, read' groups' more']
    exact .ok ⟨twin, by simpa using rest⟩

end Twin

/-! ### Drafts -/

/-- Groups that are open in both readings and hold expressions that are alike. -/
structure Level.Twin (t : Subject) (l l' : Level) : Prop where
  opening : l'.opening = l.opening
  basic : l.opening.isBasic = true
  behind : l.inBehind = false
  behind' : l'.inBehind = false
  branches : List.Forall₂ (AlikeOn t true false) l.branches l'.branches
  items : List.Forall₂ (AlikeOn t true false) l.items l'.items

namespace Level.Twin

variable {l l' : Level} {a b : Node}

theorem push (h : l.Twin t l') (alike : AlikeOn t true false a b) :
    (l.push a).Twin t (l'.push b) :=
  { h with items := .cons alike h.items }

theorem branch (ascii : t.Ascii) (h : l.Twin t l') : l.branch.Twin t l'.branch :=
  { h with
    branches := .cons (.sequence (joins_folded ascii.single) (joins_literal t)
      (List.forall₂_reverse_iff.mpr h.items)) h.branches
    items := .nil }

theorem node (ascii : t.Ascii) (h : l.Twin t l') : AlikeOn t true false l.node l'.node := by
  have body := AlikeOn.alternatives (List.forall₂_reverse_iff.mpr (h.branch ascii).branches)
  have basic := h.basic
  unfold Level.node
  rw [h.opening]
  cases opening : l.opening with
  | plain => exact body
  | atomic => exact body.atomic
  | ahead negated => exact body.ahead negated
  | _ =>
    rw [opening] at basic
    cases basic

end Level.Twin

/-- Every open group but the outermost was opened under the flags. -/
def Restores (flags : Flags) : Level → List Level → Prop
  | _, [] => True
  | l, around :: outer => l.outside = flags ∧ Restores flags around outer

/-- Two readings that have gone the same way. -/
structure Draft.Twin (t : Subject) (d d' : Draft) : Prop where
  flags : d.flags = { ignoreCase := true }
  flags' : d'.flags = {}
  level : d.level.Twin t d'.level
  outer : List.Forall₂ (Level.Twin t) d.outer d'.outer
  restores : Restores { ignoreCase := true } d.level d.outer
  restores' : Restores {} d'.level d'.outer

namespace Draft

variable {d d' : Draft} {a b : Node}

theorem restores_congr {flags : Flags} {l l' : Level} {outer : List Level}
    (same : l'.outside = l.outside) (h : Restores flags l outer) : Restores flags l' outer := by
  cases outer with
  | nil => trivial
  | cons around outer => exact ⟨same.trans h.1, h.2⟩

theorem closeFlags_of_isBasic {l : Level} (basic : l.opening.isBasic = true) (flags : Flags)
    (outer : List Level) : closeFlags l flags outer = (l, flags, outer) := by
  cases outer with
  | nil => rfl
  | cons around outer =>
    rw [closeFlags]
    split
    · rename_i eq
      rw [eq] at basic
      cases basic
    · rfl

namespace Twin

theorem ordinary (h : d.Twin t d') : d.Ordinary true := ⟨h.flags, h.level.behind⟩

theorem ordinary' (h : d.Twin t d') : d'.Ordinary false := ⟨h.flags', h.level.behind'⟩

/-- The innermost groups may be changed as long as they restore the same flags. -/
theorem change (h : d.Twin t d') {l l' : Level} (level : l.Twin t l')
    (same : l.outside = d.level.outside) (same' : l'.outside = d'.level.outside) :
    Draft.Twin t { d with level := l } { d' with level := l' } :=
  ⟨h.flags, h.flags', level, h.outer, restores_congr same h.restores,
    restores_congr same' h.restores'⟩

theorem push (h : d.Twin t d') (alike : AlikeOn t true false a b) :
    (d.push a).Twin t (d'.push b) := h.change (h.level.push alike) rfl rfl

theorem openGroup (h : d.Twin t d') {o : Opening} (basic : o.isBasic = true) :
    (d.openGroup o).Twin t (d'.openGroup o) := by
  have behind := h.level.behind
  have behind' := h.level.behind'
  cases o
  case plain | atomic | ahead =>
    exact
      { flags := h.flags
        flags' := h.flags'
        level := ⟨rfl, rfl, behind, behind', .nil, .nil⟩
        outer := .cons h.level h.outer
        restores := ⟨h.flags, h.restores⟩
        restores' := ⟨h.flags', h.restores'⟩ }
  all_goals cases basic

theorem closeGroup (ascii : t.Ascii) (h : d.Twin t d') :
    Together (Draft.Twin t) d.closeGroup d'.closeGroup := by
  have basic' : d'.level.opening.isBasic = true := by rw [h.level.opening, h.level.basic]
  rw [Draft.closeGroup, Draft.closeGroup, closeFlags_of_isBasic h.level.basic,
    closeFlags_of_isBasic basic']
  obtain ⟨flags, groups, level, outer⟩ := d
  obtain ⟨flags', groups', level', outer'⟩ := d'
  obtain ⟨-, -, twin, twins, restores, restores'⟩ := h
  dsimp only at twin twins restores restores' ⊢
  cases twins with
  | nil => exact .error _
  | cons around others =>
    rename_i l l' outer outer'
    have around : Draft.Twin t { flags := level.outside, groups, level := l, outer }
        { flags := level'.outside, groups := groups', level := l', outer := outer' } :=
      ⟨restores.1, restores'.1, around, others, restores.2, restores'.2⟩
    exact .ok (around.push (twin.node ascii))

theorem quantify (h : d.Twin t d') {least : Nat} {most : Option Nat}
    (feasible : Feasible least most) (greedy possessive : Bool) :
    Together (Draft.Twin t) (d.quantify least most greedy possessive)
      (d'.quantify least most greedy possessive) := by
  unfold Draft.quantify
  have items := h.level.items
  generalize eq : d.level.items = as at items
  generalize eq' : d'.level.items = bs at items
  cases items with
  | nil => exact .error _
  | cons first others =>
    refine .ok (h.change ?_ rfl rfl)
    exact { h.level with items := .cons (first.quantified feasible greedy possessive) others }

/-- Taking lexemes that go on in the same way. -/
theorem take (ascii : t.Ascii) (h : d.Twin t d') {l l' : Lexeme} (twin : l.Twin t l') :
    Together (Draft.Twin t) (d.take l) (d'.take l') := by
  cases twin with
  | atom atomic atomic' alike =>
    rw [take_of_isAtomic h.ordinary atomic, take_of_isAtomic h.ordinary' atomic']
    exact .ok (h.push alike)
  | @opening o basic =>
    have opened := Together.ok (h.openGroup basic)
    cases o
    case plain | atomic | ahead => exact opened
    all_goals cases basic
  | close => exact h.closeGroup ascii
  | bar => exact .ok (h.change (h.level.branch ascii) rfl rfl)
  | quantifier feasible greedy possessive => exact h.quantify feasible greedy possessive

/-- Reading texts that are read in tandem. -/
theorem read (ascii : t.Ascii) {cs cs' : List Char} (text : Regex.Twin t cs cs')
    (h : d.Twin t d') : Together (Draft.Twin t) (d.read cs) (d'.read cs') := by
  induction length : cs.length using Nat.strong_induction_on generalizing cs cs' d d' with
  | _ n ih =>
    rcases text.nil_or_cons with ⟨rfl, rfl⟩ | ⟨c, more, c', more', rfl, rfl⟩
    · rw [Draft.read, Draft.read]
      exact .ok h
    · have first := text.read ascii d.groups d'.groups
      rw [Draft.read, Draft.read, h.flags, h.flags']
      generalize Lexeme.read { ignoreCase := true } d.groups c more = x at first
      generalize Lexeme.read {} d'.groups c' more' = y at first
      cases first with
      | error fault => exact .error fault
      | @ok x y onward =>
        obtain ⟨twin, rest⟩ := onward
        have next := h.take ascii twin
        dsimp only
        generalize d.take x.1 = u at next
        generalize d'.take y.1 = v at next
        cases next with
        | error fault => exact .error fault
        | ok next =>
          refine ih _ ?_ rest next rfl
          rw [← length, List.length_drop, List.length_cons]
          omega

theorem finish (ascii : t.Ascii) (h : d.Twin t d') :
    Together (AlikeOn t true false) d.finish d'.finish := by
  have basic' : d'.level.opening.isBasic = true := by rw [h.level.opening, h.level.basic]
  rw [Draft.finish, Draft.finish, closeFlags_of_isBasic h.level.basic,
    closeFlags_of_isBasic basic']
  have outer := h.outer
  generalize d.outer = as at outer
  generalize d'.outer = bs at outer
  cases outer with
  | nil => exact .ok (h.level.node ascii)
  | cons around others => exact .error _

end Twin

end Draft

/-- Texts that are read in tandem are parsed as expressions that are alike, or not at all. -/
theorem parse_twin (ascii : t.Ascii) {cs cs' : List Char} (text : Twin t cs cs') :
    Together (fun x y : Node × Nat => AlikeOn t true false x.1 y.1) (Node.parse true cs)
      (Node.parse false cs') := by
  have start : Draft.Twin t { flags := { ignoreCase := true } } { flags := {} } :=
    ⟨rfl, rfl, ⟨rfl, rfl, rfl, rfl, .nil, .nil⟩, .nil, trivial, trivial⟩
  refine (start.read ascii text).bind fun d d' twin => (twin.finish ascii).bind fun a b alike => ?_
  rw [alike.plain.fault?, alike.plain'.fault?]
  exact .ok alike

end Tincture.Regex
