import Tincture.Proofs.Regex.ClassBody
import Tincture.Regex.Parser

/-!
Atoms and quantifiers.

Regular expressions mostly keep to a small part of what there is: characters, escapes of one
letter, bracket classes that do not nest, and quantifiers, which may be lazy. `Atom` and
`Quantifier` are these, as trees; they are written so that what follows does not matter for how they
are read (`Atom.exists_text`, `Quantifier.exists_text`), but for a sign after a quantifier. An
opening brace that stands for itself is no atom, since what follows decides about it
(`beginsBounds`).

A bracket class may still have ranges in the wrong order, and a quantifier bounds that are too
large; then nothing that begins so can be read.
-/

namespace Tincture.Regex

/-! ### Escapes -/

/-- Whether an escape with this letter takes no characters along: neither a digit nor a letter that
numbers, control characters, properties or quotations begin with. -/
def isSimple (c : Char) : Bool :=
  !c.isDigit && !(['c', 'p', 'P', 'Q', 'u', 'x'].contains c)

theorem not_digit_of_isSimple {c : Char} (simple : isSimple c = true) : c.isDigit = false := by
  simp only [isSimple, Bool.and_eq_true, Bool.not_eq_true'] at simple
  exact simple.1

theorem ne_of_isSimple {c d : Char} (simple : isSimple c = true) (complex : isSimple d = false) :
    c ≠ d := by
  rintro rfl
  rw [simple] at complex
  cases complex

/-- The code point such an escape stands for, unless it is a class or a condition. -/
def escapedCode (c : Char) : Nat := (Escape.control? c).getD c.toNat

theorem Escape.read_of_isSimple {c : Char} (simple : isSimple c = true) (rest : List Char) :
    Escape.read c rest = .ok (.code (escapedCode c), 0) := by
  have x := ne_of_isSimple simple (d := 'x') rfl
  have u := ne_of_isSimple simple (d := 'u') rfl
  have c := ne_of_isSimple simple (d := 'c') rfl
  simp [Escape.read, escapedCode, x, u, c]

theorem Bracket.not_isDigitIn_of_isSimple {c : Char} (simple : isSimple c = true) :
    isDigitIn 8 c = false := by
  have noDigit := not_digit_of_isSimple simple
  simp only [Char.isDigit, Bool.and_eq_false_iff, decide_eq_false_iff_not] at noDigit
  have outside : ¬ (48 ≤ c.toNat ∧ c.toNat ≤ 57) := by
    rintro ⟨low, high⟩
    rcases noDigit with h | h
    · exact h low
    · exact h high
  unfold isDigitIn digitValue?
  simp only [if_neg outside]
  split
  · rw [Option.filter_some, if_neg (by simp; omega)]
    rfl
  · split
    · rw [Option.filter_some, if_neg (by simp; omega)]
      rfl
    · rfl

/-! ### Atoms -/

/-- Whether a character has, or may have, a meaning of its own outside brackets, other than that of
the dot and the dollar. -/
def isSyntax (c : Char) : Bool :=
  ['\\', '[', '(', ')', '|', '^', '*', '+', '?', '\x7b'].contains c

/-- The smallest parts of an expression. -/
inductive Atom where
  /-- A character that stands for itself, the dot or the dollar. -/
  | symbol (c : Char) (bare : isSyntax c = false)
  | escape (c : Char) (simple : isSimple c = true)
  | bracket (body : List Char) (inside : ClassBody body) (filled : body ≠ [] ∧ body ≠ ['^'])

/-- Whether a lexeme stands for an expression by itself. -/
def Lexeme.isAtomic : Lexeme → Bool
  | .code _ | .dot | .set _ | .bracket _ | .anchor _ => true
  | _ => false

/-- The expression a lexeme stands for by itself. -/
def Lexeme.node (ignoreCase : Bool) : Lexeme → Node
  | .code n => ({ flags := { ignoreCase } } : Draft).literal n
  | .dot => .one Class.notNewline
  | .set s => .one s
  | .bracket c => ({ flags := { ignoreCase } } : Draft).classNode c
  | .anchor a => .anchor a
  | _ => .empty

namespace Atom

/-- The text of an atom. -/
def text : Atom → List Char
  | .symbol c _ => [c]
  | .escape c _ => ['\\', c]
  | .bracket body _ _ => '[' :: body ++ [']']

/-- What an atom is, unless its ranges are in the wrong order. -/
def lexeme : Atom → Except Fault Lexeme
  | .symbol c _ =>
    .ok (if c = '.' then .dot else if c = '$' then .anchor .finishOrNewline else .code c.toNat)
  | .escape c _ =>
    .ok (match Class.ofLetter? c, Lexeme.anchor? c with
      | some s, _ => .set s
      | none, some a => .anchor a
      | none, none => .code (escapedCode c))
  | .bracket body _ _ => (ClassText.read (body ++ [']'])).map fun result => .bracket result.1

/-- The atom can be read. -/
def Sound (a : Atom) : Prop := ∃ lexeme, a.lexeme = .ok lexeme

theorem isAtomic_of_lexeme {a : Atom} {lexeme : Lexeme} (h : a.lexeme = .ok lexeme) :
    lexeme.isAtomic = true := by
  cases a with
  | symbol c bare =>
    cases h
    split
    · rfl
    · split <;> rfl
  | escape c simple =>
    cases h
    split <;> rfl
  | bracket body inside filled =>
    obtain ⟨result, -, rfl⟩ := ok_of_map h
    rfl

/-- The expression an atom stands for. -/
def node (ignoreCase : Bool) (a : Atom) : Node :=
  match a.lexeme with
  | .ok lexeme => lexeme.node ignoreCase
  | .error _ => .empty

/-- The first character of an atom, and the others: they are read as its lexeme, or not at all. -/
theorem exists_text (a : Atom) :
    ∃ c tail, a.text = c :: tail ∧ (c ≠ '?' ∧ c ≠ '+' ∧ c ≠ '^') ∧
      ∀ (ignoreCase : Bool) (groups : Nat) (more : List Char) (result : Lexeme × Nat),
        Lexeme.read { ignoreCase } groups c (tail ++ more) = .ok result ↔
          a.lexeme = .ok result.1 ∧ result.2 = tail.length := by
  cases a with
  | symbol c bare =>
    have ne (d : Char) (meant : isSyntax d = true) : c ≠ d := by
      rintro rfl
      rw [bare] at meant
      cases meant
    refine ⟨c, [], rfl, ⟨ne '?' rfl, ne '+' rfl, ne '^' rfl⟩,
      fun ignoreCase groups more result => ?_⟩
    have read : Lexeme.read { ignoreCase } groups c more =
        (Atom.symbol c bare).lexeme.map (·, 0) := by
      rw [lexeme]
      unfold Lexeme.read
      split
      case h_6 => rfl
      case h_8 => rfl
      case h_13 =>
        rename_i dot _ dollar _ _ _ _
        rw [if_neg dot, if_neg dollar]
        rfl
      all_goals exact absurd bare (by decide)
    rw [List.nil_append, read, map_pair_eq_ok_iff, List.length_nil]
  | escape c simple =>
    have q := ne_of_isSimple simple (d := 'Q') rfl
    have p := ne_of_isSimple simple (d := 'p') rfl
    have capitalP := ne_of_isSimple simple (d := 'P') rfl
    refine ⟨'\\', [c], rfl, by decide, fun ignoreCase groups more result => ?_⟩
    have read : Lexeme.read { ignoreCase } groups '\\' (c :: more) =
        (Atom.escape c simple).lexeme.map (·, 1) := by
      simp only [Lexeme.read, Lexeme.escape, lexeme, not_digit_of_isSimple simple,
        beq_eq_false_iff_ne.mpr q, beq_eq_false_iff_ne.mpr p, beq_eq_false_iff_ne.mpr capitalP,
        Escape.read_of_isSimple simple, Lexeme.ofEscaped]
      cases Class.ofLetter? c with
      | some s => rfl
      | none =>
        cases Lexeme.anchor? c with
        | some a => rfl
        | none => rfl
    rw [List.singleton_append, read, map_pair_eq_ok_iff, List.length_singleton]
  | bracket body inside filled =>
    refine ⟨'[', body ++ [']'], rfl, by decide, fun ignoreCase groups more result => ?_⟩
    rw [List.append_assoc, List.singleton_append, List.length_append, List.length_singleton]
    constructor
    · intro read
      obtain ⟨⟨t, used⟩, closed, rfl⟩ := ok_of_map read
      obtain ⟨rfl, always⟩ := ClassText.read_body inside filled closed
      exact ⟨congrArg (Except.map _) (always []), rfl⟩
    · rintro ⟨lexed, length⟩
      obtain ⟨⟨t, used⟩, closed, own⟩ := ok_of_map lexed
      obtain ⟨-, always⟩ := ClassText.read_body inside filled closed
      refine (congrArg (Except.map _) (always more)).trans ?_
      exact congrArg Except.ok (Prod.ext own length.symm)

end Atom

/-! ### Quantifiers -/

/-- The text that is left begins neither with a sign that would change a quantifier before it nor
with a caret. -/
def Loose (more : List Char) : Prop :=
  more.head? ≠ some '?' ∧ more.head? ≠ some '+' ∧ more.head? ≠ some '^'

/-- A number in a quantifier. -/
structure Bound where
  digits : List Char
  filled : digits ≠ []
  decimal : ∀ d ∈ digits, d.isDigit = true

/-- How often a part is repeated. -/
inductive Count where
  | star
  | plus
  | query
  | exactly (bound : Bound)
  | atLeast (least : Bound)
  | between (least most : Bound)

/-- A quantifier. -/
structure Quantifier where
  count : Count
  isLazy : Bool := false

namespace Bound

/-- The number, unless it is too big. -/
def value (b : Bound) : Except Fault Nat :=
  if Lexeme.greatestBound < numeral 10 b.digits then .error .bigRepeat
  else .ok (numeral 10 b.digits)

theorem takeWhile_digits (b : Bound) {c : Char} (stops : c.isDigit = false) (more : List Char) :
    (b.digits ++ c :: more).takeWhile Char.isDigit = b.digits := by
  rw [takeWhile_append_cons b.digits more (Bool.eq_false_iff.mp stops)]
  exact List.takeWhile_eq_self_iff.mpr b.decimal

theorem isEmpty_digits (b : Bound) : b.digits.isEmpty = false :=
  List.isEmpty_eq_false_iff.mpr b.filled

end Bound

namespace Count

/-- The text of a count. -/
def text : Count → List Char
  | .star => ['*']
  | .plus => ['+']
  | .query => ['?']
  | .exactly n => '\x7b' :: n.digits ++ ['\x7d']
  | .atLeast n => '\x7b' :: n.digits ++ [',', '\x7d']
  | .between n m => '\x7b' :: n.digits ++ ',' :: m.digits ++ ['\x7d']

/-- The bounds a count stands for, unless they are too big or in the wrong order. -/
def bounds : Count → Except Fault (Nat × Option Nat)
  | .star => .ok (0, none)
  | .plus => .ok (1, none)
  | .query => .ok (0, some 1)
  | .exactly n => n.value.map fun n => (n, some n)
  | .atLeast n => n.value.map (·, none)
  | .between n m => n.value.bind fun n => m.value.bind fun m =>
    if m < n then .error .reversedBounds else .ok (n, some m)

theorem feasible {c : Count} {least : Nat} {most : Option Nat}
    (h : c.bounds = .ok (least, most)) : ∀ m ∈ most, least ≤ m := by
  cases c with
  | star | plus | query =>
    cases h
    simp
  | exactly n =>
    obtain ⟨value, -, eq⟩ := ok_of_map h
    cases eq
    simp
  | atLeast n =>
    obtain ⟨value, -, eq⟩ := ok_of_map h
    cases eq
    simp
  | between n m =>
    simp only [bounds] at h
    obtain ⟨low, -, h⟩ := ok_of_bind h
    obtain ⟨high, -, h⟩ := ok_of_bind h
    split at h
    · cases h
    · cases h
      rintro _ ⟨⟩
      omega

end Count

/-- What makes a quantifier a lazy one. -/
def lazyMark (isLazy : Bool) : List Char := if isLazy then ['?'] else []

theorem marked_lazyMark (least : Nat) (most : Option Nat) (used : Nat) (isLazy : Bool)
    {more : List Char} (loose : Loose more) :
    Lexeme.marked least most used (lazyMark isLazy ++ more) =
      (.quantifier least most (!isLazy) false, used + (lazyMark isLazy).length) := by
  cases isLazy with
  | true => rfl
  | false =>
    cases more with
    | nil => rfl
    | cons c more =>
      have query : c ≠ '?' := fun eq => loose.1 (congrArg some eq)
      have plus : c ≠ '+' := fun eq => loose.2.1 (congrArg some eq)
      simp [lazyMark, Lexeme.marked, query, plus]

namespace Quantifier

/-- The text of a quantifier. -/
def text (q : Quantifier) : List Char := q.count.text ++ lazyMark q.isLazy

/-- The first character of a quantifier, and the others. -/
theorem exists_text (q : Quantifier) :
    ∃ c tail, q.text = c :: tail ∧ ∀ (ignoreCase : Bool) (groups : Nat) (more : List Char),
      Loose more → Lexeme.read { ignoreCase } groups c (tail ++ more) =
        q.count.bounds.map fun bounds =>
          (.quantifier bounds.1 bounds.2 (!q.isLazy) false, tail.length) := by
  obtain ⟨count, isLazy⟩ := q
  cases count with
  | star =>
    refine ⟨'*', lazyMark isLazy, rfl, fun ignoreCase groups more loose => ?_⟩
    simp [Lexeme.read, marked_lazyMark _ _ _ _ loose, Count.bounds, Except.map]
  | plus =>
    refine ⟨'+', lazyMark isLazy, rfl, fun ignoreCase groups more loose => ?_⟩
    simp [Lexeme.read, marked_lazyMark _ _ _ _ loose, Count.bounds, Except.map]
  | query =>
    refine ⟨'?', lazyMark isLazy, rfl, fun ignoreCase groups more loose => ?_⟩
    simp [Lexeme.read, marked_lazyMark _ _ _ _ loose, Count.bounds, Except.map]
  | exactly n =>
    refine ⟨'\x7b', n.digits ++ '\x7d' :: lazyMark isLazy, by simp [text, Count.text],
      fun ignoreCase groups more loose => ?_⟩
    simp only [Lexeme.read, Lexeme.interval, List.append_assoc, List.cons_append,
      n.takeWhile_digits (c := '\x7d') rfl, n.isEmpty_digits, List.drop_left,
      marked_lazyMark _ _ _ _ loose, Count.bounds, Bound.value]
    by_cases big : Lexeme.greatestBound < numeral 10 n.digits
    · rw [if_pos big, if_pos big]
      rfl
    · simp only [if_neg big, Bool.false_eq_true, if_false, Except.map, List.length_append,
        List.length_cons, Except.ok.injEq, Prod.mk.injEq, true_and]
      omega
  | atLeast n =>
    refine ⟨'\x7b', n.digits ++ ',' :: '\x7d' :: lazyMark isLazy, by simp [text, Count.text],
      fun ignoreCase groups more loose => ?_⟩
    have none : List.takeWhile Char.isDigit ('\x7d' :: (lazyMark isLazy ++ more)) = [] := rfl
    have small : ¬ Lexeme.greatestBound < numeral 10 [] := by decide
    simp only [Lexeme.read, Lexeme.interval, List.append_assoc, List.cons_append,
      n.takeWhile_digits (c := ',') rfl, n.isEmpty_digits, List.drop_left, none, List.length_nil,
      List.drop_zero, if_neg small, List.isEmpty_nil, marked_lazyMark _ _ _ _ loose, Count.bounds,
      Bound.value]
    by_cases big : Lexeme.greatestBound < numeral 10 n.digits
    · rw [if_pos big, if_pos big]
      rfl
    · simp only [if_neg big, Bool.false_eq_true, if_false, if_true, Except.map, List.length_append,
        List.length_cons, Except.ok.injEq, Prod.mk.injEq, true_and]
      omega
  | between n m =>
    refine ⟨'\x7b', n.digits ++ ',' :: (m.digits ++ '\x7d' :: lazyMark isLazy),
      by simp [text, Count.text], fun ignoreCase groups more loose => ?_⟩
    simp only [Lexeme.read, Lexeme.interval, List.append_assoc, List.cons_append,
      n.takeWhile_digits (c := ',') rfl, m.takeWhile_digits (c := '\x7d') rfl, n.isEmpty_digits,
      m.isEmpty_digits, List.drop_left, marked_lazyMark _ _ _ _ loose, Count.bounds, Bound.value]
    by_cases big : Lexeme.greatestBound < numeral 10 n.digits
    · rw [if_pos big, if_pos big]
      rfl
    rw [if_neg big, if_neg big]
    by_cases bigger : Lexeme.greatestBound < numeral 10 m.digits
    · simp [if_pos bigger, Except.map, Except.bind]
    by_cases reversed : numeral 10 m.digits < numeral 10 n.digits
    · simp [if_neg bigger, if_pos reversed, Except.map, Except.bind]
    · simp only [if_neg bigger, if_neg reversed, Bool.false_eq_true, if_false, Except.map,
        Except.bind, List.length_append, List.length_cons, Except.ok.injEq, Prod.mk.injEq, true_and]
      omega

end Quantifier

/-! ### Braces -/

/-- Whether the text begins with the bounds of a quantifier and the closing brace. An opening brace
before it stands for itself if it does not. -/
def beginsBounds (text : List Char) : Bool :=
  !(text.takeWhile Char.isDigit).isEmpty &&
    match text.dropWhile Char.isDigit with
    | '\x7d' :: _ => true
    | ',' :: rest => (rest.dropWhile Char.isDigit).head? == some '\x7d'
    | _ => false

/-- The text that is left is at an end, or begins with a parenthesis or a bar. -/
def Ended (more : List Char) : Prop := ∀ c ∈ more.head?, c = '(' ∨ c = ')' ∨ c = '|'

namespace Ended

variable {more : List Char}

theorem nil : Ended [] := nofun

theorem loose (ended : Ended more) : Loose more := by
  refine ⟨?_, ?_, ?_⟩
  all_goals
    intro first
    rcases ended _ first with eq | eq | eq <;> cases eq

theorem ne {c : Char} {rest : List Char} (ended : Ended (c :: rest)) :
    c.isDigit = false ∧ c ≠ ',' ∧ c ≠ '\x7d' := by
  rcases ended c rfl with rfl | rfl | rfl <;> decide

/-- Digits do not go on beyond the end. -/
theorem digits (ended : Ended more) (text : List Char) :
    (text ++ more).takeWhile Char.isDigit = text.takeWhile Char.isDigit ∧
      (text ++ more).dropWhile Char.isDigit = text.dropWhile Char.isDigit ++ more := by
  have taken : (text ++ more).takeWhile Char.isDigit = text.takeWhile Char.isDigit := by
    cases more with
    | nil => rw [List.append_nil]
    | cons c rest => exact takeWhile_append_cons text rest (Bool.eq_false_iff.mp ended.ne.1)
  refine ⟨taken, ?_⟩
  have whole := List.takeWhile_append_dropWhile (p := Char.isDigit) (l := text ++ more)
  rw [taken] at whole
  have parts := List.takeWhile_append_dropWhile (p := Char.isDigit) (l := text)
  conv_rhs at whole => rw [← parts, List.append_assoc]
  exact List.append_cancel_left whole

/-- What comes after the end does not make a text begin with bounds. -/
theorem beginsBounds_append (ended : Ended more) (text : List Char) :
    beginsBounds (text ++ more) = beginsBounds text := by
  have only {rest : List Char} (first : more = '\x7d' :: rest ∨ more = ',' :: rest) : False := by
    rcases first with rfl | rfl
    · exact ended.ne.2.2 rfl
    · exact ended.ne.2.1 rfl
  unfold beginsBounds
  rw [(ended.digits text).1, (ended.digits text).2]
  congr 1
  cases text.dropWhile Char.isDigit with
  | nil =>
    rw [List.nil_append]
    split
    · exact (only (.inl rfl)).elim
    · exact (only (.inr rfl)).elim
    · rfl
  | cons c left =>
    by_cases comma : c = ','
    · subst comma
      simp only [List.cons_append, (ended.digits left).2]
      cases left.dropWhile Char.isDigit with
      | nil =>
        cases more with
        | nil => rfl
        | cons c rest => simp [ended.ne.2.2]
      | cons => rfl
    · by_cases brace : c = '\x7d'
      · subst brace
        rfl
      · simp [comma, brace]

end Ended

namespace Lexeme

variable {text : List Char}

/-- Where it is looked for the bounds, a brace is a quantifier only if they are there. -/
theorem interval_eq_code_iff {result : Lexeme × Nat} (read : interval text = .ok result) :
    result = (.code 123, 0) ↔ beginsBounds text = false := by
  have left := drop_length_takeWhile_append Char.isDigit text []
  rw [List.append_nil, List.append_nil] at left
  have marks (least : Nat) (most : Option Nat) (used : Nat) (rest : List Char) :
      marked least most used rest ≠ (.code 123, 0) := by
    unfold marked
    split <;> simp
  simp only [interval, left] at read
  unfold beginsBounds
  generalize text.takeWhile Char.isDigit = low at read ⊢
  generalize text.dropWhile Char.isDigit = behind at read ⊢
  split at read
  · cases read
  split at read
  · rename_i empty
    cases read
    simp [empty]
  rename_i filled
  rw [Bool.eq_false_iff.mpr filled, Bool.not_false, Bool.true_and]
  split at read
  · rename_i rest
    have left := drop_length_takeWhile_append Char.isDigit rest []
    rw [List.append_nil, List.append_nil] at left
    simp only [left] at read ⊢
    generalize rest.takeWhile Char.isDigit = high at read
    generalize rest.dropWhile Char.isDigit = behind at read ⊢
    split at read
    · cases read
    split at read
    · split at read
      · cases read
        simpa using marks _ _ _ _
      · split at read
        · cases read
        · cases read
          simpa using marks _ _ _ _
    · rename_i other
      cases read
      cases behind with
      | nil => simp
      | cons c more =>
        have ne : c ≠ '\x7d' := fun eq => other more (by rw [eq])
        simp [ne]
  · cases read
    simpa using marks _ _ _ _
  · rename_i comma brace
    cases read
    split
    · exact absurd rfl (brace _)
    · exact absurd rfl (comma _)
    · simp

/-- What comes after the end does not change a brace that stands for itself. -/
theorem interval_append_ended (literal : beginsBounds text = false) {more : List Char}
    (ended : Ended more) : interval (text ++ more) = interval text := by
  have left := drop_length_takeWhile_append Char.isDigit text
  have whole := left []
  rw [List.append_nil, List.append_nil] at whole
  unfold beginsBounds at literal
  simp only [interval, (ended.digits text).1, left, whole]
  split
  · rfl
  split
  · rfl
  rename_i filled
  simp only [filled, Bool.not_false, Bool.true_and] at literal
  have first {c : Char} {rest : List Char} (eq : more = c :: rest) : c ≠ ',' ∧ c ≠ '\x7d' := by
    subst eq
    exact ended.ne.2
  cases behind : text.dropWhile Char.isDigit with
  | nil =>
    cases more with
    | nil => rfl
    | cons c rest => simp [first rfl]
  | cons c rest =>
    rw [behind] at literal
    by_cases comma : c = ','
    · subst comma
      have left := drop_length_takeWhile_append Char.isDigit rest
      have whole := left []
      rw [List.append_nil, List.append_nil] at whole
      simp only [List.cons_append, (ended.digits rest).1, left, whole]
      cases behind : rest.dropWhile Char.isDigit with
      | nil =>
        cases more with
        | nil => rfl
        | cons c rest => simp [first rfl]
      | cons d more =>
        have literal : ((rest.dropWhile Char.isDigit).head? == some '\x7d') = false := literal
        rw [behind] at literal
        have ne : d ≠ '\x7d' := by simpa using literal
        simp [ne]
    · have brace : c ≠ '\x7d' := by
        rintro rfl
        cases literal
      simp [comma, brace]

end Lexeme

end Tincture.Regex
