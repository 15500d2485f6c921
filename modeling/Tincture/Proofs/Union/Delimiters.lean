import Tincture.Proofs.Union.PartRanges

/-!
The parentheses and carets of a pattern that count.

A backslash takes the character behind it with it, unless it has itself been taken (`escaping`), and
a bracket class hides what stands in it, provided that it is closed (`InClosedClass`). Both are told
by the text alone, wherever its parts may begin. A part keeps to this: a parenthesis or a caret in
it, but for its first character, is hidden, and behind the part nothing is hidden yet (`Covers`). So
the parts that parentheses and carets make are those that are not hidden (`reported_iff`).
-/

namespace Tincture.Union.Part

/-! ### What is hidden -/

/-- Whether the characters end in a backslash that takes the next character with it. -/
def escaping (cs : List Char) : Bool := cs.foldl (fun slash c => c == '\\' && !slash) false

/-- Every closing bracket among the characters is escaped. -/
def Unclosed (cs : List Char) : Prop := ∀ u v, cs = u ++ ']' :: v → escaping u = true

/-- What stands between the characters `before` and `after` is in a class that is closed: before it
there is a bracket that is not escaped and that nothing has closed yet, and after it there is one to
close it. That the bracket before it may stand in the class itself makes no difference. -/
def InClosedClass (before after : List Char) : Prop :=
  (∃ front body, before = front ++ '[' :: body ∧ escaping front = false ∧ Unclosed body) ∧
    ∃ body rest, after = body ++ ']' :: rest ∧ escaping (before ++ body) = false

/-- The characters that delimit groups or stand for the start of the text. -/
def delimiters : List Char := ['(', ')', '^']

/-- The parts that a delimiter makes. -/
def Delimits (c : Char) : Part → Prop
  | .group | .nonCapturing _ => c = '('
  | .close => c = ')'
  | .caret => c = '^'
  | _ => False

/-- Behind the characters `before` of a pattern there is a part that the delimiter makes. -/
def Reported (cs before : List Char) (c : Char) : Prop :=
  ∃ front part back, split cs = front ++ part :: back ∧ front.flatMap text = before ∧
    Delimits c part

/-- Where two pieces are joined, a character is in the second or in the first. -/
theorem character_cases {xs ys front back : List Char} {c : Char}
    (eq : xs ++ ys = front ++ c :: back) :
    (∃ u, front = xs ++ u ∧ ys = u ++ c :: back) ∨ ∃ v, xs = front ++ c :: v ∧ back = v ++ ys := by
  rcases List.append_eq_append_iff.mp eq with later | ⟨w, rfl, split⟩
  · exact .inl later
  · rcases List.cons_eq_append_iff.mp split with ⟨rfl, rfl⟩ | ⟨v, rfl, rfl⟩
    · exact .inl ⟨[], by simp, rfl⟩
    · exact .inr ⟨v, rfl, rfl⟩

/-! ### Escapes -/

/-- A character that is no backslash leaves no escape, whether it is escaped or not. -/
theorem escaping_append_cons {c : Char} (ne : c ≠ '\\') (xs ys : List Char) :
    escaping (xs ++ c :: ys) = escaping ys := by
  rw [escaping, List.foldl_append, List.foldl_cons, beq_eq_false_iff_ne.mpr ne]
  rfl

theorem escaping_cons_of_ne {c : Char} (ne : c ≠ '\\') (cs : List Char) :
    escaping (c :: cs) = escaping cs :=
  escaping_append_cons ne [] cs

theorem escaping_pair (c : Char) (cs : List Char) :
    escaping ('\\' :: c :: cs) = escaping cs := by
  rw [escaping, List.foldl_cons, List.foldl_cons]
  simp [escaping]

/-- Where nothing is left of an escape, the text goes on as at its beginning. -/
theorem escaping_append {xs : List Char} (h : escaping xs = false) (ys : List Char) :
    escaping (xs ++ ys) = escaping ys := by
  rw [escaping] at h
  rw [escaping, List.foldl_append, h]
  rfl

theorem escaping_eq_false_of_plain {cs : List Char} (plain : ∀ c ∈ cs, isSpecial c = false) :
    escaping cs = false := by
  induction cs with
  | nil => rfl
  | cons c cs ih =>
    obtain ⟨first, others⟩ := List.forall_mem_cons.mp plain
    have ne : c ≠ '\\' := by
      rintro rfl
      cases first
    rw [escaping_cons_of_ne ne, ih others]

/-! ### Classes -/

theorem Unclosed.of_append {xs ys : List Char} (h : Unclosed (xs ++ ys)) : Unclosed xs := by
  rintro u v rfl
  exact h u (v ++ ys) (by simp)

theorem unclosed_nil : Unclosed [] := fun u v eq => absurd eq (by simp)

theorem Unclosed.pair {cs : List Char} (h : Unclosed cs) (c : Char) :
    Unclosed ('\\' :: c :: cs) := by
  rintro (_ | ⟨_, _ | ⟨_, u⟩⟩) v eq
  · cases eq
  · cases eq
    rfl
  · cases eq
    rw [escaping_pair]
    exact h u v rfl

theorem Unclosed.cons {cs : List Char} (h : Unclosed cs) {c : Char} (closing : c ≠ ']')
    (ends : c = '\\' → cs = []) : Unclosed (c :: cs) := by
  rintro (_ | ⟨_, u⟩) v eq
  · cases eq
    exact absurd rfl closing
  · cases eq
    rw [escaping_cons_of_ne fun slash => by simpa using ends slash]
    exact h u v rfl

theorem unclosed_of_classLength? {cs : List Char} (h : classLength? cs = none) : Unclosed cs := by
  fun_induction classLength? cs with
  | case1 => exact unclosed_nil
  | case2 => cases h
  | case3 c rest ih => exact (ih (Option.map_eq_none_iff.mp h)).pair c
  | case4 c rest closing escaping ih =>
    refine (ih (Option.map_eq_none_iff.mp h)).cons closing fun slash => ?_
    by_contra more
    obtain ⟨d, tail, rfl⟩ := List.exists_cons_of_ne_nil more
    exact escaping d tail slash rfl

/-- A class reaches up to the first closing bracket that is not escaped. -/
theorem ClosedClass.exists_inner {body : List Char} (h : ClosedClass body) :
    ∃ inner, body = inner ++ [']'] ∧ escaping inner = false ∧ Unclosed inner := by
  rw [ClosedClass] at h
  fun_induction classLength? body with
  | case1 => cases h
  | case2 rest =>
    have short : rest = [] := List.eq_nil_of_length_eq_zero (by simpa using h.symm)
    exact ⟨[], by rw [short]; rfl, rfl, unclosed_nil⟩
  | case3 c rest ih =>
    obtain ⟨m, length, eq⟩ := Option.map_eq_some_iff.mp h
    obtain ⟨inner, rfl, ends, unclosed⟩ := ih (by rw [length]; simpa using eq)
    exact ⟨'\\' :: c :: inner, rfl, by rw [escaping_pair, ends], unclosed.pair c⟩
  | case4 c rest closing escape ih =>
    obtain ⟨m, length, eq⟩ := Option.map_eq_some_iff.mp h
    obtain ⟨inner, rfl, ends, unclosed⟩ := ih (by rw [length]; simpa using eq)
    have ne : c ≠ '\\' := by
      rintro rfl
      obtain ⟨d, tail, eq⟩ := List.exists_cons_of_ne_nil (List.concat_ne_nil ']' inner)
      exact escape d tail rfl (by simpa using eq)
    exact ⟨c :: inner, rfl, by rw [escaping_cons_of_ne ne, ends],
      unclosed.cons closing fun slash => absurd slash ne⟩

/-! ### One part -/

/-- Between the two, no escape is left over and no class is open. -/
structure Settled (before after : List Char) : Prop where
  free : after ≠ [] → escaping before = false
  outside : ¬ InClosedClass before after

/-- Delimiters in the text of a part are hidden, but for its first character, and nothing behind it
is. -/
structure Covers (before part after : List Char) : Prop where
  hidden : ∀ u c v, u ≠ [] → part = u ++ c :: v → c ∈ delimiters →
    escaping (before ++ u) = true ∨ InClosedClass (before ++ u) (c :: (v ++ after))
  settled : Settled (before ++ part) after

variable {before after : List Char}

theorem isSpecial_of_mem_delimiters {c : Char} (mem : c ∈ delimiters) : isSpecial c = true := by
  simp only [delimiters, List.mem_cons, List.not_mem_nil, or_false] at mem
  rcases mem with rfl | rfl | rfl <;> rfl

/-- The first character, which opens no class, and the one that is escaped are all that may be
special. -/
def Guarded (part : List Char) : Prop :=
  ∀ u c v, part = u ++ c :: v → isSpecial c = true → (u = [] ∧ c ≠ '[') ∨ escaping u = true

theorem guarded_cons {c : Char} {ds : List Char} (bracket : c ≠ '[')
    (plain : ∀ d ∈ ds, isSpecial d = false) : Guarded (c :: ds) := by
  rintro (_ | ⟨_, u⟩) d v eq special
  · cases eq
    exact .inl ⟨rfl, bracket⟩
  · cases eq
    rw [plain d (by simp)] at special
    cases special

theorem guarded_escape {c : Char} {ds : List Char} (plain : ∀ d ∈ ds, isSpecial d = false) :
    Guarded ('\\' :: c :: ds) := by
  rintro (_ | ⟨_, _ | ⟨_, u⟩⟩) d v eq special
  · cases eq
    exact .inl ⟨rfl, by decide⟩
  · cases eq
    exact .inr rfl
  · cases eq
    rw [plain d (by simp)] at special
    cases special

theorem covers_of_guarded {part : List Char} (settled : Settled before (part ++ after))
    (nonempty : part ≠ []) (guarded : Guarded part) (ends : after ≠ [] → escaping part = false) :
    Covers before part after := by
  have free := settled.free (by simp [nonempty])
  constructor
  case hidden =>
    intro u c v some eq mem
    rcases guarded u c v eq (isSpecial_of_mem_delimiters mem) with ⟨none, -⟩ | escaped
    · exact absurd none some
    · exact .inl (by rw [escaping_append free, escaped])
  case settled =>
    constructor
    · intro more
      rw [escaping_append free, ends more]
    · rintro ⟨⟨front, body, eq, unescaped, unclosed⟩, inner, rest, rfl, closed⟩
      rcases character_cases eq with ⟨u, rfl, own⟩ | ⟨v, rfl, rfl⟩
      · rcases guarded u '[' body own rfl with ⟨-, ne⟩ | escaped
        · exact ne rfl
        · rw [escaping_append free, escaped] at unescaped
          cases unescaped
      · -- The bracket stands before the part, so the class was open there.
        exact settled.outside ⟨⟨front, v, rfl, unescaped, unclosed.of_append⟩,
          part ++ inner, rest, by simp, by simpa using closed⟩

/-- A bracket that nothing closes hides nothing. -/
theorem covers_opening (unclosed : Unclosed after) : Covers before ['['] after := by
  constructor
  case hidden =>
    intro u c v some eq mem
    obtain ⟨d, w, rfl⟩ := List.exists_cons_of_ne_nil some
    simp at eq
  case settled =>
    constructor
    · intro _
      exact escaping_append_cons (by decide) before []
    · rintro ⟨-, inner, rest, rfl, closed⟩
      rw [List.append_assoc, List.singleton_append, escaping_append_cons (by decide),
        unclosed inner rest rfl] at closed
      cases closed

/-- A class that is closed hides what stands in it, and is not open behind its end. -/
theorem covers_class {body : List Char} (settled : Settled before ('[' :: body ++ after))
    (closed : ClosedClass body) : Covers before ('[' :: body) after := by
  have free := settled.free (List.cons_ne_nil _ _)
  obtain ⟨inner, rfl, ends, unclosed⟩ := closed.exists_inner
  have complete : escaping (before ++ '[' :: inner) = false := by
    rw [escaping_append_cons (by decide), ends]
  have split : before ++ '[' :: (inner ++ [']']) = before ++ '[' :: inner ++ [']'] := by simp
  constructor
  case hidden =>
    intro u c v some eq mem
    obtain ⟨_, w, rfl⟩ := List.exists_cons_of_ne_nil some
    obtain ⟨rfl, inside⟩ := List.cons.inj eq
    rcases character_cases inside with ⟨x, -, last⟩ | ⟨x, rfl, rfl⟩
    · have closing : c ∈ [']'] := last ▸ List.mem_append_right x List.mem_cons_self
      rw [List.mem_singleton.mp closing] at mem
      exact absurd mem (by decide)
    · exact .inr ⟨⟨before, w, rfl, free, unclosed.of_append⟩, c :: x, after, by simp,
        by simpa using complete⟩
  case settled =>
    rw [split]
    constructor
    · intro _
      exact escaping_append_cons (by decide) _ []
    · rintro ⟨⟨front, body, eq, unescaped, open_⟩, -⟩
      rcases character_cases eq with ⟨x, -, last⟩ | ⟨x, same, rfl⟩
      · have closing : '[' ∈ [']'] := last ▸ List.mem_append_right x List.mem_cons_self
        exact absurd closing (by decide)
      · -- The bracket that closes the class would have closed this one.
        rw [same, escaping_append_cons (by decide), open_ x [] rfl] at complete
        cases complete

/-- Behind the character that is escaped an escape has digits only. -/
theorem text_ofEscape_cons (c : Char) (rest : List Char) :
    ∃ ds, (ofEscape (c :: rest)).text = '\\' :: c :: ds ∧ ∀ d ∈ ds, isSpecial d = false := by
  have hexadecimal (most : Nat) (all : (leadingDigits 16 most rest).length = most) :
      ∀ d ∈ rest.take most, isSpecial d = false := by
    rw [leadingDigits_eq_take all]
    exact fun d mem => not_special (P := isDigitIn 16) (by decide)
      (isDigitIn_of_mem_leadingDigits d mem)
  rw [ofEscape]
  dsimp only
  split_ifs with four two digit
  · rw [Bool.and_eq_true, beq_iff_eq, beq_iff_eq] at four
    exact ⟨_, rfl, hexadecimal 4 four.2⟩
  · rw [Bool.and_eq_true, beq_iff_eq, beq_iff_eq] at two
    exact ⟨_, rfl, hexadecimal 2 two.2⟩
  · exact ⟨_, rfl, fun d mem => not_special (P := Char.isDigit) (by decide)
      (List.mem_takeWhile_imp mem)⟩
  · exact ⟨[], rfl, by simp⟩

theorem text_ofParenthesis (rest : List Char) :
    ∃ ds, (ofParenthesis rest).text = '(' :: ds ∧ ∀ d ∈ ds, isSpecial d = false := by
  unfold ofParenthesis
  split <;> exact ⟨_, rfl, by simp [isSpecial]⟩

theorem text_first_of_ne {c : Char} (bracket : c ≠ '[') (slash : c ≠ '\\') (rest : List Char) :
    ∃ ds, (first c rest).text = c :: ds ∧ ∀ d ∈ ds, isSpecial d = false := by
  unfold first
  split
  · exact absurd rfl bracket
  · exact absurd rfl slash
  · exact text_ofParenthesis rest
  · exact ⟨[], rfl, by simp⟩
  · exact ⟨[], rfl, by simp⟩
  · exact ⟨_, rfl, fun d mem => by simpa using List.mem_takeWhile_imp mem⟩

/-- Whatever a part is, it covers its text. -/
theorem covers_first {c : Char} {rest : List Char} (settled : Settled before (c :: rest)) :
    Covers before (first c rest).text (rest.drop ((first c rest).text.length - 1)) := by
  rw [← text_first_append_drop c rest] at settled
  by_cases bracket : c = '['
  · subst bracket
    rw [first] at settled ⊢
    cases length : classLength? rest with
    | none => exact covers_opening (unclosed_of_classLength? length)
    | some n =>
      rw [length] at settled
      exact covers_class settled (closedClass_take length)
  · have nonempty := text_first_ne_nil c rest
    by_cases slash : c = '\\'
    · subst slash
      cases rest with
      | nil =>
        -- The backslash stands at the end of the text and escapes nothing.
        exact covers_of_guarded settled nonempty (guarded_cons (by decide) (by simp)) (by simp)
      | cons d more =>
        obtain ⟨ds, text, plain⟩ := text_ofEscape_cons d more
        refine covers_of_guarded settled nonempty ?_ fun _ => ?_
        · exact text ▸ guarded_escape plain
        · exact text ▸ (escaping_pair d ds).trans (escaping_eq_false_of_plain plain)
    · obtain ⟨ds, text, plain⟩ := text_first_of_ne bracket slash rest
      refine covers_of_guarded settled nonempty ?_ fun _ => ?_
      · exact text ▸ guarded_cons bracket plain
      · exact text ▸ (escaping_cons_of_ne slash ds).trans (escaping_eq_false_of_plain plain)

/-! ### All parts -/

/-- At the beginning of a part a delimiter makes it. -/
theorem reported_first {c : Char} (mem : c ∈ delimiters) (rest : List Char) :
    Reported (c :: rest) [] c := by
  refine ⟨[], _, _, split_cons rfl, rfl, ?_⟩
  simp only [delimiters, List.mem_cons, List.not_mem_nil, or_false] at mem
  rcases mem with rfl | rfl | rfl
  · simp only [first]
    unfold ofParenthesis
    split <;> rfl
  · rfl
  · rfl

/-- Elsewhere in it none does. -/
theorem not_reported_inside {c d : Char} {rest u v : List Char} (some : u ≠ [])
    (eq : (first d rest).text = u ++ c :: v) (e : Char) : ¬ Reported (d :: rest) u e := by
  rintro ⟨front, part, back, split, start, -⟩
  rw [split_cons rfl] at split
  cases front with
  | nil => exact some start.symm
  | cons p front =>
    obtain ⟨rfl, -⟩ := List.cons.inj split
    have length := congrArg List.length start
    rw [List.flatMap_cons, eq, List.length_append, List.length_append, List.length_cons] at length
    omega

/-- What is reported behind a part is what the rest of the text reports. -/
theorem reported_behind {d : Char} {rest u : List Char} (c : Char) :
    Reported (d :: rest) ((first d rest).text ++ u) c ↔
      Reported (rest.drop ((first d rest).text.length - 1)) u c := by
  constructor
  · rintro ⟨front, part, back, split, start, delimits⟩
    rw [split_cons rfl] at split
    cases front with
    | nil => exact absurd start (by simp [text_first_ne_nil])
    | cons p front =>
      obtain ⟨rfl, others⟩ := List.cons.inj split
      exact ⟨front, part, back, others, List.append_cancel_left start, delimits⟩
  · rintro ⟨front, part, back, split, rfl, delimits⟩
    exact ⟨_ :: front, part, back, by rw [split_cons rfl, split]; rfl, rfl, delimits⟩

/-- From where nothing is hidden, the delimiters that are reported are those that are not hidden. -/
theorem Settled.reported_iff {cs u v : List Char} {c : Char} (settled : Settled before cs)
    (eq : cs = u ++ c :: v) (mem : c ∈ delimiters) :
    Reported cs u c ↔ escaping (before ++ u) = false ∧ ¬ InClosedClass (before ++ u) (c :: v) := by
  induction size : cs.length using Nat.strongRecOn generalizing cs before u with
  | ind n ih =>
    cases cs with
    | nil => simp at eq
    | cons d rest =>
      have covers := covers_first settled
      have whole := text_first_append_drop d rest
      have joined := whole.trans eq
      rcases character_cases joined with ⟨w, rfl, later⟩ | ⟨w, own, rest_eq⟩
      · have shorter : (rest.drop ((first d rest).text.length - 1)).length < n := by
          rw [← size, List.length_drop, List.length_cons]
          omega
        rw [reported_behind, ih _ shorter covers.settled later rfl, List.append_assoc]
      · by_cases start : u = []
        · subst start
          obtain ⟨rfl, rfl⟩ := List.cons.inj eq
          rw [List.append_nil]
          exact iff_of_true (reported_first mem _)
            ⟨settled.free (List.cons_ne_nil _ _), settled.outside⟩
        · refine iff_of_false (not_reported_inside start own c) ?_
          rintro ⟨free, outside⟩
          rcases covers.hidden u c w start own mem with escaped | inside
          · rw [free] at escaped
            cases escaped
          · exact outside (rest_eq ▸ inside)

theorem settled_nil (cs : List Char) : Settled [] cs := by
  constructor
  · intro _
    rfl
  · rintro ⟨⟨front, body, eq, -⟩, -⟩
    simp at eq

/-- Parentheses and carets make parts where they are neither escaped nor in a closed class. -/
theorem reported_iff {c : Char} {u v : List Char} (mem : c ∈ delimiters) :
    Reported (u ++ c :: v) u c ↔ escaping u = false ∧ ¬ InClosedClass u (c :: v) :=
  (settled_nil _).reported_iff rfl mem

/-! ### Main result -/

/-- Reading a pattern by bytes comes to an end, whatever the pattern is, with no piece that leaves
the text or divides a character, and finds the parts of the pattern. None of them is empty, and
their texts make up the pattern. A parenthesis or a caret makes a part exactly where it is neither
escaped nor in a class that is closed; so a bracket that nothing closes hides nothing behind it. -/
theorem split_lossless (source : String) :
    (∀ parts, Splits source 0 parts ↔ parts = split source.toList) ∧
    (∀ part ∈ split source.toList, part.text ≠ []) ∧
    (split source.toList).flatMap text = source.toList ∧
    (∀ before c after, source.toList = before ++ c :: after → c ∈ delimiters →
      (Reported source.toList before c ↔
        escaping before = false ∧ ¬ InClosedClass before (c :: after))) ∧
    ∀ before after, source.toList = before ++ '[' :: after → Unclosed after →
      ∀ between c rest, after = between ++ c :: rest → c ∈ delimiters → escaping between = false →
        Reported source.toList (before ++ '[' :: between) c := by
  refine ⟨fun parts => splits_iff, text_ne_nil_of_mem_split, flatMap_text_split _, ?_, ?_⟩
  · intro before c after eq mem
    rw [eq]
    exact reported_iff mem
  · rintro before _ eq unclosed between c rest rfl mem free
    have split : source.toList = before ++ '[' :: between ++ c :: rest := by simp [eq]
    rw [split]
    refine (reported_iff mem).mpr ⟨by rw [escaping_append_cons (by decide), free], ?_⟩
    rintro ⟨-, body, tail, closing, ends⟩
    have escaped := unclosed (between ++ body) tail (by rw [closing, List.append_assoc])
    rw [List.append_assoc, List.cons_append, escaping_append_cons (by decide), escaped] at ends
    cases ends

/-- A pattern with a class, a group, an escape and a bracket that is left open. -/
def unbalanced : String := "[(](\\(é[("

/-- The class hides a parenthesis and so does the backslash, but the open bracket does not. -/
theorem split_lossless_unbalanced :
    ¬ Reported unbalanced.toList ['['] '(' ∧
      ¬ Reported unbalanced.toList ['[', '(', ']', '(', '\\'] '(' ∧
      Reported unbalanced.toList ['[', '(', ']', '(', '\\', '(', 'é', '['] '(' := by
  have chars : unbalanced.toList = ['[', '(', ']', '(', '\\', '(', 'é', '[', '('] := rfl
  obtain ⟨-, -, -, exactly, beyond⟩ := split_lossless unbalanced
  refine ⟨fun reported => ?_, fun reported => ?_, ?_⟩
  · refine ((exactly _ _ _ chars (by decide)).mp reported).2 ?_
    exact ⟨⟨[], [], rfl, rfl, unclosed_nil⟩, ['('], _, rfl, rfl⟩
  · exact absurd ((exactly _ _ _ chars (by decide)).mp reported).1 (by decide)
  · exact beyond ['[', '(', ']', '(', '\\', '(', 'é'] ['('] chars
      (unclosed_nil.cons (by decide) (by decide)) [] '(' [] rfl (by decide) rfl

end Tincture.Union.Part
