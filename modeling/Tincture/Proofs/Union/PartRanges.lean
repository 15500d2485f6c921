import Tincture.Proofs.Text.Bytes
import Tincture.Proofs.Union.Cutting

/-!
Parts as ranges of bytes.

Cutting a pattern into parts loses nothing of it (`Part.flatMap_text_split`). Here a pattern is also
cut by byte positions: its bytes are looked at one by one, lengths are counted in bytes, and every
part is a piece of the text from one position to another. This may go wrong in ways in which cutting
by characters cannot: a piece may reach out of the text or divide a character (`partAt?` is `none`
then), or a part may have no bytes, so that the end is never reached (`Splits`). Nothing of that
happens, whatever the pattern is, and the parts are the same (`splits_iff`).
-/

namespace Tincture.Union.Part

/-! ### Nothing is lost -/

theorem text_ofEscape_prefix (rest : List Char) : (ofEscape rest).text <+: '\\' :: rest := by
  cases rest with
  | nil => exact List.prefix_rfl
  | cons c more =>
    rw [ofEscape]
    dsimp only
    split_ifs
    · exact (List.prefix_cons_inj _).mpr ((List.prefix_cons_inj _).mpr (List.take_prefix 4 more))
    · exact (List.prefix_cons_inj _).mpr ((List.prefix_cons_inj _).mpr (List.take_prefix 2 more))
    · exact (List.prefix_cons_inj _).mpr
        ((List.prefix_cons_inj _).mpr (List.takeWhile_prefix _))
    · exact (List.prefix_cons_inj _).mpr ((List.prefix_cons_inj _).mpr List.nil_prefix)

theorem text_ofParenthesis_prefix (rest : List Char) :
    (ofParenthesis rest).text <+: '(' :: rest := by
  unfold ofParenthesis
  split <;> exact ⟨_, rfl⟩

/-- A part is what the text begins with. -/
theorem text_first_prefix (c : Char) (rest : List Char) : (first c rest).text <+: c :: rest := by
  unfold first
  split
  · split
    · exact (List.prefix_cons_inj _).mpr (List.take_prefix _ rest)
    · exact ⟨rest, rfl⟩
  · exact text_ofEscape_prefix rest
  · exact text_ofParenthesis_prefix rest
  · exact ⟨rest, rfl⟩
  · exact ⟨rest, rfl⟩
  · exact (List.prefix_cons_inj _).mpr (List.takeWhile_prefix _)

theorem text_ofEscape_ne_nil (rest : List Char) : (ofEscape rest).text ≠ [] := by
  cases rest with
  | nil => exact List.cons_ne_nil _ _
  | cons c more =>
    rw [ofEscape]
    dsimp only
    split_ifs <;> exact List.cons_ne_nil _ _

/-- A part takes some of the text. -/
theorem text_first_ne_nil (c : Char) (rest : List Char) : (first c rest).text ≠ [] := by
  unfold first
  split
  · split <;> exact List.cons_ne_nil _ _
  · exact text_ofEscape_ne_nil rest
  · unfold ofParenthesis
    split <;> exact List.cons_ne_nil _ _
  all_goals exact List.cons_ne_nil _ _

/-- The rest of the text is what is left behind the part. -/
theorem text_first_append_drop (c : Char) (rest : List Char) :
    (first c rest).text ++ rest.drop ((first c rest).text.length - 1) = c :: rest := by
  obtain ⟨left, eq⟩ := text_first_prefix c rest
  cases text : (first c rest).text with
  | nil => exact absurd text (text_first_ne_nil c rest)
  | cons d inner =>
    rw [text, List.cons_append, List.cons.injEq] at eq
    obtain ⟨rfl, rfl⟩ := eq
    simp

/-- The texts of the parts, one after the other, are the pattern. -/
theorem flatMap_text_split (cs : List Char) : (split cs).flatMap text = cs := by
  fun_induction split cs with
  | case1 => rfl
  | case2 c rest part ih =>
    rw [List.flatMap_cons, ih]
    exact text_first_append_drop c rest

theorem text_ne_nil_of_mem_split {cs : List Char} : ∀ part ∈ split cs, part.text ≠ [] := by
  fun_induction split cs with
  | case1 => exact fun _ mem => absurd mem List.not_mem_nil
  | case2 c rest part ih => exact List.forall_mem_cons.mpr ⟨text_first_ne_nil c rest, ih⟩

/-! ### Cutting by bytes -/

/-- The number of bytes of the character at a position, at the end of the text one; `none` when the
position leaves the text or divides a character. -/
def charLength? (source : String) (pos : Nat) : Option { n : Nat // 0 < n } :=
  (dropBytes? pos source.toList).map fun
    | [] => ⟨1, Nat.one_pos⟩
    | c :: _ => ⟨c.utf8Size, c.utf8Size_pos⟩

/-- Where the class ends whose members are looked at from the position on, if it does; `none` when
the search gets into the middle of a character. -/
def classEnd? (source : String) (pos : Nat) : Option (Option Nat) :=
  if pos < source.utf8ByteSize then
    if byteAt source pos (· == '\\'.toUInt8) && pos + 1 < source.utf8ByteSize then
      (charLength? source (pos + 1)).bind fun n => classEnd? source (pos + 1 + n)
    else if byteAt source pos (· == ']'.toUInt8) then some (some (pos + 1))
    else (charLength? source pos).bind fun n => classEnd? source (pos + n)
  else some none
termination_by source.utf8ByteSize - pos
decreasing_by
  · have := n.property
    omega
  · have := n.property
    omega

/-- The part that is the piece of the text with so many bytes from the position on, and their
number; `none` when there is no such piece. -/
def pieceAt? (source : String) (pos : Nat) (part : List Char → Part) (len : Nat) :
    Option (Part × Nat) :=
  (sliceBytes? source.toList pos (pos + len)).map fun text => (part text, len)

/-- The escape at a position, and its number of bytes. As in `Part.ofEscape`, the value of one made
of digits is not bounded. -/
def escapeAt? (source : String) (pos : Nat) : Option (Part × Nat) :=
  match (bytesOf source).drop (pos + 1) with
  | [] => (dropBytes? pos source.toList).map fun text => (.literal text, 1)
  | b :: rest =>
    let hexadecimal (most : Nat) := ((rest.take most).takeWhile isHexByte).length == most
    if b == 'u'.toUInt8 && hexadecimal 4 then pieceAt? source pos .escape 6
    else if b == 'x'.toUInt8 && hexadecimal 2 then pieceAt? source pos .escape 4
    else if isDigitByte b then
      pieceAt? source pos (fun text => .numeric text (numeral 10 text.tail))
        (1 + ((b :: rest).takeWhile isDigitByte).length)
    else (charLength? source (pos + 1)).bind fun n => pieceAt? source pos .escape (1 + n)

/-- The number of bytes of the longest opening of a group without a capture, its parenthesis
included, if it is one. -/
def queryLength? (rest : List Char) : Option Nat :=
  ((queries.filter (·.isPrefixOf rest)).map fun query => byteLength query + 1).max?

/-- The part at a position, and its number of bytes; `none` when a piece is asked for that leaves
the text or divides a character. -/
def partAt? (source : String) (pos : Nat) : Option (Part × Nat) :=
  if byteAt source pos (· == '['.toUInt8) then
    (classEnd? source (pos + 1)).bind fun
      | some stop => pieceAt? source pos .bracket (stop - pos)
      | none => pieceAt? source pos .literal 1
  else if byteAt source pos (· == '\\'.toUInt8) then escapeAt? source pos
  else if byteAt source pos (· == '('.toUInt8) then
    (dropBytes? (pos + 1) source.toList).bind fun rest =>
      match queryLength? rest with
      | some len => pieceAt? source pos .nonCapturing len
      | none => some (.group, 1)
  else if byteAt source pos (· == ')'.toUInt8) then some (.close, 1)
  else if byteAt source pos (· == '^'.toUInt8) then some (.caret, 1)
  else
    (dropBytes? pos source.toList).bind fun rest =>
      pieceAt? source pos .literal (byteLength (rest.takeWhile (!isSpecial ·)))

/-- From the position on, these are the parts up to the end of the text. -/
inductive Splits (source : String) : Nat → List Part → Prop where
  | done {pos : Nat} (le : source.utf8ByteSize ≤ pos) : Splits source pos []
  | next {pos len : Nat} {part : Part} {parts : List Part} (lt : pos < source.utf8ByteSize)
      (read : partAt? source pos = some (part, len)) (rest : Splits source (pos + len) parts) :
      Splits source pos (part :: parts)

/-! ### At the boundaries of characters -/

variable {source : String} {before after : List Char}

theorem charLength?_append {c : Char} (eq : source.toList = before ++ c :: after) :
    charLength? source (byteLength before) = some ⟨c.utf8Size, c.utf8Size_pos⟩ := by
  rw [charLength?, eq, dropBytes?_append]
  rfl

theorem byteAt_char {c d : Char} (ascii : isAscii d = true)
    (eq : source.toList = before ++ c :: after) :
    byteAt source (byteLength before) (· == d.toUInt8) = (c == d) := by
  rw [byteAt_append (agrees_char ascii) eq]
  rfl

theorem pieceAt?_of_prefix {piece : List Char} (part : List Char → Part)
    (eq : source.toList = before ++ after) (h : piece <+: after) :
    pieceAt? source (byteLength before) part (byteLength piece) =
      some (part piece, byteLength piece) := by
  obtain ⟨left, rfl⟩ := h
  rw [pieceAt?, eq, sliceBytes?_append]
  rfl

/-- The search for the end of a class goes from character to character. -/
theorem classEnd?_append (eq : source.toList = before ++ after) :
    classEnd? source (byteLength before) =
      some ((classLength? after).map fun n => byteLength before + byteLength (after.take n)) := by
  fun_induction classLength? after generalizing before with
  | case1 =>
    rw [classEnd?, if_neg ((byteLength_lt_iff eq).not.mpr (not_not.mpr rfl))]
    rfl
  | case2 rest =>
    rw [classEnd?, if_pos ((byteLength_lt_iff eq).mpr (List.cons_ne_nil _ _)),
      byteAt_char (by decide) eq, byteAt_char (by decide) eq]
    rfl
  | case3 c rest ih =>
    have inside : source.toList = (before ++ ['\\']) ++ c :: rest := by simp [eq]
    have behind : source.toList = (before ++ ['\\', c]) ++ rest := by simp [eq]
    have next := ih behind
    have slash : byteLength (before ++ ['\\']) = byteLength before + 1 := byteLength_append ..
    have pair : byteLength (before ++ ['\\', c]) = byteLength before + 1 + c.utf8Size := by
      rw [List.append_cons, byteLength_append, slash]
      rfl
    have more := (byteLength_lt_iff inside).mpr (List.cons_ne_nil _ _)
    have size := charLength?_append inside
    rw [slash] at more size
    rw [classEnd?, if_pos ((byteLength_lt_iff eq).mpr (List.cons_ne_nil _ _)),
      byteAt_char (by decide) eq, if_pos (by simp [more]), size, Option.bind_some]
    dsimp only
    rw [← pair, next, pair, Option.map_map]
    congr 2
    funext n
    change _ = byteLength before + (1 + (c.utf8Size + byteLength (rest.take n)))
    omega
  | case4 c rest closing escaping ih =>
    have behind : source.toList = (before ++ [c]) ++ rest := by simp [eq]
    have next := ih behind
    have single : byteLength (before ++ [c]) = byteLength before + c.utf8Size := by
      rw [byteLength_append, byteLength_cons, byteLength_nil, Nat.add_zero]
    -- A backslash with nothing behind it is one more character.
    have plain : ¬ (c = '\\' ∧ byteLength before + 1 < source.utf8ByteSize) := by
      rintro ⟨rfl, lt⟩
      have more : rest ≠ [] := (byteLength_lt_iff behind).mp (single ▸ lt)
      obtain ⟨d, tail, rfl⟩ := List.exists_cons_of_ne_nil more
      exact escaping d tail rfl rfl
    rw [classEnd?, if_pos ((byteLength_lt_iff eq).mpr (List.cons_ne_nil _ _)),
      byteAt_char (by decide) eq, byteAt_char (by decide) eq, if_neg (by simpa using plain),
      if_neg (by simpa using closing), charLength?_append eq, Option.bind_some]
    dsimp only
    rw [← single, next, single, Option.map_map]
    congr 2
    funext n
    change _ = byteLength before + (c.utf8Size + byteLength (rest.take n))
    omega

/-! ### Escapes -/

theorem length_leadingBytes (most : Nat) (cs : List Char) :
    (((utf8Bytes cs).take most).takeWhile isHexByte).length =
      (leadingDigits 16 most cs).length := by
  rw [leadingDigits, ← List.take_takeWhile, ← List.take_takeWhile, List.length_take,
    List.length_take, (agrees_hexadecimal.length_takeWhile cs).1]

theorem byteLength_numbered {letter : Char} {most : Nat} {cs : List Char}
    (single : letter.utf8Size = 1) (all : (leadingDigits 16 most cs).length = most) :
    byteLength ('\\' :: letter :: cs.take most) = 2 + most := by
  have digits := (agrees_hexadecimal.length_takeWhile (cs.take most)).2
  rw [← leadingDigits, all, ← leadingDigits_eq_take all] at digits
  rw [byteLength_cons, byteLength_cons, single, digits, ← Nat.add_assoc]
  rfl

/-- Whether a letter stands in front of so many hexadecimal digits can be told by bytes. -/
theorem counted_eq {c d : Char} {more : List Char} {b : UInt8} {bs : List UInt8}
    (read : utf8Bytes (c :: more) = b :: bs) (ascii : isAscii d = true) (most : Nat) :
    (b == d.toUInt8 && ((bs.take most).takeWhile isHexByte).length == most) =
      (c == d && (leadingDigits 16 most more).length == most) := by
  rw [(agrees_char ascii).first read]
  by_cases equal : c = d
  · subst equal
    rw [utf8Bytes_cons, utf8EncodeChar_of_isAscii ascii, List.singleton_append,
      List.cons.injEq] at read
    rw [← read.2, length_leadingBytes]
  · rw [beq_eq_false_iff_ne.mpr equal, Bool.false_and, Bool.false_and]

theorem escapeAt?_append {rest : List Char} (eq : source.toList = before ++ '\\' :: rest) :
    escapeAt? source (byteLength before) =
      some (ofEscape rest, byteLength (ofEscape rest).text) := by
  have inside : source.toList = (before ++ ['\\']) ++ rest := by simp [eq]
  have slash : byteLength (before ++ ['\\']) = byteLength before + 1 := byteLength_append ..
  have bytes := drop_bytesOf inside
  rw [slash] at bytes
  rw [escapeAt?, bytes]
  cases rest with
  | nil =>
    dsimp only [utf8Bytes, List.flatMap_nil]
    rw [eq, dropBytes?_append]
    rfl
  | cons c more =>
    obtain ⟨b, bs, read⟩ := exists_bytes c more
    have digits := agrees_digit.length_takeWhile (c :: more)
    rw [read] at digits
    have size := charLength?_append inside
    rw [slash] at size
    dsimp only
    rw [read]
    dsimp only
    rw [counted_eq read (by decide) 4, counted_eq read (by decide) 2, agrees_digit.first read,
      ofEscape]
    dsimp only
    have read_prefix := text_ofEscape_prefix (c :: more)
    rw [ofEscape] at read_prefix
    dsimp only at read_prefix
    split_ifs at read_prefix ⊢ with four two digit
    · rw [Bool.and_eq_true, beq_iff_eq, beq_iff_eq] at four
      obtain ⟨rfl, all⟩ := four
      have length : byteLength ('\\' :: 'u' :: more.take 4) = 6 :=
        byteLength_numbered rfl all
      rw [← length]
      exact pieceAt?_of_prefix _ eq read_prefix
    · rw [Bool.and_eq_true, beq_iff_eq, beq_iff_eq] at two
      obtain ⟨rfl, all⟩ := two
      have length : byteLength ('\\' :: 'x' :: more.take 2) = 4 :=
        byteLength_numbered rfl all
      rw [← length]
      exact pieceAt?_of_prefix _ eq read_prefix
    · rw [List.takeWhile_cons_of_pos digit] at digits
      rw [digits.1, ← digits.2]
      exact pieceAt?_of_prefix _ eq read_prefix
    · rw [size, Option.bind_some]
      exact pieceAt?_of_prefix _ eq read_prefix

/-! ### Parts -/

theorem queryLength?_eq (rest : List Char) :
    (queryLength? rest = none ∧ ofParenthesis rest = .group) ∨
      ∃ query, queryLength? rest = some (byteLength ('(' :: query)) ∧
        ofParenthesis rest = .nonCapturing ('(' :: query) := by
  unfold ofParenthesis
  split
  case h_7 lookBehind notBehind colon lookAhead notAhead atomic =>
    refine .inl ⟨?_, rfl⟩
    have none_opens : queries.filter (·.isPrefixOf rest) = [] := by
      refine List.filter_eq_nil_iff.mpr fun query mem opens => ?_
      obtain ⟨tail, rfl⟩ := List.isPrefixOf_iff_prefix.mp opens
      simp only [queries, List.mem_cons, List.not_mem_nil, or_false] at mem
      rcases mem with rfl | rfl | rfl | rfl | rfl | rfl
      · exact lookBehind tail rfl
      · exact notBehind tail rfl
      · exact colon tail rfl
      · exact lookAhead tail rfl
      · exact notAhead tail rfl
      · exact atomic tail rfl
    rw [queryLength?, none_opens]
    rfl
  all_goals exact .inr ⟨_, rfl, rfl⟩

/-- The part at a character is the one that begins with it. -/
theorem partAt?_append {c : Char} {rest : List Char} (eq : source.toList = before ++ c :: rest) :
    partAt? source (byteLength before) =
      some (first c rest, byteLength (first c rest).text) := by
  have inside : source.toList = (before ++ [c]) ++ rest := by simp [eq]
  rw [partAt?, byteAt_char (by decide) eq, byteAt_char (by decide) eq, byteAt_char (by decide) eq,
    byteAt_char (by decide) eq, byteAt_char (by decide) eq]
  by_cases special : isSpecial c = true
  · simp only [isSpecial, Bool.or_eq_true, beq_iff_eq] at special
    have next (ascii : c.utf8Size = 1) : byteLength (before ++ [c]) = byteLength before + 1 := by
      rw [byteLength_append, byteLength_cons, ascii]
      rfl
    rcases special with (((rfl | rfl) | rfl) | rfl) | rfl
    · have slash := next rfl
      rw [if_pos (by decide), ← slash, classEnd?_append inside]
      simp only [first]
      cases length : classLength? rest with
      | none => exact pieceAt?_of_prefix _ eq (List.prefix_append ['['] rest)
      | some n =>
        have bytes : byteLength (before ++ ['[']) + byteLength (rest.take n) - byteLength before =
            byteLength ('[' :: rest.take n) := by
          rw [slash, Nat.add_assoc, Nat.add_sub_cancel_left]
          rfl
        rw [Option.map_some, Option.bind_some]
        dsimp only
        rw [bytes]
        exact pieceAt?_of_prefix _ eq ((List.prefix_cons_inj _).mpr (List.take_prefix n rest))
    · exact escapeAt?_append eq
    · have opening : dropBytes? (byteLength before + 1) source.toList = some rest := by
        rw [← next rfl, inside, dropBytes?_append]
      change (dropBytes? (byteLength before + 1) source.toList).bind _ =
        some (ofParenthesis rest, byteLength (ofParenthesis rest).text)
      have query_prefix := text_ofParenthesis_prefix rest
      rw [opening, Option.bind_some]
      rcases queryLength?_eq rest with ⟨none, group⟩ | ⟨query, some, nonCapturing⟩
      · rw [none, group]
        rfl
      · rw [nonCapturing] at query_prefix
        rw [some, nonCapturing]
        exact pieceAt?_of_prefix _ eq query_prefix
    · rfl
    · rfl
  · rw [Bool.not_eq_true] at special
    have plain := special
    simp only [isSpecial, Bool.or_eq_false_iff] at plain
    obtain ⟨⟨⟨⟨bracket, slash⟩, opening⟩, closing⟩, caret⟩ := plain
    rw [bracket, slash, opening, closing, caret, first_of_plain special]
    have run : (c :: rest).takeWhile (!isSpecial ·) = c :: rest.takeWhile (!isSpecial ·) :=
      List.takeWhile_cons_of_pos (by rw [special]; rfl)
    change (dropBytes? (byteLength before) source.toList).bind _ = _
    rw [eq, dropBytes?_append, Option.bind_some, run]
    exact pieceAt?_of_prefix _ eq ((List.prefix_cons_inj _).mpr (List.takeWhile_prefix _))

/-! ### The whole text -/

/-- What is read from a position on is determined. -/
theorem Splits.unique {pos : Nat} {parts others : List Part} (h : Splits source pos parts)
    (h' : Splits source pos others) : parts = others := by
  induction h generalizing others with
  | done le =>
    cases h' with
    | done => rfl
    | next lt => exact absurd lt (Nat.not_lt_of_le le)
  | next lt read _ ih =>
    cases h' with
    | done le => exact absurd lt (Nat.not_lt_of_le le)
    | next _ read' rest =>
      rw [read] at read'
      cases read'
      rw [ih rest]

theorem splits_append (eq : source.toList = before ++ after) :
    Splits source (byteLength before) (split after) := by
  induction left : after.length using Nat.strongRecOn generalizing before after with
  | ind n ih =>
    cases after with
    | nil =>
      rw [split]
      exact .done (Nat.le_of_not_lt ((byteLength_lt_iff eq).not.mpr (not_not.mpr rfl)))
    | cons c rest =>
      have inside : source.toList =
          (before ++ (first c rest).text) ++ rest.drop ((first c rest).text.length - 1) := by
        rw [List.append_assoc, text_first_append_drop, eq]
      have shorter : (rest.drop ((first c rest).text.length - 1)).length < n := by
        rw [← left, List.length_drop, List.length_cons]
        omega
      have others := ih _ shorter inside rfl
      rw [byteLength_append] at others
      rw [split]
      exact .next ((byteLength_lt_iff eq).mpr (List.cons_ne_nil _ _)) (partAt?_append eq) others

/-- Whatever the pattern is, reading it by bytes comes to an end, asks for no piece that leaves the
text or divides a character, and finds the parts of the pattern. -/
theorem splits_iff {parts : List Part} : Splits source 0 parts ↔ parts = split source.toList := by
  have reading : Splits source 0 (split source.toList) := splits_append (List.nil_append _).symm
  exact ⟨fun h => h.unique reading, fun h => h ▸ reading⟩

end Tincture.Union.Part
