import Tincture.Proofs.Scan.Reference

/-!
Scanning from another position on.

A scan that counts its positions from `base` gives the decorations of the scan that counts from 0,
each moved on by `base`, as long as the text ends at a position (`scan_shift`). Where a text begins
has no say in how it is taken apart or classified; it is only added to, for tokens as for the three
parts of a token with embedded text.
Simplifying compares positions with each other and with the end of the text, which moves on as well.

What a scan remembers does not depend on positions either, but the induction is on the fresh scan,
which spares the proof from saying so.
-/

namespace Tincture

/-! ### Decorations further on -/

/-- The decoration `n` bytes further on. -/
def Decoration.shift (n : Nat) (d : Decoration) : Decoration :=
  { d with position := d.position + n }

@[simp] theorem Decoration.position_shift (n : Nat) (d : Decoration) :
    (d.shift n).position = d.position + n := rfl

@[simp] theorem Decoration.tag_shift (n : Nat) (d : Decoration) : (d.shift n).tag = d.tag := rfl

theorem nextPosition_shift (n stop : Nat) (ds : List Decoration) :
    nextPosition (stop + n) (ds.map (·.shift n)) = nextPosition stop ds + n := by
  cases ds <;> rfl

theorem dropEmpty_shift (n stop : Nat) (ds : List Decoration) :
    dropEmpty (stop + n) (ds.map (·.shift n)) = (dropEmpty stop ds).map (·.shift n) := by
  induction ds with
  | nil => rfl
  | cons d ds ih =>
    simp only [List.map_cons, dropEmpty, nextPosition_shift, Decoration.position_shift,
      Nat.add_right_cancel_iff, ih]
    split <;> rfl

theorem dropRepeats_shift (n : Nat) (last : Option Tag) (ds : List Decoration) :
    dropRepeats last (ds.map (·.shift n)) = (dropRepeats last ds).map (·.shift n) := by
  induction ds generalizing last with
  | nil => rfl
  | cons d ds ih =>
    simp only [List.map_cons, dropRepeats, Decoration.tag_shift, ih]
    split <;> rfl

theorem simplify_shift (n stop : Nat) (ds : List Decoration) :
    simplify (ds.map (·.shift n)) (stop + n) = (simplify ds stop).map (·.shift n) := by
  rw [simplify_eq_passes, simplify_eq_passes, dropEmpty_shift, dropRepeats_shift]

namespace Scan

variable {E : Type}

/-! ### The fresh scan -/

/-- Wherever the text begins, it is decorated alike, as long as it ends at a position. -/
def Shifts (nested : Plain E) : Prop :=
  ∀ l text pos n, pos + n + byteLength text < positionLimit →
    nested l text (pos + n) = (nested l text pos).map (·.shift n)

theorem advance_shift {pos n bytes : Nat} (fits : pos + n + bytes < positionLimit) :
    advance (pos + n) bytes = advance pos bytes + n := by
  rw [advance_of_lt fits, advance_of_lt (by omega), Nat.add_right_comm]

variable {nested : Plain E}

theorem embedded_shift (shifts : Shifts nested) (r : Registry E) (language : String)
    {text : List Char} {pos n : Nat} (fits : pos + n + byteLength text < positionLimit) :
    Fresh.embedded r nested language text (pos + n) =
      (Fresh.embedded r nested language text pos).map (·.shift n) := by
  unfold Fresh.embedded
  cases r.embedded? language text with
  | some l => exact shifts l.lexer text pos n fits
  | none => rfl

theorem around_shift (shifts : Shifts nested) (l : Lexer E) {text : List Char} {pos n : Nat}
    (fits : pos + n + byteLength text < positionLimit) :
    Fresh.around nested l text (pos + n) = (Fresh.around nested l text pos).map (·.shift n) := by
  unfold Fresh.around
  split
  · rfl
  · exact shifts l text pos n fits

variable [Engine E]

theorem token_shift (shifts : Shifts nested) (r : Registry E) (l : Lexer E) {text : List Char}
    {pos n : Nat} (fits : pos + n + byteLength text < positionLimit) :
    Fresh.token r nested l text (pos + n) =
      (Fresh.token r nested l text pos).map (·.shift n) := by
  unfold Fresh.token
  cases eq : l.classify text with
  | terminal tag => rfl
  | embedded language start stop =>
    have sum := congrArg byteLength (Lexer.parts_of_classify eq)
    rw [byteLength_append, byteLength_append] at sum
    dsimp only
    generalize text.take start = before at sum ⊢
    generalize (text.take stop).drop start = group at sum ⊢
    generalize text.drop stop = after at sum ⊢
    have inner : advance pos (byteLength before) = pos + byteLength before :=
      advance_of_lt (by omega)
    have behind : advance (pos + byteLength before) (byteLength group) =
        pos + byteLength before + byteLength group := advance_of_lt (by omega)
    rw [advance_shift (by omega), inner, advance_shift (by omega), behind,
      around_shift shifts l (by omega), embedded_shift shifts r language (by omega),
      around_shift shifts l (by omega), List.map_append, List.map_append]

theorem tokens_shift (shifts : Shifts nested) (r : Registry E) (l : Lexer E)
    {texts : List (List Char)} {pos n : Nat}
    (fits : pos + n + byteLength texts.flatten < positionLimit) :
    Fresh.tokens r nested l (pos + n) texts =
      (Fresh.tokens r nested l pos texts).map (·.shift n) := by
  induction texts generalizing pos with
  | nil => rfl
  | cons text rest ih =>
    rw [List.flatten_cons, byteLength_append] at fits
    have next : advance pos (byteLength text) = pos + byteLength text := advance_of_lt (by omega)
    rw [Fresh.tokens, Fresh.tokens, List.map_append, token_shift shifts r l (by omega),
      advance_shift (by omega), next, ih (by omega)]

/-- At every level. -/
theorem text_shift (r : Registry E) (levels : Nat) : Shifts (Fresh.text r levels) := by
  induction levels with
  | zero => exact fun _ _ _ _ _ => rfl
  | succ levels ih =>
    intro l source pos n fits
    rw [← l.flatten_tokens source] at fits
    simp only [Fresh.text, tokens_shift ih r l fits]
    rfl

variable {r : Registry E} {own : Lexer E} {l : KeyedLexer E}

theorem simplified_shift (known : Known r own l) {source : List Char} {base : Nat}
    (fits : base + byteLength source < positionLimit) :
    simplified r l source base = (simplified r l source 0).map (·.shift base) := by
  rw [← Nat.zero_add base] at fits
  have moved := text_shift r (maxEmbeddingDepth + 1) l.lexer source 0 base fits
  have stop := advance_shift fits
  rw [Nat.zero_add] at moved stop
  rw [simplified, simplified, decorations_eq_fresh known, decorations_eq_fresh known, moved, stop,
    simplify_shift]

/-! ### Main result -/

/-- Whatever a frozen registry scans from a position on, in any language and with any lexer, it
gives the decorations it gives from 0 on, moved on by that position, as long as the text ends at a
position. -/
theorem scan_shift (r : Registry E) (frozen : r.frozen = true) (source : String) (base : Nat)
    (fits : base + source.utf8ByteSize < positionLimit) :
    (∀ language, ∃ ds, r.scan language source 0 = .ok ds ∧
      r.scan language source base = .ok (ds.map (·.shift base))) ∧
    ∀ lexer, ∃ ds, r.scanWith lexer source 0 = .ok ds ∧
      r.scanWith lexer source base = .ok (ds.map (·.shift base)) := by
  rw [← byteLength_toList] at fits
  constructor
  · intro language
    simp only [Registry.scan, if_pos frozen]
    cases found : r.embedded? language source.toList with
    | some l =>
      have known : Known r l.lexer l := known_of_embedded? found
      exact ⟨_, rfl, congrArg Except.ok (simplified_shift known fits)⟩
    | none =>
      refine ⟨_, rfl, ?_⟩
      dsimp only
      split
      · rfl
      · rw [List.map_singleton, Decoration.shift, Nat.zero_add]
  · intro lexer
    have known : Known r lexer ⟨none, lexer⟩ := rfl
    simp only [Registry.scanWith, if_pos frozen]
    exact ⟨_, rfl, congrArg Except.ok (simplified_shift known fits)⟩

/-- Embedded text behind a character of two bytes, from a position other than 0 on. -/
theorem scan_shift_bracketed :
    ∃ r : Registry, Registry.ofDefinitions bracketed = .ok r ∧ r.frozen = true ∧
      7 + "é<x>".utf8ByteSize < positionLimit ∧
      r.scan "outer" "é<x>" 0 =
        .ok [⟨0, .keyword⟩, ⟨2, .punctuation⟩, ⟨3, .string⟩, ⟨4, .punctuation⟩] ∧
      r.scan "outer" "é<x>" 7 =
        .ok [⟨7, .keyword⟩, ⟨9, .punctuation⟩, ⟨10, .string⟩, ⟨11, .punctuation⟩] ∧
      ∀ lexer, ∃ ds, r.scanWith lexer "é<x>" 0 = .ok ds ∧
        r.scanWith lexer "é<x>" 7 = .ok (ds.map (·.shift 7)) := by
  obtain ⟨r, eq⟩ := exists_bracketed
  have frozen := Registry.frozen_of_ofDefinitions eq
  have fits : 7 + "é<x>".utf8ByteSize < positionLimit := by decide
  obtain ⟨named, brought⟩ := scan_shift r frozen "é<x>" 7 fits
  have scanned : r.scan "outer" "é<x>" 0 =
      .ok [⟨0, .keyword⟩, ⟨2, .punctuation⟩, ⟨3, .string⟩, ⟨4, .punctuation⟩] :=
    scan_bracketed eq (by decide +kernel)
  obtain ⟨ds, scanned', moved⟩ := named "outer"
  cases scanned.symm.trans scanned'
  exact ⟨r, eq, frozen, fits, scanned, moved, brought⟩

end Scan

end Tincture
