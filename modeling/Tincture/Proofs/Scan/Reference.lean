import Tincture.Proofs.Decoration.Simplify
import Tincture.Proofs.Lexer.Partition
import Tincture.Proofs.Scan.Uncached

/-!
What a scan paints.

`Reference` gives each byte of a text its tag directly, without decorations: tokens one after the
other, and in a token with embedded text the three parts in their languages, one level further down.
A scan only says where stretches of text begin, so nothing in its decorations ends a stretch; still
no tag runs on into the text behind it, because the text behind begins with a decoration of its own.

`text_paints` says this of the decorations before they are simplified, by induction on the levels
that are left and on the tokens. From it follow what `scan` paints and how its decorations lie in
the text.
-/

namespace Tincture

variable {E : Type}

/-! ### The reference -/

namespace Reference

/-- Gives the bytes of a text that a lexer reads their tags. -/
abbrev Painter (E : Type := Regex) := Lexer E → List Char → List Tag

/-- The tags of text in a language; without a lexer for it, it is plain. -/
def embedded (r : Registry E) (nested : Painter E) (language : String) (text : List Char) :
    List Tag :=
  match r.embedded? language text with
  | some l => nested l.lexer text
  | none => List.replicate (byteLength text) .plain

variable [Engine E]

/-- The tags of a token. -/
def token (r : Registry E) (nested : Painter E) (l : Lexer E) (text : List Char) : List Tag :=
  match l.classify text with
  | .terminal tag => List.replicate (byteLength text) tag
  | .embedded language start stop =>
    nested l (text.take start) ++
      embedded r nested language ((text.take stop).drop start) ++
      nested l (text.drop stop)

/-- The tags of a text at a depth of nesting. Beyond the greatest depth it is source. -/
def text (r : Registry E) (depth : Nat) : Painter E := fun l source =>
  if maxEmbeddingDepth < depth then List.replicate (byteLength source) .source
  else (l.tokens source).flatMap (token r (text r (depth + 1)) l)
termination_by maxEmbeddingDepth + 1 - depth

end Reference

/-! ### The decorations paint the reference -/

namespace Scan

/-- The scanner paints what the painter says, of any text but the empty one, as long as the text
ends at a position. -/
def Follows (nested : Plain E) (painter : Reference.Painter E) : Prop :=
  ∀ l text pos, text ≠ [] → pos + byteLength text < positionLimit →
    Paints pos text (painter l text) (nested l text pos)

/-- The painter has no tags for the empty text. -/
def Silent (painter : Reference.Painter E) : Prop := ∀ l, painter l [] = []

theorem silent_text [Engine E] (r : Registry E) (depth : Nat) :
    Silent (Reference.text r depth) := by
  intro l
  rw [Reference.text]
  split
  · rfl
  · rw [Lexer.tokens_nil]
    rfl

variable {r : Registry E} {nested : Plain E} {painter : Reference.Painter E}

theorem embedded_paints (follows : Follows nested painter) (language : String) {text : List Char}
    (nonempty : text ≠ []) {pos : Nat} (fits : pos + byteLength text < positionLimit) :
    Paints pos text (Reference.embedded r painter language text)
      (Fresh.embedded r nested language text pos) := by
  unfold Reference.embedded Fresh.embedded
  cases r.embedded? language text with
  | some l => exact follows l.lexer text pos nonempty fits
  | none => exact .replicate pos .plain nonempty

theorem around_paints (follows : Follows nested painter) (silent : Silent painter) (l : Lexer E)
    {text : List Char} {pos : Nat} (fits : pos + byteLength text < positionLimit) :
    Paints pos text (painter l text) (Fresh.around nested l text pos) := by
  unfold Fresh.around
  cases text with
  | nil =>
    rw [silent l]
    exact .nil pos
  | cons c cs => exact follows l (c :: cs) pos (List.cons_ne_nil c cs) fits

variable [Engine E] [Engine.Confined E]

theorem token_paints (follows : Follows nested painter) (silent : Silent painter) (l : Lexer E)
    {text : List Char} (nonempty : text ≠ []) {pos : Nat}
    (fits : pos + byteLength text < positionLimit) :
    Paints pos text (Reference.token r painter l text) (Fresh.token r nested l text pos) := by
  unfold Reference.token Fresh.token
  cases eq : l.classify text with
  | terminal tag => exact .replicate pos tag nonempty
  | embedded language start stop =>
    have group := Lexer.group_ne_nil_of_classify eq
    have parts := Lexer.parts_of_classify eq
    have sum := congrArg byteLength parts
    rw [byteLength_append, byteLength_append] at sum
    dsimp only
    generalize text.take start = before at parts sum ⊢
    generalize (text.take stop).drop start = inside at group parts sum ⊢
    generalize text.drop stop = after at parts sum ⊢
    have inner : advance pos (byteLength before) = pos + byteLength before :=
      advance_of_lt (by omega)
    have behind : advance (pos + byteLength before) (byteLength inside) =
        pos + byteLength before + byteLength inside := advance_of_lt (by omega)
    have first : Paints pos before (painter l before) (Fresh.around nested l before pos) :=
      around_paints follows silent l (by omega)
    have second : Paints (pos + byteLength before) inside
        (Reference.embedded r painter language inside)
        (Fresh.embedded r nested language inside (pos + byteLength before)) :=
      embedded_paints follows language group (by omega)
    have third : Paints (pos + byteLength before + byteLength inside) after (painter l after)
        (Fresh.around nested l after (pos + byteLength before + byteLength inside)) :=
      around_paints follows silent l (by omega)
    have whole := first.append (second.append third)
    rw [parts] at whole
    rw [inner, behind, List.append_assoc, List.append_assoc]
    exact whole

theorem tokens_paint (follows : Follows nested painter) (silent : Silent painter) (l : Lexer E)
    {texts : List (List Char)} (nonempty : ∀ text ∈ texts, text ≠ []) {pos : Nat}
    (fits : pos + byteLength texts.flatten < positionLimit) :
    Paints pos texts.flatten (texts.flatMap (Reference.token r painter l))
      (Fresh.tokens r nested l pos texts) := by
  induction texts generalizing pos with
  | nil => exact .nil pos
  | cons text rest ih =>
    rw [List.flatten_cons, byteLength_append] at fits
    obtain ⟨solid, nonempty⟩ := List.forall_mem_cons.mp nonempty
    have next : advance pos (byteLength text) = pos + byteLength text := advance_of_lt (by omega)
    rw [List.flatMap_cons, Fresh.tokens, next]
    exact (token_paints follows silent l solid (by omega)).append (ih nonempty (by omega))

/-- A scan with some levels left paints what the reference says at the depth it has reached. -/
theorem text_paints (r : Registry E) {levels depth : Nat}
    (h : depth + levels = maxEmbeddingDepth + 1) :
    Follows (Fresh.text r levels) (Reference.text r depth) := by
  induction levels generalizing depth with
  | zero =>
    intro l text pos nonempty _
    rw [Reference.text, if_pos (by omega)]
    exact .replicate pos .source nonempty
  | succ levels ih =>
    intro l text pos nonempty fits
    have further : depth + 1 + levels = maxEmbeddingDepth + 1 := by omega
    have nonempty_tokens : ∀ token ∈ l.tokens text, token ≠ [] := fun _ =>
      Lexer.ne_nil_of_mem_tokens
    rw [← l.flatten_tokens text] at fits
    have tokens := tokens_paint (r := r) (ih further) (silent_text r (depth + 1)) l nonempty_tokens
      fits
    rw [Lexer.flatten_tokens] at tokens
    rw [Reference.text, if_neg (by omega)]
    exact tokens.cons .plain nonempty

/-! ### Simplified decorations -/

variable {own : Lexer E} {l : KeyedLexer E}

/-- The simplified decorations of a text paint what the reference says, and no fewer would do. -/
theorem simplified_paints (known : Known r own l) {source : List Char} {base : Nat}
    (fits : base + byteLength source < positionLimit) :
    Paints base source (Reference.text r 0 l.lexer source) (simplified r l source base) ∧
      Canonical (base + byteLength source) (simplified r l source base) := by
  unfold simplified
  rw [decorations_eq_fresh known, advance_of_lt fits]
  cases source with
  | nil =>
    -- For the empty text there is one decoration, which stands at its end and is dropped.
    have none : simplify (Fresh.text r (maxEmbeddingDepth + 1) l.lexer [] base) base = [] := by
      simp [simplify_eq_passes, Fresh.text, Fresh.tokens, dropEmpty, nextPosition, dropRepeats]
    rw [silent_text r 0 l.lexer, byteLength_nil, Nat.add_zero base, none]
    exact ⟨.nil base, .nil, fun _ mem => absurd mem List.not_mem_nil, .nil⟩
  | cons c cs =>
    have paints := text_paints r (Nat.zero_add _) l.lexer (c :: cs) base (List.cons_ne_nil c cs)
      fits
    exact ⟨paints.simplify, canonical_simplify paints.ordered⟩

/-- Scanning in a language, known or not. -/
theorem scan_paints {r : Registry E} (frozen : r.frozen = true) (language : String)
    {source : String} {base : Nat} (fits : base + source.utf8ByteSize < positionLimit) :
    ∃ ds, r.scan language source base = .ok ds ∧
      Paints base source.toList (Reference.embedded r (Reference.text r 0) language source.toList)
        ds ∧
      Canonical (base + byteLength source.toList) ds := by
  unfold Registry.scan Reference.embedded
  rw [if_pos frozen]
  rw [← byteLength_toList] at fits
  cases found : r.embedded? language source.toList with
  | some l =>
    have known : Known r l.lexer l := known_of_embedded? found
    exact ⟨_, rfl, simplified_paints known fits⟩
  | none =>
    refine ⟨_, rfl, ?_⟩
    by_cases empty : source = ""
    · subst empty
      exact ⟨.nil base, .nil, fun _ mem => absurd mem List.not_mem_nil, .nil⟩
    · have nonempty : source.toList ≠ [] := by simpa using empty
      have := byteLength_pos nonempty
      rw [if_neg (by simpa using empty)]
      exact ⟨.replicate base .plain nonempty, List.pairwise_singleton _ _, by simpa using this,
        .singleton _⟩

/-! ### What a scan paints -/

/-- Scanning paints each byte of the text with the tag the reference gives it, as long as the text
ends at a position. -/
theorem tagAt?_scan (r : Registry E) (frozen : r.frozen = true) (language source : String)
    (base : Nat) (fits : base + source.utf8ByteSize < positionLimit) :
    ∃ ds, r.scan language source base = .ok ds ∧
      (Reference.embedded r (Reference.text r 0) language source.toList).length =
        source.utf8ByteSize ∧
      ∀ b < source.utf8ByteSize, tagAt? ds (base + b) =
        (Reference.embedded r (Reference.text r 0) language source.toList)[b]? := by
  obtain ⟨ds, scanned, paints, -⟩ := scan_paints frozen language fits
  have size := paints.length_eq
  rw [byteLength_toList] at size
  refine ⟨ds, scanned, size, ?_⟩
  intro b lt
  rw [← size] at lt
  rw [paints.tagged b lt, List.getElem?_eq_getElem lt]

/-- Two languages, the second of which may stand in angle brackets within the first. -/
def bracketed : List Definition :=
  [{ names := ["outer"]
     rules := some
      { fallbacks := [.embedding "inner" "<(x)>", .tagged .punctuation "<|>",
          .tagged .keyword "é", .tagged .plain "\\n"] } },
   { names := ["inner"], rules := some { fallbacks := [.tagged .string "x"] } }]

theorem exists_bracketed : ∃ r, Registry.ofDefinitions bracketed = .ok r := by
  have compiles :
      (Registry.ofDefinitions bracketed : Except Error Registry).toOption.isSome = true := by
    decide +kernel
  cases eq : Registry.ofDefinitions bracketed with
  | error e =>
    rw [eq] at compiles
    cases compiles
  | ok r => exact ⟨r, rfl⟩

/-- What a scan with these languages gives may be read off a fresh scan. -/
theorem scan_bracketed {r : Registry} (eq : Registry.ofDefinitions bracketed = .ok r)
    {language source : String} {base : Nat} {ds : List Decoration}
    (evaluated : (Registry.ofDefinitions bracketed : Except Error Registry).toOption.map
      (Fresh.scan · language source base) = some ds) : r.scan language source base = .ok ds := by
  rw [eq] at evaluated
  rw [scan_eq_fresh (Registry.frozen_of_ofDefinitions eq)]
  exact congrArg Except.ok (Option.some.inj evaluated)

/-- The tag of the inner language does not run on into the bracket behind it. -/
theorem tagAt?_scan_bracketed :
    ∃ (r : Registry) (ds : List Decoration), Registry.ofDefinitions bracketed = .ok r ∧
      r.frozen = true ∧ 3 + "é<x>".utf8ByteSize < positionLimit ∧
      r.scan "outer" "é<x>" 3 = .ok ds ∧
      ∀ b < 5, tagAt? ds (3 + b) =
        [Tag.keyword, .keyword, .punctuation, .string, .punctuation][b]? := by
  obtain ⟨r, eq⟩ := exists_bracketed
  have frozen := Registry.frozen_of_ofDefinitions eq
  have evaluated : (Registry.ofDefinitions bracketed : Except Error Registry).toOption.map (fun r =>
      Reference.embedded r (Reference.text r 0) "outer" "é<x>".toList) =
        some [.keyword, .keyword, .punctuation, .string, .punctuation] := by decide +kernel
  rw [eq] at evaluated
  have tags : Reference.embedded r (Reference.text r 0) "outer" "é<x>".toList =
      [.keyword, .keyword, .punctuation, .string, .punctuation] := Option.some.inj evaluated
  have size : "é<x>".utf8ByteSize = 5 := by decide +kernel
  have fits : 3 + "é<x>".utf8ByteSize < positionLimit := by decide
  obtain ⟨ds, scanned, -, tagged⟩ := tagAt?_scan r frozen "outer" "é<x>" 3 fits
  rw [tags, size] at tagged
  exact ⟨r, ds, eq, frozen, fits, scanned, tagged⟩

end Scan

end Tincture
