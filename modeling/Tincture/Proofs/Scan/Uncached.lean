import Std.Data.HashMap.Lemmas
import Tincture.Scan

/-!
Scanning without remembering.

`Fresh` scans a text in the same way as `Scan` but classifies every token anew. What a scan
remembers is only what its lexers say of a token: if this holds of the tags known before a scan, it
holds of those known after it, and the decorations are those of the fresh scan (`text_agrees`).

The tags are kept by the index of the lexer in the registry, or by no index for a lexer that the
caller brought along, so it has to be said which lexers a key may stand for.
-/

namespace Tincture

namespace Scan

/-- Decorates a text with a lexer from a position on. -/
abbrev Plain (E : Type := Regex) := Lexer E → List Char → Nat → List Decoration

variable {E : Type}

/-! ### The fresh scan -/

namespace Fresh

/-- Scans embedded text; without a lexer for it, it is plain. -/
def embedded (r : Registry E) (nested : Plain E) (language : String) (text : List Char)
    (pos : Nat) : List Decoration :=
  match r.embedded? language text with
  | some l => nested l.lexer text pos
  | none => [⟨pos, .plain⟩]

/-- Scans text around embedded text, if there is any. -/
def around (nested : Plain E) (l : Lexer E) (text : List Char) (pos : Nat) : List Decoration :=
  if text.isEmpty then [] else nested l text pos

variable [Engine E]

/-- Decorates one token. -/
def token (r : Registry E) (nested : Plain E) (l : Lexer E) (text : List Char) (pos : Nat) :
    List Decoration :=
  match l.classify text with
  | .terminal tag => [⟨pos, tag⟩]
  | .embedded language start stop =>
    let before := text.take start
    let group := (text.take stop).drop start
    let after := text.drop stop
    let inner := advance pos (byteLength before)
    around nested l before pos ++ embedded r nested language group inner ++
      around nested l after (advance inner (byteLength group))

/-- Decorates tokens that follow one another. -/
def tokens (r : Registry E) (nested : Plain E) (l : Lexer E) :
    Nat → List (List Char) → List Decoration
  | _, [] => []
  | pos, text :: rest =>
    token r nested l text pos ++ tokens r nested l (advance pos (byteLength text)) rest

/-- Scans a text with a lexer, `levels` levels of nesting being left. -/
def text (r : Registry E) : Nat → Plain E
  | 0 => fun _ _ pos => [⟨pos, .source⟩]
  | levels + 1 => fun l source pos =>
    ⟨pos, .plain⟩ :: tokens r (text r levels) l pos (l.tokens source)

/-- The simplified decorations of a text. -/
def simplified (r : Registry E) (l : Lexer E) (source : List Char) (pos : Nat) : List Decoration :=
  simplify (text r (maxEmbeddingDepth + 1) l source pos) (advance pos (byteLength source))

/-- Scans a text in a language. -/
def scan (r : Registry E) (language source : String) (base : Nat) : List Decoration :=
  (((r.embedded? language source.toList).map (·.lexer)).map
    (simplified r · source.toList base)).getD (if source.isEmpty then [] else [⟨base, .plain⟩])

end Fresh

/-! ### Lexers and what is known of them -/

/-- The lexer a key stands for in a scan: the one the registry has at this index, or else the one
the caller brought along. -/
def lexerOf? (r : Registry E) (own : Lexer E) : Option Nat → Option (Lexer E)
  | some id => r.lexers[id]?
  | none => some own

/-- The key of the lexer stands for it. -/
def Known (r : Registry E) (own : Lexer E) (l : KeyedLexer E) : Prop :=
  lexerOf? r own l.key = some l.lexer

variable {r : Registry E} {own : Lexer E} {l : KeyedLexer E}

/-- A lexer found by name is that of its index. -/
theorem known_of_find? {name : String} (h : r.find? name = some l) : Known r own l := by
  obtain ⟨id, -, found⟩ := Option.bind_eq_some_iff.mp h
  obtain ⟨lexer, at_id, rfl⟩ := Option.map_eq_some_iff.mp found
  exact at_id

theorem known_of_embedded? {language : String} {text : List Char}
    (h : r.embedded? language text = some l) : Known r own l := by
  unfold Registry.embedded? at h
  split at h
  · cases h
    rename_i found
    exact known_of_find? found
  · split at h
    · exact known_of_find? h
    · exact known_of_find? h

variable [Engine E] {cache : TagCache}

/-- What is remembered of a token is the tag its lexer gives it. -/
def Sound (r : Registry E) (own : Lexer E) (cache : TagCache) : Prop :=
  ∀ (key : Option Nat) (token : String) (tag : Tag) (l : Lexer E), lexerOf? r own key = some l →
    cache[(key, token)]? = some tag → l.classify token.toList = .terminal tag

/-- The decorations are those given, and what is remembered remains sound. -/
structure Yields (r : Registry E) (own : Lexer E) (ds : List Decoration) (result : Result) :
    Prop where
  decorations : result.1 = ds
  sound : Sound r own result.2

/-- The scanner does the same as the one that remembers nothing. -/
def Agrees (r : Registry E) (own : Lexer E) (nested : Scanner E) (fresh : Plain E) : Prop :=
  ∀ l source pos cache, Known r own l → Sound r own cache →
    Yields r own (fresh l.lexer source pos) (nested l source pos cache)

theorem sound_empty : Sound r own ∅ := by
  intro key token tag l _ found
  simp at found

/-- A tag that its lexer gave may be remembered. -/
theorem Sound.insert (h : Sound r own cache) (known : Known r own l) {token : List Char} {tag : Tag}
    (eq : l.lexer.classify token = .terminal tag) :
    Sound r own (cache.insert (l.key, String.ofList token) tag) := by
  intro key text other m stands found
  rw [Std.HashMap.getElem?_insert] at found
  split at found
  · rename_i same
    have same := eq_of_beq same
    cases same
    cases found
    rw [known] at stands
    cases stands
    rw [String.toList_ofList, eq]
  · exact h key text other m stands found

/-! ### Agreement -/

/-- With or without what is remembered, the token is classified the same. -/
theorem classify_agrees (known : Known r own l) (h : Sound r own cache) (token : List Char) :
    (classify l token cache).1 = l.lexer.classify token ∧
      Sound r own (classify l token cache).2 := by
  unfold classify
  dsimp only
  cases found : cache[(l.key, String.ofList token)]? with
  | some tag =>
    have eq := h l.key (String.ofList token) tag l.lexer known found
    rw [String.toList_ofList] at eq
    exact ⟨eq.symm, h⟩
  | none =>
    cases eq : l.lexer.classify token with
    | terminal tag => exact ⟨rfl, h.insert known eq⟩
    | embedded language start stop => exact ⟨rfl, h⟩

variable {nested : Scanner E} {fresh : Plain E}

theorem embedded_agrees (agrees : Agrees r own nested fresh) (h : Sound r own cache)
    (language : String) (text : List Char) (pos : Nat) :
    Yields r own (Fresh.embedded r fresh language text pos)
      (embedded r nested language text pos cache) := by
  unfold embedded Fresh.embedded
  cases found : r.embedded? language text with
  | some l => exact agrees l text pos cache (known_of_embedded? found) h
  | none => exact ⟨rfl, h⟩

theorem around_agrees (agrees : Agrees r own nested fresh) (known : Known r own l)
    (h : Sound r own cache) (text : List Char) (pos : Nat) :
    Yields r own (Fresh.around fresh l.lexer text pos) (around nested l text pos cache) := by
  unfold around Fresh.around
  split
  · exact ⟨rfl, h⟩
  · exact agrees l text pos cache known h

theorem token_agrees (agrees : Agrees r own nested fresh) (known : Known r own l)
    (h : Sound r own cache) (text : List Char) (pos : Nat) :
    Yields r own (Fresh.token r fresh l.lexer text pos) (token r nested l text pos cache) := by
  obtain ⟨same, h⟩ := classify_agrees known h text
  unfold token Fresh.token
  rw [← same]
  cases eq : classify l text cache with
  | mk answer cache =>
    rw [eq] at h
    cases answer with
    | terminal tag => exact ⟨rfl, h⟩
    | embedded language start stop =>
      have first := around_agrees agrees known h (text.take start) pos
      have second := embedded_agrees agrees first.sound language ((text.take stop).drop start)
        (advance pos (byteLength (text.take start)))
      have third := around_agrees agrees known second.sound (text.drop stop)
        (advance (advance pos (byteLength (text.take start)))
          (byteLength ((text.take stop).drop start)))
      refine ⟨?_, third.sound⟩
      dsimp only
      rw [← first.decorations, ← second.decorations, ← third.decorations]

theorem tokens_agree (agrees : Agrees r own nested fresh) (known : Known r own l)
    (h : Sound r own cache) (texts : List (List Char)) (pos : Nat) :
    Yields r own (Fresh.tokens r fresh l.lexer pos texts) (tokens r nested l pos texts cache) := by
  induction texts generalizing pos cache with
  | nil => exact ⟨rfl, h⟩
  | cons text rest ih =>
    have first := token_agrees agrees known h text pos
    have others := ih first.sound (advance pos (byteLength text))
    refine ⟨?_, others.sound⟩
    simp only [tokens, Fresh.tokens]
    rw [← first.decorations, ← others.decorations]

/-- At every level a scan decorates as if it remembered nothing. -/
theorem text_agrees (r : Registry E) (own : Lexer E) (levels : Nat) :
    Agrees r own (text r levels) (Fresh.text r levels) := by
  induction levels with
  | zero => exact fun _ _ _ _ _ h => ⟨rfl, h⟩
  | succ levels ih =>
    intro l source pos cache known h
    have rest := tokens_agree ih known h (l.lexer.tokens source) pos
    exact ⟨congrArg (Decoration.mk pos .plain :: ·) rest.decorations, rest.sound⟩

/-- The decorations of a text are those of the fresh scan. -/
theorem decorations_eq_fresh (known : Known r own l) (source : List Char) (pos : Nat) :
    decorations r l source pos = Fresh.text r (maxEmbeddingDepth + 1) l.lexer source pos :=
  (text_agrees r own _ l source pos ∅ known sound_empty).decorations

theorem simplified_eq_fresh (known : Known r own l) (source : List Char) (pos : Nat) :
    simplified r l source pos = Fresh.simplified r l.lexer source pos := by
  rw [simplified, decorations_eq_fresh known, Fresh.simplified]

/-- A scan in a language is the fresh scan. -/
theorem scan_eq_fresh {r : Registry E} (frozen : r.frozen = true) (language source : String)
    (base : Nat) : r.scan language source base = .ok (Fresh.scan r language source base) := by
  unfold Registry.scan Fresh.scan
  rw [if_pos frozen]
  cases found : r.embedded? language source.toList with
  | none => rfl
  | some l =>
    have known : Known r l.lexer l := known_of_embedded? found
    exact congrArg Except.ok (simplified_eq_fresh known source.toList base)

end Scan

end Tincture
