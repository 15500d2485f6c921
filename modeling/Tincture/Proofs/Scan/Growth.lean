import Tincture.Proofs.Lexer.Partition
import Tincture.Proofs.Scan.Uncached
import Tincture.Proofs.Text.Utf8

/-!
How much a scan can write.

A token with embedded text may lead to three scans, two of them with the same lexer, so the number
of scans could double from level to level. It does not, because the three texts are parts of the
token and none of them is empty: with `levels` levels left a scan writes at most `levels + 1`
decorations for each byte of its text (`length_text_le`), whatever the rules are.

That no scan within another begins on the empty text is said by `unlessEmpty`, which leaves every
empty text to some other scanner. What the other scanner does never shows.
-/

namespace Tincture

namespace Scan

variable {E : Type} {r : Registry E} {nested nested' : Scanner E}

/-- Embedded text is found by the lexer, never among what is remembered. -/
theorem classify_of_embedded [Engine E] {l : KeyedLexer E} {text : List Char}
    {cache after : TagCache} {language : String} {start stop : Nat}
    (h : classify l text cache = (.embedded language start stop, after)) :
    l.lexer.classify text = .embedded language start stop := by
  unfold classify at h
  dsimp only at h
  split at h
  · cases h
  · split at h
    · cases h
    · exact congrArg Prod.fst h

/-! ### The number of decorations -/

/-- The scanner writes at most `k` decorations for each byte of a text that is not empty. -/
def Bounded (k : Nat) (nested : Scanner E) : Prop :=
  ∀ l text pos cache, text ≠ [] → (nested l text pos cache).1.length ≤ k * byteLength text

/-- One decoration is within the bound for a text that is not empty. -/
theorem one_le_mul_byteLength {k : Nat} (positive : 0 < k) {text : List Char}
    (nonempty : text ≠ []) : 1 ≤ k * byteLength text :=
  Nat.mul_pos positive (byteLength_pos nonempty)

variable {k : Nat}

theorem length_embedded_le (bounded : Bounded k nested) (positive : 0 < k) (language : String)
    {text : List Char} (nonempty : text ≠ []) (pos : Nat) (cache : TagCache) :
    (embedded r nested language text pos cache).1.length ≤ k * byteLength text := by
  unfold embedded
  cases r.embedded? language text with
  | some l => exact bounded l text pos cache nonempty
  | none => exact one_le_mul_byteLength positive nonempty

theorem length_around_le (bounded : Bounded k nested) (l : KeyedLexer E) (text : List Char)
    (pos : Nat) (cache : TagCache) :
    (around nested l text pos cache).1.length ≤ k * byteLength text := by
  unfold around
  split
  · exact Nat.zero_le _
  · rename_i nonempty
    exact bounded l text pos cache (by simpa using nonempty)

section

variable [Engine E] [Engine.Confined E]

/-- The parts of a token share its bytes, so the bounds for them add up to that for the token. -/
theorem length_token_le (bounded : Bounded k nested) (positive : 0 < k)
    (l : KeyedLexer E) {text : List Char} (nonempty : text ≠ []) (pos : Nat) (cache : TagCache) :
    (token r nested l text pos cache).1.length ≤ k * byteLength text := by
  unfold token
  cases eq : classify l text cache with
  | mk answer cache =>
    cases answer with
    | terminal tag => exact one_le_mul_byteLength positive nonempty
    | embedded language start stop =>
      have answer := classify_of_embedded eq
      have group := Lexer.group_ne_nil_of_classify answer
      have parts := congrArg byteLength (Lexer.parts_of_classify answer)
      rw [byteLength_append, byteLength_append] at parts
      dsimp only
      rw [List.length_append, List.length_append, ← parts, Nat.mul_add, Nat.mul_add,
        ← Nat.add_assoc]
      refine Nat.add_le_add (Nat.add_le_add ?_ ?_) ?_
      · exact length_around_le bounded l _ _ _
      · exact length_embedded_le bounded positive language group _ _
      · exact length_around_le bounded l _ _ _

theorem length_tokens_le (r : Registry E) (bounded : Bounded k nested)
    (positive : 0 < k) (l : KeyedLexer E) {texts : List (List Char)}
    (nonempty : ∀ text ∈ texts, text ≠ []) (pos : Nat) (cache : TagCache) :
    (tokens r nested l pos texts cache).1.length ≤ k * byteLength texts.flatten := by
  induction texts generalizing pos cache with
  | nil => exact Nat.zero_le _
  | cons text rest ih =>
    obtain ⟨first, others⟩ := List.forall_mem_cons.mp nonempty
    simp only [tokens, List.length_append, List.flatten_cons, byteLength_append, Nat.mul_add]
    exact Nat.add_le_add (length_token_le bounded positive l first pos cache) (ih others _ _)

/-- Each level adds at most one decoration for each byte: the one at the beginning of the text. -/
theorem length_text_le (r : Registry E) (levels : Nat) :
    Bounded (levels + 1) (text r levels) := by
  induction levels with
  | zero =>
    intro l text pos cache nonempty
    exact one_le_mul_byteLength Nat.one_pos nonempty
  | succ levels ih =>
    intro l source pos cache nonempty
    have solid : ∀ token ∈ l.lexer.tokens source, token ≠ [] :=
      fun _ => Lexer.ne_nil_of_mem_tokens
    have written := length_tokens_le r ih (Nat.succ_pos levels) l solid pos cache
    rw [Lexer.flatten_tokens] at written
    have one := byteLength_pos nonempty
    rw [text, List.length_cons, Nat.succ_mul]
    omega

end

/-! ### Empty text -/

/-- Scans as `text` does, but leaves empty text to another scanner, at whatever level it comes up.
-/
def unlessEmpty [Engine E] (r : Registry E) (other : Scanner E) : Nat → Scanner E
  | 0 => fun l source pos cache =>
    if source.isEmpty then other l source pos cache else ([⟨pos, .source⟩], cache)
  | levels + 1 => fun l source pos cache =>
    if source.isEmpty then other l source pos cache
    else
      let (decorations, cache) :=
        tokens r (unlessEmpty r other levels) l pos (l.lexer.tokens source) cache
      (⟨pos, .plain⟩ :: decorations, cache)

/-- The scanners do the same with any text but the empty one. -/
def SameUnlessEmpty (nested nested' : Scanner E) : Prop :=
  ∀ l text pos cache, text ≠ [] → nested l text pos cache = nested' l text pos cache

theorem embedded_same (same : SameUnlessEmpty nested nested') (language : String)
    {text : List Char} (nonempty : text ≠ []) (pos : Nat) (cache : TagCache) :
    embedded r nested language text pos cache = embedded r nested' language text pos cache := by
  unfold embedded
  cases r.embedded? language text with
  | some l => exact same l text pos cache nonempty
  | none => rfl

theorem around_same (same : SameUnlessEmpty nested nested') (l : KeyedLexer E) (text : List Char)
    (pos : Nat) (cache : TagCache) :
    around nested l text pos cache = around nested' l text pos cache := by
  unfold around
  split
  · rfl
  · rename_i nonempty
    exact same l text pos cache (by simpa using nonempty)

variable [Engine E] [Engine.Confined E]

/-- What a nested scanner does with the empty text does not matter to any token. -/
theorem token_same (same : SameUnlessEmpty nested nested') (l : KeyedLexer E)
    (text : List Char) (pos : Nat) (cache : TagCache) :
    token r nested l text pos cache = token r nested' l text pos cache := by
  unfold token
  cases eq : classify l text cache with
  | mk answer cache =>
    cases answer with
    | terminal tag => rfl
    | embedded language start stop =>
      have group := Lexer.group_ne_nil_of_classify (classify_of_embedded eq)
      simp only [around_same same, embedded_same same language group]

theorem tokens_same (same : SameUnlessEmpty nested nested') (l : KeyedLexer E)
    (texts : List (List Char)) (pos : Nat) (cache : TagCache) :
    tokens r nested l pos texts cache = tokens r nested' l pos texts cache := by
  induction texts generalizing pos cache with
  | nil => rfl
  | cons text rest ih => simp only [tokens, token_same same, ih]

theorem unlessEmpty_same (r : Registry E) (other : Scanner E) (levels : Nat) :
    SameUnlessEmpty (unlessEmpty r other levels) (text r levels) := by
  induction levels with
  | zero =>
    intro l source pos cache nonempty
    exact if_neg (by simpa using nonempty)
  | succ levels ih =>
    intro l source pos cache nonempty
    have kept : ¬ source.isEmpty = true := by simpa using nonempty
    simp only [unlessEmpty, if_neg kept, text, tokens_same ih]

/-! ### Main result -/

/-- From any depth on and whatever is known of tokens, a scan of a text that is not empty writes at
most one decoration for each of its bytes and each level that is left, and one more for each byte.
No scan within it begins on the empty text: another scanner in the place of any that would, at any
depth, changes nothing. -/
theorem growth_bounded (r : Registry E) (l : KeyedLexer E) {source : List Char}
    (nonempty : source ≠ []) {depth : Nat}
    (within : depth ≤ maxEmbeddingDepth + 1) (pos : Nat) (cache : TagCache) :
    let levels := maxEmbeddingDepth + 1 - depth
    (text r levels l source pos cache).1.length ≤
        (maxEmbeddingDepth + 2 - depth) * byteLength source ∧
      ∀ other, unlessEmpty r other levels l source pos cache =
        text r levels l source pos cache := by
  intro levels
  have count : maxEmbeddingDepth + 2 - depth = levels + 1 := by omega
  rw [count]
  exact ⟨length_text_le r levels l source pos cache nonempty,
    fun other => unlessEmpty_same r other levels l source pos cache nonempty⟩

/-- A language that embeds itself. -/
def looping : List Definition :=
  [{ names := ["loop"], rules := some { fallbacks := [.embedding "loop" "(a)"] } }]

/-- A language that embeds itself reaches the bound on a single byte. -/
theorem growth_bounded_looping :
    ∃ (r : Registry) (l : KeyedLexer),
      Registry.ofDefinitions looping = .ok r ∧ r.find? "loop" = some l ∧
      (text r (maxEmbeddingDepth + 1 - 0) l ['a'] 0 ∅).1.length = 66 ∧
      (text r (maxEmbeddingDepth + 1 - 0) l ['a'] 0 ∅).1.length ≤
        (maxEmbeddingDepth + 2 - 0) * byteLength ['a'] ∧
      (maxEmbeddingDepth + 2 - 0) * byteLength ['a'] = 66 ∧
      ∀ other, unlessEmpty r other (maxEmbeddingDepth + 1 - 0) l ['a'] 0 ∅ =
        text r (maxEmbeddingDepth + 1 - 0) l ['a'] 0 ∅ := by
  have evaluated : (Registry.ofDefinitions looping : Except Error Registry).toOption.bind (fun r =>
      (r.find? "loop").map fun l =>
        (Fresh.text r (maxEmbeddingDepth + 1) l.lexer ['a'] 0).length) = some 66 := by
    decide +kernel
  cases eq : (Registry.ofDefinitions looping : Except Error Registry) with
  | error e =>
    rw [eq] at evaluated
    cases evaluated
  | ok r =>
    rw [eq] at evaluated
    obtain ⟨l, found, count⟩ := Option.map_eq_some_iff.mp evaluated
    have known : Known r l.lexer l := known_of_find? found
    obtain ⟨few, unseen⟩ := growth_bounded r l (List.cons_ne_nil 'a' []) (Nat.zero_le _) 0 ∅
    rw [← decorations_eq_fresh known] at count
    exact ⟨r, l, rfl, found, count, few, rfl, unseen⟩

end Scan

end Tincture
