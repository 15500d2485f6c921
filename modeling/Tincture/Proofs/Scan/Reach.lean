import Tincture.Proofs.Dump.Reload
import Tincture.Proofs.Scan.Reference

/-!
What a scan depends on.

A scan in a language asks a registry for that language, for those that the rules of their lexers
embed, and for the two that stand in for languages that are not known. `Reaches` is the least set of
names with all of these in it. Two registries that have the same rules under each name of the set
scan in the same way (`scan_of_reached`), whatever else they hold, in whatever order it was
registered and whichever names share a lexer: the lexers of a scan are compiled from their rules,
what it remembers changes nothing, and the language of embedded text is that of a rule of the lexer.
-/

namespace Tincture

/-! ### The names a scan may ask for -/

namespace Registry

/-- A scan in the language may ask the registry for the name. -/
inductive Reaches (r : Registry) (language : String) : String → Prop where
  | itself : Reaches r language language
  | code : Reaches r language Builtin.defaultCode
  | markup : Reaches r language Builtin.defaultMarkup
  | embedded {name inner : String} {l : Lexer} {rule : Rule} : Reaches r language name →
      r.lexer? name = some l → rule ∈ l.rules.rules → rule.style = .embedded inner →
      Reaches r language inner

/-- The name is registered in neither registry, or in both with the same rules. -/
def SameRules (r r' : Registry) (name : String) : Prop :=
  (r.contains name = false ∧ r'.contains name = false) ∨
    ∃ l ∈ r.lexer? name, ∃ l' ∈ r'.lexer? name, l.rules = l'.rules

instance (r r' : Registry) (name : String) : Decidable (SameRules r r' name) :=
  inferInstanceAs (Decidable (_ ∨ _))

/-- The lexers of the registry are compiled from the rules they have. -/
def Compiled (r : Registry) : Prop := ∀ l ∈ r.lexers, Lexer.compile l.rules = .ok l

variable {r r' : Registry} {language name : String}

/-- Names that hold those a scan begins with and those their own rules embed are all it reaches. -/
theorem Reaches.mem (h : r.Reaches language name) {names : List String}
    (start : ∀ n ∈ [language, Builtin.defaultCode, Builtin.defaultMarkup], n ∈ names)
    (closed : ∀ n ∈ names, ∀ l ∈ r.lexer? n, ∀ rule ∈ l.rules.rules,
      ∀ inner ∈ rule.style.language?, inner ∈ names) : name ∈ names := by
  induction h with
  | itself => exact start _ (by simp)
  | code => exact start _ (by simp)
  | markup => exact start _ (by simp)
  | embedded _ found mem styled ih =>
    exact closed _ ih _ found _ mem _ (by simp [styled, Style.language?])

theorem lexer?_of_not_contains (h : r.contains name = false) : r.lexer? name = none := by
  have unknown : r.ids.lookup name = none := by simpa [contains] using h
  rw [lexer?, find?, unknown]
  rfl

theorem Compiled.of_lexer? (h : r.Compiled) {l : Lexer} (found : r.lexer? name = some l) :
    Lexer.compile l.rules = .ok l := by
  obtain ⟨k, named, rfl⟩ := Option.map_eq_some_iff.mp found
  obtain ⟨id, -, placed⟩ := Option.bind_eq_some_iff.mp named
  obtain ⟨l, at_id, rfl⟩ := Option.map_eq_some_iff.mp placed
  exact h l (Array.mem_of_getElem? at_id)

/-- Lexers of the same rules are the same. -/
theorem SameRules.lexer?_eq (h : SameRules r r' name) (compiled : r.Compiled)
    (compiled' : r'.Compiled) : r.lexer? name = r'.lexer? name := by
  rcases h with ⟨unknown, unknown'⟩ | ⟨l, found, l', found', same⟩
  · rw [lexer?_of_not_contains unknown, lexer?_of_not_contains unknown']
  · have here := compiled.of_lexer? found
    rw [same, compiled'.of_lexer? found'] at here
    rw [found, found', Except.ok.inj here]

/-- The lexer for text in a language, by way of the names it may be found under. -/
theorem lexer_embedded? (r : Registry) (language : String) (text : List Char) :
    (r.embedded? language text).map (·.lexer) =
      (r.lexer? language).or
        (if (text.dropWhile Property.space.holds).head? = some '<' then
          r.lexer? Builtin.defaultMarkup
        else r.lexer? Builtin.defaultCode) := by
  unfold embedded? lexer?
  cases r.find? language with
  | some l => rfl
  | none =>
    dsimp only
    split <;> rfl

end Registry

/-- A registry that entries describe has its lexers from their rules. -/
theorem Describes.compiled_lexers {r : Registry} {es : List Entry} (h : Describes r es) :
    r.Compiled := by
  intro l mem
  obtain ⟨id, lt, at_id⟩ := List.mem_iff_getElem.mp (Array.mem_def.mp mem)
  have here := h.compiled.get lt (h.compiled.length_eq ▸ lt)
  rw [List.get_eq_getElem, List.get_eq_getElem, at_id] at here
  rw [Lexer.rules_of_compile here]
  exact here

/-! ### Two scans side by side -/

namespace Scan

open Registry

variable {r r' : Registry} {language : String}

/-- The lexer is compiled from its rules, and a scan in the language reaches every language that
they embed. -/
structure Covered (r : Registry) (language : String) (l : Lexer) : Prop where
  compiled : Lexer.compile l.rules = .ok l
  reaches : ∀ rule ∈ l.rules.rules, ∀ inner, rule.style = .embedded inner →
    r.Reaches language inner

/-- The registries lead to the same lexers from every name that a scan in the language reaches. -/
structure Alike (r r' : Registry) (language : String) : Prop where
  compiled : r.Compiled
  lexer?_eq : ∀ name, r.Reaches language name → r.lexer? name = r'.lexer? name

/-- The two do the same with covered lexers. -/
def Coincide (r : Registry) (language : String) (nested nested' : Plain) : Prop :=
  ∀ l, Covered r language l → nested l = nested' l

theorem Alike.embedded?_eq (h : Alike r r' language) {inner : String}
    (reached : r.Reaches language inner) (text : List Char) :
    (r.embedded? inner text).map (·.lexer) = (r'.embedded? inner text).map (·.lexer) := by
  simp only [lexer_embedded?, h.lexer?_eq inner reached, h.lexer?_eq _ .code,
    h.lexer?_eq _ .markup]

theorem Alike.covered_of_lexer? (h : Alike r r' language) {name : String} {l : Lexer}
    (reached : r.Reaches language name) (found : r.lexer? name = some l) :
    Covered r language l :=
  ⟨h.compiled.of_lexer? found, fun _ mem _ styled => .embedded reached found mem styled⟩

/-- Whichever name stands in for a language, its lexer is covered. -/
theorem Alike.covered_of_embedded? (h : Alike r r' language) {inner : String}
    (reached : r.Reaches language inner) {text : List Char} {l : Lexer}
    (found : (r.embedded? inner text).map (·.lexer) = some l) : Covered r language l := by
  rw [lexer_embedded?, Option.or_eq_some_iff] at found
  rcases found with own | ⟨-, stand_in⟩
  · exact h.covered_of_lexer? reached own
  · split at stand_in
    · exact h.covered_of_lexer? .markup stand_in
    · exact h.covered_of_lexer? .code stand_in

variable {nested nested' : Plain}

/-- A scan of embedded text uses nothing of the registry but the lexer it gives. -/
theorem fresh_embedded (r : Registry) (nested : Plain) (inner : String) (text : List Char)
    (pos : Nat) :
    Fresh.embedded r nested inner text pos =
      (((r.embedded? inner text).map (·.lexer)).map (nested · text pos)).getD [⟨pos, .plain⟩] := by
  unfold Fresh.embedded
  cases r.embedded? inner text <;> rfl

theorem embedded_coincide (h : Alike r r' language) (coincide : Coincide r language nested nested')
    {inner : String} (reached : r.Reaches language inner) (text : List Char) (pos : Nat) :
    Fresh.embedded r nested inner text pos = Fresh.embedded r' nested' inner text pos := by
  rw [fresh_embedded, fresh_embedded, ← h.embedded?_eq reached]
  cases found : (r.embedded? inner text).map (·.lexer) with
  | none => rfl
  | some l =>
    rw [Option.map_some, Option.map_some, coincide l (h.covered_of_embedded? reached found)]

theorem token_coincide (h : Alike r r' language) (coincide : Coincide r language nested nested')
    {l : Lexer} (covered : Covered r language l) (text : List Char) (pos : Nat) :
    Fresh.token r nested l text pos = Fresh.token r' nested' l text pos := by
  unfold Fresh.token Fresh.around
  cases answer : l.classify text with
  | terminal tag => rfl
  | embedded inner start stop =>
    obtain ⟨rule, mem, styled⟩ := Lexer.exists_rule_of_classify covered.compiled answer
    have reached := covered.reaches rule mem inner styled
    simp only [coincide l covered, embedded_coincide h coincide reached]

theorem tokens_coincide (h : Alike r r' language) (coincide : Coincide r language nested nested')
    {l : Lexer} (covered : Covered r language l) (texts : List (List Char)) (pos : Nat) :
    Fresh.tokens r nested l pos texts = Fresh.tokens r' nested' l pos texts := by
  induction texts generalizing pos with
  | nil => rfl
  | cons text rest ih => rw [Fresh.tokens, Fresh.tokens, token_coincide h coincide covered, ih]

/-- At every level the two registries decorate a text in the same way. -/
theorem text_coincide (h : Alike r r' language) (levels : Nat) :
    Coincide r language (Fresh.text r levels) (Fresh.text r' levels) := by
  induction levels with
  | zero => exact fun _ _ => rfl
  | succ levels ih =>
    intro l covered
    funext source pos
    simp only [Fresh.text, tokens_coincide h ih covered]

theorem Alike.scan_eq (h : Alike r r' language) (frozen : r.frozen = true)
    (frozen' : r'.frozen = true) (source : String) (base : Nat) :
    r.scan language source base = r'.scan language source base := by
  rw [scan_eq_fresh frozen, scan_eq_fresh frozen', Fresh.scan, Fresh.scan,
    ← h.embedded?_eq .itself]
  cases found : (r.embedded? language source.toList).map (·.lexer) with
  | none => rw [Option.map_none, Option.map_none]
  | some l =>
    have covered := h.covered_of_embedded? .itself found
    rw [Option.map_some, Option.map_some, Fresh.simplified, text_coincide h _ l covered,
      ← Fresh.simplified]

/-! ### Main result -/

/-- Take any two registries, whatever has been done to them until they were frozen. If each name
that a scan in a language may ask the first one for is registered in neither or has the same rules
in both, then both scan every text in that language, and in the same way. -/
theorem scan_of_reached (steps steps' : List Step) (language : String) :
    let r := Registry.after steps
    let r' := Registry.after steps'
    r.frozen = true → r'.frozen = true →
    (∀ name, r.Reaches language name → SameRules r r' name) →
    ∀ source base, ∃ ds, r.scan language source base = .ok ds ∧
      r'.scan language source base = .ok ds := by
  intro r r' frozen frozen' same source base
  obtain ⟨es, describes⟩ := describes_after steps
  obtain ⟨es', describes'⟩ := describes_after steps'
  have alike : Alike r r' language :=
    ⟨describes.compiled_lexers, fun name reached =>
      (same name reached).lexer?_eq describes.compiled_lexers describes'.compiled_lexers⟩
  refine ⟨_, scan_eq_fresh frozen language source base, ?_⟩
  rw [← alike.scan_eq frozen frozen', scan_eq_fresh frozen]

/-- The steps that register definitions and freeze. -/
def registering (ds : List Definition) : List Step :=
  ds.map (fun d => .operation (.definition d)) ++ [.operation .freeze]

/-- The two languages the other way round, one with a further name, behind a third. -/
def rearranged : List Definition :=
  [{ names := ["noise"], rules := some { fallbacks := [.tagged .comment "x"] } },
   { names := ["inner", "within"], rules := some { fallbacks := [.tagged .string "x"] } },
   { names := ["outer"]
     rules := some
      { fallbacks := [.embedding "inner" "<(x)>", .tagged .punctuation "<|>",
          .tagged .keyword "é", .tagged .plain "\\n"] } }]

/-- The lexers have other places, and a language is there that the scan does not reach. -/
theorem scan_of_reached_rearranged :
    let r := Registry.after (registering bracketed)
    let r' := Registry.after (registering rearranged)
    r.frozen = true ∧ r'.frozen = true ∧
      (∀ name, r.Reaches "outer" name → SameRules r r' name) ∧
      r.lexer? "noise" = none ∧ (r'.lexer? "noise").isSome = true ∧
      let ds : List Decoration :=
        [⟨3, .keyword⟩, ⟨5, .punctuation⟩, ⟨6, .string⟩, ⟨7, .punctuation⟩]
      r.scan "outer" "é<x>" 3 = .ok ds ∧ r'.scan "outer" "é<x>" 3 = .ok ds := by
  intro r r'
  have frozen : r.frozen = true := by decide
  have frozen' : r'.frozen = true := by decide
  let names := ["outer", "inner", "default-code", "default-markup"]
  have facts : (∀ n ∈ names, ∀ l ∈ r.lexer? n, ∀ rule ∈ l.rules.rules,
      ∀ inner ∈ rule.style.language?, inner ∈ names) ∧ (∀ n ∈ names, SameRules r r' n) ∧
      ((r.lexer? "noise").isNone = true ∧ (r'.lexer? "noise").isSome = true) := by decide +kernel
  obtain ⟨closed, agree, absent, present⟩ := facts
  have reached : ∀ name, r.Reaches "outer" name → name ∈ names := by
    intro name reached
    exact reached.mem (by decide) closed
  have same : ∀ name, r.Reaches "outer" name → SameRules r r' name := by
    intro name h
    exact agree name (reached name h)
  have known : r.scan "outer" "é<x>" 3 =
      .ok [⟨3, .keyword⟩, ⟨5, .punctuation⟩, ⟨6, .string⟩, ⟨7, .punctuation⟩] := by
    rw [scan_eq_fresh frozen]
    exact congrArg Except.ok (by decide +kernel)
  obtain ⟨ds, scanned, scanned'⟩ :=
    scan_of_reached _ _ "outer" frozen frozen' same "é<x>" 3
  cases known.symm.trans scanned
  exact ⟨frozen, frozen', same, Option.isNone_iff_eq_none.mp absent, present, scanned, scanned'⟩

end Scan

end Tincture
