import Tincture.Proofs.Json.Fields
import Tincture.Proofs.Language.StyleName

/-!
Definitions that are written as JSON and read again.

A pattern, a rule, a rule set, options and a definition each read back what they are written as, as
long as the depth of the document leaves room for the levels they have. Besides, the values are made
of words, so their documents are read as these values. The lemmas follow the nesting of the format
from the inside out, up to `decode_encode`.
-/

namespace Tincture

open Json

/-! ### Patterns -/

namespace Pattern

theorem toJson_ne_null (p : Pattern) : p.toJson ≠ .null := by
  rw [toJson, object]
  exact Json.noConfusion

/-- The fields a pattern is written with. -/
def fields (p : Pattern) : List (String × Json) :=
  [("source", .string p.source)] ++ flag "ignoreCase" p.ignoreCase ++ flag "global" p.global
    ++ flag "multiline" p.multiline

theorem fields_keys (p : Pattern) :
    (p.fields.map (·.1)).Sublist ["source", "ignoreCase", "global", "multiline"] := by
  simp only [fields, List.map_append]
  exact ((List.Sublist.refl _).append (flag_keys ..)).append (flag_keys ..) |>.append (flag_keys ..)

theorem isDefinite_toJson (p : Pattern) : p.toJson.isDefinite = true := by
  obtain ⟨source, ignoreCase, global, multiline⟩ := p
  cases ignoreCase <;> cases global <;> cases multiline <;> rfl

theorem height_toJson (p : Pattern) : p.toJson.height = 1 := by
  obtain ⟨source, ignoreCase, global, multiline⟩ := p
  cases ignoreCase <;> cases global <;> cases multiline <;> rfl

theorem ofFields?_fields (p : Pattern) : ofFields? p.fields = some p := by
  have source : p.fields.lookup "source" = some (.string p.source) := by
    simp [fields]
  have ignoreCase : p.fields.lookup "ignoreCase" =
      if p.ignoreCase then some (.bool true) else none := by
    simp [fields, List.lookup_cons, List.lookup_append, lookup_flag]
  have global : p.fields.lookup "global" = if p.global then some (.bool true) else none := by
    simp [fields, List.lookup_cons, List.lookup_append, lookup_flag]
  have multiline : p.fields.lookup "multiline" =
      if p.multiline then some (.bool true) else none := by
    simp [fields, List.lookup_cons, List.lookup_append, lookup_flag]
  rw [ofFields?, field?_of_lookup source, fieldOr?_flag ignoreCase, fieldOr?_flag global,
    fieldOr?_flag multiline]
  rfl

/-- A pattern is read back if one level is left. -/
theorem ofJson?_toJson (p : Pattern) {room : Nat} (deep : 1 ≤ room) :
    ofJson? room p.toJson = some p := by
  have known : p.toJson.known? ["source", "ignoreCase", "global", "multiline"] = some p.fields :=
    known?_object (by decide) p.fields_keys
  have held : (p.toJson.isDefinite && decide (p.toJson.height ≤ room)) = true := by
    rw [isDefinite_toJson, height_toJson, Bool.true_and, decide_eq_true deep]
  change (if (p.toJson.isDefinite && decide (p.toJson.height ≤ room)) = true then
    (p.toJson.known? ["source", "ignoreCase", "global", "multiline"]).bind ofFields? else none) =
      some p
  rw [if_pos held, known, Option.bind_some, ofFields?_fields]

theorem wordy_toJson (p : Pattern) : p.toJson.Wordy := by
  refine .object fun field mem => ?_
  simp only [List.mem_append, List.mem_singleton] at mem
  rcases mem with ((rfl | mem) | mem) | mem
  · exact .string p.source
  all_goals exact wordy_flag _ _ field mem

end Pattern

/-! ### Rules -/

namespace Rule

/-- The fields a rule is written with. -/
def fields (r : Rule) : List (String × Json) :=
  [("style", r.style.toJson), ("pattern", r.pattern.toJson)]
    ++ Json.optional "context" Pattern.toJson r.context
    ++ Json.optional "shortcut" Json.string r.shortcut

theorem fields_keys (r : Rule) :
    (r.fields.map (·.1)).Sublist ["style", "pattern", "context", "shortcut"] := by
  simp only [fields, List.map_append]
  exact ((List.Sublist.refl ["style", "pattern"]).append (optional_keys ..)).append
    (optional_keys ..)

/-- A rule is read back if there is room for its patterns. -/
theorem ofJson?_toJson (r : Rule) {room : Nat} (deep : 2 ≤ room) :
    ofJson? room r.toJson = some r := by
  have known : r.toJson.known? ["style", "pattern", "context", "shortcut"] = some r.fields :=
    known?_object (by decide) r.fields_keys
  have style : r.fields.lookup "style" = some r.style.toJson := by
    simp [fields]
  have pattern : r.fields.lookup "pattern" = some r.pattern.toJson := by
    simp [fields, List.lookup_cons]
  have context : r.fields.lookup "context" = r.context.map Pattern.toJson := by
    simp [fields, List.lookup_cons, List.lookup_append, lookup_optional]
  have shortcut : r.fields.lookup "shortcut" = r.shortcut.map Json.string := by
    simp [fields, List.lookup_cons, List.lookup_append, lookup_optional]
  have patterns (p : Pattern) : Pattern.ofJson? (room - 1) p.toJson = some p :=
    p.ofJson?_toJson (by omega)
  rw [ofJson?, known, Option.bind_eq_bind, Option.bind_some, field?_of_lookup style,
    field?_of_lookup pattern, patterns,
    fieldOr?_optional context fun p _ => ⟨p.toJson_ne_null, patterns p⟩,
    fieldOr?_optional shortcut fun s _ => ⟨Json.noConfusion, rfl⟩,
    show Style.ofJson? r.style.toJson = some r.style from r.style.ofName?_name]
  rfl

theorem wordy_toJson (r : Rule) : r.toJson.Wordy := by
  refine .object fun field mem => ?_
  simp only [List.mem_append, List.mem_cons, List.not_mem_nil, or_false] at mem
  rcases mem with ((rfl | rfl) | mem) | mem
  · exact .string r.style.name
  · exact r.pattern.wordy_toJson
  · exact wordy_optional "context" Pattern.wordy_toJson field mem
  · exact wordy_optional "shortcut" .string field mem

end Rule

/-! ### Rule sets -/

/-- A rule set is read back if there is room for its rules. -/
theorem RuleSet.ofJson?_toJson (s : RuleSet) {room : Nat} (deep : 4 ≤ room) :
    ofJson? room s.toJson = some s := by
  let fields : List (String × Json) :=
    [("shortcuts", .list (s.shortcuts.map Rule.toJson)),
      ("fallbacks", .list (s.fallbacks.map Rule.toJson))]
  have known : s.toJson.known? ["shortcuts", "fallbacks"] = some fields :=
    known?_object (by decide) (.refl _)
  have shortcuts : fields.lookup "shortcuts" = some (.list (s.shortcuts.map Rule.toJson)) := rfl
  have fallbacks : fields.lookup "fallbacks" = some (.list (s.fallbacks.map Rule.toJson)) := rfl
  have rules (rs : List Rule) :
      asList? (Rule.ofJson? (room - 2)) (.list (rs.map Rule.toJson)) = some rs :=
    asList?_map fun r _ => r.ofJson?_toJson (by omega)
  rw [ofJson?, known, Option.bind_eq_bind, Option.bind_some]
  dsimp only
  rw [fieldOr?_of_lookup shortcuts, rules, fieldOr?_of_lookup fallbacks, rules]
  rfl

theorem RuleSet.wordy_toJson (s : RuleSet) : s.toJson.Wordy := by
  refine .object fun field mem => ?_
  simp only [List.mem_cons, List.not_mem_nil, or_false] at mem
  rcases mem with rfl | rfl
  · exact wordy_map Rule.wordy_toJson s.shortcuts
  · exact wordy_map Rule.wordy_toJson s.fallbacks

/-! ### Options -/

theorem StringDelimiters.ofJson?_name (d : StringDelimiters) :
    ofJson? (.string d.name) = some d := by
  cases d <;> decide

theorem HashComments.ofJson?_name (h : HashComments) : ofJson? (.string h.name) = some h := by
  cases h <;> decide

theorem RegexLiterals.ofJson?_name (l : RegexLiterals) : ofJson? (.string l.name) = some l := by
  cases l <;> decide

/-- The fields options are written with. -/
def Options.fields (o : Options) : List (String × Json) :=
  [("stringDelimiters", .string o.stringDelimiters.name),
    ("verbatimStrings", .bool o.verbatimStrings),
    ("hashComments", .string o.hashComments.name),
    ("cStyleComments", .bool o.cStyleComments),
    ("regexLiterals", .string o.regexLiterals.name),
    ("keywordList", .strings o.keywords),
    ("typePattern", match o.typePattern with | some p => p.toJson | none => .null)]

theorem Options.toJson_ne_null (o : Options) : o.toJson ≠ .null := Json.noConfusion

/-- Options are read back if there is room for a pattern. -/
theorem Options.ofJson?_toJson (o : Options) {room : Nat} (deep : 2 ≤ room) :
    ofJson? room o.toJson = some o := by
  have known : o.toJson.known? ["stringDelimiters", "verbatimStrings", "hashComments",
      "cStyleComments", "regexLiterals", "keywordList", "typePattern"] = some o.fields :=
    known?_object (by decide) (.refl _)
  have delimiters : o.fields.lookup "stringDelimiters" = some (.string o.stringDelimiters.name) :=
    rfl
  have verbatim : o.fields.lookup "verbatimStrings" = some (.bool o.verbatimStrings) := rfl
  have comments : o.fields.lookup "hashComments" = some (.string o.hashComments.name) := rfl
  have cStyle : o.fields.lookup "cStyleComments" = some (.bool o.cStyleComments) := rfl
  have literals : o.fields.lookup "regexLiterals" = some (.string o.regexLiterals.name) := rfl
  have keywords : o.fields.lookup "keywordList" = some (.strings o.keywords) := rfl
  have types : o.fields.lookup "typePattern" =
    some (match o.typePattern with | some p => p.toJson | none => .null) := rfl
  have pattern : orNull? (Pattern.ofJson? (room - 1))
      (match o.typePattern with | some p => p.toJson | none => .null) = some o.typePattern := by
    cases o.typePattern with
    | none => rfl
    | some p => exact orNull?_eq_some p.toJson_ne_null (p.ofJson?_toJson (by omega))
  rw [ofJson?, known, Option.bind_eq_bind, Option.bind_some, fieldOr?_of_lookup delimiters,
    StringDelimiters.ofJson?_name, fieldOr?_of_lookup verbatim, fieldOr?_of_lookup comments,
    HashComments.ofJson?_name, fieldOr?_of_lookup cStyle, fieldOr?_of_lookup literals,
    RegexLiterals.ofJson?_name, fieldOr?_of_lookup keywords, asList?_strings,
    fieldOr?_of_lookup types, pattern]
  rfl

theorem Options.wordy_toJson (o : Options) : o.toJson.Wordy := by
  change (object o.fields).Wordy
  refine .object fun field mem => ?_
  simp only [fields, List.mem_cons, List.not_mem_nil, or_false] at mem
  rcases mem with rfl | rfl | rfl | rfl | rfl | rfl | rfl
  · exact .string _
  · exact .bool _
  · exact .string _
  · exact .bool _
  · exact .string _
  · exact wordy_map .string o.keywords
  · cases o.typePattern with
    | none => exact .null
    | some p => exact p.wordy_toJson

/-! ### Definitions -/

namespace Definition

/-- The fields a definition is written with. -/
def fields (d : Definition) : List (String × Json) :=
  [("names", .strings d.names)] ++ Json.optional "options" Options.toJson d.options
    ++ Json.optional "rules" RuleSet.toJson d.rules

theorem fields_keys (d : Definition) :
    (d.fields.map (·.1)).Sublist ["names", "options", "rules"] := by
  simp only [fields, List.map_append]
  exact ((List.Sublist.refl ["names"]).append (optional_keys ..)).append (optional_keys ..)

/-- A definition is read back if five levels are left. -/
theorem ofJson?_toJson (d : Definition) {room : Nat} (deep : 5 ≤ room) :
    ofJson? room d.toJson = some d := by
  have known : d.toJson.known? ["names", "options", "rules"] = some d.fields :=
    known?_object (by decide) d.fields_keys
  have names : d.fields.lookup "names" = some (.strings d.names) := by
    simp [fields]
  have options : d.fields.lookup "options" = d.options.map Options.toJson := by
    simp [fields, List.lookup_cons, List.lookup_append, lookup_optional]
  have rules : d.fields.lookup "rules" = d.rules.map RuleSet.toJson := by
    simp [fields, List.lookup_cons, List.lookup_append, lookup_optional]
  rw [ofJson?, known, Option.bind_eq_bind, Option.bind_some, field?_of_lookup names,
    asList?_strings,
    fieldOr?_optional options fun o _ => ⟨o.toJson_ne_null, o.ofJson?_toJson (by omega)⟩,
    fieldOr?_optional rules fun s _ => ⟨Json.noConfusion, s.ofJson?_toJson (by omega)⟩]
  rfl

theorem wordy_toJson (d : Definition) : d.toJson.Wordy := by
  refine .object fun field mem => ?_
  simp only [List.mem_append, List.mem_singleton] at mem
  rcases mem with (rfl | mem) | mem
  · exact wordy_map .string d.names
  · exact wordy_optional "options" Options.wordy_toJson field mem
  · exact wordy_optional "rules" RuleSet.wordy_toJson field mem

theorem ofDocument_compact (d : Definition) : ofDocument d.toJson.compact = .ok d := by
  rw [ofDocument, d.wordy_toJson.parse?_compact, Option.bind_some,
    d.ofJson?_toJson (by decide)]

end Definition

/-- Reading undoes writing. A definition is what its JSON value is read as, with any room that holds
its five levels, and also what the document of this value is read as; and a style that is read from
a text is written as that text. -/
theorem decode_encode :
    (∀ (d : Definition) (room : Nat), 5 ≤ room → Definition.ofJson? room d.toJson = some d) ∧
      (∀ d : Definition, Definition.ofDocument d.toJson.compact = .ok d) ∧
      ∀ (s : String) (style : Style), Style.ofName? s = some style → style.name = s :=
  ⟨fun d _ deep => d.ofJson?_toJson deep, Definition.ofDocument_compact,
    fun _ _ => Style.name_of_ofName?⟩

/-- A definition with each optional part there in one place and left out in another. -/
theorem decode_encode_tiny :
    let d : Definition :=
      { names := ["tiny", "t\"y"]
        options := some { keywords := ["if"], typePattern := some { source := "^\\w+_t" } }
        rules := some {
          shortcuts := [Rule.withShortcut
            (Rule.withContext (Rule.embedding "in.tag" "<(.*)>") { source := "^", global := true })
            "<"]
          fallbacks := [Rule.taggedIgnoringCase .plain "\n"] } }
    5 ≤ 5 ∧ Definition.ofJson? 5 d.toJson = some d ∧
      Definition.ofDocument d.toJson.compact = .ok d ∧
      Style.ofName? "lang-in.tag" = some (.embedded "in.tag") ∧
      (Style.embedded "in.tag").name = "lang-in.tag" := by
  intro d
  have read : Style.ofName? "lang-in.tag" = some (.embedded "in.tag") := by decide
  have room : 5 ≤ 5 := by decide
  exact ⟨room, decode_encode.1 d 5 room, decode_encode.2.1 d, read, decode_encode.2.2 _ _ read⟩

end Tincture
