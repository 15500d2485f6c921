import Tincture.Json.Decode
import Tincture.Json.Reader
import Tincture.Language.Definition

/-!
The JSON form of styles, patterns, rules, options and definitions.

Fields that are left out have defaults, and unknown fields are ignored. A pattern is written as a
string or as an object with flags; since it is held until its form is known, all of it has to be
definite, and it may not be nested beyond the `room` that is left of the document's depth.
-/

namespace Tincture

/-- How many lists and objects may enclose one another in a document whose values are held. -/
def Json.depthLimit : Nat := 127

namespace Tag

/-- Writes a tag. -/
def toJson (t : Tag) : Json := .string t.name

/-- Reads a tag. -/
def ofJson? (j : Json) : Option Tag := j.choice?.bind ofName?

end Tag

namespace Style

/-- Writes a style. -/
def toJson (s : Style) : Json := .string s.name

/-- Reads a style. -/
def ofJson? (j : Json) : Option Style := j.asString?.bind ofName?

end Style

/-- A flag, written only when it is set. -/
def Json.flag (name : String) (value : Bool) : List (String × Json) :=
  if value then [(name, .bool true)] else []

/-- A field, written only when it has a value. -/
def Json.optional {α : Type} (name : String) (f : α → Json) (value : Option α) :
    List (String × Json) :=
  match value with
  | some a => [(name, f a)]
  | none => []

namespace Pattern

/-- Writes a pattern. -/
def toJson (p : Pattern) : Json :=
  .object ([("source", .string p.source)] ++ Json.flag "ignoreCase" p.ignoreCase
    ++ Json.flag "global" p.global ++ Json.flag "multiline" p.multiline)

/-- Reads the object form of a pattern. -/
def ofFields? (fields : List (String × Json)) : Option Pattern := do
  return {
    source := ← Json.field? Json.asString? fields "source"
    ignoreCase := ← Json.fieldOr? false Json.asBool? fields "ignoreCase"
    global := ← Json.fieldOr? false Json.asBool? fields "global"
    multiline := ← Json.fieldOr? false Json.asBool? fields "multiline" }

/-- Reads a pattern, `room` levels being left of the document's depth. -/
def ofJson? (room : Nat) (j : Json) : Option Pattern :=
  match j with
  | .text content => content.map fun source => { source }
  | .record fields =>
    if j.isDefinite && j.height ≤ room then
      (Json.knownOf? ["source", "ignoreCase", "global", "multiline"] fields).bind ofFields?
    else none
  | _ => none

end Pattern

namespace Rule

/-- Writes a rule. -/
def toJson (r : Rule) : Json :=
  .object ([("style", r.style.toJson), ("pattern", r.pattern.toJson)]
    ++ Json.optional "context" Pattern.toJson r.context
    ++ Json.optional "shortcut" Json.string r.shortcut)

/-- Reads a rule. -/
def ofJson? (room : Nat) (j : Json) : Option Rule := do
  let fields ← j.known? ["style", "pattern", "context", "shortcut"]
  return {
    style := ← Json.field? Style.ofJson? fields "style"
    pattern := ← Json.field? (Pattern.ofJson? (room - 1)) fields "pattern"
    context := ← Json.fieldOr? none (Json.orNull? (Pattern.ofJson? (room - 1))) fields "context"
    shortcut := ← Json.fieldOr? none (Json.orNull? Json.asString?) fields "shortcut" }

end Rule

namespace RuleSet

/-- Writes a rule set. -/
def toJson (s : RuleSet) : Json :=
  .object [("shortcuts", .list (s.shortcuts.map Rule.toJson)),
    ("fallbacks", .list (s.fallbacks.map Rule.toJson))]

/-- Reads a rule set. -/
def ofJson? (room : Nat) (j : Json) : Option RuleSet := do
  let fields ← j.known? ["shortcuts", "fallbacks"]
  let rules := Json.asList? (Rule.ofJson? (room - 2))
  return {
    shortcuts := ← Json.fieldOr? [] rules fields "shortcuts"
    fallbacks := ← Json.fieldOr? [] rules fields "fallbacks" }

end RuleSet

namespace StringDelimiters

/-- The name of a choice of string literals. -/
def name : StringDelimiters → String
  | .singleLine => "single-line"
  | .multiLine => "multi-line"
  | .tripleQuoted => "triple-quoted"

/-- Reads a choice of string literals. -/
def ofJson? (j : Json) : Option StringDelimiters :=
  j.choice?.bind fun s => [singleLine, multiLine, tripleQuoted].find? (·.name == s)

end StringDelimiters

namespace HashComments

/-- The name of a choice of comments. -/
def name : HashComments → String
  | .none => "none"
  | .line => "line"
  | .block => "block"

/-- Reads a choice of comments. -/
def ofJson? (j : Json) : Option HashComments :=
  j.choice?.bind fun s => [none, line, block].find? (·.name == s)

end HashComments

namespace RegexLiterals

/-- The name of a choice of regular expression literals. -/
def name : RegexLiterals → String
  | .none => "none"
  | .singleLine => "single-line"
  | .multiLine => "multi-line"

/-- Reads a choice of regular expression literals. -/
def ofJson? (j : Json) : Option RegexLiterals :=
  j.choice?.bind fun s => [none, singleLine, multiLine].find? (·.name == s)

end RegexLiterals

namespace Options

/-- Writes options, all of them. -/
def toJson (o : Options) : Json :=
  .object [("stringDelimiters", .string o.stringDelimiters.name),
    ("verbatimStrings", .bool o.verbatimStrings),
    ("hashComments", .string o.hashComments.name),
    ("cStyleComments", .bool o.cStyleComments),
    ("regexLiterals", .string o.regexLiterals.name),
    ("keywordList", .strings o.keywords),
    ("typePattern", match o.typePattern with | some p => p.toJson | none => .null)]

/-- Reads options. -/
def ofJson? (room : Nat) (j : Json) : Option Options := do
  let fields ← j.known? ["stringDelimiters", "verbatimStrings", "hashComments", "cStyleComments",
    "regexLiterals", "keywordList", "typePattern"]
  return {
    stringDelimiters :=
      ← Json.fieldOr? .singleLine StringDelimiters.ofJson? fields "stringDelimiters"
    verbatimStrings := ← Json.fieldOr? false Json.asBool? fields "verbatimStrings"
    hashComments := ← Json.fieldOr? .none HashComments.ofJson? fields "hashComments"
    cStyleComments := ← Json.fieldOr? false Json.asBool? fields "cStyleComments"
    regexLiterals := ← Json.fieldOr? .none RegexLiterals.ofJson? fields "regexLiterals"
    keywords := ← Json.fieldOr? [] (Json.asList? Json.asString?) fields "keywordList"
    typePattern :=
      ← Json.fieldOr? none (Json.orNull? (Pattern.ofJson? (room - 1))) fields "typePattern" }

end Options

namespace Definition

/-- Writes a definition. -/
def toJson (d : Definition) : Json :=
  .object ([("names", .strings d.names)] ++ Json.optional "options" Options.toJson d.options
    ++ Json.optional "rules" RuleSet.toJson d.rules)

/-- Reads a definition. -/
def ofJson? (room : Nat) (j : Json) : Option Definition := do
  let fields ← j.known? ["names", "options", "rules"]
  return {
    names := ← Json.field? (Json.asList? Json.asString?) fields "names"
    options := ← Json.fieldOr? none (Json.orNull? (Options.ofJson? (room - 1))) fields "options"
    rules := ← Json.fieldOr? none (Json.orNull? (RuleSet.ofJson? (room - 1))) fields "rules" }

/-- Reads the definition in a document. -/
def ofDocument (document : String) : Except Error Definition :=
  match (Json.parse? document).bind (ofJson? Json.depthLimit) with
  | some definition => .ok definition
  | none => .error .json

end Definition

end Tincture
