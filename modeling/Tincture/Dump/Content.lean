import Tincture.Registry

/-!
What a dump holds.

A dump holds the names and the rules of every language in order of registration, as plain records:
of a style the name, and of a pattern the text and whether case is ignored, since registered
patterns have no other flags. How records are written as bytes is left to a format, of which is
asked that it reads back what it has written.
-/

namespace Tincture.Dump

/-- A pattern in a dump. -/
structure PatternRecord where
  source : String
  ignoreCase : Bool

/-- A rule in a dump. -/
structure RuleRecord where
  style : String
  pattern : PatternRecord
  context : Option PatternRecord
  shortcut : Option String

/-- A language in a dump. -/
structure LanguageRecord where
  names : List String
  shortcuts : List RuleRecord
  fallbacks : List RuleRecord

/-- A way to write records as bytes and to read them. -/
structure Format where
  write : List LanguageRecord → List UInt8
  read : List UInt8 → Except Error (List LanguageRecord)
  /-- What is written is read back. -/
  read_write : ∀ languages, read (write languages) = .ok languages

/-! ### Records and what they stand for -/

/-- The record of a pattern. -/
def PatternRecord.of (p : Pattern) : PatternRecord := ⟨p.source, p.ignoreCase⟩

/-- The pattern a record stands for. -/
def PatternRecord.pattern (p : PatternRecord) : Pattern :=
  { source := p.source, ignoreCase := p.ignoreCase }

/-- The record of a rule. -/
def RuleRecord.of (r : Rule) : RuleRecord :=
  ⟨r.style.name, .of r.pattern, r.context.map .of, r.shortcut⟩

/-- The rule a record stands for, if the style is one. -/
def RuleRecord.rule? (r : RuleRecord) : Option Rule :=
  (Style.ofName? r.style).map fun style =>
    { style, pattern := r.pattern.pattern, context := r.context.map (·.pattern)
      shortcut := r.shortcut }

/-- The record of rules with their names. -/
def LanguageRecord.of (names : List String) (rules : RuleSet) : LanguageRecord :=
  ⟨names, rules.shortcuts.map .of, rules.fallbacks.map .of⟩

/-- The definition a record stands for. -/
def LanguageRecord.definition? (l : LanguageRecord) : Option Definition := do
  let shortcuts ← l.shortcuts.mapM RuleRecord.rule?
  let fallbacks ← l.fallbacks.mapM RuleRecord.rule?
  return { names := l.names, rules := some { shortcuts, fallbacks } }

/-- The records of definitions; one without rules has nothing to dump. -/
def records (ds : List Definition) : List LanguageRecord :=
  ds.filterMap fun d => d.rules.map (.of d.names)

/-- The definitions that records stand for. -/
def definitions? (languages : List LanguageRecord) : Option (List Definition) :=
  languages.mapM LanguageRecord.definition?

end Tincture.Dump
