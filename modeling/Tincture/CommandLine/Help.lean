/-!
The help of the highlighting program.

There is a short form and a full one. Each shows what an option does below its name. The short form
puts everything about an option on one line; the full form gives a paragraph to each note and lists
the values of a choice with what they mean.
-/

namespace Tincture.CommandLine.Help

/-- An entry of the help. -/
structure Entry where
  /-- The spelling of the option, aligned so that long names stand below one another. -/
  name : String
  /-- What the option does; for a choice its values say it. -/
  about : String := ""
  /-- The value taken where none is given. -/
  default : Option String := none
  /-- The values of a choice and what they mean. -/
  values : List (String × String) := []

/-- The options, but for the one that asks for help. -/
def entries : List Entry :=
  [{ name := "-l, --lang <LANG>"
     about := "Language of the file. Defaults to the file extension" },
    { name := "-f, --format <FORMAT>"
      default := some "decorations"
      values := [("decorations", "The simplified decorations as JSON"), ("html", "`<span>` markup")] },
    { name := "    --class-prefix <CLASS_PREFIX>"
      about := "Prefix of the CSS classes in the HTML output"
      default := some "" },
    { name := "    --line-numbers <LINE_NUMBERS>"
      about := "Numbers the lines of the HTML output, starting at the given number" },
    { name := "    --language-file <LANGUAGE_FILES>"
      about := "Extra JSON language definitions to register before the builtin ones" },
    { name := "    --list-languages"
      about := "Prints the known languages and exits" }]

/-- The entries for help and for the version. -/
def closing (full : Bool) : List Entry :=
  [{ name := "-h, --help"
     about := if full then "Print help (see a summary with '-h')"
       else "Print help (see more with '--help')" },
    { name := "-V, --version", about := "Print version" }]

/-- The blanks before what an option does. -/
def indent : String := "          "

namespace Entry

/-- The note on the value taken where none is given. -/
def defaultNote (e : Entry) : List String :=
  (e.default.map fun value => "[default: " ++ value ++ "]").toList

/-- The short form. -/
def short (e : Entry) : String :=
  let choice := if e.values.isEmpty then []
    else ["[possible values: " ++ ", ".intercalate (e.values.map (·.1)) ++ "]"]
  let about := if e.about.isEmpty then [] else [e.about]
  "  " ++ e.name ++ "\n" ++ indent ++ " ".intercalate (about ++ e.defaultNote ++ choice)

/-- The values of a choice, one on a line, with what they mean in one column. -/
def choices (e : Entry) : String :=
  let widest := (e.values.map (·.1.length)).foldl max 0
  let line (value : String × String) :=
    "\n" ++ indent ++ "- " ++ value.1 ++ ": "
      ++ String.ofList (List.replicate (widest - value.1.length) ' ') ++ value.2
  "Possible values:" ++ String.join (e.values.map line)

/-- The full form. -/
def full (e : Entry) : String :=
  let about := if e.values.isEmpty then e.about else e.choices
  "  " ++ e.name ++ "\n" ++ indent ++ ("\n" ++ indent ++ "\n" ++ indent).intercalate
    (about :: e.defaultNote)

end Entry

/-- The help, in full or in short. -/
def text (full : Bool) : String :=
  let options := entries ++ closing full
  "A rule-driven code highlighter producing flat style decorations\n\n"
    ++ "Usage: arancio-cli [OPTIONS] [INPUT]\n\n"
    ++ "Arguments:\n  [INPUT]" ++ (if full then "\n" ++ indent else "  ") ++ "File to highlight\n\n"
    ++ "Options:\n"
    ++ (if full then "\n\n".intercalate (options.map Entry.full)
      else "\n".intercalate (options.map Entry.short))
    ++ "\n"

end Tincture.CommandLine.Help
