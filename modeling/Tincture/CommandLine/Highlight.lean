import Tincture.CommandLine.Arguments
import Tincture.CommandLine.FileTree
import Tincture.CommandLine.Help
import Tincture.Html
import Tincture.Json.Printer
import Tincture.Language.Document
import Tincture.Scan

/-!
The highlighting program: decorates a file and prints the decorations or the HTML.
-/

namespace Tincture.CommandLine

/-- How a program ends. -/
structure Outcome where
  code : Nat
  output : String := ""
deriving DecidableEq, Inhabited

/-- What is printed when the version is asked for. -/
def version : String := "arancio 0.1.0\n"

/-- The language a file is in by its name: its extension. -/
def languageOf (path : String) : String := (extension? path).getD Builtin.defaultCode

/-- Decorations as a document. -/
def decorationsDocument (ds : List Decoration) : Json :=
  .list (ds.map fun d => .object [("position", .nat d.position), ("style", d.tag.toJson)])

/-- A frozen registry of the languages in some documents and those of the library. -/
def registryOf (documents : List (Except Error String)) : Except Error Registry := do
  let r ← documents.foldlM Registry.registerDocument {}
  return (← r.registerBuiltins).freeze

/-- What is printed for a text in a language. -/
def present (a : Arguments) (language source : String) (ds : List Decoration) : String :=
  match a.format.getD .decorations with
  | .decorations => (decorationsDocument ds).pretty ++ "\n"
  | .html =>
    (Html.Page.mk (a.classMark.getD "") [] a.lineNumbers).render language source ds ++ "\n"

/-- Does what the arguments ask for; files are read by `read`. -/
def highlight (read : String → Except Error String) (a : Arguments) : Except Error Outcome := do
  let r ← registryOf (a.languageFiles.map read)
  if a.listLanguages then
    return ⟨0, String.join (r.languages.map (· ++ "\n"))⟩
  match a.input with
  | none => return ⟨1, ""⟩
  | some path =>
    let source ← read path
    let language := a.language.getD (languageOf path)
    return ⟨0, present a language source (← r.scan language source 0)⟩

/-- Runs the highlighting program; files are read by `read`. -/
def runHighlight (read : String → Except Error String) (args : List String) : Outcome :=
  match Arguments.parse args with
  | .refuse => ⟨2, ""⟩
  | .help full => ⟨0, Help.text full⟩
  | .version => ⟨0, version⟩
  | .run a =>
    match highlight read a with
    | .ok outcome => outcome
    | .error _ => ⟨1, ""⟩

end Tincture.CommandLine
