import Tincture.CommandLine.Highlight
import Tincture.Dump.Framed

/-!
The program that builds a dump: it registers the definitions in a directory, then the languages of
the library, prints a summary and writes the dump of them all.
-/

namespace Tincture.CommandLine

/-- The output file and the directory of definitions. -/
structure BuildArguments where
  output : String
  directory : Option String
deriving DecidableEq

/-- Reads the arguments; further ones are ignored. -/
def BuildArguments.parse : List String → BuildArguments
  | [] => ⟨"builtin.zst", none⟩
  | [output] => ⟨output, none⟩
  | output :: directory :: _ => ⟨output, some directory⟩

/-- A registry that is being filled, and how many files could be registered and how many not. -/
structure Build where
  registry : Registry := {}
  loaded : Nat := 0
  failed : Nat := 0

namespace Build

/-- Registers the definition in a document. -/
def add (b : Build) (document : Except Error String) : Build :=
  match b.registry.registerDocument document with
  | .ok registry => { b with registry, loaded := b.loaded + 1 }
  | .error _ => { b with failed := b.failed + 1 }

/-- Whether a file of a directory is taken for a definition. -/
def isDefinition (name : String) : Bool := extension? name == some "json"

/-- Registers the definitions among the files of a directory, and the languages of the library. -/
def ofFiles (files : List (String × Except Error String)) : Except Error Build := do
  let b := ((files.filter fun (name, _) => isDefinition name).map (·.2)).foldl add {}
  return { b with registry := (← b.registry.registerBuiltins).freeze }

/-- The summary: the languages, and how many files and lexers there are. -/
def summary (b : Build) : String :=
  "Languages:\n" ++ String.join (b.registry.languages.map fun name => "- " ++ name ++ "\n")
    ++ "\nSummary:\n"
    ++ "- Successfully loaded: " ++ toString b.loaded ++ " language files\n"
    ++ "- Failed to load: " ++ toString b.failed ++ " language files\n"
    ++ "- Lexers: " ++ toString b.registry.definitions.length ++ "\n"

/-- The last line, but for the size of the dump. -/
def saved (output : String) : String := "\n✓ Registry saved to " ++ output

/-- A size in units of 1024 bytes with two places, a half going to the even neighbour. -/
def sizeText (bytes : Nat) : String :=
  let quotient := bytes * 25 / 256
  let rest := bytes * 25 % 256
  let hundredths :=
    if rest < 128 || (rest == 128 && quotient % 2 == 0) then quotient else quotient + 1
  " (" ++ toString (hundredths / 100) ++ "." ++ String.ofList (digits 10 2 (hundredths % 100))
    ++ " KB)"

end Build

/-- Runs the program on a file tree: its outcome, and the dump it writes. What is printed about the
size of the dump is left out. -/
def runBuildDump (tree : FileTree) (args : List String) (format : Dump.Format := Dump.framed) :
    Outcome × Option (List UInt8) :=
  let a := BuildArguments.parse args
  let files := match a.directory with
    | some path => tree.entries? path
    | none => some []
  match files with
  | none => (⟨1, ""⟩, none)
  | some files =>
    match Build.ofFiles (files.map fun (name, text) => (name, .ok text)) with
    | .error _ => (⟨1, ""⟩, none)
    | .ok b =>
      if tree.isWritable a.output then
        (⟨0, b.summary ++ Build.saved a.output ++ "\n"⟩, some (b.registry.dump format))
      else (⟨1, b.summary⟩, none)

end Tincture.CommandLine
