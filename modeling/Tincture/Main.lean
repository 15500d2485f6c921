import Tincture.CommandLine.BuildDump

/-!
The programs. Under the name `build-dump` a dump is built; under any other a file is highlighted.
-/

namespace Tincture.Main

open CommandLine

/-- Reads the text of a file. -/
def readText (path : String) : IO (Except Error String) := do
  if path.isEmpty then return .error (.file .missing)
  try
    let bytes ← IO.FS.readBinFile path
    match String.fromUTF8? bytes with
    | some text => return .ok text
    | none => return .error (.file .notText)
  catch _ => return .error (.file .missing)

/-- The files the arguments name, read. -/
def readAll (a : Arguments) : IO (List (String × Except Error String)) :=
  (a.languageFiles ++ a.input.toList).mapM fun path => return (path, ← readText path)

/-- Highlights a file. -/
def highlight (args : List String) : IO UInt32 := do
  let files ← match Arguments.parse args with
    | .run a => readAll a
    | _ => pure []
  let read (path : String) := (files.lookup path).getD (.error (.file .missing))
  let outcome := runHighlight read args
  IO.print outcome.output
  return UInt32.ofNat outcome.code

/-- The regular files of a directory, read. -/
def readDirectory (path : String) : IO (List (String × Except Error String)) := do
  let mut files := []
  for entry in ← (System.mkFilePath [path]).readDir do
    if (← entry.path.metadata).type matches .file then
      files := (entry.fileName, ← readText entry.path.toString) :: files
  return files.reverse

/-- Builds a dump. -/
def buildDump (args : List String) : IO UInt32 := do
  let a := BuildArguments.parse args
  try
    let files ← match a.directory with
      | some path => readDirectory path
      | none => pure []
    match Build.ofFiles files with
    | .error _ => return 1
    | .ok b =>
      IO.print b.summary
      let bytes := b.registry.dump
      IO.FS.writeBinFile a.output (ByteArray.mk bytes.toArray)
      IO.println (Build.saved a.output ++ Build.sizeText bytes.length)
      return 0
  catch _ => return 1

end Tincture.Main

/-- Runs the program of the name under which it was called. -/
def main (args : List String) : IO UInt32 := do
  if (← IO.appPath).fileName == some "build-dump" then Tincture.Main.buildDump args
  else Tincture.Main.highlight args
