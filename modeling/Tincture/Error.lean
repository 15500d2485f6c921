import Tincture.Regex.Fault
import Tincture.Text.Quoted

/-!
Errors: their causes, and the wording of each.
-/

namespace Tincture

/-- Why a file could not be read. -/
inductive FileFault where
  | missing
  | directory
  | notText
  /-- The content is no complete compressed frame. -/
  | brokenFrame
deriving DecidableEq

/-- The wording of a fault with a file; a broken frame has none of its own. -/
def FileFault.message : FileFault → Option String
  | .missing => some "No such file or directory (os error 2)"
  | .directory => some "Is a directory (os error 21)"
  | .notText => some "stream did not contain valid UTF-8"
  | .brokenFrame => none

/-- Why a pattern is refused. -/
inductive PatternFault where
  | unknownFlag (flag : Char)
  | regex (fault : Regex.Fault)
deriving DecidableEq

/-- The wording of a fault in a pattern. -/
def PatternFault.message : PatternFault → String
  | .unknownFlag flag => "unknown flag '" ++ String.singleton flag ++ "'"
  | .regex fault => "Oniguruma error: " ++ fault.message

/-- What can go wrong. -/
inductive Error where
  | file (fault : FileFault)
  /-- A document is malformed or does not describe what it should. -/
  | json
  /-- The content of a dump is no registry. -/
  | dump
  /-- A pattern has a flag that rules may not use. -/
  | forbiddenFlag (pattern : String) (flag : Char)
  | invalidPattern (pattern : String) (fault : PatternFault)
  | invalidStyle (text : String)
  /-- A definition has both options and rules. -/
  | overdefined (names : List String)
  /-- A definition has neither options nor rules. -/
  | undefined (names : List String)
  | frozen
  | notFrozen
deriving DecidableEq

namespace Error

/-- The wording of an error; a faulty document has none. -/
def message : Error → Option String
  | .file fault =>
    match fault.message with
    | some text => some ("I/O error: " ++ text)
    | none => some "I/O error"
  | .json => none
  | .dump => some "bitcode error"
  | .forbiddenFlag pattern flag =>
    some ("pattern '" ++ pattern ++ "' cannot use the '" ++ String.singleton flag ++ "' flag")
  | .invalidPattern pattern fault =>
    some ("invalid pattern '" ++ pattern ++ "': " ++ fault.message)
  | .invalidStyle text => some ("invalid style '" ++ text ++ "'")
  | .overdefined names =>
    some ("invalid language definition: " ++ Quoted.texts names ++ " has both options and rules")
  | .undefined names =>
    some ("invalid language definition: " ++ Quoted.texts names
      ++ " has neither options nor rules")
  | .frozen => some "cannot register a language in a frozen registry"
  | .notFrozen => some "the registry must be frozen before scanning"

/-- Whether the error goes back to another one, met while reading a file or a document. -/
def hasSource : Error → Bool
  | .file _ | .json | .dump => true
  | _ => false

end Error

end Tincture
