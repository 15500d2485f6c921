/-!
The arguments of the highlighting program.

Arguments are read from left to right, and the first that is wrong ends the reading. An option takes
its value from the next argument, or from the same one after an equals sign; a short one also
directly. A separate value must not begin with a dash.
-/

namespace Tincture.CommandLine

/-- What is printed for a text. -/
inductive Format where
  | decorations
  | html
deriving DecidableEq, Inhabited

/-- The arguments of the highlighting program. -/
structure Arguments where
  input : Option String := none
  language : Option String := none
  format : Option Format := none
  classMark : Option String := none
  lineNumbers : Option Int := none
  languageFiles : List String := []
  listLanguages : Bool := false
deriving DecidableEq, Inhabited

/-- What the arguments ask for. -/
inductive Request where
  | run (arguments : Arguments)
  /-- The help, in full or in short. -/
  | help (full : Bool)
  | version
  /-- The arguments are wrong. -/
  | refuse
deriving Inhabited

/-- The options that take a value. -/
inductive ValueOption where
  | language
  | format
  | classMark
  | lineNumbers
  | languageFile
deriving DecidableEq

/-- The option with a long name. -/
def ValueOption.ofLong? : String → Option ValueOption
  | "lang" => some .language
  | "format" => some .format
  | "class-prefix" => some .classMark
  | "line-numbers" => some .lineNumbers
  | "language-file" => some .languageFile
  | _ => none

/-- The option with a letter. -/
def ValueOption.ofLetter? : Char → Option ValueOption
  | 'l' => some .language
  | 'f' => some .format
  | _ => none

namespace Arguments

/-- A value that may be given once. -/
def once {α : Type} (before : Option α) (value : α) : Option (Option α) :=
  if before.isSome then none else some (some value)

/-- A whole number of 64 bits, with an optional sign. -/
def int64? (s : String) : Option Int :=
  let read (ds : List Char) : Option Nat :=
    if ds.isEmpty || !ds.all Char.isDigit then none
    else some (ds.foldl (fun n c => n * 10 + (c.toNat - 48)) 0)
  let value := match s.toList with
    | '-' :: ds => (read ds).map fun n => -(n : Int)
    | '+' :: ds => (read ds).map Int.ofNat
    | ds => (read ds).map Int.ofNat
  value.filter fun n => -9223372036854775808 ≤ n ∧ n < 9223372036854775808

/-- Takes the value of an option; `none` when it is not one, or the option has been given. -/
def set? (a : Arguments) (o : ValueOption) (value : String) : Option Arguments :=
  match o with
  | .language => do return { a with language := ← once a.language value }
  | .format => do
    let format ← match value with
      | "decorations" => some Format.decorations
      | "html" => some .html
      | _ => none
    return { a with format := ← once a.format format }
  | .classMark => do return { a with classMark := ← once a.classMark value }
  | .lineNumbers => do return { a with lineNumbers := ← once a.lineNumbers (← int64? value) }
  | .languageFile =>
    if value.isEmpty then none else some { a with languageFiles := a.languageFiles ++ [value] }

/-- Takes the file to highlight. -/
def setInput? (a : Arguments) (value : String) : Option Arguments :=
  if value.isEmpty then none else do return { a with input := ← once a.input value }

/-- Whether an argument may be a value: it does not begin with a dash, or is nothing else. -/
def isValue (s : String) : Bool := s == "-" || s.toList.head? != some '-'

/-- Splits the name of a long option from the value after an equals sign. -/
def splitLong (cs : List Char) : String × Option String :=
  let name := cs.takeWhile (· != '=')
  match cs.drop name.length with
  | _ :: value => (String.ofList name, some (String.ofList value))
  | [] => (String.ofList name, none)

/-- Goes on with the arguments after the option's own, taking the value from them if it is not given
already. -/
def takeValue (next : Arguments → List String → Request) (a : Arguments) (o : ValueOption)
    (given : Option String) (rest : List String) : Request :=
  match given, rest with
  | some value, _ =>
    match a.set? o value with
    | some a => next a rest
    | none => .refuse
  | none, value :: rest =>
    if isValue value then
      match a.set? o value with
      | some a => next a rest
      | none => .refuse
    else .refuse
  | none, [] => .refuse

/-- Reads arguments, of which there are at most `count`; after two dashes all are files. -/
def read : Nat → Bool → Arguments → List String → Request
  | 0, _, a, _ => .run a
  | _ + 1, _, a, [] => .run a
  | count + 1, filesOnly, a, s :: rest =>
    if filesOnly || isValue s then
      match a.setInput? s with
      | some a => read count filesOnly a rest
      | none => .refuse
    else
      match s.toList with
      | '-' :: '-' :: [] => read count true a rest
      | '-' :: '-' :: cs =>
        let (name, given) := splitLong cs
        match ValueOption.ofLong? name, given with
        | some o, given => takeValue (read count filesOnly) a o given rest
        | none, some _ => .refuse
        | none, none =>
          if name == "list-languages" && !a.listLanguages then
            read count filesOnly { a with listLanguages := true } rest
          else if name == "help" then .help true
          else if name == "version" then .version
          else .refuse
      | '-' :: c :: cs =>
        match ValueOption.ofLetter? c with
        | some o =>
          let given := match cs with
            | [] => none
            | '=' :: value => some (String.ofList value)
            | value => some (String.ofList value)
          takeValue (read count filesOnly) a o given rest
        | none => if c == 'h' then .help false else if c == 'V' then .version else .refuse
      | _ => .refuse

/-- What a list of arguments asks for. -/
def parse (args : List String) : Request :=
  read args.length false {} args

end Arguments

end Tincture.CommandLine
