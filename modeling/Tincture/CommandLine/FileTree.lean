import Tincture.Error

/-!
File trees.

A file tree is a list of paths and the texts of the files there. A directory exists when some file
is in it, and the root always does. Paths are followed name by name from the root, and every name
but the last has to be that of a directory.
-/

namespace Tincture

/-- Files by path, each the list of its names from the root on. -/
structure FileTree where
  files : List (List String × String) := []

namespace FileTree

/-- The tree with the given files. -/
def ofList (files : List (String × String)) : FileTree :=
  ⟨files.map fun (path, text) => (path.splitOn "/", text)⟩

/-- Whether a directory exists. -/
def hasDirectory (t : FileTree) (path : List String) : Bool :=
  path.isEmpty || t.files.any fun (p, _) => path.isPrefixOf p && path.length < p.length

/-- Follows names from a path on: a single dot stays, and two dots go back. -/
def follow? (t : FileTree) (path : List String) : List String → Option (List String)
  | [] => some path
  | name :: rest =>
    if name = "" then t.follow? path rest
    else if !t.hasDirectory path then none
    else if name = "." then t.follow? path rest
    else if name = ".." then if path.isEmpty then none else t.follow? path.dropLast rest
    else t.follow? (path ++ [name]) rest

/-- The names a path leads to; only paths within the tree lead anywhere. -/
def resolve? (t : FileTree) (path : String) : Option (List String) :=
  match path.splitOn "/" with
  | "" :: _ => none
  | names => t.follow? [] names

/-- Whether a path asks for a directory by its last character. -/
def asksDirectory (path : String) : Bool := path.toList.getLast? == some '/'

/-- The text of a file. -/
def read (t : FileTree) (path : String) : Except Error String :=
  match t.resolve? path with
  | none => .error (.file .missing)
  | some names =>
    if t.hasDirectory names then .error (.file .directory)
    else
      match t.files.lookup names with
      | some text => if asksDirectory path then .error (.file .missing) else .ok text
      | none => .error (.file .missing)

/-- The names and texts of the files directly in a directory, `none` when there is no such
directory. -/
def entries? (t : FileTree) (path : String) : Option (List (String × String)) :=
  match t.resolve? path with
  | none => none
  | some dir =>
    if t.hasDirectory dir then
      some (t.files.filterMap fun (p, text) =>
        if p.dropLast = dir then p.getLast?.map (·, text) else none)
    else none

/-- Whether a file can be written at a path: in a directory that exists, and not over one. -/
def isWritable (t : FileTree) (path : String) : Bool :=
  match t.resolve? path with
  | some names => !asksDirectory path && !t.hasDirectory names
  | none => false

end FileTree

/-- The last name of a path, `none` when it ends in two dots or has no name. -/
def fileName? (path : String) : Option String :=
  match ((path.splitOn "/").filter fun name => name ≠ "" ∧ name ≠ ".").getLast? with
  | some ".." => none
  | name => name

/-- The extension of a path: what follows the last dot of its last name, unless the name begins with
that dot. -/
def extension? (path : String) : Option String :=
  (fileName? path).bind fun name =>
    let cs := name.toList.reverse
    let tail := cs.takeWhile (· != '.')
    match cs.drop tail.length with
    | '.' :: _ :: _ => some (String.ofList tail.reverse)
    | _ => none

end Tincture
