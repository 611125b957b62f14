/-! # Files

What a run needs of a file system: the bytes of a file by its path, or the reason why there are
none. `FileTree` is a file system in memory, seen from a directory in it. -/

namespace DraftNits.CommandLine

/-- Why a file cannot be read. -/
inductive FileError
  /-- There is no such file. -/
  | missing
  /-- The path leads to a directory. -/
  | isDirectory
  /-- The path leads through something that is no directory. -/
  | notDirectory
  /-- Another reason, as the system gives it. -/
  | other (reason : String)
  deriving DecidableEq, Repr

/-- The reason in words, with the number that the system has for it. -/
def FileError.message : FileError → String
  | .missing => "No such file or directory (os error 2)"
  | .isDirectory => "Is a directory (os error 21)"
  | .notDirectory => "Not a directory (os error 20)"
  | .other reason => reason

/-- How a run reads a file. -/
abbrev ReadFile := String → Except FileError (List UInt8)

/-! ## Files in memory -/

/-- A directory with everything below it. Paths are lists of names; a directory on the way to a
file need not be listed. -/
structure FileTree where
  /-- The files by their paths. -/
  files : List (List (List Char) × List UInt8)
  /-- The directories by their paths. -/
  directories : List (List (List Char))
  deriving DecidableEq, Repr

/-- Where a path leads. -/
inductive Place
  /-- To a directory below the start, by the names on the way, innermost first. -/
  | directory (names : List (List Char))
  /-- To a file. -/
  | file (bytes : List UInt8)
  /-- To a directory out of which the start cannot be seen. -/
  | outside
  deriving DecidableEq, Repr

namespace FileTree

/-- The names in a path. -/
def names (path : String) : List (List Char) := path.toList.splitOn '/'

/-- A tree of files and directories with their paths as texts. -/
def ofPaths (files : List (String × List UInt8)) (directories : List String) : FileTree :=
  ⟨files.map fun (path, bytes) => (names path, bytes), directories.map names⟩

/-- Whether a path is that of a directory. -/
def isDirectory (tree : FileTree) (path : List (List Char)) : Bool :=
  tree.directories.any (fun d => path.isPrefixOf d) ||
    tree.files.any fun (file, _) => path.isPrefixOf file && path != file

/-- Where one more name leads. -/
def step (tree : FileTree) (place : Place) (name : List Char) : Except FileError Place :=
  match place with
  | .file _ => .error .notDirectory
  | .outside =>
    if name = [] ∨ name = ['.'] ∨ name = ['.', '.'] then .ok .outside else .error .missing
  | .directory inner =>
    if name = [] ∨ name = ['.'] then .ok place
    else if name = ['.', '.'] then
      match inner with
      | [] => .ok .outside
      | _ :: outer => .ok (.directory outer)
    else
      let path := (name :: inner).reverse
      match tree.files.lookup path with
      | some bytes => .ok (.file bytes)
      | none => if tree.isDirectory path then .ok (.directory (name :: inner)) else .error .missing

/-- Where a list of names leads. -/
def walk (tree : FileTree) (place : Place) : List (List Char) → Except FileError Place
  | [] => .ok place
  | name :: rest =>
    match tree.step place name with
    | .error error => .error error
    | .ok place => walk tree place rest

/-- The bytes of a file by its path. -/
def read (tree : FileTree) : ReadFile := fun path =>
  if path = "" then .error .missing
  else
    let start : Place := if path.toList.head? = some '/' then .outside else .directory []
    match tree.walk start (names path) with
    | .ok (.file bytes) => .ok bytes
    | .ok _ => .error .isDirectory
    | .error error => .error error

end FileTree

end DraftNits.CommandLine
