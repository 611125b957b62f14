import DraftNits.CommandLine.Run

/-! # The program

The program reads the files that its arguments name and writes what the run leaves behind. -/

namespace DraftNits.CommandLine

/-- Why the system does not give a file. -/
def FileError.ofSystem : IO.Error → FileError
  | .noFileOrDirectory .. => .missing
  | .inappropriateType _ code _ => if code = 21 then .isDirectory else .notDirectory
  | error => .other error.toString

/-- The files of the system that the documents of a request name, with their bytes. -/
def loadFiles (documents : List String) :
    IO (List (String × Except FileError (List UInt8))) :=
  documents.mapM fun (path : String) => do
    match ← (IO.FS.readBinFile path).toBaseIO with
    | .ok bytes => return (path, .ok bytes.toList)
    | .error error => return (path, .error (FileError.ofSystem error))

/-- The documents that arguments ask for, none if they cannot be followed. -/
def documentsOf (arguments : List String) (environment : Option String) : List String :=
  match Request.ofArguments arguments environment with
  | .ok request => if request.list then [] else request.documents
  | .error _ => []

end DraftNits.CommandLine

/-- Checks the documents that the arguments name. -/
def main (arguments : List String) : IO UInt32 := do
  let environment ← IO.getEnv "IDNITS_MODE"
  let files ← DraftNits.CommandLine.loadFiles
    (DraftNits.CommandLine.documentsOf arguments environment)
  let outcome := DraftNits.CommandLine.run arguments environment fun path =>
    (files.lookup path).getD (.error .missing)
  IO.print outcome.output
  IO.eprint outcome.errors
  return outcome.status.toUInt32
