import DraftNits.CommandLine.Arguments
import DraftNits.CommandLine.Files
import DraftNits.Intake
import DraftNits.Report.Data
import DraftNits.Report.Text
import DraftNits.Rule.Listing
import DraftNits.Rules.Standard

/-! # A run of the program

A run as a function of its arguments, the environment and the files: it checks the documents one
after the other and writes a report for each. A document that cannot be read ends the run; what
was written before it stays. The exit status is 0 without errors, 1 with an error or a document
that cannot be read, and 2 for arguments that cannot be followed. -/

namespace DraftNits.CommandLine

/-- What a run leaves behind. -/
structure Outcome where
  /-- The exit status. -/
  status : Nat
  /-- What is written to the standard output. -/
  output : String
  /-- What is written to the standard error. -/
  errors : String
  deriving DecidableEq, Repr

/-- Why a run ends before its last document. -/
inductive RunError
  /-- A document cannot be read. -/
  | intake (document : String) (error : IntakeError)
  /-- A rule failed. -/
  | rule (document : String) (failure : RuleFailure)
  /-- A report cannot be written. -/
  | render (error : RenderError)
  deriving DecidableEq, Repr

/-- The message of an error: the document, and then the reason with its own reason. -/
def RunError.message : RunError → String
  | .intake document (.unreadable path reason) =>
    "Could not parse " ++ document ++ ": " ++ (IntakeError.unreadable path reason).message ++
      ": " ++ reason
  | .intake document error => "Could not parse " ++ document ++ ": " ++ error.message
  | .rule document failure => "Failed to check " ++ document ++ ": " ++ failure.message
  | .render error => error.message

/-! ## One document -/

/-- The document of a file. -/
def readFile (read : ReadFile) (mode : Mode) (path : String) : Except IntakeError Document :=
  match read path with
  | .error error => .error (.unreadable path error.message)
  | .ok bytes => readBytes path mode bytes

/-- The report on a file, with the document. -/
def checkFile (read : ReadFile) (options : Options) (path : String) :
    Except RunError (Document × Report) :=
  match readFile read options.mode path with
  | .error error => .error (.intake path error)
  | .ok doc =>
    match RuleSet.standard.check doc options with
    | .error failure => .error (.rule path failure)
    | .ok report => .ok (doc, report)

/-- What is written before a document is read. -/
def opening (output : OutputFormat) (path : String) : String :=
  match output with
  | .text => "Inspecting file " ++ path ++ "\n"
  | .json => ""

/-- What is written about a document. -/
def body (output : OutputFormat) (options : Options) (path : String) (doc : Document)
    (report : Report) : Except RunError String :=
  match output with
  | .text => (report.render path options.verbose).mapError .render
  | .json => .ok (report.dataText doc ++ "\n")

/-! ## All documents -/

/-- What a run has written, its totals, and why it ended early if it did. -/
structure Progress where
  /-- What has been written. -/
  output : String
  /-- The totals. -/
  tally : Tally
  /-- The reason for which the run ended early. -/
  error : Option RunError
  deriving DecidableEq, Repr

/-- The run after some documents. -/
def runDocuments (read : ReadFile) (output : OutputFormat) (options : Options) (written : String)
    (tally : Tally) : List String → Progress
  | [] => ⟨written, tally, none⟩
  | path :: rest =>
    let written := written ++ opening output path
    match checkFile read options path with
    | .error error => ⟨written, tally, some error⟩
    | .ok (doc, report) =>
      match body output options path doc report with
      | .error error => ⟨written, tally.record report, some error⟩
      | .ok text =>
        runDocuments read output options (written ++ text) (tally.record report) rest

/-- What a run leaves behind. -/
def Progress.outcome (progress : Progress) : Outcome :=
  match progress.error with
  | none => ⟨progress.tally.exitStatus, progress.output, ""⟩
  | some error => ⟨1, progress.output, "Error: " ++ error.message ++ "\n"⟩

/-- The text of the version. -/
def versionText : String := "idnits 0.1.0\n"

/-- A short description of the arguments. -/
def usageText : String :=
  "Check Internet-Drafts and RFCs for conformance nits\n\n" ++
  "Usage: idnits [OPTIONS] <DOC>...\n\n" ++
  "Options:\n" ++
  "  -d, --debug            Enable debug logging\n" ++
  "  -l, --list             List the available checks and exit\n" ++
  "  -m, --mode <MODE>      Checking mode: normal, lenient or submission\n" ++
  "  -v, --verbose          Show every nit with its line number\n" ++
  "      --output <OUTPUT>  Report format: text or json\n" ++
  "  -h, --help             Print help\n" ++
  "  -V, --version          Print version\n"

/-- What a run that ends with its arguments leaves behind. -/
def Stop.outcome : Stop → Outcome
  | .version => ⟨0, versionText, ""⟩
  | .help => ⟨0, usageText, ""⟩
  | .error cause => ⟨2, "", "error: " ++ cause.message ++ "\n"⟩

/-- What a run that is to do something leaves behind. -/
def Request.outcome (request : Request) (read : ReadFile) : Outcome :=
  if request.list then ⟨0, ListingRow.table RuleSet.standard.listing, ""⟩
  else (runDocuments read request.output request.options "" Tally.empty request.documents).outcome

/-- What a run with the given arguments, environment and files leaves behind. -/
def run (arguments : List String) (environment : Option String) (read : ReadFile) : Outcome :=
  match Request.ofArguments arguments environment with
  | .error stop => stop.outcome
  | .ok request => request.outcome read

end DraftNits.CommandLine
