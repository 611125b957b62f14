import DraftNits.Report.Basic

/-! # Reports as text

The text of a report names the severities that have findings, errors first, each with its
findings, and closes with a line of counts. In the detailed form every nit follows its finding on
a line `file(line): message`.

The text puts a period or a colon after each summary, so it can be written only if no message ends
with a period already. -/

namespace DraftNits

/-- What keeps a report from being written. -/
inductive RenderError
  /-- A message ends with a period. -/
  | endsWithPeriod
  deriving DecidableEq, Repr

/-- The message of an error. -/
def RenderError.message : RenderError → String
  | .endsWithPeriod => "finding message ends with a period"

namespace Report

/-- The heading of a number of findings of a severity. -/
def heading (severity : Severity) (count : Nat) : String :=
  severity.title ++ if count = 1 then "" else "s"

/-- The line of a nit in the detailed form. -/
def nitLine (file : String) (nit : Nit) : String :=
  match nit.line with
  | some line => file ++ "(" ++ toString line ++ "): " ++ nit.message ++ "\n"
  | none => file ++ ": " ++ nit.message ++ "\n"

/-- The text of a finding. -/
def findingText (file : String) (verbose : Bool) (finding : Finding) : String :=
  if verbose then
    "   " ++ finding.summary ++ ":\n\n" ++ String.join (finding.nits.map (nitLine file)) ++ "\n"
  else "   " ++ finding.summary ++ ".\n"

/-- The text of the findings of a severity, nothing if there are none. -/
def bucketText (file : String) (verbose : Bool) (severity : Severity)
    (findings : List Finding) : String :=
  if findings.isEmpty then ""
  else
    "\n" ++ heading severity findings.length ++ ":\n\n" ++
      String.join (findings.map (findingText file verbose))

/-- The closing line of counts. -/
def summary (report : Report) : String :=
  "Found " ++ countOf report.errors.length "error" ++ ", " ++
    countOf report.warnings.length "warning" ++ ", " ++
    countOf report.comments.length "comment" ++ "."

/-- The advice after a short text. -/
def verboseHint : String :=
  "Use --verbose mode to get a line-by-line listing of the issues found.\n\n"

/-- Whether no message of a report ends with a period. -/
def isWellFormed (report : Report) : Bool :=
  report.errors.all Finding.isWellFormed && report.warnings.all Finding.isWellFormed &&
    report.comments.all Finding.isWellFormed

/-- The text of a report whose messages end without a period. -/
def text (file : String) (verbose : Bool) (report : Report) : String :=
  String.join (report.buckets.map fun (severity, findings) =>
      bucketText file verbose severity findings) ++
    "\n" ++ (if report.isClean || verbose then "" else verboseHint) ++ report.summary ++ "\n"

/-- The text of a report. -/
def render (file : String) (verbose : Bool) (report : Report) : Except RenderError String :=
  if report.isWellFormed then .ok (report.text file verbose) else .error .endsWithPeriod

/-- A report is written exactly if no message ends with a period. -/
theorem render_eq_ok_iff {file out : String} {verbose : Bool} {report : Report} :
    report.render file verbose = .ok out ↔
      report.isWellFormed = true ∧ report.text file verbose = out := by
  unfold render
  split <;> simp_all

end Report

end DraftNits
