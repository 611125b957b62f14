import DraftNits.Finding

/-! # Reports

A report holds the findings for one document, by severity and within a severity in the order in
which they were made. A tally adds up the reports of a run. -/

namespace DraftNits

/-- The findings for a document. -/
structure Report where
  /-- The errors. -/
  errors : List Finding
  /-- The warnings. -/
  warnings : List Finding
  /-- The comments. -/
  comments : List Finding
  deriving DecidableEq, Repr

namespace Report

/-- A report without findings. -/
def empty : Report := ⟨[], [], []⟩

instance : Inhabited Report := ⟨empty⟩

/-- The findings of a severity. -/
def bucket (report : Report) : Severity → List Finding
  | .error => report.errors
  | .warning => report.warnings
  | .comment => report.comments

/-- The report with a finding added at the end of its severity. -/
def push (report : Report) (severity : Severity) (finding : Finding) : Report :=
  match severity with
  | .error => { report with errors := report.errors ++ [finding] }
  | .warning => { report with warnings := report.warnings ++ [finding] }
  | .comment => { report with comments := report.comments ++ [finding] }

/-- The report with findings added one after the other. -/
def pushAll (report : Report) (severity : Severity) (findings : List Finding) : Report :=
  findings.foldl (fun report finding => report.push severity finding) report

/-- The severities with their findings, in order. -/
def buckets (report : Report) : List (Severity × List Finding) :=
  Severity.all.map fun severity => (severity, report.bucket severity)

/-- The number of findings. -/
def total (report : Report) : Nat :=
  report.errors.length + report.warnings.length + report.comments.length

/-- Whether there is no finding. -/
def isClean (report : Report) : Bool := report.total == 0

/-- A pushed finding is the last one of its severity; the other severities stay. -/
theorem bucket_push (report : Report) (severity other : Severity) (finding : Finding) :
    (report.push severity finding).bucket other =
      report.bucket other ++ if severity = other then [finding] else [] := by
  cases severity <;> cases other <;> simp [push, bucket]

/-- A report without findings is the empty one. -/
theorem isClean_iff {report : Report} : report.isClean = true ↔ report = empty := by
  rcases report with ⟨errors, warnings, comments⟩
  simp [isClean, total, empty, and_assoc]

/-- A report as a JSON value. -/
def toJson (report : Report) : Json :=
  .obj [("err", .list Finding.toJson report.errors), ("warn", .list Finding.toJson report.warnings),
    ("comm", .list Finding.toJson report.comments)]

/-- The report of a JSON value. -/
def ofJson? (v : Json) : Option Report := do
  let members ← v.record? ["err", "warn", "comm"]
  return {
    errors := ← Json.required? (Json.list? Finding.ofJson?) "err" members
    warnings := ← Json.required? (Json.list? Finding.ofJson?) "warn" members
    comments := ← Json.required? (Json.list? Finding.ofJson?) "comm" members }

end Report

/-! ## Tallies -/

/-- The totals of a run. -/
structure Tally where
  /-- The number of documents. -/
  documents : Nat
  /-- The number of errors. -/
  errors : Nat
  /-- The number of warnings. -/
  warnings : Nat
  /-- The number of comments. -/
  comments : Nat
  deriving DecidableEq, Repr

namespace Tally

/-- The totals before the first document. -/
def empty : Tally := ⟨0, 0, 0, 0⟩

instance : Inhabited Tally := ⟨empty⟩

/-- The totals with one more report. -/
def record (tally : Tally) (report : Report) : Tally where
  documents := tally.documents + 1
  errors := tally.errors + report.errors.length
  warnings := tally.warnings + report.warnings.length
  comments := tally.comments + report.comments.length

/-- Whether some document has an error. -/
def hasErrors (tally : Tally) : Bool := 0 < tally.errors

/-- The exit status of a run with these totals: 1 with an error, 0 without. -/
def exitStatus (tally : Tally) : Nat := if tally.hasErrors then 1 else 0

end Tally

end DraftNits
