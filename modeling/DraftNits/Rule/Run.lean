import DraftNits.Report.Basic
import DraftNits.Rule.Basic

/-! # Running a rule set

A rule set checks a document by running its applicable rules in order. The report starts with one
error for what could not be read. A rule that fails, or that reports a line which the document does
not have, ends the check. -/

namespace DraftNits

/-- The first line that a finding reports and the document does not have. -/
def Finding.strayLine? (doc : Document) (finding : Finding) : Option Nat :=
  finding.nits.findSome? fun nit =>
    match nit.line with
    | some line => if (doc.lineAt? line).isNone then some line else none
    | none => none

/-- The failure of a rule that reports a line which the document does not have. -/
def Rule.strayFailure (rule : Rule) (doc : Document) (line : Nat) : RuleFailure :=
  ⟨rule.id, "reported line " ++ toString line ++ " of a " ++ toString doc.lineCount ++
    "-line document"⟩

/-- What a rule finds in a document, if all of it lies inside the document. -/
def Rule.findings (rule : Rule) (doc : Document) (options : Options) :
    Except RuleFailure (List Finding) :=
  match rule.check with
  | none => .ok []
  | some check =>
    match check doc options with
    | .error failure => .error failure
    | .ok findings =>
      match findings.findSome? (Finding.strayLine? doc) with
      | some line => .error (rule.strayFailure doc line)
      | none => .ok findings

namespace RuleSet

/-- The report after the findings of some rules. -/
def runRules (doc : Document) (options : Options) (report : Report) :
    List Rule → Except RuleFailure Report
  | [] => .ok report
  | rule :: rules =>
    match rule.findings doc options with
    | .error failure => .error failure
    | .ok findings => runRules doc options (report.pushAll rule.severity findings) rules

/-- The report that says what could not be read. -/
def initialReport (doc : Document) : Report :=
  match Finding.ofDiagnostics? doc.diagnostics with
  | some finding => Report.empty.push .error finding
  | none => Report.empty

/-- The report of a rule set on a document. -/
def check (set : RuleSet) (doc : Document) (options : Options) : Except RuleFailure Report :=
  runRules doc options (initialReport doc) (set.applicable doc.format doc.kind)

end RuleSet

end DraftNits
