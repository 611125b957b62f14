import DraftNits.Document.Basic
import DraftNits.Json.Value

/-! # Findings

A finding is a group of nits with one summary. Each nit is a message that may point to a line. No
message ends with a period: where one is needed, the report adds it. -/

namespace DraftNits

/-! ## Severity -/

/-- How serious a finding is. -/
inductive Severity
  /-- The document has to change. -/
  | error
  /-- The document should change. -/
  | warning
  /-- Something to think about. -/
  | comment
  deriving DecidableEq, Repr, Inhabited

namespace Severity

/-- The severities in the order of a report. -/
def all : List Severity := [.error, .warning, .comment]

/-- The short key of a severity in data. -/
def key : Severity → String
  | .error => "err"
  | .warning => "warn"
  | .comment => "comm"

/-- The severity of a key. -/
def ofKey? : String → Option Severity
  | "err" => some .error
  | "warn" => some .warning
  | "comm" => some .comment
  | _ => none

/-- The noun for a finding of a severity. -/
def noun : Severity → String
  | .error => "error"
  | .warning => "warning"
  | .comment => "comment"

/-- The noun at the start of a heading. -/
def title : Severity → String
  | .error => "Error"
  | .warning => "Warning"
  | .comment => "Comment"

@[simp] theorem ofKey?_key (severity : Severity) : ofKey? severity.key = some severity := by
  cases severity <;> rfl

/-- Every severity has its place in a report. -/
theorem mem_all (severity : Severity) : severity ∈ all := by
  cases severity <;> simp [all]

/-- A severity as a JSON value. -/
def toJson (severity : Severity) : Json := .str severity.key

/-- The severity of a JSON value. -/
def ofJson? (v : Json) : Option Severity := v.choice?.bind ofKey?

end Severity

/-! ## Nits and findings -/

/-- A single message about a document. -/
structure Nit where
  /-- The line it is about, if it is about one. -/
  line : Option Nat
  /-- The message. -/
  message : String
  deriving DecidableEq, Repr

namespace Nit

/-- A nit about a line. -/
def onLine (line : Nat) (message : String) : Nit := ⟨some line, message⟩

/-- A nit about no line in particular. -/
def general (message : String) : Nit := ⟨none, message⟩

/-- A nit as a JSON value. -/
def toJson (nit : Nit) : Json := .obj [("num", .optNat nit.line), ("msg", .str nit.message)]

/-- The nit of a JSON value. -/
def ofJson? (v : Json) : Option Nit := do
  let members ← v.record? ["num", "msg"]
  return {
    line := ← Json.optional? Json.nat64? "num" members
    message := ← Json.required? Json.str? "msg" members }

end Nit

/-- A group of nits with one summary. -/
structure Finding where
  /-- The nits in order. -/
  nits : List Nit
  /-- The summary. -/
  summary : String
  deriving DecidableEq, Repr

/-- Whether a message ends with a period. -/
def endsWithPeriod (message : String) : Bool := message.toList.getLast? == some '.'

/-- A number of things in words: `1 line`, `2 lines`. -/
def countOf (n : Nat) (noun : String) : String :=
  toString n ++ " " ++ noun ++ (if n = 1 then "" else "s")

namespace Finding

/-- A finding of one nit. -/
def single (nit : Nit) (summary : String) : Finding := ⟨[nit], summary⟩

/-- The finding of some nits with a summary of their number, or none without nits. -/
def ofNits (nits : List Nit) (summary : Nat → String) : List Finding :=
  if nits.isEmpty then [] else [⟨nits, summary nits.length⟩]

/-- Whether neither the summary nor any nit ends with a period. -/
def isWellFormed (finding : Finding) : Bool :=
  !endsWithPeriod finding.summary && finding.nits.all fun nit => !endsWithPeriod nit.message

/-- A message without white space and then periods at its end. -/
def withoutPeriods (message : String) : String :=
  String.ofList (Text.dropEndWhile (· == '.') (Text.trimEnd message.toList))

/-- The finding that says what could not be read, one nit for each diagnostic. -/
def ofDiagnostics? (diagnostics : List Diagnostic) : Option Finding :=
  if diagnostics.isEmpty then none
  else
    some ⟨diagnostics.map fun d => ⟨d.line, withoutPeriods d.message⟩,
      "Found " ++ countOf diagnostics.length "parse error" ++
        " while processing file. The result may be incomplete"⟩

/-- A finding as a JSON value. -/
def toJson (finding : Finding) : Json :=
  .obj [("nits", .list Nit.toJson finding.nits), ("msg", .str finding.summary)]

/-- The finding of a JSON value. -/
def ofJson? (v : Json) : Option Finding := do
  let members ← v.record? ["nits", "msg"]
  return {
    nits := ← Json.required? (Json.list? Nit.ofJson?) "nits" members
    summary := ← Json.required? Json.str? "msg" members }

@[simp] theorem ofNits_nil (summary : Nat → String) : ofNits [] summary = [] := rfl

/-- There is a finding exactly where there are nits. -/
theorem ofNits_eq_nil_iff {nits : List Nit} {summary : Nat → String} :
    ofNits nits summary = [] ↔ nits = [] := by
  cases nits <;> simp [ofNits]

/-- The nits of the finding of some nits are these. -/
theorem flatMap_nits_ofNits (nits : List Nit) (summary : Nat → String) :
    (ofNits nits summary).flatMap Finding.nits = nits := by
  cases nits <;> simp [ofNits]

end Finding

end DraftNits
