import DraftNits.Proofs.JsonReading
import DraftNits.Proofs.JsonWriting
import DraftNits.Report.Data

/-! # Reading the data of a report back

The data of a report keep all of it: who reads them by the names of the members finds the path, the
format and the kind of the document, every finding with its nits, and the number of findings of each
severity. No name stands twice in an object, so it does not matter which of several members a reader
would take, and numbers have no bound.

* `Json.list?_list` — a list is read back if its items are.
* `Nit.ofData?_toJson`, `Finding.ofData?_toJson`, `Report.ofData?_data` — the records, from the inside
  out.
* `Report.dataText_readable` — from the text to the report. -/

namespace DraftNits

/-! ## Reading by names -/

namespace Json

/-- The value of the only member of a name. -/
def sole? (name : String) : Json → Option Json
  | .obj members =>
    match members.filter fun member => member.1 == name with
    | [(_, value)] => some value
    | _ => none
  | _ => none

/-- The value of the only member of a name, as a reader finds it. -/
def field? {α : Type} (item? : Json → Option α) (name : String) (v : Json) : Option α :=
  (v.sole? name).bind item?

/-- A natural number of any size. -/
def nat? : Json → Option Nat
  | .int n => if 0 ≤ n then some n.toNat else none
  | _ => none

@[simp] theorem nat?_nat (n : Nat) : nat? (.nat n) = some n := by
  rw [nat, nat?, if_pos (Int.natCast_nonneg n), Int.toNat_natCast]

/-- A number that may be missing is read back. -/
@[simp] theorem opt?_optNat (n : Option Nat) : opt? nat? (.optNat n) = some n := by
  cases n with
  | none => rfl
  | some n => exact congrArg (Option.map some) (nat?_nat n)

/-- A list is read back if all of its items are. -/
theorem list?_list_of_mem {α : Type} {item : α → Json} {item? : Json → Option α} {xs : List α}
    (read : ∀ x ∈ xs, item? (item x) = some x) : list? item? (.list item xs) = some xs := by
  rw [list, list?]
  induction xs with
  | nil => rfl
  | cons x xs ih =>
    have later := ih fun y mem => read y (List.mem_cons_of_mem x mem)
    rw [List.map_cons, List.mapM_cons, read x List.mem_cons_self, later]
    rfl

/-- A list is read back if its items are. -/
theorem list?_list {α : Type} {item : α → Json} {item? : Json → Option α}
    (read : ∀ x, item? (item x) = some x) (xs : List α) : list? item? (.list item xs) = some xs :=
  list?_list_of_mem fun x _ => read x

/-- A list holds no number that is kept as it is written if its items do not. -/
theorem isWritable_list {α : Type} {item : α → Json} (writable : ∀ x, (item x).IsWritable)
    (xs : List α) : (Json.list item xs).IsWritable := by
  rw [list, IsWritable]
  induction xs with
  | nil => trivial
  | cons x xs ih => exact ⟨writable x, ih⟩

end Json

/-! ## Nits and findings -/

/-- The nit in some data. -/
def Nit.ofData? (v : Json) : Option Nit := do
  return {
    line := ← Json.field? (Json.opt? Json.nat?) "num" v
    message := ← Json.field? Json.str? "msg" v }

/-- The finding in some data. -/
def Finding.ofData? (v : Json) : Option Finding := do
  return {
    nits := ← Json.field? (Json.list? Nit.ofData?) "nits" v
    summary := ← Json.field? Json.str? "msg" v }

theorem Nit.ofData?_toJson (nit : Nit) : ofData? nit.toJson = some nit := by
  have line : Json.field? (Json.opt? Json.nat?) "num" nit.toJson = some nit.line :=
    Json.opt?_optNat nit.line
  have message : Json.field? Json.str? "msg" nit.toJson = some nit.message := rfl
  rw [ofData?, line, message]
  rfl

theorem Finding.ofData?_toJson (finding : Finding) : ofData? finding.toJson = some finding := by
  have nits : Json.field? (Json.list? Nit.ofData?) "nits" finding.toJson = some finding.nits :=
    Json.list?_list Nit.ofData?_toJson finding.nits
  have summary : Json.field? Json.str? "msg" finding.toJson = some finding.summary := rfl
  rw [ofData?, nits, summary]
  rfl

theorem Nit.isWritable_toJson (nit : Nit) : nit.toJson.IsWritable := by
  rcases nit with ⟨_ | line, message⟩
  all_goals simp [toJson, Json.optNat, Json.nat, Json.IsWritable, Json.MembersWritable]

theorem Finding.isWritable_toJson (finding : Finding) : finding.toJson.IsWritable := by
  have nits := Json.isWritable_list Nit.isWritable_toJson finding.nits
  simp [toJson, Json.IsWritable, Json.MembersWritable, nits]

/-! ## Reports -/

/-- What the data of a report say. -/
structure ReportRecord where
  /-- The path of the document. -/
  file : String
  /-- The name of its format. -/
  format : String
  /-- The name of its kind. -/
  kind : String
  /-- The findings. -/
  report : Report
  /-- The number of errors. -/
  errors : Nat
  /-- The number of warnings. -/
  warnings : Nat
  /-- The number of comments. -/
  comments : Nat
  deriving DecidableEq, Repr

/-- What the data of a report should say: where the document is and what it is, all findings, and as
many of each severity as there are. -/
def Report.record (doc : Document) (report : Report) : ReportRecord where
  file := doc.path
  format := doc.format.name
  kind := doc.kind.name
  report := report
  errors := report.errors.length
  warnings := report.warnings.length
  comments := report.comments.length

/-- The report in some data, among other members. -/
def Report.ofData? (v : Json) : Option Report := do
  return {
    errors := ← Json.field? (Json.list? Finding.ofData?) "err" v
    warnings := ← Json.field? (Json.list? Finding.ofData?) "warn" v
    comments := ← Json.field? (Json.list? Finding.ofData?) "comm" v }

namespace ReportRecord

/-- What some data say. -/
def ofData? (v : Json) : Option ReportRecord := do
  let summary ← v.sole? "summary"
  return {
    file := ← Json.field? Json.str? "file" v
    format := ← Json.field? Json.str? "format" v
    kind := ← Json.field? Json.str? "doc_type" v
    report := ← Report.ofData? v
    errors := ← Json.field? Json.nat? "errors" summary
    warnings := ← Json.field? Json.nat? "warnings" summary
    comments := ← Json.field? Json.nat? "comments" summary }

/-- What a text says that writes some data. -/
def ofText? (text : String) : Option ReportRecord := (Json.parse? text).bind ofData?

end ReportRecord

namespace Report

/-- The findings are read back. -/
theorem ofData?_data (doc : Document) (report : Report) :
    ofData? (report.data doc) = some report := by
  have read := Json.list?_list Finding.ofData?_toJson
  have errors : Json.field? (Json.list? Finding.ofData?) "err" (report.data doc) =
      some report.errors := read report.errors
  have warnings : Json.field? (Json.list? Finding.ofData?) "warn" (report.data doc) =
      some report.warnings := read report.warnings
  have comments : Json.field? (Json.list? Finding.ofData?) "comm" (report.data doc) =
      some report.comments := read report.comments
  rw [ofData?, errors, warnings, comments]
  rfl

/-- All of the data is read back. -/
theorem recordOfData?_data (doc : Document) (report : Report) :
    ReportRecord.ofData? (report.data doc) = some (report.record doc) := by
  have summary : (report.data doc).sole? "summary" = some report.counts := rfl
  have file : Json.field? Json.str? "file" (report.data doc) = some doc.path := rfl
  have format : Json.field? Json.str? "format" (report.data doc) = some doc.format.name := rfl
  have kind : Json.field? Json.str? "doc_type" (report.data doc) = some doc.kind.name := rfl
  have errors : Json.field? Json.nat? "errors" report.counts = some report.errors.length :=
    Json.nat?_nat _
  have warnings : Json.field? Json.nat? "warnings" report.counts = some report.warnings.length :=
    Json.nat?_nat _
  have comments : Json.field? Json.nat? "comments" report.counts = some report.comments.length :=
    Json.nat?_nat _
  simp only [ReportRecord.ofData?, summary, file, format, kind, ofData?_data, Option.bind_eq_bind,
    Option.bind_some, errors, warnings, comments]
  rfl

/-- No number in the data is kept as it is written. -/
theorem isWritable_data (doc : Document) (report : Report) : (report.data doc).IsWritable := by
  have findings := Json.isWritable_list Finding.isWritable_toJson
  simp [data, counts, Json.nat, Json.IsWritable, Json.MembersWritable, findings]

/-- The text of a report writes its data. -/
theorem isTextOf_dataText (doc : Document) (report : Report) :
    Json.IsTextOf (report.dataText doc) (report.data doc) :=
  Json.isTextOf_pretty (isWritable_data doc report)

/-- From the text of a report everything in it is read back. -/
theorem ofText?_dataText (doc : Document) (report : Report) :
    ReportRecord.ofText? (report.dataText doc) = some (report.record doc) := by
  rw [ReportRecord.ofText?, Json.parse?_eq_some_iff.2 (isTextOf_dataText doc report)]
  exact recordOfData?_data doc report

/-- The text of a report can be read back. Whoever reads JSON finds the value of its data in it and no
other. By the names of its members it gives the path, the format and the kind of the document, the
findings of each severity in order with the lines and messages of their nits, and a summary that
counts them. So no two reports of a document have one text. -/
theorem dataText_readable (doc : Document) (report : Report) :
    (∀ v, Json.IsTextOf (report.dataText doc) v ↔ v = report.data doc) ∧
      ReportRecord.ofText? (report.dataText doc) = some (report.record doc) ∧
      ∀ other : Report, other.dataText doc = report.dataText doc ↔ other = report := by
  have writes := isTextOf_dataText doc report
  refine ⟨fun v => ⟨fun also => Json.IsTextOf.unique also writes, fun same => same ▸ writes⟩,
    ofText?_dataText doc report, fun other => ⟨fun same => ?_, congrArg (dataText doc)⟩⟩
  -- Equal texts are read as equal records, and a record holds its report.
  have read : some (other.record doc) = some (report.record doc) := by
    rw [← ofText?_dataText, same, ofText?_dataText]
  exact congrArg ReportRecord.report (Option.some.inj read)

end Report

end DraftNits
