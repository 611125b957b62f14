import DraftNits.Json.Writer
import DraftNits.Report.Basic

/-! # Reports as data

The report of a document as a JSON text for other programs: the document's name, format and kind,
the findings by severity, and the number of findings of each severity. -/

namespace DraftNits.Report

/-- The number of findings of each severity as a JSON value. -/
def counts (report : Report) : Json :=
  .obj [("errors", .nat report.errors.length), ("warnings", .nat report.warnings.length),
    ("comments", .nat report.comments.length)]

/-- The report of a document as a JSON value. -/
def data (doc : Document) (report : Report) : Json :=
  .obj [("file", .str doc.path), ("format", .str doc.format.name), ("doc_type", .str doc.kind.name),
    ("err", .list Finding.toJson report.errors), ("warn", .list Finding.toJson report.warnings),
    ("comm", .list Finding.toJson report.comments), ("summary", report.counts)]

/-- The report of a document as a JSON text. -/
def dataText (doc : Document) (report : Report) : String := (report.data doc).pretty

end DraftNits.Report
