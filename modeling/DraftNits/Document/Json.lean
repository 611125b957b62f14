import DraftNits.Document.Basic
import DraftNits.Calendar.Pattern
import DraftNits.Json.Value

/-! # Documents as data

A document as a JSON value and back. In the JSON value every member is present, with `null` for
what is missing; reading takes a missing optional member for `null`, passes over members that it
does not know, and refuses anything else. -/

namespace DraftNits

/-! ## Formats, kinds and dates -/

/-- A format as a JSON value. -/
def SourceFormat.toJson (format : SourceFormat) : Json := .str format.name

/-- The format of a JSON value. -/
def SourceFormat.ofJson? (v : Json) : Option SourceFormat := v.choice?.bind ofName?

/-- A kind as a JSON value. -/
def DocumentKind.toJson (kind : DocumentKind) : Json := .str kind.name

/-- The kind of a JSON value. -/
def DocumentKind.ofJson? (v : Json) : Option DocumentKind := v.choice?.bind ofName?

/-- A date as a JSON value. -/
def Date.toJson (d : Date) : Json := .str d.text

/-- The date of a JSON value. -/
def Date.ofJson? (v : Json) : Option Date := v.str?.bind fun s => Date.ofText? s.toList

/-- A date as a JSON value, or `null` where there is none. -/
def Date.optToJson : Option Date → Json
  | none => .null
  | some d => d.toJson

/-! ## Parts -/

/-- A diagnostic as a JSON value. -/
def Diagnostic.toJson (d : Diagnostic) : Json :=
  .obj [("line", .optNat d.line), ("message", .str d.message)]

/-- The diagnostic of a JSON value. -/
def Diagnostic.ofJson? (v : Json) : Option Diagnostic := do
  let members ← v.record? ["line", "message"]
  return {
    line := ← Json.optional? Json.nat64? "line" members
    message := ← Json.required? Json.str? "message" members }

/-- An author as a JSON value. -/
def Author.toJson (a : Author) : Json :=
  .obj [("name", .str a.name), ("organization", .optStr a.organization), ("line", .optNat a.line)]

/-- The author of a JSON value. -/
def Author.ofJson? (v : Json) : Option Author := do
  let members ← v.record? ["name", "organization", "line"]
  return {
    name := ← Json.required? Json.str? "name" members
    organization := ← Json.optional? Json.str? "organization" members
    line := ← Json.optional? Json.nat64? "line" members }

/-- Front matter as a JSON value. -/
def FrontMatter.toJson (m : FrontMatter) : Json :=
  .obj [("title", .optStr m.title), ("docname", .optStr m.draftName),
    ("docname_line", .optNat m.draftNameLine), ("rfc_number", .optNat m.rfcNumber),
    ("authors", .list Author.toJson m.authors), ("date", Date.optToJson m.date),
    ("date_line", .optNat m.dateLine), ("expires", Date.optToJson m.expires),
    ("expires_line", .optNat m.expiresLine), ("expires_text", .optStr m.expiresText),
    ("category", .optStr m.category), ("ipr", .optStr m.ipr),
    ("has_abstract", .bool m.hasAbstract), ("xml_version", .optStr m.xmlVersion)]

/-- The front matter of a JSON value. -/
def FrontMatter.ofJson? (v : Json) : Option FrontMatter := do
  let members ← v.record? ["title", "docname", "docname_line", "rfc_number", "authors", "date",
    "date_line", "expires", "expires_line", "expires_text", "category", "ipr", "has_abstract",
    "xml_version"]
  return {
    title := ← Json.optional? Json.str? "title" members
    draftName := ← Json.optional? Json.str? "docname" members
    draftNameLine := ← Json.optional? Json.nat64? "docname_line" members
    rfcNumber := ← Json.optional? Json.nat32? "rfc_number" members
    authors := ← Json.required? (Json.list? Author.ofJson?) "authors" members
    date := ← Json.optional? Date.ofJson? "date" members
    dateLine := ← Json.optional? Json.nat64? "date_line" members
    expires := ← Json.optional? Date.ofJson? "expires" members
    expiresLine := ← Json.optional? Json.nat64? "expires_line" members
    expiresText := ← Json.optional? Json.str? "expires_text" members
    category := ← Json.optional? Json.str? "category" members
    ipr := ← Json.optional? Json.str? "ipr" members
    hasAbstract := ← Json.required? Json.bool? "has_abstract" members
    xmlVersion := ← Json.optional? Json.str? "xml_version" members }

/-- A section as a JSON value. -/
def Section.toJson (s : Section) : Json :=
  .obj [("number", .optStr s.number), ("title", .str s.title), ("line", .nat s.line)]

/-- The section of a JSON value. -/
def Section.ofJson? (v : Json) : Option Section := do
  let members ← v.record? ["number", "title", "line"]
  return {
    number := ← Json.optional? Json.str? "number" members
    title := ← Json.required? Json.str? "title" members
    line := ← Json.required? Json.nat64? "line" members }

/-- A reference as a JSON value. -/
def Reference.toJson (r : Reference) : Json :=
  .obj [("anchor", .str r.anchor), ("target", .optStr r.target), ("normative", .bool r.normative),
    ("line", .nat r.line)]

/-- The reference of a JSON value. -/
def Reference.ofJson? (v : Json) : Option Reference := do
  let members ← v.record? ["anchor", "target", "normative", "line"]
  return {
    anchor := ← Json.required? Json.str? "anchor" members
    target := ← Json.optional? Json.str? "target" members
    normative := ← Json.required? Json.bool? "normative" members
    line := ← Json.required? Json.nat64? "line" members }

/-- A citation as a JSON value. -/
def Citation.toJson (c : Citation) : Json :=
  .obj [("anchor", .str c.anchor), ("line", .nat c.line)]

/-- The citation of a JSON value. -/
def Citation.ofJson? (v : Json) : Option Citation := do
  let members ← v.record? ["anchor", "line"]
  return {
    anchor := ← Json.required? Json.str? "anchor" members
    line := ← Json.required? Json.nat64? "line" members }

/-! ## Documents -/

/-- A document as a JSON value. -/
def Document.toJson (doc : Document) : Json :=
  .obj [("path", .str doc.path), ("format", doc.format.toJson), ("doc_type", doc.kind.toJson),
    ("lines", .list Json.str doc.lines), ("meta", doc.front.toJson),
    ("sections", .list Section.toJson doc.sections),
    ("references", .list Reference.toJson doc.references),
    ("citations", .list Citation.toJson doc.citations),
    ("err", .list Diagnostic.toJson doc.diagnostics)]

/-- The document of a JSON value. -/
def Document.ofJson? (v : Json) : Option Document := do
  let members ← v.record? ["path", "format", "doc_type", "lines", "meta", "sections", "references",
    "citations", "err"]
  return {
    path := ← Json.required? Json.str? "path" members
    format := ← Json.required? SourceFormat.ofJson? "format" members
    kind := ← Json.required? DocumentKind.ofJson? "doc_type" members
    lines := ← Json.required? (Json.list? Json.str?) "lines" members
    front := ← Json.required? FrontMatter.ofJson? "meta" members
    sections := ← Json.required? (Json.list? Section.ofJson?) "sections" members
    references := ← Json.required? (Json.list? Reference.ofJson?) "references" members
    citations := ← Json.required? (Json.list? Citation.ofJson?) "citations" members
    diagnostics := ← Json.required? (Json.list? Diagnostic.ofJson?) "err" members }

end DraftNits
