import DraftNits.Document.Json
import DraftNits.Proofs.JsonReading
import DraftNits.Proofs.ReportData
import DraftNits.Proofs.WrittenDates

/-! # Reading the data of a document back

The data of a document keep all of it. What is missing is written as `null`, a date in its written
form, and a format and a kind by their names, some of which are the same; yet each member is read by
its own reader, so the document is found again. Only numbers have a bound: line numbers have at most
64 bits and the number of an RFC at most 32.

* `Json.record?_bind`, `Json.required?_cons_of_ne`, … — how the members of a record are found.
* `Author.ofJson?_toJson`, `FrontMatter.ofJson?_toJson`, … — the records, from the inside out.
* `Document.ofText?_toJson` — from either layout of the text to the document. -/

namespace DraftNits

/-! ## Members -/

namespace Json

section Records

variable {α : Type} (item? : Json → Option α) (name : String) (v : Json)
  (members : List (String × Json))

/-- What is read from an object is read from its members. -/
@[simp] theorem record?_bind {β : Type} (names : List String)
    (f : List (String × Json) → Option β) : (record? names (.obj members) >>= f) = f members := by
  simp [record?]

/-- The first member of a name is the one that is read. -/
@[simp] theorem required?_cons_self : required? item? name ((name, v) :: members) = item? v := by
  simp [required?]

/-- The first member of a name is the one that is read, also where it may be missing. -/
@[simp] theorem optional?_cons_self :
    optional? item? name ((name, v) :: members) = opt? item? v := by
  simp [optional?]

variable {name} {other : String}

/-- A member of another name is passed over. -/
@[simp] theorem required?_cons_of_ne (differ : name ≠ other) :
    required? item? name ((other, v) :: members) = required? item? name members := by
  simp [required?, List.lookup_cons, beq_false_of_ne differ]

/-- A member of another name is passed over, also where the one asked for may be missing. -/
@[simp] theorem optional?_cons_of_ne (differ : name ≠ other) :
    optional? item? name ((other, v) :: members) = optional? item? name members := by
  simp [optional?, List.lookup_cons, beq_false_of_ne differ]

end Records

/-- A number that may be missing is read back, if it is below the bound. -/
theorem opt?_natBelow? {bound : Nat} {n : Option Nat} (fits : ∀ k ∈ n, k < bound) :
    opt? (natBelow? bound) (.optNat n) = some n := by
  cases n with
  | none => rfl
  | some n => exact congrArg (Option.map some) (natBelow?_nat (fits n rfl))

theorem nat64?_nat {n : Nat} (fits : n < UInt64.size) : nat64? (.nat n) = some n :=
  natBelow?_nat fits

theorem opt?_nat64? {n : Option Nat} (fits : ∀ k ∈ n, k < UInt64.size) :
    opt? nat64? (.optNat n) = some n :=
  opt?_natBelow? fits

theorem opt?_nat32? {n : Option Nat} (fits : ∀ k ∈ n, k < UInt32.size) :
    opt? nat32? (.optNat n) = some n :=
  opt?_natBelow? fits

/-- A text that may be missing is read back. -/
@[simp] theorem opt?_optStr (s : Option String) : opt? str? (.optStr s) = some s := by
  cases s <;> rfl

theorem isWritable_optNat (n : Option Nat) : (optNat n).IsWritable := by
  cases n <;> simp [optNat, nat, IsWritable]

theorem isWritable_optStr (s : Option String) : (optStr s).IsWritable := by
  cases s <;> simp [optStr, IsWritable]

end Json

/-! ## Formats, kinds and dates -/

theorem SourceFormat.ofJson?_toJson (format : SourceFormat) : ofJson? format.toJson = some format :=
  ofName?_name format

theorem DocumentKind.ofJson?_toJson (kind : DocumentKind) : ofJson? kind.toJson = some kind :=
  ofName?_name kind

theorem Date.ofJson?_toJson (d : Date) : ofJson? d.toJson = some d := ofText?_text d

/-- A date that may be missing is read back. -/
theorem Date.opt?_optToJson (d : Option Date) : Json.opt? ofJson? (optToJson d) = some d := by
  cases d with
  | none => rfl
  | some d => exact congrArg (Option.map some) (ofJson?_toJson d)

theorem Date.isWritable_optToJson (d : Option Date) : (optToJson d).IsWritable := by
  cases d <;> simp [optToJson, toJson, Json.IsWritable]

/-! ## Parts -/

/-- Whether the line of a diagnostic has a number of 64 bits. -/
def Diagnostic.Fits (d : Diagnostic) : Prop := ∀ n ∈ d.line, n < UInt64.size

/-- Whether the line of an author has a number of 64 bits. -/
def Author.Fits (a : Author) : Prop := ∀ n ∈ a.line, n < UInt64.size

/-- Whether the numbers of front matter are small enough for their members. -/
structure FrontMatter.Fits (m : FrontMatter) : Prop where
  /-- The line of the draft name has a number of 64 bits. -/
  draftNameLine : ∀ n ∈ m.draftNameLine, n < UInt64.size
  /-- The number of an RFC has 32 bits. -/
  rfcNumber : ∀ n ∈ m.rfcNumber, n < UInt32.size
  /-- The lines of the authors have numbers of 64 bits. -/
  authors : ∀ a ∈ m.authors, a.Fits
  /-- The line of the date has a number of 64 bits. -/
  dateLine : ∀ n ∈ m.dateLine, n < UInt64.size
  /-- The line of the expiry has a number of 64 bits. -/
  expiresLine : ∀ n ∈ m.expiresLine, n < UInt64.size

theorem Diagnostic.ofJson?_toJson {d : Diagnostic} (fits : d.Fits) :
    ofJson? d.toJson = some d := by
  simp [ofJson?, toJson, Json.opt?_nat64? fits]

theorem Author.ofJson?_toJson {a : Author} (fits : a.Fits) : ofJson? a.toJson = some a := by
  simp [ofJson?, toJson, Json.opt?_nat64? fits]

theorem FrontMatter.ofJson?_toJson {m : FrontMatter} (fits : m.Fits) :
    ofJson? m.toJson = some m := by
  have authors : Json.list? Author.ofJson? (.list Author.toJson m.authors) = some m.authors :=
    Json.list?_list_of_mem fun a mem => Author.ofJson?_toJson (fits.authors a mem)
  rw [ofJson?, toJson, Json.record?_bind]
  -- The members are found before anything is read, which keeps the terms small.
  simp only [Json.optional?_cons_self, Json.required?_cons_self, Json.optional?_cons_of_ne,
    Json.required?_cons_of_ne, ne_eq, String.reduceEq, not_false_eq_true]
  simp [authors, Date.opt?_optToJson, Json.opt?_nat64? fits.draftNameLine,
    Json.opt?_nat32? fits.rfcNumber, Json.opt?_nat64? fits.dateLine,
    Json.opt?_nat64? fits.expiresLine]

theorem Section.ofJson?_toJson {s : Section} (fits : s.line < UInt64.size) :
    ofJson? s.toJson = some s := by
  simp [ofJson?, toJson, Json.nat64?_nat fits]

theorem Reference.ofJson?_toJson {r : Reference} (fits : r.line < UInt64.size) :
    ofJson? r.toJson = some r := by
  simp [ofJson?, toJson, Json.nat64?_nat fits]

theorem Citation.ofJson?_toJson {c : Citation} (fits : c.line < UInt64.size) :
    ofJson? c.toJson = some c := by
  simp [ofJson?, toJson, Json.nat64?_nat fits]

/-! ## Values that can be written -/

theorem Diagnostic.isWritable_toJson (d : Diagnostic) : d.toJson.IsWritable := by
  simp [toJson, Json.IsWritable, Json.MembersWritable, Json.isWritable_optNat]

theorem Author.isWritable_toJson (a : Author) : a.toJson.IsWritable := by
  simp [toJson, Json.IsWritable, Json.MembersWritable, Json.isWritable_optNat,
    Json.isWritable_optStr]

theorem FrontMatter.isWritable_toJson (m : FrontMatter) : m.toJson.IsWritable := by
  simp [toJson, Json.IsWritable, Json.MembersWritable, Json.isWritable_optNat,
    Json.isWritable_optStr, Date.isWritable_optToJson,
    Json.isWritable_list Author.isWritable_toJson]

theorem Section.isWritable_toJson (s : Section) : s.toJson.IsWritable := by
  simp [toJson, Json.nat, Json.IsWritable, Json.MembersWritable, Json.isWritable_optStr]

theorem Reference.isWritable_toJson (r : Reference) : r.toJson.IsWritable := by
  simp [toJson, Json.nat, Json.IsWritable, Json.MembersWritable, Json.isWritable_optStr]

theorem Citation.isWritable_toJson (c : Citation) : c.toJson.IsWritable := by
  simp [toJson, Json.nat, Json.IsWritable, Json.MembersWritable]

/-! ## Documents -/

namespace Document

/-- Whether the numbers of a document are small enough for their members: line numbers have 64 bits,
the number of an RFC has 32. -/
structure Fits (doc : Document) : Prop where
  /-- The numbers of the front matter fit. -/
  front : doc.front.Fits
  /-- The lines of the sections have numbers of 64 bits. -/
  sections : ∀ s ∈ doc.sections, s.line < UInt64.size
  /-- The lines of the references have numbers of 64 bits. -/
  references : ∀ r ∈ doc.references, r.line < UInt64.size
  /-- The lines of the citations have numbers of 64 bits. -/
  citations : ∀ c ∈ doc.citations, c.line < UInt64.size
  /-- The lines of the diagnostics have numbers of 64 bits. -/
  diagnostics : ∀ d ∈ doc.diagnostics, d.Fits

/-- The document in the data that a text writes. -/
def ofText? (text : String) : Option Document := (Json.parse? text).bind ofJson?

/-- The data of a document give the document. -/
theorem ofJson?_toJson {doc : Document} (fits : doc.Fits) : ofJson? doc.toJson = some doc := by
  have lines : Json.list? Json.str? (.list Json.str doc.lines) = some doc.lines :=
    Json.list?_list Json.str?_str doc.lines
  have sections : Json.list? Section.ofJson? (.list Section.toJson doc.sections) =
      some doc.sections :=
    Json.list?_list_of_mem fun s mem => Section.ofJson?_toJson (fits.sections s mem)
  have references : Json.list? Reference.ofJson? (.list Reference.toJson doc.references) =
      some doc.references :=
    Json.list?_list_of_mem fun r mem => Reference.ofJson?_toJson (fits.references r mem)
  have citations : Json.list? Citation.ofJson? (.list Citation.toJson doc.citations) =
      some doc.citations :=
    Json.list?_list_of_mem fun c mem => Citation.ofJson?_toJson (fits.citations c mem)
  have diagnostics : Json.list? Diagnostic.ofJson? (.list Diagnostic.toJson doc.diagnostics) =
      some doc.diagnostics :=
    Json.list?_list_of_mem fun d mem => Diagnostic.ofJson?_toJson (fits.diagnostics d mem)
  simp [ofJson?, toJson, SourceFormat.ofJson?_toJson, DocumentKind.ofJson?_toJson,
    lines, FrontMatter.ofJson?_toJson fits.front, sections, references, citations, diagnostics]

/-- No number in the data is kept as it is written. -/
theorem isWritable_toJson (doc : Document) : doc.toJson.IsWritable := by
  have text : ∀ s, (Json.str s).IsWritable := fun s => by simp [Json.IsWritable]
  have lines := Json.isWritable_list text doc.lines
  have front := FrontMatter.isWritable_toJson doc.front
  have sections := Json.isWritable_list Section.isWritable_toJson doc.sections
  have references := Json.isWritable_list Reference.isWritable_toJson doc.references
  have citations := Json.isWritable_list Citation.isWritable_toJson doc.citations
  have diagnostics := Json.isWritable_list Diagnostic.isWritable_toJson doc.diagnostics
  simp [toJson, SourceFormat.toJson, DocumentKind.toJson, Json.IsWritable, Json.MembersWritable,
    lines, front, sections, references, citations, diagnostics]

/-- A document is found again in every text that writes its data. -/
theorem ofText?_of_isTextOf {doc : Document} (fits : doc.Fits) {text : String}
    (writes : Json.IsTextOf text doc.toJson) : ofText? text = some doc := by
  rw [ofText?, Json.parse?_eq_some_iff.2 writes, Option.bind_some, ofJson?_toJson fits]

/-- A document is read back from its data, whatever its path and its texts hold, whatever is missing
and whatever years its dates have: from the text on one line, from the text with a line for each item,
and from every other text that writes the same data. -/
theorem ofText?_toJson {doc : Document} (fits : doc.Fits) :
    ofText? doc.toJson.compact = some doc ∧ ofText? doc.toJson.pretty = some doc ∧
      ∀ text, Json.IsTextOf text doc.toJson → ofText? text = some doc := by
  have writable := isWritable_toJson doc
  exact ⟨ofText?_of_isTextOf fits (Json.isTextOf_compact writable),
    ofText?_of_isTextOf fits (Json.isTextOf_pretty writable),
    fun _ writes => ofText?_of_isTextOf fits writes⟩

/-- A document with the first and the last date of the calendar, the largest numbers, and texts with
quotes, control characters and characters beyond U+FFFF. -/
def farthest : Document where
  path := "/tmp/\"näme\"\\\n.txt"
  format := .submission
  kind := .draft
  lines := ["", "\u0000\u001f\u007f😀", "\t"]
  front := {
    title := some ""
    draftName := none
    draftNameLine := some 18446744073709551615
    rfcNumber := some 4294967295
    authors := [⟨"Ø", some "null", some 0⟩, ⟨"", none, none⟩]
    date := some ⟨-262143, 1, 1, by decide⟩
    dateLine := none
    expires := some ⟨262142, 12, 31, by decide⟩
    expiresLine := some 1
    expiresText := some "\u2028"
    category := none
    ipr := some "trust200902"
    hasAbstract := true
    xmlVersion := some "3" }
  sections := [⟨some "1", "ids", 1⟩, ⟨none, "", 2⟩]
  references := [⟨"RFC2119", none, true, 18446744073709551615⟩]
  citations := [⟨"", 0⟩]
  diagnostics := [⟨none, "null"⟩, ⟨some 3, "/"⟩]

theorem ofText?_toJson_farthest : farthest.Fits ∧
    ofText? farthest.toJson.compact = some farthest ∧
      ofText? farthest.toJson.pretty = some farthest ∧
        ∀ text, Json.IsTextOf text farthest.toJson → ofText? text = some farthest := by
  have fits : farthest.Fits := by
    refine ⟨⟨?_, ?_, ?_, ?_, ?_⟩, ?_, ?_, ?_, ?_⟩ <;>
      simp [farthest, Author.Fits, Diagnostic.Fits, UInt64.size, UInt32.size]
  exact ⟨fits, ofText?_toJson fits⟩

end Document

end DraftNits
