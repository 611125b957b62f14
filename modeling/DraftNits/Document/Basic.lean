import DraftNits.Calendar.Date
import DraftNits.Text.Lowercase
import DraftNits.Text.Trim

/-! # Documents

What the checks know about an Internet-Draft or an RFC, whatever form it came in: its lines, its
front matter, its sections, references and citations, and what could not be read.

Lines are numbered from 1. `Document.lineAt?`, `Document.numberedLines`, `Document.findSection?`,
`Document.hasReference` and `Document.cites` are the questions that a check may ask. -/

namespace DraftNits

/-- The form a document comes in. -/
inductive SourceFormat
  /-- XML source. -/
  | xml
  /-- Plain text with pages. -/
  | paginated
  /-- Plain text before its submission, without pages. -/
  | submission
  deriving DecidableEq, Repr, Inhabited

namespace SourceFormat

/-- The name of a format in reports and data files. -/
def name : SourceFormat → String
  | .xml => "xml"
  | .paginated => "txt"
  | .submission => "ids"

/-- The format of a name. -/
def ofName? : String → Option SourceFormat
  | "xml" => some .xml
  | "txt" => some .paginated
  | "ids" => some .submission
  | _ => none

/-- The short label in the listing of rules. -/
def label : SourceFormat → String
  | .xml => "XML"
  | .paginated => "TXT"
  | .submission => "IDs"

@[simp] theorem ofName?_name (format : SourceFormat) : ofName? format.name = some format := by
  cases format <;> rfl

end SourceFormat

/-- The kind of a document. -/
inductive DocumentKind
  /-- A published RFC. -/
  | rfc
  /-- An Internet-Draft. -/
  | draft
  deriving DecidableEq, Repr, Inhabited

namespace DocumentKind

/-- The name of a kind in reports and data files. -/
def name : DocumentKind → String
  | .rfc => "rfc"
  | .draft => "ids"

/-- The kind of a name. -/
def ofName? : String → Option DocumentKind
  | "rfc" => some .rfc
  | "ids" => some .draft
  | _ => none

/-- The short label in the listing of rules. -/
def label : DocumentKind → String
  | .rfc => "RFC"
  | .draft => "IDs"

/-- A document with an RFC number is an RFC, any other a draft. -/
def ofNumber : Option Nat → DocumentKind
  | some _ => .rfc
  | none => .draft

@[simp] theorem ofName?_name (kind : DocumentKind) : ofName? kind.name = some kind := by
  cases kind <;> rfl

end DocumentKind

/-! ## Parts of a document -/

/-- Something that kept a part of a document from being read. -/
structure Diagnostic where
  /-- The line, if the problem has a place. -/
  line : Option Nat
  /-- What is wrong. -/
  message : String
  deriving DecidableEq, Repr

/-- A diagnostic for a line, moved to the nearest line that a text of `lineCount` lines has; in a
text without lines it has no place. -/
def Diagnostic.near (line lineCount : Nat) (message : String) : Diagnostic :=
  if lineCount = 0 then ⟨none, message⟩ else ⟨some (min (max line 1) lineCount), message⟩

/-- An author. -/
structure Author where
  /-- The name as it is written. -/
  name : String
  /-- The organization, if one is given. -/
  organization : Option String
  /-- The line of the name. -/
  line : Option Nat
  deriving DecidableEq, Repr

/-- What the first page says about a document. -/
structure FrontMatter where
  /-- The title. -/
  title : Option String
  /-- The draft name, such as `draft-ietf-foo-bar-03`. -/
  draftName : Option String
  /-- The line of the draft name. -/
  draftNameLine : Option Nat
  /-- The number of an RFC. -/
  rfcNumber : Option Nat
  /-- The authors in order. -/
  authors : List Author
  /-- The date of the document. -/
  date : Option Date
  /-- The line of the date. -/
  dateLine : Option Nat
  /-- The date on which a draft expires. -/
  expires : Option Date
  /-- The line that says when a draft expires. -/
  expiresLine : Option Nat
  /-- The expiry as it is written, where it is no date that can be read. -/
  expiresText : Option String
  /-- The category or intended status. -/
  category : Option String
  /-- The statement on intellectual property. -/
  ipr : Option String
  /-- Whether there is an abstract. -/
  hasAbstract : Bool
  /-- The version of the XML vocabulary. -/
  xmlVersion : Option String
  deriving DecidableEq

/-- Front matter that says nothing. -/
def FrontMatter.empty : FrontMatter :=
  ⟨none, none, none, none, [], none, none, none, none, none, none, none, false, none⟩

instance : Inhabited FrontMatter := ⟨FrontMatter.empty⟩

/-- A section heading. -/
structure Section where
  /-- The number, such as `3.1`, if the section has one. -/
  number : Option String
  /-- The title. -/
  title : String
  /-- The line of the heading. -/
  line : Nat
  deriving DecidableEq, Repr

/-- An entry of a list of references. -/
structure Reference where
  /-- The name by which it is cited. -/
  anchor : String
  /-- Where it can be found. -/
  target : Option String
  /-- Whether it belongs to the normative references. -/
  normative : Bool
  /-- The line on which the entry starts. -/
  line : Nat
  deriving DecidableEq, Repr

/-- A place in the text that names a reference. -/
structure Citation where
  /-- The name of the reference. -/
  anchor : String
  /-- The line. -/
  line : Nat
  deriving DecidableEq, Repr

/-- A document as the checks see it. -/
structure Document where
  /-- The name of the file. -/
  path : String
  /-- The form it came in. -/
  format : SourceFormat
  /-- Its kind. -/
  kind : DocumentKind
  /-- Its lines. -/
  lines : List String
  /-- Its front matter. -/
  front : FrontMatter
  /-- Its sections in order. -/
  sections : List Section
  /-- Its references in order. -/
  references : List Reference
  /-- Its citations in order. -/
  citations : List Citation
  /-- What could not be read, in the order in which it was met. -/
  diagnostics : List Diagnostic
  deriving DecidableEq

namespace Document

/-! ## Questions about a document -/

/-- The number of lines. -/
def lineCount (doc : Document) : Nat := doc.lines.length

/-- The line of a number; the first line has number 1. -/
def lineAt? (doc : Document) (number : Nat) : Option String :=
  if number = 0 then none else doc.lines[number - 1]?

/-- The lines with their numbers. -/
def numberedLines (doc : Document) : List (Nat × String) :=
  doc.lines.zipIdx.map fun (line, index) => (index + 1, line)

/-- Whether a title begins with a text in small letters when it is lowered itself. -/
def titleStarts (lowered : List Char) (title : String) : Bool :=
  lowered.isPrefixOf (Text.lowercase title.toList)

/-- The first section whose title begins with the given one, when both are in lower case. -/
def findSection? (doc : Document) (title : String) : Option Section :=
  doc.sections.find? fun s => titleStarts (Text.lowercase title.toList) s.title

/-- Whether there is a reference of the given name, in any ASCII case. -/
def hasReference (doc : Document) (anchor : String) : Bool :=
  doc.references.any fun r => Text.eqIgnoringAsciiCase r.anchor.toList anchor.toList

/-- Whether the given name is cited, in any ASCII case. -/
def cites (doc : Document) (anchor : String) : Bool :=
  doc.citations.any fun c => Text.eqIgnoringAsciiCase c.anchor.toList anchor.toList

@[simp] theorem lineAt?_zero (doc : Document) : doc.lineAt? 0 = none := rfl

@[simp] theorem lineAt?_succ (doc : Document) (n : Nat) : doc.lineAt? (n + 1) = doc.lines[n]? := by
  simp [lineAt?]

/-- The numbers with a line are those from 1 to the number of lines. -/
theorem isSome_lineAt?_iff (doc : Document) (n : Nat) :
    (doc.lineAt? n).isSome ↔ 1 ≤ n ∧ n ≤ doc.lineCount := by
  cases n with
  | zero => simp
  | succ n =>
    rw [lineAt?_succ, Option.isSome_iff_ne_none, ne_eq, List.getElem?_eq_none_iff, lineCount]
    omega

end Document

/-- A diagnostic is moved into the text. -/
theorem Diagnostic.near_line {line lineCount n : Nat} {message : String}
    (h : (Diagnostic.near line lineCount message).line = some n) : 1 ≤ n ∧ n ≤ lineCount := by
  unfold Diagnostic.near at h
  split at h
  · simp at h
  · simp only [Option.some.injEq] at h; omega

end DraftNits
