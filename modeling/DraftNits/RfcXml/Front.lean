import DraftNits.Calendar.Written
import DraftNits.Document.Basic
import DraftNits.Xml.Tree

/-! # The front element

The title, the authors, the date and the abstract of an XML document, as its `front` element gives
them, and the attributes of its root. -/

namespace DraftNits.RfcXml

/-- A text, unless it is empty. -/
def nonempty? (s : String) : Option String := if s = "" then none else some s

/-- A diagnostic for the line of a node in a text of `lineCount` lines. -/
def diagnosticAt (lineCount : Nat) (node : Xml.Node) (message : String) : Diagnostic :=
  Diagnostic.near node.line lineCount message

/-! ## Authors -/

/-- The name of an author: the full name, or the initials and the surname, or nothing. -/
def authorName (node : Xml.Node) : String :=
  match node.attribute? "fullname" with
  | some name => name
  | none =>
    match node.attribute? "surname", node.attribute? "initials" with
    | some surname, some initials => initials ++ " " ++ surname
    | some surname, none => surname
    | none, _ => ""

/-- The author of an `author` element. -/
def author (node : Xml.Node) : Author where
  name := authorName node
  organization := (node.child? "organization").bind fun child => nonempty? child.words
  line := some node.line

/-! ## Date -/

/-- The date of a `date` element, if it gives a year. -/
def date? (node : Xml.Node) (year : String) : Option Date :=
  Date.ofParts? year.toList ((node.attribute? "month").map String.toList)
    ((node.attribute? "day").map String.toList)

/-- What is wrong with a `date` element: it gives a year, but no date. -/
def dateDiagnostics (lineCount : Nat) (node : Xml.Node) : List Diagnostic :=
  match node.attribute? "year" with
  | none => []
  | some year =>
    if (date? node year).isSome then []
    else [diagnosticAt lineCount node "Could not parse the <date> element"]

/-! ## RFC number -/

/-- The RFC number of a root element. -/
def rfcNumber? (root : Xml.Node) : Option Nat :=
  (root.attribute? "number").bind fun number => Text.readUnsigned32? (Text.trim number.toList)

/-- What is wrong with the number of a root element: there is one that is no number. -/
def numberDiagnostics (lineCount : Nat) (root : Xml.Node) : List Diagnostic :=
  match root.attribute? "number" with
  | none => []
  | some number =>
    if (rfcNumber? root).isSome then []
    else
      [diagnosticAt lineCount root ("Could not parse the RFC number '" ++ number ++ "'")]

/-! ## Front matter -/

/-- The front matter of a root element. -/
def frontMatter (root : Xml.Node) : FrontMatter :=
  let front := root.child? "front"
  let dateNode := front.bind fun node => node.child? "date"
  { title := (front.bind fun node => node.child? "title").bind fun node => nonempty? node.words
    draftName := root.attribute? "docName"
    draftNameLine := (root.attribute? "docName").map fun _ => root.line
    rfcNumber := rfcNumber? root
    authors := (front.map fun node => (node.childrenNamed "author").map author).getD []
    date := dateNode.bind fun node => (node.attribute? "year").bind (date? node)
    dateLine := dateNode.map Xml.Node.line
    expires := none
    expiresLine := none
    expiresText := none
    category := root.attribute? "category"
    ipr := root.attribute? "ipr"
    hasAbstract := (front.bind fun node => node.child? "abstract").isSome
    xmlVersion := root.attribute? "version" }

/-- What could not be read of the front matter. -/
def frontDiagnostics (lineCount : Nat) (root : Xml.Node) : List Diagnostic :=
  numberDiagnostics lineCount root ++
    match root.child? "front" with
    | none => [diagnosticAt lineCount root "Missing <front> element"]
    | some front =>
      match front.child? "date" with
      | none => []
      | some node => dateDiagnostics lineCount node

end DraftNits.RfcXml
