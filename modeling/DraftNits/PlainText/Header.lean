import DraftNits.Calendar.Written
import DraftNits.Document.Basic
import DraftNits.PlainText.AuthorName
import DraftNits.PlainText.Columns

/-! # The header block of the first page

The left column of the header carries the RFC number, the status and the expiry, the right column
the authors, their organizations and the date. Each line is read on its own: what a later line
says replaces what an earlier one said, except that authors are added to the list. -/

namespace DraftNits.PlainText

/-! ## Expiry -/

/-- When a draft expires. -/
structure Expiry where
  /-- The date. -/
  date : Option Date
  /-- The line that says so. -/
  line : Option Nat
  /-- The text, where it is no date. -/
  text : Option String
  deriving DecidableEq

namespace Expiry

/-- No word on the expiry. -/
def unknown : Expiry := ⟨none, none, none⟩

/-- The expiry after an `Expires:` line with the given value. The value is kept as a text if it is
no date. -/
def readField (expiry : Expiry) (line : Nat) (value : List Char) : Expiry :=
  match Date.ofFrontMatter? value with
  | some d => ⟨some d, some line, expiry.text⟩
  | none => ⟨none, some line, some (String.ofList (Text.trim value))⟩

end Expiry

/-! ## Header -/

/-- What the header says. -/
structure Header where
  /-- The number of an RFC. -/
  rfcNumber : Option Nat
  /-- The category or intended status. -/
  category : Option String
  /-- The expiry. -/
  expiry : Expiry
  /-- The authors in order. -/
  authors : List Author
  /-- The date with its line. -/
  date : Option (Nat × Date)
  deriving DecidableEq

namespace Header

/-- A header that says nothing. -/
def empty : Header := ⟨none, none, Expiry.unknown, [], none⟩

/-- The digits after the label of an RFC number, if the text is one. -/
def rfcDigits? (left : List Char) : Option (List Char) :=
  match Text.afterStart? "Request for Comments:".toList left with
  | none => none
  | some rest =>
    let digits := (Text.trimStart rest).takeWhile Text.isDecimalDigit
    if digits.isEmpty then none else some digits

/-- The value after the label of a status. -/
def status? (left : List Char) : Option (List Char) :=
  (Text.afterStart? "Intended status:".toList left).or
    (Text.afterStart? "Category:".toList left)

/-- The header after a left column. -/
def readLeft (header : Header) (line : Nat) (left : List Char) : Header :=
  match rfcDigits? left with
  | some digits => { header with rfcNumber := Text.readUnsigned32? digits }
  | none =>
    match status? left with
    | some status => { header with category := some (String.ofList (Text.trim status)) }
    | none =>
      match Text.afterStart? "Expires:".toList left with
      | some value => { header with expiry := header.expiry.readField line value }
      | none => header

/-- The authors with an organization for the last of them, unless that one has an organization. -/
def addOrganization (organization : String) : List Author → List Author
  | [] => []
  | [author] =>
    [{ author with organization := some (author.organization.getD organization) }]
  | author :: authors => author :: addOrganization organization authors

/-- The header after a right column: a date, an author, or the organization of the last author. -/
def readRight (header : Header) (line : Nat) (right : List Char) : Header :=
  match Date.ofFrontMatter? right with
  | some d => { header with date := some (line, d) }
  | none =>
    if isAuthorName right then
      { header with authors := header.authors ++ [⟨String.ofList right, none, some line⟩] }
    else { header with authors := addOrganization (String.ofList right) header.authors }

/-- The header after a line. -/
def readLine (header : Header) (line : Nat) (cs : List Char) : Header :=
  let columns := Columns.ofLine cs
  let header := match columns.left with
    | some left => header.readLeft line left
    | none => header
  match columns.right with
  | some right => header.readRight line right
  | none => header

/-- The header after lines that are numbered from `line` on. -/
def readLines (header : Header) (line : Nat) : List (List Char) → Header
  | [] => header
  | cs :: rest => (header.readLine line cs).readLines (line + 1) rest

@[simp] theorem readLines_nil (header : Header) (line : Nat) : header.readLines line [] = header :=
  rfl

/-- The header of a block whose first line has the given number. -/
def ofBlock (line : Nat) (block : List (List Char)) : Header := empty.readLines line block

end Header

end DraftNits.PlainText
