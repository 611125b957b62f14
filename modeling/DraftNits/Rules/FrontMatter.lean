import DraftNits.DraftName
import DraftNits.Rule.Basic

/-! # Rules on the front matter

Checks of the title, the draft name, the category, the authors, the abstract, the version of the
XML vocabulary, and the time between the date of a draft and its expiry. -/

namespace DraftNits.Rules

/-- Whether a text is there and not blank. -/
def isStated (text : Option String) : Bool :=
  text.any fun s => !Text.isAllBlank s.toList

/-- The document has a title. -/
def title : Check := fun doc _ =>
  .ok (if isStated doc.front.title then []
  else [Finding.single (.general "No document title could be found") "The document has no title"])

/-- The draft states its name, and the name is well formed; `.txt` may follow it. -/
def draftName : Check := fun doc _ =>
  match doc.front.draftName with
  | none =>
    .ok [Finding.single (.general "No draft name of the form draft-<name>-<nn> was found")
      "The document does not state its draft name"]
  | some stated =>
    let name := DraftName.withoutExtension stated.toList
    .ok (if DraftName.isWellFormed name then []
    else [Finding.single
      ⟨doc.front.draftNameLine, "Malformed draft name '" ++ String.ofList name ++ "'"⟩
      "The draft name is malformed"])

/-- The RFC states its category. -/
def category : Check := fun doc _ =>
  .ok (if isStated doc.front.category then []
  else [Finding.single (.general "No category or intended status was found")
    "The RFC does not state its category"])

/-- The number of authors beyond which there are too many. -/
def maxAuthors : Nat := 5

/-- Authors are listed and, unless the mode is lenient, there are not too many. -/
def authors : Check := fun doc options =>
  let authors := doc.front.authors
  .ok (if authors.isEmpty then
    [Finding.single (.general "No author names were found in the front matter")
      "The document lists no authors"]
  else if maxAuthors < authors.length && !options.mode.isLenient then
    [⟨(authors.drop maxAuthors).map fun a =>
        ⟨a.line, "Author '" ++ a.name ++ "' is past the fifth"⟩,
      "The document has " ++ toString authors.length ++ " authors, more than the recommended " ++
        toString maxAuthors⟩]
  else [])

/-- The document has an abstract. -/
def abstract : Check := fun doc _ =>
  .ok (if doc.front.hasAbstract || (doc.findSection? "Abstract").isSome then []
  else [Finding.single (.general "No Abstract section was found") "The document has no Abstract"])

/-- The XML source declares the third version of the vocabulary. -/
def xmlVersion : Check := fun doc _ =>
  let summary := "The source is not marked as using the v3 vocabulary"
  match doc.front.xmlVersion.map fun s => String.ofList (Text.trim s.toList) with
  | none => .ok [Finding.single (.general "The <rfc> element has no version attribute") summary]
  | some version =>
    .ok (if version = "3" then []
    else [Finding.single (.general ("The <rfc> element declares version=\"" ++ version ++
      "\" instead of \"3\"")) summary])

/-! ## Expiry -/

/-- The largest number of days from the date of a draft to its expiry. -/
def maxExpiryDays : Int := 185

/-- What is wrong with an expiry after a date, if anything. -/
def expiryProblem? (date expires : Date) : Option String :=
  let days := date.daysTo expires
  if days ≤ 0 then
    some ("Expiration date " ++ expires.text ++ " is not after the document date " ++ date.text)
  else if maxExpiryDays < days then
    some ("Expiration date is " ++ toString days ++ " days after the document date")
  else none

/-- The draft says when it expires, and that is after its date and not too long after it. -/
def expiry : Check := fun doc _ =>
  match doc.front.expires with
  | none =>
    .ok [match doc.front.expiresText with
    | some text =>
      Finding.single ⟨doc.front.expiresLine,
          "Expiration date '" ++ text ++ "' is not a recognizable date"⟩
        "The expiration date could not be understood"
    | none =>
      Finding.single (.general "No expiration date was found")
        "The draft does not state when it expires"]
  | some expires =>
    match doc.front.date with
    | none => .ok []
    | some date =>
      .ok (Finding.ofNits
        ((expiryProblem? date expires).toList.map fun problem => ⟨doc.front.expiresLine, problem⟩)
        fun _ => "The expiration date is inconsistent with the document date")

end DraftNits.Rules
