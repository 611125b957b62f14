import DraftNits.PlainText.Furniture
import DraftNits.Rule.Basic

/-! # Rules on the layout of text

Checks of the length of lines and pages, of page breaks in text that is to have no pages, of the
characters on each line, and of the sections that every document has to have. -/

namespace DraftNits.Rules

/-- The form feed that ends a page. -/
def formFeed : Char := '\x0c'

/-! ## Lines -/

/-- The longest line that is allowed. -/
def maxLineLength (mode : Mode) : Nat := if mode.isLenient then 80 else 72

/-- The length of a line in characters, without form feeds and carriage returns at its end. -/
def lineLength (line : String) : Nat :=
  (Text.dropEndWhile (fun c => c == formFeed || c == '\r') line.toList).length

/-- No line is too long. -/
def lineLengths : Check := fun doc options =>
  let limit := maxLineLength options.mode
  let nits := doc.numberedLines.filterMap fun (number, line) =>
    if limit < lineLength line then
      some (Nit.onLine number ("Line is " ++ toString (lineLength line) ++ " characters long"))
    else none
  .ok (Finding.ofNits nits fun n =>
    "Found " ++ countOf n "line" ++ " longer than " ++ toString limit ++ " characters")

/-! ## Pages -/

/-- A run of lines between page breaks. -/
structure Page where
  /-- The first line. -/
  start : Nat
  /-- The number of lines. -/
  length : Nat
  deriving DecidableEq, Repr

/-- The page after a line with a form feed: a line that holds nothing else belongs to no page. -/
def pageAfterBreak (lineCount number : Nat) (line : String) : Page :=
  if Text.isAllBlank line.toList then ⟨min (number + 1) lineCount, 0⟩ else ⟨number, 1⟩

/-- The pages from a current one on, with lines that are numbered from `number` on. -/
def pagesFrom (lineCount number : Nat) (current : Page) : List String → List Page
  | [] => [current]
  | line :: rest =>
    if line.toList.contains formFeed then
      current :: pagesFrom lineCount (number + 1) (pageAfterBreak lineCount number line) rest
    else pagesFrom lineCount (number + 1) { current with length := current.length + 1 } rest

/-- The pages of a document that have lines. -/
def pages (doc : Document) : List Page :=
  (pagesFrom doc.lineCount 1 ⟨1, 0⟩ doc.lines).filter fun page => 0 < page.length

/-- The longest page that is allowed. -/
def maxPageLength : Nat := 58

/-- No page is too long; in lenient mode pages are not looked at. -/
def pageLengths : Check := fun doc options =>
  let nits := (pages doc).zipIdx.filterMap fun (page, index) =>
    if maxPageLength < page.length then
      some (Nit.onLine page.start
        ("Page " ++ toString (index + 1) ++ " is " ++ toString page.length ++ " lines long"))
    else none
  .ok (if options.mode.isLenient then []
  else Finding.ofNits nits fun n =>
    "Found " ++ countOf n "page" ++ " longer than " ++ toString maxPageLength ++ " lines")

/-- What shows on a line that the text is divided into pages. -/
def paginationProblem? (line : String) : Option String :=
  if line.toList.contains formFeed then some "Form feed in submission text"
  else if PlainText.isFooter line.toList then some "Page footer in submission text"
  else none

/-- Text for submission is not divided into pages. -/
def pagination : Check := fun doc _ =>
  let nits := doc.numberedLines.filterMap fun (number, line) =>
    (paginationProblem? line).map (Nit.onLine number)
  .ok (Finding.ofNits nits fun n =>
    "Found " ++ countOf n "pagination artifact" ++ " in a submission document")

/-! ## Characters -/

/-- What is wrong with a character. Form feeds and carriage returns are allowed, and characters
beyond ASCII are in lenient mode. -/
def characterProblem? (lenient : Bool) (c : Char) : Option String :=
  if c = formFeed || c = '\r' then none
  else if c = '\t' then some "Line contains a tab character"
  else if Text.isControl c then
    some ("Line contains control character " ++ Text.codePoint c)
  else if 0x80 ≤ c.toNat && !lenient then
    some ("Line contains non-ASCII character " ++ Text.codePoint c)
  else none

/-- Every character is allowed; of each line the first one that is not is reported. -/
def characters : Check := fun doc options =>
  let nits := doc.numberedLines.filterMap fun (number, line) =>
    (line.toList.findSome? (characterProblem? options.mode.isLenient)).map (Nit.onLine number)
  .ok (Finding.ofNits nits fun n =>
    "Found " ++ countOf n "line" ++ " with control or non-ASCII characters")

/-! ## Sections -/

/-- The sections that every document has to have. -/
def boilerplateTitles : List String := ["Status of This Memo", "Copyright Notice"]

/-- The document has the sections that every document has to have. -/
def boilerplate : Check := fun doc _ =>
  let missing := boilerplateTitles.filter fun title => (doc.findSection? title).isNone
  .ok (Finding.ofNits (missing.map fun title => .general ("Missing '" ++ title ++ "' section"))
    fun n => "The document is missing " ++ countOf n "required boilerplate section")

end DraftNits.Rules
