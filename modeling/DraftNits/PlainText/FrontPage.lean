import DraftNits.DraftName
import DraftNits.PlainText.Header

/-! # The first page

The first run of lines that are not blank is the header block, if one of its lines has a right
column. The title block follows: the lines that start with white space up to a blank line or a line
at the margin. Each of them holds the draft name or a part of the title. The body starts after the
title, or where the title would have started if there is none. -/

namespace DraftNits.PlainText

/-! ## The title block -/

/-- What a title block says. -/
structure TitleBlock where
  /-- The parts of the title in order. -/
  parts : List (List Char)
  /-- The last draft name with its line. -/
  draftName : Option (List Char × Nat)
  deriving DecidableEq, Repr

namespace TitleBlock

/-- What the lines of a title block say; the first of them has number `line`. -/
def ofLines (line : Nat) : List (List Char) → TitleBlock
  | [] => ⟨[], none⟩
  | cs :: rest =>
    let later := ofLines (line + 1) rest
    match DraftName.find? (Text.trim cs) with
    | some name => { later with draftName := later.draftName.or (some (name, line)) }
    | none => { later with parts := Text.trim cs :: later.parts }

/-- The title, if there is a part of it. -/
def title? (block : TitleBlock) : Option (List Char) :=
  if block.parts.isEmpty then none else some ([' '].intercalate block.parts)

end TitleBlock

/-- Whether a line can stand in a title block. -/
def isTitleLine (cs : List Char) : Bool := !Text.isAllBlank cs && Text.startsBlank cs

/-! ## The first page -/

/-- What the first page says and where the body starts. -/
structure FrontPage where
  /-- What the header block says. -/
  header : Header
  /-- The title. -/
  title : Option (List Char)
  /-- The draft name with its line. -/
  draftName : Option (List Char × Nat)
  /-- What is missing. -/
  diagnostics : List Diagnostic
  /-- The number of lines before the body. -/
  bodyStart : Nat
  deriving DecidableEq

namespace FrontPage

/-- The first draft name in lines that are numbered from `line` on. -/
def searchDraftName? (line : Nat) : List (List Char) → Option (List Char × Nat)
  | [] => none
  | cs :: rest =>
    match DraftName.find? cs with
    | some name => some (name, line)
    | none => searchDraftName? (line + 1) rest

/-- How many lines are searched for a draft name that the title block does not give. -/
def searchedLines : Nat := 60

/-- The number of blank lines at the start. -/
def blankLines (lines : List (List Char)) : Nat := (lines.takeWhile Text.isAllBlank).length

/-- The run of lines up to a blank one. -/
def block (lines : List (List Char)) : List (List Char) :=
  lines.takeWhile fun cs => !Text.isAllBlank cs

/-- Whether some line of a block has a right column. -/
def hasColumns (lines : List (List Char)) : Bool :=
  lines.any fun cs => (Columns.ofLine cs).right.isSome

/-- What is missing in a header block that starts on the given line. -/
def headerDiagnostics (line lineCount : Nat) (found : Bool) (header : Header) : List Diagnostic :=
  if !found then [Diagnostic.near line lineCount "Could not find the first-page header block"]
  else if header.date.isNone then
    [Diagnostic.near line lineCount "Could not find the document date in the first-page header"]
  else []

/-- The first page of a document of the given lines. -/
def ofLines (lines : List (List Char)) : FrontPage :=
  let start := blankLines lines
  if start = lines.length then ⟨Header.empty, none, none, [], lines.length⟩
  else
    let first := block (lines.drop start)
    let found := hasColumns first
    -- Without a right column on any line the block is no header but may be the title.
    let header := if found then Header.ofBlock (start + 1) first else Header.empty
    let headerEnd := if found then start + first.length else start
    let titleStart := headerEnd + blankLines (lines.drop headerEnd)
    let titleLines := (lines.drop titleStart).takeWhile isTitleLine
    let title := TitleBlock.ofLines (titleStart + 1) titleLines
    { header
      title := title.title?
      draftName := title.draftName.or (searchDraftName? 1 (lines.take searchedLines))
      diagnostics := headerDiagnostics (start + 1) lines.length found header
      bodyStart := if title.parts.isEmpty then titleStart else titleStart + titleLines.length }

end FrontPage

end DraftNits.PlainText
