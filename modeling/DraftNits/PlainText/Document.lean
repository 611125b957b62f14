import DraftNits.PlainText.Body
import DraftNits.PlainText.FrontPage

/-! # Documents in plain text

A text document is read from its lines: the first page, and the body from where the first page
says that it starts. A document with an RFC number is an RFC, any other a draft. -/

namespace DraftNits.PlainText

/-- The front matter of a document from its first page and its body. -/
def frontMatter (page : FrontPage) (body : Body) : FrontMatter where
  title := page.title.map String.ofList
  draftName := page.draftName.map fun found => String.ofList found.1
  draftNameLine := page.draftName.map Prod.snd
  rfcNumber := page.header.rfcNumber
  authors := page.header.authors
  date := page.header.date.map Prod.snd
  dateLine := page.header.date.map Prod.fst
  expires := body.expiry.date
  expiresLine := body.expiry.line
  expiresText := body.expiry.text
  category := page.header.category
  ipr := if body.hasIpr then some "BCP 78/79" else none
  hasAbstract := body.hasAbstract
  xmlVersion := none

/-- The document of a text. -/
def readDocument (path : String) (format : SourceFormat) (lines : List (List Char)) : Document :=
  let page := FrontPage.ofLines lines
  let body := Body.ofLines page.header.expiry page.bodyStart lines
  { path, format
    kind := DocumentKind.ofNumber page.header.rfcNumber
    lines := lines.map String.ofList
    front := frontMatter page body
    sections := body.sections.reverse
    references := body.references.reverse
    citations := body.citations.reverse
    diagnostics := page.diagnostics }

end DraftNits.PlainText
