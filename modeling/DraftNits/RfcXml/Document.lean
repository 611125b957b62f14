import DraftNits.RfcXml.CrossReferences
import DraftNits.RfcXml.Recovery
import DraftNits.Xml.Content

/-! # Documents in XML

A text that is an XML document with the root `rfc` is read from its tree. A text that is no XML
document gives what can be saved from its lines, with a diagnostic for the syntax error. A document
with another root is not read at all. -/

namespace DraftNits.RfcXml

/-- The document of a root element. -/
def ofRoot (path : String) (lines : List (List Char)) (root : Xml.Node) : Document where
  path := path
  format := .xml
  kind := DocumentKind.ofNumber (rfcNumber? root)
  lines := lines.map String.ofList
  front := frontMatter root
  sections := sections root
  references := references root
  citations := citations root
  diagnostics := frontDiagnostics lines.length root

/-- The diagnostic for a syntax error in a text of `lineCount` lines. -/
def syntaxDiagnostic (lineCount : Nat) (error : Xml.SyntaxError) : Diagnostic :=
  Diagnostic.near error.line lineCount error.message

/-- The document of a text, or the name of its root element if that is not `rfc`. -/
def readDocument (path : String) (text : List Char) (lines : List (List Char)) :
    Except String Document :=
  match Xml.parse text with
  | .error error => .ok (recover path lines (syntaxDiagnostic lines.length error))
  | .ok nodes =>
    match Xml.root? nodes with
    | none => .ok (recover path lines (syntaxDiagnostic lines.length .noRoot))
    | some root => if root.hasName "rfc" then .ok (ofRoot path lines root) else .error root.name

end DraftNits.RfcXml
