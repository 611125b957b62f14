import DraftNits.Xml.Position

/-! # What can be wrong with an XML text

The causes for which a text is no XML document, each with the place where it was noticed, and
their messages. -/

namespace DraftNits.Xml

/-- What should have stood at a place. -/
inductive Expected
  /-- A character. -/
  | char (c : Char)
  /-- White space. -/
  | space
  /-- A quotation mark of either kind. -/
  | quote
  /-- The inner declarations or the end of a document type. -/
  | typeBody
  /-- The value of an entity. -/
  | entityValue
  deriving DecidableEq, Repr

/-- What should have stood at a place, in words. -/
def Expected.text : Expected → String
  | .char c => "'" ++ c.toString ++ "'"
  | .space => "a whitespace"
  | .quote => "a quote"
  | .typeBody => "'[' or '>'"
  | .entityValue => "a quote, SYSTEM or PUBLIC"

/-- A cause for which a text is no XML document. -/
inductive SyntaxError
  /-- The text ends too early. -/
  | unexpectedEnd
  /-- There is no root element. -/
  | noRoot
  /-- The root element is not closed. -/
  | unclosedRoot
  /-- Something else should have stood here. -/
  | unexpected (expected : Expected) (found : Char) (at_ : Position)
  /-- A fixed text should have stood here. -/
  | missingText (text : String) (at_ : Position)
  /-- No name stands here. -/
  | invalidName (at_ : Position)
  /-- A character that may not stand in an XML text. -/
  | invalidChar (c : Char) (at_ : Position)
  /-- Something that has no place here. -/
  | unknownToken (at_ : Position)
  /-- A comment that holds two hyphens or ends in one. -/
  | invalidComment (at_ : Position)
  /-- A declaration of XML that does not start the text. -/
  | misplacedDeclaration (at_ : Position)
  /-- An external identifier that is neither `SYSTEM` nor `PUBLIC`. -/
  | invalidExternalId (at_ : Position)
  /-- The prefix `xmlns` on an element. -/
  | reservedPrefix (at_ : Position)
  /-- A declaration of the name space of name-space declarations. -/
  | reservedUri (at_ : Position)
  /-- The prefix `xml` for another name space than its own. -/
  | wrongXmlUri (at_ : Position)
  /-- Another prefix for the name space of `xml`. -/
  | wrongXmlPrefix (at_ : Position)
  /-- A prefix that is declared twice on an element. -/
  | duplicatePrefix (name : String) (at_ : Position)
  /-- A prefix that is not declared. -/
  | unknownPrefix (name : String) (at_ : Position)
  /-- An attribute that stands twice on an element. -/
  | duplicateAttribute (name : String) (at_ : Position)
  /-- The end tag of another element than the open one. -/
  | wrongEndTag (expected found : String) (at_ : Position)
  /-- An end tag without an open element. -/
  | unexpectedEndTag (at_ : Position)
  /-- The end mark of a CDATA section in ordinary text. -/
  | sectionEndInText (at_ : Position)
  /-- A reference that cannot be read. -/
  | malformedReference (at_ : Position)
  /-- A reference to an entity that is not declared. -/
  | unknownEntity (name : String) (at_ : Position)
  /-- A reference to the character `<` in an entity that an attribute uses. -/
  | unescapedLess (at_ : Position)
  /-- Entities that hold too many references. -/
  | referenceLoop (at_ : Position)
  deriving DecidableEq, Repr

namespace SyntaxError

/-- The place where the cause was noticed; the causes that concern the whole text have none. -/
def position? : SyntaxError → Option Position
  | unexpectedEnd | noRoot | unclosedRoot => none
  | unexpected _ _ p | missingText _ p | invalidName p | invalidChar _ p | unknownToken p
  | invalidComment p | misplacedDeclaration p | invalidExternalId p | reservedPrefix p
  | reservedUri p | wrongXmlUri p | wrongXmlPrefix p | duplicatePrefix _ p | unknownPrefix _ p
  | duplicateAttribute _ p | wrongEndTag _ _ p | unexpectedEndTag p | sectionEndInText p
  | malformedReference p | unknownEntity _ p | unescapedLess p | referenceLoop p => some p

/-- The line of an error, 1 for an error without a place. -/
def line (error : SyntaxError) : Nat := (error.position?.map Position.line).getD 1

/-- The message of an error. -/
def message : SyntaxError → String
  | unexpectedEnd => "unexpected end of stream"
  | noRoot => "the document does not have a root node"
  | unclosedRoot => "the root node was opened but never closed"
  | unexpected expected found p =>
    "expected " ++ expected.text ++ " not '" ++ found.toString ++ "' at " ++ p.text
  | missingText text p => "expected '" ++ text ++ "' at " ++ p.text
  | invalidName p => "invalid name token at " ++ p.text
  | invalidChar c p =>
    "a non-XML character '\\u\x7b" ++ String.ofList (Text.hexadecimal c.toNat) ++
      "\x7d' found at " ++ p.text
  | unknownToken p => "unknown token at " ++ p.text
  | invalidComment p => "comment at " ++ p.text ++ " contains '--'"
  | misplacedDeclaration p => "unexpected XML declaration at " ++ p.text
  | invalidExternalId p => "invalid ExternalID at " ++ p.text
  | reservedPrefix p => "the 'xmlns' prefix is used at " ++ p.text ++ ", but it must not be"
  | reservedUri p => "the 'xmlns' URI is used at " ++ p.text ++ ", but it must not be declared"
  | wrongXmlUri p => "'xml' namespace prefix mapped to wrong URI at " ++ p.text
  | wrongXmlPrefix p => "the 'xml' namespace URI is used for not 'xml' prefix at " ++ p.text
  | duplicatePrefix name p => "namespace '" ++ name ++ "' at " ++ p.text ++ " is already defined"
  | unknownPrefix name p => "an unknown namespace prefix '" ++ name ++ "' at " ++ p.text
  | duplicateAttribute name p => "attribute '" ++ name ++ "' at " ++ p.text ++ " is already defined"
  | wrongEndTag expected found p =>
    "expected '" ++ expected ++ "' tag, not '" ++ found ++ "' at " ++ p.text
  | unexpectedEndTag p => "unexpected close tag at " ++ p.text
  | sectionEndInText p => "']]>' at " ++ p.text ++ " is not allowed inside a character data"
  | malformedReference p => "malformed entity reference at " ++ p.text
  | unknownEntity name p => "unknown entity reference '" ++ name ++ "' at " ++ p.text
  | unescapedLess p => "unescaped '<' found at " ++ p.text
  | referenceLoop p => "a possible entity reference loop is detected at " ++ p.text

end SyntaxError

end DraftNits.Xml
