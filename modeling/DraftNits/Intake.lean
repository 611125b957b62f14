import DraftNits.Options
import DraftNits.PlainText.Document
import DraftNits.RfcXml.Document
import DraftNits.Text.Lines
import DraftNits.Text.Utf8

/-! # Taking in a document

Bytes become a document in three steps: they are read as UTF-8, the format is told from the
beginning of the text, and the reader of that format builds the document. Malformed content is
noted in the document; only what no reader can take is an error. -/

namespace DraftNits

/-- What keeps a document from being read. -/
inductive IntakeError
  /-- The bytes cannot be had, for a reason that the system gives. -/
  | unreadable (path reason : String)
  /-- There is nothing but white space. -/
  | empty
  /-- The bytes are not UTF-8 from an offset on. -/
  | notUtf8 (offset : Nat)
  /-- There is a NUL character; `line` is the first line with one. -/
  | binary (line : Nat)
  /-- An XML document with another root than `rfc`. -/
  | unsupportedRoot (name : String)
  deriving DecidableEq, Repr

/-- The message of an error. -/
def IntakeError.message : IntakeError → String
  | .unreadable path reason => "Could not read " ++ path ++ ": " ++ reason
  | .empty => "File is empty"
  | .notUtf8 offset =>
    "File is not valid UTF-8 text (invalid byte at offset " ++ toString offset ++ ")"
  | .binary line => "File looks like binary data (NUL byte on line " ++ toString line ++ ")"
  | .unsupportedRoot name =>
    "Unsupported XML vocabulary: expected <rfc> root element, found <" ++ name ++ ">"

/-! ## Formats -/

/-- The beginnings by which XML is recognized. -/
def xmlBeginnings : List String := ["<?xml", "<rfc", "<!DOCTYPE rfc"]

/-- The format of a text: XML by its beginning, byte order marks and then white space left aside;
any other text is taken as the mode says. -/
def detectFormat (mode : Mode) (text : List Char) : SourceFormat :=
  let head := Text.trimStart (text.dropWhile (· == '\ufeff'))
  if xmlBeginnings.any fun s => s.toList.isPrefixOf head then .xml
  else if mode = .submission then .submission
  else .paginated

/-! ## Texts and bytes -/

/-- A text without one byte order mark at its start. -/
def dropMark (text : List Char) : List Char :=
  match text with
  | '\ufeff' :: rest => rest
  | _ => text

/-- The number of the first line that holds a NUL character. -/
def nulLine? (lines : List (List Char)) : Option Nat :=
  (lines.findIdx? fun line => line.contains '\x00').map (· + 1)

/-- The document of a text. -/
def readText (path : String) (mode : Mode) (text : List Char) : Except IntakeError Document :=
  let text := dropMark text
  let lines := Text.splitLines text
  if Text.isAllBlank text then .error .empty
  else
    match nulLine? lines with
    | some line => .error (.binary line)
    | none =>
      match detectFormat mode text with
      | .xml => (RfcXml.readDocument path text lines).mapError .unsupportedRoot
      | format => .ok (PlainText.readDocument path format lines)

/-- The document of a byte sequence. -/
def readBytes (path : String) (mode : Mode) (bytes : List UInt8) : Except IntakeError Document :=
  match Text.Utf8.decode bytes with
  | .error offset => .error (.notUtf8 offset)
  | .ok text => readText path mode text

end DraftNits
