import DraftNits.Text.Numeral
import DraftNits.Text.Utf8

/-! # Places in an XML text

A place is a line and a column, both counted from 1; only a line feed ends a line. A cursor is a
place together with the text from there on, so that what is read later can be reported where it
stands, also inside an entity. -/

namespace DraftNits.Xml

/-! ## Characters -/

/-- A character that may stand in an XML text: no control character but tab, line feed and carriage
return, and neither U+FFFE nor U+FFFF. -/
def isXmlChar (c : Char) : Bool :=
  if c.toNat < 0x20 then c == '\t' || c == '\n' || c == '\r'
  else c.toNat != 0xFFFE && c.toNat != 0xFFFF

/-- White space between the parts of markup. -/
def isSpace (c : Char) : Bool := c == ' ' || c == '\t' || c == '\n' || c == '\r'

/-- The ranges beyond ASCII of characters that may start a name. -/
def nameStartRanges : Text.Ranges :=
  [(0xC0, 0xD6), (0xD8, 0xF6), (0xF8, 0x2FF), (0x370, 0x37D), (0x37F, 0x1FFF), (0x200C, 0x200D),
   (0x2070, 0x218F), (0x2C00, 0x2FEF), (0x3001, 0xD7FF), (0xF900, 0xFDCF), (0xFDF0, 0xFFFD),
   (0x10000, 0xEFFFF)]

/-- The ranges beyond ASCII of characters that may stand in a name but not start it. -/
def nameOnlyRanges : Text.Ranges := [(0xB7, 0xB7), (0x300, 0x36F), (0x203F, 0x2040)]

/-- A character that may start a name. -/
def isNameStart (c : Char) : Bool :=
  Text.isAsciiUpper c || Text.isAsciiLower c || c == ':' || c == '_' ||
    nameStartRanges.contains c.toNat

/-- A character that may stand in a name. -/
def isNameChar (c : Char) : Bool :=
  isNameStart c || Text.isAsciiDigit c || c == '-' || c == '.' || nameOnlyRanges.contains c.toNat

/-! ## Places -/

/-- A place in a text. -/
structure Position where
  /-- The line, from 1. -/
  line : Nat
  /-- The column in characters, from 1. -/
  column : Nat
  deriving DecidableEq, Repr

namespace Position

/-- The start of a text. -/
def start : Position := ⟨1, 1⟩

/-- The place after a character. -/
def after (p : Position) (c : Char) : Position :=
  if c = '\n' then ⟨p.line + 1, 1⟩ else ⟨p.line, p.column + 1⟩

/-- The place after a text. -/
def afterAll (p : Position) (cs : List Char) : Position := cs.foldl after p

/-- A place as it is written in a message. -/
def text (p : Position) : String := toString p.line ++ ":" ++ toString p.column

@[simp] theorem afterAll_nil (p : Position) : p.afterAll [] = p := rfl

@[simp] theorem afterAll_cons (p : Position) (c : Char) (cs : List Char) :
    p.afterAll (c :: cs) = (p.after c).afterAll cs := rfl

/-- The place after two texts is the place after the second, seen from the end of the first. -/
theorem afterAll_append (p : Position) (as bs : List Char) :
    p.afterAll (as ++ bs) = (p.afterAll as).afterAll bs := by
  simp [afterAll, List.foldl_append]

/-- Each line feed adds a line. -/
theorem line_afterAll (p : Position) (cs : List Char) :
    (p.afterAll cs).line = p.line + cs.count '\n' := by
  induction cs generalizing p with
  | nil => simp
  | cons c cs ih =>
    rw [afterAll_cons, ih, List.count_cons, after]
    split <;> simp_all
    omega

end Position

/-! ## Cursors -/

/-- A place and the text from there on. -/
structure Cursor where
  /-- The place. -/
  position : Position
  /-- The text from there on. -/
  rest : List Char
  deriving DecidableEq, Repr

namespace Cursor

/-- The start of a text. -/
def ofText (cs : List Char) : Cursor := ⟨Position.start, cs⟩

/-- The cursor after a number of characters. -/
def advance (cursor : Cursor) (n : Nat) : Cursor :=
  ⟨cursor.position.afterAll (cursor.rest.take n), cursor.rest.drop n⟩

/-- The cursor after the longest run of characters in a class. -/
def skipWhile (p : Char → Bool) (cursor : Cursor) : Cursor :=
  cursor.advance (cursor.rest.takeWhile p).length

end Cursor

end DraftNits.Xml
