import DraftNits.Text.Trim
import DraftNits.Xml.SyntaxError

/-! # Reading along an XML text

The smallest readers: each looks at the text from a cursor on, and moves the cursor over what it
has read or says what is wrong. -/

namespace DraftNits.Xml

/-- A reader that moves a cursor or fails. -/
abbrev Scan (α : Type) := StateT Cursor (Except SyntaxError) α

namespace Scan

/-- Fails for a cause. -/
def fail {α : Type} (error : SyntaxError) : Scan α := fun _ => .error error

/-- The place. -/
def position : Scan Position := return (← get).position

/-- The text from here on. -/
def rest : Scan (List Char) := return (← get).rest

/-- Whether the text ends here. -/
def atEnd : Scan Bool := return (← get).rest.isEmpty

/-- Whether the text goes on with another text. -/
def startsWith (text : String) : Scan Bool := return text.toList.isPrefixOf (← get).rest

/-- The next character, which stays; the text must not end here. -/
def peek : Scan Char := do
  match (← get).rest with
  | [] => fail .unexpectedEnd
  | c :: _ => return c

/-- Moves over a number of characters. -/
def skip (n : Nat) : Scan Unit := modify fun cursor => cursor.advance n

/-- Moves over the longest run of characters in a class and gives them. -/
def takeWhile (p : Char → Bool) : Scan (List Char) := do
  let taken := (← get).rest.takeWhile p
  modify fun cursor => cursor.skipWhile p
  return taken

/-- A character as an error message shows it: by the first byte of its encoding. -/
def shown (c : Char) : Char := Char.ofNat (Text.Utf8.leadByte c)

/-- Fails because something else should have stood here. -/
def failAt {α : Type} (expected : Expected) (found : Char) : Scan α := do
  fail (.unexpected expected (shown found) (← position))

/-- Moves over a character that must stand here. -/
def expect (c : Char) : Scan Unit := do
  let found ← peek
  if found = c then skip 1 else failAt (.char c) found

/-- Moves over a text that must stand here. -/
def expectText (text : String) : Scan Unit := do
  if ← startsWith text then skip text.toList.length else fail (.missingText text (← position))

/-- Moves over white space, of which there may be none. -/
def skipSpaces : Scan Unit := modify fun cursor => cursor.skipWhile isSpace

/-- Moves over white space, of which there must be some. -/
def spaces : Scan Unit := do
  let found ← peek
  if isSpace found then skipSpaces else failAt .space found

/-- Moves over a quotation mark and gives it. -/
def quote : Scan Char := do
  let found ← peek
  if found = '\'' ∨ found = '"' then
    skip 1
    return found
  else failAt .quote found

/-! ## Names -/

/-- A name, empty where the text ends. -/
def nameOrEnd : Scan (List Char) := do
  match (← get).rest with
  | [] => return []
  | c :: _ => if isNameStart c then takeWhile isNameChar else fail (.invalidName (← position))

/-- A name. -/
def name : Scan (List Char) := do
  let start ← position
  let name ← nameOrEnd
  if name.isEmpty then fail (.invalidName start) else return name

end Scan

/-- A name in two parts with a colon between them; the first part may be missing. -/
structure QName where
  /-- The part before the colon, empty if there is none. -/
  qualifier : String
  /-- The part after the colon. -/
  localName : String
  deriving DecidableEq, Repr

namespace QName

/-- A qualified name as it is written. -/
def text (q : QName) : String :=
  if q.qualifier = "" then q.localName else q.qualifier ++ ":" ++ q.localName

/-- Whether a text does not start with a character that may not start a name. -/
def startsWell (cs : List Char) : Bool := cs.head?.all isNameStart

/-- The qualified name that a run of name characters writes. -/
def ofRun? (run : List Char) : Option QName :=
  match Text.splitAt? [':'] run with
  | none =>
    if startsWell run && !run.isEmpty then some ⟨"", String.ofList run⟩ else none
  | some (qualifier, localName) =>
    if startsWell qualifier && startsWell localName && !localName.isEmpty &&
        !localName.contains ':' then
      some ⟨String.ofList qualifier, String.ofList localName⟩
    else none

end QName

namespace Scan

/-- A qualified name. -/
def qname : Scan QName := do
  let start ← position
  match QName.ofRun? (← takeWhile isNameChar) with
  | some q => return q
  | none => fail (.invalidName start)

/-! ## Runs of text -/

/-- The longest run of characters such that the text from each of them on satisfies a condition,
after those in `read`, latest first. Each character looked at must be an XML character, also the
one that ends the run. -/
def runFrom (goesOn : List Char → Bool) (p : Position) (read : List Char) :
    List Char → Except SyntaxError (List Char × Cursor)
  | [] => .ok (read.reverse, ⟨p, []⟩)
  | c :: cs =>
    if !isXmlChar c then .error (.invalidChar c p)
    else if goesOn (c :: cs) then runFrom goesOn (p.after c) (c :: read) cs
    else .ok (read.reverse, ⟨p, c :: cs⟩)

/-- The text up to where another text starts. -/
def untilText (stop : String) : Scan (List Char) := fun cursor =>
  runFrom (fun cs => !stop.toList.isPrefixOf cs) cursor.position [] cursor.rest

/-- The longest run of characters in a class, which all must be XML characters. -/
def run (p : Char → Bool) : Scan (List Char) := fun cursor =>
  runFrom (fun cs => cs.head?.any p) cursor.position [] cursor.rest

end Scan

end DraftNits.Xml
