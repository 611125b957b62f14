import DraftNits.Xml.Markup

/-! # References and attribute values

A reference `&…;` stands for a character or for the value of an entity, which may hold references
itself. To end in all cases, entities may nest only ten deep, and one reference of the document may
lead to no more than 255 references inside entities. -/

namespace DraftNits.Xml

/-! ## References -/

/-- What a reference stands for. -/
inductive Reference
  /-- A character. -/
  | char (c : Char)
  /-- An entity of the document type. -/
  | entity (name : List Char)
  deriving DecidableEq, Repr

/-- Whether a character is a hexadecimal digit. -/
def isHexDigit (c : Char) : Bool :=
  Text.isAsciiDigit c || ('a' ≤ c && c ≤ 'f') || ('A' ≤ c && c ≤ 'F')

/-- The value of a hexadecimal digit. -/
def hexDigitValue (c : Char) : Nat :=
  if Text.isAsciiDigit c then c.toNat - '0'.toNat
  else if 'a' ≤ c then c.toNat - 'a'.toNat + 10
  else c.toNat - 'A'.toNat + 10

/-- The character of a number: the replacement character for a number that is no character's. -/
def charOfNumber (n : Nat) : Char := if n.isValidChar then Char.ofNat n else '\ufffd'

/-- The number of a character reference, at most 32 bits long, from its digits. -/
def referenceNumber? (base : Nat) (digits : List Char) : Option Nat :=
  let n := digits.foldl (fun n c => n * base + hexDigitValue c) 0
  if digits.isEmpty || UInt32.size ≤ n then none else some n

/-- The characters that have names of their own. -/
def namedChar? (name : List Char) : Option Char :=
  if name = "quot".toList then some '"'
  else if name = "amp".toList then some '&'
  else if name = "apos".toList then some '\''
  else if name = "lt".toList then some '<'
  else if name = "gt".toList then some '>'
  else none

/-- What a reference between `&` and `;` stands for, and the number of characters it takes. -/
def referenceBody? (cs : List Char) : Option (Reference × Nat) :=
  match cs with
  | '#' :: rest =>
    let hex := rest.head? == some 'x'
    let rest := if hex then rest.tail else rest
    let digits := rest.takeWhile (if hex then isHexDigit else Text.isAsciiDigit)
    match referenceNumber? (if hex then 16 else 10) digits with
    | none => none
    | some n =>
      if isXmlChar (charOfNumber n) then
        some (.char (charOfNumber n), digits.length + (if hex then 2 else 1))
      else none
  | c :: _ =>
    if isNameStart c then
      let name := cs.takeWhile isNameChar
      match namedChar? name with
      | some c => some (.char c, name.length)
      | none => some (.entity name, name.length)
    else none
  | [] => none

/-- The reference at a cursor, which stands at `&`, and the cursor after it. -/
def Cursor.reference? (cursor : Cursor) : Option (Reference × Cursor) :=
  match referenceBody? cursor.rest.tail with
  | none => none
  | some (reference, length) =>
    if (cursor.rest.drop (length + 1)).head? = some ';' then
      some (reference, cursor.advance (length + 2))
    else none

/-! ## Limits -/

/-- How deep entities may nest. -/
def maxNesting : Nat := 10

/-- How many references inside entities one reference of the document may lead to. -/
def maxExpansions : Nat := 255

/-- The number of references counted when one more is followed at a depth; at depth zero nothing is
counted. `p` is the place after the reference. -/
def enterEntity (depth expansions : Nat) (p : Position) : Except SyntaxError Nat :=
  if depth = 0 then .ok expansions
  else if expansions = maxExpansions then .error (.referenceLoop p)
  else .ok (expansions + 1)

/-- The number of references counted after one has been followed: counting starts anew outside of
all entities. -/
def leaveEntity (depth expansions : Nat) : Nat := if depth = 0 then 0 else expansions

/-! ## Attribute values -/

/-- A space for a tab, line feed or carriage return, any other character as it is. -/
def spaceForBreak (c : Char) : Char := if c = '\t' ∨ c = '\n' ∨ c = '\r' then ' ' else c

/-- The value that a text stands for after `read`, latest character first, with the number of
references counted. `follow` gives the value of an entity; inside an entity no reference may stand
for `<`. Each step takes a character, so the length of the text bounds the number of steps. -/
def valueFrom (entities : List Entity) (inside : Bool)
    (follow : Position → Cursor → Nat → Except SyntaxError (List Char × Nat)) :
    Nat → Nat → List Char → Cursor → Except SyntaxError (List Char × Nat)
  | 0, expansions, read, _ => .ok (read.reverse, expansions)
  | steps + 1, expansions, read, cursor =>
    match cursor.rest with
    | [] => .ok (read.reverse, expansions)
    | '&' :: _ =>
      match cursor.reference? with
      | none => .error (.malformedReference cursor.position)
      | some (.char c, next) =>
        if inside then
          if c = '<' then .error (.unescapedLess cursor.position)
          else valueFrom entities inside follow steps expansions (spaceForBreak c :: read) next
        else valueFrom entities inside follow steps expansions (c :: read) next
      | some (.entity name, next) =>
        match entityValue? entities name with
        | none => .error (.unknownEntity (String.ofList name) cursor.position)
        | some value =>
          match follow next.position value expansions with
          | .error error => .error error
          | .ok (text, expansions) =>
            valueFrom entities inside follow steps expansions (text.reverse ++ read) next
    | '\r' :: '\n' :: _ => valueFrom entities inside follow steps expansions read (cursor.advance 1)
    | c :: _ =>
      valueFrom entities inside follow steps expansions (spaceForBreak c :: read) (cursor.advance 1)

/-- The value of an attribute, or of an entity in it, where `levels` more levels of entities are
allowed, with the number of references counted. -/
def attributeValue (entities : List Entity) :
    Nat → Nat → Cursor → Except SyntaxError (List Char × Nat)
  | 0, expansions, cursor =>
    valueFrom entities true (fun p _ _ => .error (.referenceLoop p)) cursor.rest.length
      expansions [] cursor
  | levels + 1, expansions, cursor =>
    let depth := maxNesting - (levels + 1)
    valueFrom entities (0 < depth)
      (fun p value expansions =>
        match enterEntity depth expansions p with
        | .error error => .error error
        | .ok expansions =>
          match attributeValue entities levels expansions value with
          | .error error => .error error
          | .ok (text, expansions) => .ok (text, leaveEntity depth expansions))
      cursor.rest.length expansions [] cursor

end DraftNits.Xml
