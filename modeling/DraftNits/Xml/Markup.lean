import DraftNits.Xml.Scan

/-! # Markup outside elements

The XML declaration, comments, processing instructions and the document type. Only the entities
of the document type are kept, each with the cursor at which its value stands. -/

namespace DraftNits.Xml

/-- An entity of the document type. -/
structure Entity where
  /-- The name by which it is referred to. -/
  name : List Char
  /-- The value, as it stands in the text. -/
  value : Cursor
  deriving DecidableEq, Repr

/-- The value of the first entity of a name. -/
def entityValue? (entities : List Entity) (name : List Char) : Option Cursor :=
  (entities.find? fun entity => entity.name == name).map Entity.value

namespace Scan

/-! ## Comments and instructions -/

/-- Whether a comment may not hold a text: two hyphens in it or one at its end. -/
def isBadComment (cs : List Char) : Bool :=
  Text.contains ['-', '-'] cs || cs.getLast? == some '-'

/-- A comment. -/
def comment : Scan Unit := do
  let start ← position
  skip 4
  let text ← untilText "-->"
  expectText "-->"
  if isBadComment text then fail (.invalidComment start)

/-- A processing instruction. -/
def instruction : Scan Unit := do
  if ← startsWith "<?xml " then fail (.misplacedDeclaration (← position))
  skip 2
  let _ ← name
  skipSpaces
  let _ ← untilText "?>"
  expectText "?>"

/-- Comments and instructions with white space around them. Each of them takes a character, so the
length of the text bounds their number. -/
def misc : Nat → Scan Unit
  | 0 => return
  | steps + 1 => do
    skipSpaces
    if ← startsWith "<!--" then
      comment
      misc steps
    else if ← startsWith "<?" then
      instruction
      misc steps

/-! ## The XML declaration -/

/-- White space, which may only be missing before the end of the declaration. -/
def declarationSpaces : Scan Unit := do
  match (← get).rest with
  | [] => return
  | c :: _ =>
    if isSpace c then skipSpaces
    else if !(← startsWith "?>") then failAt .space c

/-- An item `name="value"` of the declaration. -/
def declarationItem : Scan Unit := do
  let _ ← qname
  skipSpaces
  expect '='
  skipSpaces
  let mark ← quote
  let _ ← run fun c => c != mark && c != '<'
  expect mark

/-- The XML declaration. -/
def declaration : Scan Unit := do
  skip 5
  declarationSpaces
  if !(← startsWith "version") then expectText "version"
  declarationItem
  declarationSpaces
  if ← startsWith "encoding" then
    declarationItem
    declarationSpaces
  if ← startsWith "standalone" then declarationItem
  skipSpaces
  expectText "?>"

/-! ## The document type -/

/-- A quoted text of any characters; gives the cursor at it. -/
def literal : Scan Cursor := do
  let mark ← quote
  let start ← position
  let text ← takeWhile fun c => c != mark
  expect mark
  return ⟨start, text⟩

/-- An external identifier, if one stands here. -/
def externalId : Scan Bool := do
  if ← startsWith "SYSTEM" then
    skip 6
    spaces
    let _ ← literal
    return true
  else if ← startsWith "PUBLIC" then
    skip 6
    spaces
    let _ ← literal
    spaces
    let _ ← literal
    return true
  else return false

/-- What an entity stands for: a quoted text, or something external, which gives nothing. An
external entity that is referred to in the text may have a notation. -/
def entityDefinition (general : Bool) : Scan (Option Cursor) := do
  let c ← peek
  if c = '"' ∨ c = '\'' then return some (← literal)
  else if c = 'S' ∨ c = 'P' then
    if ← externalId then
      if general then
        skipSpaces
        if ← startsWith "NDATA" then
          skip 5
          spaces
          let _ ← nameOrEnd
      return none
    else fail (.invalidExternalId (← position))
  else failAt .entityValue c

/-- The declaration of an entity, of which an external one is not kept. -/
def entityDeclaration : Scan (Option Entity) := do
  skip 8
  spaces
  let parameter ← startsWith "%"
  if parameter then
    skip 1
    spaces
  let name ← name
  spaces
  let value ← entityDefinition (!parameter)
  skipSpaces
  expect '>'
  return value.map fun value => ⟨name, value⟩

/-- A declaration that is passed over up to the next `>`; `start` is where the document type
starts. -/
def otherDeclaration (start : Position) : Scan Unit := do
  let _ ← takeWhile fun c => c != '>'
  if ← atEnd then fail (.unknownToken start) else skip 1

/-- The entities of the declarations inside a document type after those in `read`, latest first.
Each declaration takes a character, so the length of the text bounds their number. -/
def declarations (start : Position) : Nat → List Entity → Scan (List Entity)
  | 0, read => return read.reverse
  | steps + 1, read => do
    if ← atEnd then return read.reverse
    skipSpaces
    if ← startsWith "<!ENTITY" then
      match ← entityDeclaration with
      | some entity => declarations start steps (entity :: read)
      | none => declarations start steps read
    else if ← startsWith "<!--" then
      comment
      declarations start steps read
    else if ← startsWith "<?" then
      instruction
      declarations start steps read
    else if ← startsWith "]" then
      skip 1
      skipSpaces
      expect '>'
      return read.reverse
    else if (← startsWith "<!ELEMENT") || (← startsWith "<!ATTLIST") ||
        (← startsWith "<!NOTATION") then
      otherDeclaration start
      declarations start steps read
    else fail (.unknownToken (← position))

/-- The entities of a document type. -/
def documentType : Scan (List Entity) := do
  let start ← position
  skip 9
  spaces
  let _ ← nameOrEnd
  skipSpaces
  let _ ← externalId
  skipSpaces
  let c ← peek
  if c = '>' then
    skip 1
    return []
  else if c = '[' then
    skip 1
    declarations start ((← rest).length + 1) []
  else failAt .typeBody c

end Scan

end DraftNits.Xml
