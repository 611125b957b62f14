import DraftNits.Xml.Builder
import DraftNits.Xml.Reference

/-! # Elements and their content

Content is read from left to right: comments, CDATA sections, instructions, tags, and text with
references. It ends with the end tag of the element to which it belongs, or with the text. The
value of an entity is content of its own, read where it is declared; an element that it leaves open
stays open in the document.

Only the nesting and the number of entity references are limited. Limits on the length of a text and
on the size of its tree (65535 distinct name spaces, the number of nodes) are not modelled. -/

namespace DraftNits.Xml

namespace Scan

/-- The result of a computation that may fail. -/
def lift {α : Type} : Except SyntaxError α → Scan α
  | .ok value => return value
  | .error error => fail error

/-! ## Tags -/

/-- How a start tag ends. -/
inductive TagEnd
  /-- The element has content. -/
  | opened
  /-- The element is closed at once. -/
  | closed
  /-- The text ends inside the tag. -/
  | cut
  deriving DecidableEq, Repr

/-- An attribute of a start tag, whose value is resolved with `levels` levels of entities left. -/
def oneAttribute (entities : List Entity) (levels : Nat) (builder : Builder) : Scan Builder := do
  let start ← position
  let name ← qname
  skipSpaces
  expect '='
  skipSpaces
  let mark ← quote
  let valueStart ← position
  let raw ← run fun c => c != mark && c != '<'
  expect mark
  let (value, expansions) ←
    lift (attributeValue entities levels builder.expansions ⟨valueStart, raw⟩)
  lift ({ builder with expansions := expansions }.addAttribute ⟨name, String.ofList value, start⟩)

/-- The attributes and the end of the start tag of the given name. Each attribute takes a
character, so the length of the text bounds the number of steps. -/
def tagRest (entities : List Entity) (levels : Nat) (name : QName) (tag nameAt : Position) :
    Nat → Builder → Scan (Builder × TagEnd)
  | 0, builder => return (builder, .cut)
  | steps + 1, builder => do
    match (← get).rest with
    | [] => return (builder, .cut)
    | first :: _ =>
      skipSpaces
      let c ← peek
      if c = '/' then
        skip 1
        expect '>'
        return (← lift (builder.endStartTag name tag nameAt true), .closed)
      else if c = '>' then
        skip 1
        return (← lift (builder.endStartTag name tag nameAt false), .opened)
      else
        -- White space has to stand before every attribute.
        if !isSpace first then failAt .space c
        let builder ← oneAttribute entities levels builder
        tagRest entities levels name tag nameAt steps builder

/-- A start tag. -/
def startTag (entities : List Entity) (levels : Nat) (builder : Builder) :
    Scan (Builder × TagEnd) := do
  let tag ← position
  skip 1
  let nameAt ← position
  let name ← qname
  if name.qualifier = "xmlns" then fail (.reservedPrefix nameAt)
  tagRest entities levels name tag nameAt ((← rest).length + 1) { builder with tagMet := true }

/-- An end tag. -/
def endTag (builder : Builder) : Scan Builder := do
  let start ← position
  skip 2
  let name ← qname
  skipSpaces
  expect '>'
  lift (builder.endTag name start)

/-! ## Text -/

/-- A CDATA section. -/
def cdata (builder : Builder) : Scan Builder := do
  skip 9
  let content ← untilText "]]>"
  expectText "]]>"
  return builder.addText content

/-- The tree after a run of text with references, of which `read` has been read, latest character
first. `follow` adds the content of an entity. Each step takes a character, so the length of the
run bounds the number of steps. -/
def textFrom (entities : List Entity)
    (follow : Position → Cursor → Builder → Except SyntaxError Builder) :
    Nat → List Char → Cursor → Builder → Except SyntaxError Builder
  | 0, read, _, builder => .ok (builder.addText read.reverse)
  | steps + 1, read, cursor, builder =>
    match cursor.rest with
    | [] => .ok (builder.addText read.reverse)
    | '&' :: _ =>
      match cursor.reference? with
      | none => .error (.malformedReference cursor.position)
      | some (.char c, next) => textFrom entities follow steps (c :: read) next builder
      | some (.entity name, next) =>
        match entityValue? entities name with
        | none => .error (.unknownEntity (String.ofList name) cursor.position)
        | some value =>
          match follow next.position value (builder.addText read.reverse) with
          | .error error => .error error
          | .ok builder => textFrom entities follow steps [] next builder
    | c :: _ => textFrom entities follow steps (c :: read) (cursor.advance 1) builder

/-- Text up to the next tag. -/
def text (entities : List Entity)
    (follow : Position → Cursor → Builder → Except SyntaxError Builder) (builder : Builder) :
    Scan Builder := do
  let start ← position
  let content ← run fun c => c != '<'
  if Text.contains "]]>".toList content then fail (.sectionEndInText (← position))
  lift (textFrom entities follow content.length [] ⟨start, content⟩ builder)

/-! ## Content -/

/-- What stands next in content. -/
inductive Item
  /-- The end of the text. -/
  | ending
  /-- A comment. -/
  | comment
  /-- A CDATA section. -/
  | cdata
  /-- A processing instruction. -/
  | instruction
  /-- A start tag. -/
  | startTag
  /-- An end tag. -/
  | endTag
  /-- Text. -/
  | text
  /-- Something else that starts with `<`. -/
  | unknown
  deriving DecidableEq, Repr

/-- What a text starts with. -/
def Item.ofText : List Char → Item
  | [] => .ending
  | '<' :: '!' :: rest =>
    if ['-', '-'].isPrefixOf rest then .comment
    else if "[CDATA[".toList.isPrefixOf rest then .cdata
    else .unknown
  | '<' :: '?' :: _ => .instruction
  | '<' :: '/' :: _ => .endTag
  | '<' :: _ :: _ => .startTag
  | ['<'] => .unknown
  | _ :: _ => .text

/-- Content inside `depth` elements that were opened in it. Each item takes a character, so the
length of the text bounds the number of items. -/
def items (entities : List Entity) (levels : Nat)
    (follow : Position → Cursor → Builder → Except SyntaxError Builder) :
    Nat → Nat → Builder → Scan Builder
  | 0, _, builder => return builder
  | steps + 1, depth, builder => do
    match Item.ofText (← rest) with
    | .ending => return builder
    | .unknown => fail (.unknownToken (← position))
    | .comment =>
      comment
      items entities levels follow steps depth builder
    | .cdata =>
      let builder ← cdata builder
      items entities levels follow steps depth builder
    | .instruction =>
      instruction
      items entities levels follow steps depth builder
    | .text =>
      let builder ← text entities follow builder
      items entities levels follow steps depth builder
    | .startTag =>
      let (builder, tagEnd) ← startTag entities levels builder
      items entities levels follow steps (if tagEnd = .opened then depth + 1 else depth) builder
    | .endTag =>
      let builder ← endTag builder
      -- The tag may be that of the element around this content.
      match depth with
      | 0 => return builder
      | depth + 1 => items entities levels follow steps depth builder

end Scan

/-- The tree after the content at a cursor, where `levels` more levels of entities are allowed, and
the cursor after the content. -/
def content (entities : List Entity) :
    Nat → Cursor → Builder → Except SyntaxError (Builder × Cursor)
  | 0, cursor, builder =>
    Scan.items entities 0 (fun p _ _ => .error (.referenceLoop p)) (cursor.rest.length + 1) 0
      builder cursor
  | levels + 1, cursor, builder =>
    let depth := maxNesting - (levels + 1)
    Scan.items entities (levels + 1)
      (fun p value builder =>
        match enterEntity depth builder.expansions p with
        | .error error => .error error
        | .ok expansions =>
          -- Open elements go into the value and come out of it; `tagMet` is the value's own.
          match content entities levels value
            { builder with tagMet := false, expansions := expansions } with
          | .error error => .error error
          | .ok (inner, _) =>
            .ok { inner with
              tagMet := builder.tagMet
              expansions := leaveEntity depth inner.expansions })
      (cursor.rest.length + 1) 0 builder cursor

namespace Scan

/-- An element with its content. -/
def element (entities : List Entity) (builder : Builder) : Scan Builder := do
  let (builder, tagEnd) ← startTag entities maxNesting builder
  if tagEnd = .opened then
    fun cursor => content entities maxNesting cursor builder
  else return builder

/-- A whole document: the declaration, the document type and the root element, with comments and
instructions between them. -/
def document : Scan (List Node) := do
  if ← startsWith "\ufeff" then skip 1
  if ← startsWith "<?xml " then declaration
  misc ((← rest).length + 1)
  skipSpaces
  let mut entities := []
  if ← startsWith "<!DOCTYPE" then
    entities ← documentType
    misc ((← rest).length + 1)
  skipSpaces
  let mut builder := Builder.empty
  if ← startsWith "<" then builder ← element entities builder
  misc ((← rest).length + 1)
  if !(← atEnd) then fail (.unknownToken (← position))
  lift builder.finish

end Scan

/-- The nodes of a document outside of all elements; there is an element among them. -/
def parse (text : List Char) : Except SyntaxError (List Node) :=
  (Scan.document (Cursor.ofText text)).map Prod.fst

/-- The root element of a document: the first element outside of all others. -/
def root? (nodes : List Node) : Option Node := nodes.find? Node.isElement

end DraftNits.Xml
