import DraftNits.Xml.Tree

/-! # Building a tree

A tree is built from start tags, end tags and text as they are met. The elements that are open form
a stack. Attributes are collected while a start tag is read and belong to the element when the tag
ends; a start tag that never ends leaves them to the next one.

Name spaces are resolved on the way: a prefix stands for the first declaration of it on the element
itself or, failing that, on the nearest element around it.

A tree may be of any size: a limit of 65535 distinct name spaces, or one on the number of nodes or
of attributes, is not modelled. -/

namespace DraftNits.Xml

/-- The declaration of a name space: its prefix, or none for the default, and its URI. -/
structure Binding where
  /-- The prefix. -/
  qualifier : Option String
  /-- The URI. -/
  uri : String
  deriving DecidableEq, Repr

/-- The name space that the prefix `xml` always stands for. -/
def xmlUri : String := "http://www.w3.org/XML/1998/namespace"

/-- The name space of the declarations of name spaces. -/
def xmlnsUri : String := "http://www.w3.org/2000/xmlns/"

/-- An attribute as it is written. -/
structure RawAttribute where
  /-- The name with its prefix. -/
  name : QName
  /-- The value. -/
  value : String
  /-- Where it stands. -/
  position : Position
  deriving DecidableEq, Repr

/-- An element whose end tag has not been met. -/
structure OpenElement where
  /-- The name with its prefix. -/
  name : QName
  /-- The attributes. -/
  attributes : List Attribute
  /-- The line of the start tag. -/
  line : Nat
  /-- The name spaces declared on it and around it, its own first. -/
  bindings : List Binding
  /-- The children so far, latest first. -/
  children : List Node

/-- The tree as far as it has been built. -/
structure Builder where
  /-- The nodes outside of all elements, latest first. -/
  finished : List Node
  /-- The open elements, innermost first. -/
  opened : List OpenElement
  /-- The attributes of the start tag that is being read. -/
  attributes : List RawAttribute
  /-- The name spaces declared by the start tag that is being read. -/
  bindings : List Binding
  /-- Whether a start tag has been met in the document or the entity that is being read. -/
  tagMet : Bool
  /-- The number of references followed inside entities. -/
  expansions : Nat

namespace Builder

/-- A tree of which nothing has been built. -/
def empty : Builder := ⟨[], [], [], [], false, 0⟩

/-- The tree with a node added to the innermost open element. -/
def addNode (builder : Builder) (node : Node) : Builder :=
  match builder.opened with
  | [] => { builder with finished := node :: builder.finished }
  | inner :: outer =>
    { builder with opened := { inner with children := node :: inner.children } :: outer }

/-- The tree with text added, if there is any. -/
def addText (builder : Builder) (content : List Char) : Builder :=
  if content.isEmpty then builder else builder.addNode (.text content)

/-! ## Attributes and name spaces -/

/-- The declaration of a prefix by the start tag that is being read. -/
def declarePrefix (builder : Builder) (qualifier uri : String) (p : Position) :
    Except SyntaxError Builder :=
  if uri = xmlnsUri then .error (.reservedUri p)
  else if qualifier = "xml" ∧ uri ≠ xmlUri then .error (.wrongXmlUri p)
  else if qualifier ≠ "xml" ∧ uri = xmlUri then .error (.wrongXmlPrefix p)
  else if builder.bindings.any fun b => b.qualifier == some qualifier then
    .error (.duplicatePrefix qualifier p)
  else if uri = xmlUri then .ok builder
  else .ok { builder with bindings := builder.bindings ++ [⟨some qualifier, uri⟩] }

/-- The declaration of the default name space by the start tag that is being read. -/
def declareDefault (builder : Builder) (uri : String) (p : Position) :
    Except SyntaxError Builder :=
  if uri = xmlUri then .error (.wrongXmlPrefix p)
  else if uri = xmlnsUri then .error (.reservedUri p)
  else .ok { builder with bindings := builder.bindings ++ [⟨none, uri⟩] }

/-- The tree after an attribute of the start tag that is being read. -/
def addAttribute (builder : Builder) (raw : RawAttribute) : Except SyntaxError Builder :=
  if raw.name.qualifier = "xmlns" then
    builder.declarePrefix raw.name.localName raw.value raw.position
  else if raw.name.localName = "xmlns" then
    builder.declareDefault raw.value raw.position
  else .ok { builder with attributes := builder.attributes ++ [raw] }

/-- The name spaces at the start tag that is being read. -/
def scope (builder : Builder) : List Binding :=
  let outer := (builder.opened.head?.map OpenElement.bindings).getD []
  builder.bindings ++
    outer.filter fun b => !builder.bindings.any fun own => own.qualifier == b.qualifier

/-- The name space of a prefix, which must be declared unless it is empty. -/
def resolve (scope : List Binding) (qualifier : String) (p : Position) :
    Except SyntaxError (Option String) :=
  let wanted := if qualifier = "" then none else some qualifier
  match scope.find? fun b => b.qualifier == wanted with
  | some b => .ok (some b.uri)
  | none => if qualifier = "" then .ok none else .error (.unknownPrefix qualifier p)

/-- The name space of an attribute: an attribute without a prefix is in none. -/
def attributeSpace (scope : List Binding) (raw : RawAttribute) :
    Except SyntaxError (Option String) :=
  if raw.name.qualifier = "xml" then .ok (some xmlUri)
  else if raw.name.qualifier = "" then .ok none
  else resolve scope raw.name.qualifier raw.position

/-- The attributes of an element after those in `done`. No two may agree in name space and name. -/
def resolveAttributes (scope : List Binding) (done : List Attribute) :
    List RawAttribute → Except SyntaxError (List Attribute)
  | [] => .ok done
  | raw :: rest =>
    match attributeSpace scope raw with
    | .error error => .error error
    | .ok space =>
      if done.any fun a => a.space == space && a.name == raw.name.localName then
        .error (.duplicateAttribute raw.name.localName raw.position)
      else
        resolveAttributes scope (done ++ [⟨space, raw.name.localName, raw.value⟩]) rest

/-! ## Tags -/

/-- The tree after the end of a start tag. `tag` is where the tag starts and `nameAt` where its
name does; an element that is `closed` at once gets no children. -/
def endStartTag (builder : Builder) (name : QName) (tag nameAt : Position) (closed : Bool) :
    Except SyntaxError Builder :=
  match resolveAttributes builder.scope [] builder.attributes with
  | .error error => .error error
  | .ok attributes =>
    match resolve builder.scope name.qualifier nameAt with
    | .error error => .error error
    | .ok _ =>
      let cleared := { builder with attributes := [], bindings := [] }
      if closed then .ok (cleared.addNode (.element name.localName attributes tag.line []))
      else
        .ok { cleared with
          opened := ⟨name, attributes, tag.line, builder.scope, []⟩ :: builder.opened }

/-- The tree after an end tag that starts at a place. It must name the innermost open element and
may not come before every start tag of the entity in which it stands. -/
def endTag (builder : Builder) (name : QName) (p : Position) : Except SyntaxError Builder :=
  if !builder.tagMet then .error (.unexpectedEndTag p)
  else
    -- A start tag without an end may have left attributes.
    match resolveAttributes builder.scope [] builder.attributes with
    | .error error => .error error
    | .ok _ =>
      match builder.opened with
      | [] => .error (.unexpectedEndTag p)
      | inner :: outer =>
        if inner.name = name then
          let node := Node.element inner.name.localName inner.attributes inner.line
            inner.children.reverse
          .ok ({ builder with opened := outer, attributes := [], bindings := [] }.addNode node)
        else .error (.wrongEndTag inner.name.text name.text p)

/-- The nodes outside of all elements once every element is closed, in the order of the document.
There must be an element among them. -/
def finish (builder : Builder) : Except SyntaxError (List Node) :=
  match builder.opened with
  | [] =>
    if builder.finished.any Node.isElement then .ok builder.finished.reverse else .error .noRoot
  | _ => .error .unclosedRoot

end Builder

end DraftNits.Xml
