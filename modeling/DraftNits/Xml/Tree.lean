import DraftNits.Text.Trim
import DraftNits.Xml.Scan

/-! # XML trees

The tree of a document without its comments and instructions: elements and the text between them.
An element knows its name without a prefix, its attributes, and the line on which it starts. -/

namespace DraftNits.Xml

/-- An attribute of an element. -/
structure Attribute where
  /-- The name space, if the attribute is in one. -/
  space : Option String
  /-- The name without a prefix. -/
  name : String
  /-- The value. -/
  value : String
  deriving DecidableEq, Repr

/-- A node of a tree. -/
inductive Node where
  /-- Text. -/
  | text (content : List Char)
  /-- An element with its name, attributes, line and children. -/
  | element (name : String) (attributes : List Attribute) (line : Nat) (children : List Node)
  deriving Inhabited

namespace Node

/-- Whether a node is an element. -/
def isElement : Node → Bool
  | text _ => false
  | element .. => true

/-- Whether a node is an element of the given name, in any name space. -/
def hasName (wanted : String) : Node → Bool
  | text _ => false
  | element name _ _ _ => name == wanted

/-- The name of an element, empty for text. -/
def name : Node → String
  | text _ => ""
  | element name _ _ _ => name

/-- The line on which an element starts, zero for text. -/
def line : Node → Nat
  | text _ => 0
  | element _ _ line _ => line

/-- The children of a node. -/
def children : Node → List Node
  | text _ => []
  | element _ _ _ children => children

/-- The attributes of a node. -/
def attributes : Node → List Attribute
  | text _ => []
  | element _ attributes _ _ => attributes

/-- The value of an attribute that is in no name space. -/
def attribute? (node : Node) (name : String) : Option String :=
  (node.attributes.find? fun a => a.space.isNone && a.name == name).map Attribute.value

/-- The first child element of a name. -/
def child? (node : Node) (name : String) : Option Node :=
  node.children.find? fun child => child.hasName name

/-- The child elements of a name. -/
def childrenNamed (node : Node) (name : String) : List Node :=
  node.children.filter fun child => child.hasName name

mutual

/-- A node and everything below it, in the order of the document. -/
def descendants : Node → List Node
  | text content => [text content]
  | element name attributes line children =>
    element name attributes line children :: descendantsOfAll children

/-- Nodes and everything below them, in the order of the document. -/
def descendantsOfAll : List Node → List Node
  | [] => []
  | node :: nodes => descendants node ++ descendantsOfAll nodes

end

mutual

/-- All text below a node. -/
def rawText : Node → List Char
  | text content => content
  | element _ _ _ children => rawTextOfAll children

/-- All text below some nodes. -/
def rawTextOfAll : List Node → List Char
  | [] => []
  | node :: nodes => rawText node ++ rawTextOfAll nodes

end

/-- The words below a node with single spaces between them. -/
def words (node : Node) : String := String.ofList (Text.collapse node.rawText)

/-- The elements of a name in a tree, in the order of the document. -/
def elementsNamed (node : Node) (name : String) : List Node :=
  node.descendants.filter fun n => n.hasName name

@[simp] theorem descendants_text (content : List Char) :
    descendants (text content) = [text content] := by
  simp [descendants]

/-- A node is the first of its descendants. -/
theorem mem_descendants_self (node : Node) : node ∈ node.descendants := by
  cases node <;> simp [descendants]

end Node

end DraftNits.Xml
