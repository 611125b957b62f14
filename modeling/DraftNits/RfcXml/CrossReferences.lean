import DraftNits.RfcXml.Sections

/-! # References and citations of an XML document

Every `reference` element with an anchor is a reference; it is normative if a list of references
around it has a title that speaks of normative references. Every `xref` or `relref` element with a
target is a citation, unless the target is the anchor of another kind of element. -/

namespace DraftNits.RfcXml

/-! ## References -/

/-- Whether an element is a list of normative references. -/
def isNormativeList (node : Xml.Node) : Bool :=
  node.hasName "references" &&
    (title? node).any fun title => Text.contains "normative".toList (Text.lowercase title.toList)

/-- The reference of an element. -/
def reference? (normative : Bool) (node : Xml.Node) : Option Reference :=
  if node.hasName "reference" then
    (node.attribute? "anchor").map fun anchor =>
      ⟨anchor, node.attribute? "target", normative, node.line⟩
  else none

mutual

/-- The references of a node and everything below it; `normative` says whether the node stands in a
list of normative references. -/
def referencesIn (normative : Bool) : Xml.Node → List Reference
  | .text _ => []
  | .element name attributes line children =>
    let node := Xml.Node.element name attributes line children
    (reference? normative node).toList ++
      referencesAmong (normative || isNormativeList node) children

/-- The references of some nodes and everything below them. -/
def referencesAmong (normative : Bool) : List Xml.Node → List Reference
  | [] => []
  | node :: rest => referencesIn normative node ++ referencesAmong normative rest

end

/-- The references of a root element. -/
def references (root : Xml.Node) : List Reference := referencesIn false root

/-! ## Citations -/

/-- The anchors of elements that are no references. -/
def localAnchors (root : Xml.Node) : List String :=
  (root.descendants.filter fun node => !node.hasName "reference").filterMap fun node =>
    node.attribute? "anchor"

/-- Whether an element points to an anchor. -/
def isPointer (node : Xml.Node) : Bool := node.hasName "xref" || node.hasName "relref"

/-- The citations of a root element. -/
def citations (root : Xml.Node) : List Citation :=
  let anchors := localAnchors root
  (root.descendants.filter isPointer).filterMap fun node =>
    match node.attribute? "target" with
    | none => none
    | some target => if anchors.contains target then none else some ⟨target, node.line⟩

end DraftNits.RfcXml
