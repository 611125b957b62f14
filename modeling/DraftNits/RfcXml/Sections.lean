import DraftNits.RfcXml.Front

/-! # Sections of an XML document

The sections of the `middle` element are numbered as they appear in the document: the sections of
one parent are counted from 1, after the number of the parent and a dot. A section that is marked
as not numbered has no number, does not count, and its own sections are not listed. The sections of
the `back` element are listed without numbers if they have a title. -/

namespace DraftNits.RfcXml

/-- The title of a section or of a list of references: its `name` element or, without one, its
`title` attribute. -/
def title? (node : Xml.Node) : Option String :=
  ((node.child? "name").map Xml.Node.words |>.or (node.attribute? "title")).bind nonempty?

/-- Whether a section counts. -/
def isNumbered (node : Xml.Node) : Bool := node.attribute? "numbered" != some "false"

/-- The section of an element. -/
def toSection (number : Option String) (node : Xml.Node) : Section :=
  ⟨number, (title? node).getD "", node.line⟩

mutual

/-- The sections inside a node, whose numbers start with `start`. -/
def sectionsIn (start : String) : Xml.Node → List Section
  | .text _ => []
  | .element _ _ _ children => sectionsAmong start 0 children

/-- The sections among nodes of one parent, of which `count` have been counted before. -/
def sectionsAmong (start : String) (count : Nat) : List Xml.Node → List Section
  | [] => []
  | node :: rest =>
    if node.hasName "section" then
      if isNumbered node then
        let number := start ++ toString (count + 1)
        toSection (some number) node :: sectionsIn (number ++ ".") node ++
          sectionsAmong start (count + 1) rest
      else toSection none node :: sectionsAmong start count rest
    else sectionsAmong start count rest

end

/-- The sections of the back. -/
def backSections (back : Xml.Node) : List Section :=
  (back.elementsNamed "section").filterMap fun node =>
    (title? node).map fun title => ⟨none, title, node.line⟩

/-- The sections of a root element. -/
def sections (root : Xml.Node) : List Section :=
  ((root.child? "middle").map (sectionsIn "")).getD [] ++
    ((root.child? "back").map backSections).getD []

end DraftNits.RfcXml
