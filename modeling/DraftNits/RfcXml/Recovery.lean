import DraftNits.Document.Basic
import DraftNits.Text.Numeral
import DraftNits.Text.Trim

/-! # What can be saved of a malformed XML document

When the text is no XML document, each line is searched on its own for tags that look right, and
their attributes are taken as they stand, without regard to references. -/

namespace DraftNits.RfcXml

/-! ## Attributes -/

/-- Whether a character is a quotation mark of either kind. -/
def isQuoteMark (c : Char) : Bool := c == '"' || c == '\''

/-- The value in quotation marks of any kind at the start of a text, if it is not empty and its
characters are in a class, and the text after it. -/
def quoted? (p : Char → Bool) : List Char → Option (List Char × List Char)
  | [] => none
  | mark :: cs =>
    let value := cs.takeWhile p
    match cs.drop value.length with
    | ending :: rest =>
      if isQuoteMark mark && isQuoteMark ending && !value.isEmpty then some (value, rest) else none
    | [] => none

/-- The value of an attribute at the start of a text, and the text after it. -/
def attributeHere? (name : List Char) (p : Char → Bool) (cs : List Char) :
    Option (List Char × List Char) :=
  match Text.afterStart? name cs with
  | none => none
  | some rest =>
    match Text.trimStart rest with
    | '=' :: rest => quoted? p (Text.trimStart rest)
    | _ => none

/-- The value of the first attribute of a name in a text; `inWord` says whether the character
before the text is a word character. -/
def firstAttributeFrom? (name : List Char) (p : Char → Bool) (inWord : Bool) :
    List Char → Option (List Char)
  | [] => none
  | c :: cs =>
    match if inWord then none else attributeHere? name p (c :: cs) with
    | some (value, _) => some value
    | none => firstAttributeFrom? name p (Text.isWord c) cs

/-- The characters of a value that is not restricted. -/
def isValueChar (c : Char) : Bool := !isQuoteMark c

/-- The value of the first attribute of a name on a line. -/
def firstAttribute? (name : String) (line : List Char) : Option (List Char) :=
  firstAttributeFrom? name.toList isValueChar false line

/-- The digits of the first attribute of a name on a line whose value is a number. -/
def firstNumber? (name : String) (line : List Char) : Option (List Char) :=
  firstAttributeFrom? name.toList Text.isDecimalDigit false line

/-! ## Tags -/

/-- Whether a word ends before a text. -/
def wordEnds (cs : List Char) : Bool := !cs.head?.any Text.isWord

/-- The text after a tag's name at the start of a text. -/
def afterTagName? (tag : String) (cs : List Char) : Option (List Char) :=
  match Text.afterStart? ('<' :: tag.toList) cs with
  | some rest => if wordEnds rest then some rest else none
  | none => none

/-- Whether a tag starts on a line. -/
def hasTag (tag : String) : List Char → Bool
  | [] => false
  | c :: cs => (afterTagName? tag (c :: cs)).isSome || hasTag tag cs

/-- The value of the last attribute of a name that starts before the next `>`, and the text after
it; `inWord` says whether the character before the text is a word character. -/
def lastAttributeFrom? (name : List Char) (inWord : Bool) :
    List Char → Option (List Char × List Char)
  | [] => none
  | c :: cs =>
    if c = '>' then none
    else
      -- What starts later in the tag comes first.
      match lastAttributeFrom? name (Text.isWord c) cs with
      | some found => some found
      | none => if inWord then none else attributeHere? name isValueChar (c :: cs)

/-- The value of an attribute in the tag at the start of a text, and the text after it. -/
def tagAttribute? (tag name : String) (cs : List Char) : Option (List Char × List Char) :=
  (afterTagName? tag cs).bind (lastAttributeFrom? name.toList true)

/-- The values of an attribute in the tags of a name, from left to right. The first `skip`
characters belong to the tag before. -/
def tagAttributesFrom (tag name : String) (skip : Nat) : List Char → List (List Char)
  | [] => []
  | c :: cs =>
    match skip with
    | skip + 1 => tagAttributesFrom tag name skip cs
    | 0 =>
      match tagAttribute? tag name (c :: cs) with
      | some (value, rest) => value :: tagAttributesFrom tag name (cs.length - rest.length) cs
      | none => tagAttributesFrom tag name 0 cs

/-- The values of an attribute in the tags of a name on a line, from left to right. -/
def tagAttributes (tag name : String) (line : List Char) : List (List Char) :=
  tagAttributesFrom tag name 0 line

/-! ## Title -/

/-- The content of the `title` element at the start of a text. -/
def titleHere? (cs : List Char) : Option (List Char) :=
  match Text.afterStart? "<title".toList cs with
  | none => none
  | some rest =>
    match rest.dropWhile (· != '>') with
    | [] => none
    | _ :: rest =>
      let content := rest.takeWhile (· != '<')
      if !content.isEmpty && "</title>".toList.isPrefixOf (rest.drop content.length) then
        some content
      else none

/-- The content of the first `title` element that stands on one line. -/
def titleOn? : List Char → Option (List Char)
  | [] => none
  | c :: cs => (titleHere? (c :: cs)).or (titleOn? cs)

/-! ## The lines of a document -/

/-- What has been saved. -/
structure Recovered where
  /-- The front matter. -/
  front : FrontMatter
  /-- The references in order. -/
  references : List Reference
  /-- The citations in order. -/
  citations : List Citation
  deriving DecidableEq

namespace Recovered

/-- Nothing has been saved. -/
def empty : Recovered := ⟨FrontMatter.empty, [], []⟩

/-- The front matter after a line with the tag of the root. -/
def readRoot (front : FrontMatter) (number : Nat) (line : List Char) : FrontMatter :=
  let front := match firstAttribute? "docName" line with
    | some name => { front with
        draftName := some (String.ofList name)
        draftNameLine := some number }
    | none => front
  let front := match firstNumber? "number" line with
    | some digits => { front with rfcNumber := Text.readUnsigned32? digits }
    | none => front
  match firstAttribute? "version" line with
  | some version => { front with xmlVersion := some (String.ofList version) }
  | none => front

/-- The front matter after a line. Of the authors of a line the first is taken. -/
def readFront (front : FrontMatter) (number : Nat) (line : List Char) : FrontMatter :=
  let front := if hasTag "rfc" line then readRoot front number line else front
  { front with
    title := front.title.or ((titleOn? line).map fun title => String.ofList (Text.trim title))
    hasAbstract := front.hasAbstract || Text.contains "<abstract".toList line
    authors := front.authors ++
      ((tagAttributes "author" "fullname" line).take 1).map fun name =>
        ⟨String.ofList name, none, some number⟩ }

/-- What has been saved after a line. -/
def readLine (saved : Recovered) (number : Nat) (line : List Char) : Recovered where
  front := readFront saved.front number line
  references := saved.references ++
    (tagAttributes "reference" "anchor" line).map fun anchor =>
      ⟨String.ofList anchor, none, false, number⟩
  citations := saved.citations ++
    (tagAttributes "xref" "target" line).map fun anchor => ⟨String.ofList anchor, number⟩

/-- What has been saved after lines that are numbered from `number` on. -/
def readLines (saved : Recovered) (number : Nat) : List (List Char) → Recovered
  | [] => saved
  | line :: rest => (saved.readLine number line).readLines (number + 1) rest

@[simp] theorem readLines_nil (saved : Recovered) (number : Nat) :
    saved.readLines number [] = saved := rfl

end Recovered

/-- The document that is saved from the lines of a malformed text. -/
def recover (path : String) (lines : List (List Char)) (diagnostic : Diagnostic) : Document :=
  let saved := Recovered.empty.readLines 1 lines
  { path
    format := .xml
    kind := DocumentKind.ofNumber saved.front.rfcNumber
    lines := lines.map String.ofList
    front := saved.front
    sections := []
    references := saved.references
    citations := saved.citations
    diagnostics := [diagnostic] }

example : tagAttributes "xref" "target"
    "<xref target='A' target=\"B\"/> <xref section='1'> <xref target = \"C\"".toList =
    ["B".toList, "C".toList] := by decide +kernel
example : titleOn? "<title abbrev='x'> A Title </title>".toList = some " A Title ".toList := by
  decide +kernel
example : firstAttribute? "docName" "<rfc xdocName='a' docName='b'".toList = some "b".toList := by
  decide +kernel

end DraftNits.RfcXml
