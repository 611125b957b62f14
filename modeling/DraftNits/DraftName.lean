import DraftNits.Text.Trim

/-! # Draft names

A draft name is `draft-`, components of small letters and digits joined by `-`, and a revision of
two digits: `draft-ietf-foo-bar-03`.

* `DraftName.find?` — the first draft name in running text, where it stands between word
  boundaries. One component is enough there.
* `DraftName.isWellFormed` — whether a whole text is a draft name with two components or more, the
  least that names both an author and a subject. -/

namespace DraftNits.DraftName

/-! ## Names in running text -/

/-- Whether a character can stand in a component of a draft name. -/
def isComponentChar (c : Char) : Bool := Text.isAsciiLower c || Text.isAsciiDigit c

/-- Whether the text after a hyphen is a revision: two decimal digits that end a word. -/
def startsRevision : List Char → Bool
  | [] => false
  | [_] => false
  | [a, b] => Text.isDecimalDigit a && Text.isDecimalDigit b
  | a :: b :: c :: _ => Text.isDecimalDigit a && Text.isDecimalDigit b && !Text.isWord c

/-- The longest draft name that goes on with a text after `read`, latest character first; `found`
is the longest one that ends before. -/
def longest (read : List Char) (found : Option (List Char)) : List Char → Option (List Char)
  | [] => found
  | c :: cs =>
    if isComponentChar c then longest (c :: read) found cs
    else if c = '-' ∧ read.head? ≠ some '-' then
      longest ('-' :: read)
        (if startsRevision cs then some (read.reverse ++ '-' :: cs.take 2) else found) cs
    else found

/-- The longest draft name at the start of a text. -/
def here? (cs : List Char) : Option (List Char) :=
  match Text.afterStart? "draft-".toList cs with
  | none => none
  | some rest => longest "draft-".toList.reverse none rest

/-- The first draft name in a text; `inWord` says whether the character before it is a word
character. -/
def findFrom? (inWord : Bool) : List Char → Option (List Char)
  | [] => none
  | c :: cs =>
    match if inWord then none else here? (c :: cs) with
    | some name => some name
    | none => findFrom? (Text.isWord c) cs

/-- The first draft name in a line. -/
def find? (line : List Char) : Option (List Char) := findFrom? false line

/-! ## Well-formed names -/

/-- Whether a text is a component. -/
def isComponent (cs : List Char) : Bool := !cs.isEmpty && cs.all isComponentChar

/-- Whether a text is a revision. -/
def isRevision (cs : List Char) : Bool := cs.length == 2 && cs.all Text.isDecimalDigit

/-- Whether a text is a draft name: `draft`, two components or more and a revision, with hyphens
between them. -/
def isWellFormed (cs : List Char) : Bool :=
  match cs.splitOn '-' with
  | [] => false
  | start :: parts =>
    start == "draft".toList && 2 < parts.length && parts.dropLast.all isComponent &&
      parts.getLast?.any isRevision

/-- A stated name without one `.txt` at its end. -/
def withoutExtension (cs : List Char) : List Char :=
  if ".txt".toList.isSuffixOf cs then cs.take (cs.length - 4) else cs

example : isWellFormed "draft-ietf-foo-bar-03".toList = true := by decide +kernel
example : isWellFormed "draft-foo-03".toList = false := by decide +kernel
example : isWellFormed "draft-ietf--foo-03".toList = false := by decide +kernel
example : find? "draft-smith-sample-00".toList = some "draft-smith-sample-00".toList := by
  decide +kernel
example : find? "(draft-a-01-b-02, draft-c-03)".toList = some "draft-a-01-b-02".toList := by
  decide +kernel
example : find? "draft-a-01-b-2".toList = some "draft-a-01".toList := by decide +kernel
example : find? "xdraft-a-01 draft--01 draft-01".toList = none := by decide +kernel

end DraftNits.DraftName
