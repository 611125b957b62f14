import DraftNits.Document.Basic
import DraftNits.Text.Trim

/-! # Section headings in text

A heading stands at the start of a line. It is a numbered one (`3.1.  Title`), an appendix
(`Appendix B.2.  Title`), or one of a few fixed titles without a number.

A number is one or more groups of one or two digits with dots between them; a dot may follow the
last group. The white space between number and title is not empty, and the title ends before the
white space at the end of the line. -/

namespace DraftNits.PlainText

/-- A heading as it is written. -/
structure Heading where
  /-- The number, without the dot that may follow it. -/
  number : Option (List Char)
  /-- The title. -/
  title : List Char
  deriving DecidableEq, Repr

namespace Heading

/-! ## Numbers -/

/-- Whether a character can stand in a number of groups. -/
def isNumberChar (c : Char) : Bool := Text.isDecimalDigit c || c == '.'

/-- A text without a dot at its end. -/
def dropFinalDot (cs : List Char) : List Char :=
  if cs.getLast? = some '.' then cs.dropLast else cs

/-- Whether a text is one or two digits. -/
def isGroup (cs : List Char) : Bool :=
  (cs.length == 1 || cs.length == 2) && cs.all Text.isDecimalDigit

/-- Whether a text is one or more groups with dots between them. -/
def isGroups (cs : List Char) : Bool := (cs.splitOn '.').all isGroup

/-- Whether a text is empty or a dot and groups. -/
def isSubgroups : List Char → Bool
  | [] => true
  | c :: cs => c == '.' && isGroups cs

/-- The title after a number: white space and then a text on one line whose first character is in
a class. -/
def title? (first : Char → Bool) (cs : List Char) : Option (List Char) :=
  match Text.trimStart cs with
  | [] => none
  | c :: rest =>
    if Text.startsBlank cs && first c && !(c :: rest).contains '\n' then some (c :: rest) else none

/-! ## The three kinds of heading -/

/-- A numbered heading. The title starts with a capital letter A to Z. -/
def numbered? (line : List Char) : Option Heading :=
  let number := dropFinalDot (line.takeWhile isNumberChar)
  if isGroups number then
    (title? Text.isAsciiUpper (line.dropWhile isNumberChar)).map fun title => ⟨some number, title⟩
  else none

/-- The heading of an appendix after the word `Appendix`: a capital letter A to Z and the groups
after it make the number. -/
def lettered? : List Char → Option Heading
  | [] => none
  | letter :: rest =>
    let groups := dropFinalDot (rest.takeWhile isNumberChar)
    if Text.isAsciiUpper letter && isSubgroups groups then
      (title? (fun _ => true) (rest.dropWhile isNumberChar)).map fun title =>
        ⟨some (letter :: groups), title⟩
    else none

/-- The heading of an appendix. -/
def appendix? (line : List Char) : Option Heading :=
  match Text.afterStart? "Appendix".toList line with
  | none => none
  | some rest => if Text.startsBlank rest then lettered? (Text.trimStart rest) else none

/-- The titles that are headings without a number. -/
def fixedTitles : List String :=
  ["Abstract", "Status of This Memo", "Status of this Memo", "Copyright Notice",
   "Table of Contents", "Acknowledgements", "Acknowledgments", "Contributors", "References",
   "Normative References", "Informative References", "Authors' Addresses", "Author's Address",
   "Index"]

/-- A heading without a number. -/
def fixed? (line : List Char) : Option Heading :=
  if fixedTitles.any (fun title => title.toList == line) then some ⟨none, line⟩ else none

/-- The heading that a line is, if it is one. -/
def ofLine? (line : List Char) : Option Heading :=
  if Text.startsBlank line then none
  else
    let line := Text.trimEnd line
    (numbered? line).or ((appendix? line).or (fixed? line))

/-- The section of a heading on a line. -/
def toSection (heading : Heading) (line : Nat) : Section :=
  ⟨heading.number.map String.ofList, String.ofList heading.title, line⟩

/-- A line that starts with white space is no heading. -/
theorem ofLine?_of_startsBlank {line : List Char} (h : Text.startsBlank line = true) :
    ofLine? line = none := by
  simp [ofLine?, h]

example : ofLine? "3.12.  Title  ".toList = some ⟨some "3.12".toList, "Title".toList⟩ := by
  decide +kernel
example : ofLine? "1.  title".toList = none := by decide +kernel
example : ofLine? "1..  Title".toList = none := by decide +kernel
example : ofLine? "123 Title".toList = none := by decide +kernel
example : ofLine? "Appendix A.1  why".toList = some ⟨some "A.1".toList, "why".toList⟩ := by
  decide +kernel
example : ofLine? "Author's Address".toList = some ⟨none, "Author's Address".toList⟩ := by
  decide +kernel

end Heading

end DraftNits.PlainText
