import DraftNits.Text.Trim

/-! # Page furniture

What a page adds around the text: the footer with the page number, the running header with the
short title, and blank lines. The structure of a document does not depend on it. -/

namespace DraftNits.PlainText

/-! ## Footers -/

/-- Whether a line read backwards starts with the digits of a page number and `[Page ` in front
of them. -/
def endsPageNumber (backwards : List Char) : Bool :=
  !(backwards.takeWhile Text.isDecimalDigit).isEmpty &&
    " egaP[".toList.isPrefixOf (backwards.dropWhile Text.isDecimalDigit)

/-- Whether a line ends in `[Page n]` with a number `n` in decimal digits, up to white space. -/
def isFooter (line : List Char) : Bool :=
  match line.reverse.dropWhile Text.isBlank with
  | ']' :: backwards => endsPageNumber backwards
  | _ => false

/-! ## Running headers -/

/-- Whether a text starts with two white-space characters or more and then another character. -/
def startsGap (cs : List Char) : Bool :=
  1 < (cs.takeWhile Text.isBlank).length && !Text.isAllBlank cs

/-- Whether a gap of two white-space characters or more stands before some character of the first
line of a text. -/
def hasGap : List Char → Bool
  | [] => false
  | c :: cs => startsGap (c :: cs) || (c != '\n' && hasGap cs)

/-- The text after the label of a running header, `Internet-Draft` or `RFC` with a number. -/
def afterHeaderLabel? (line : List Char) : Option (List Char) :=
  match Text.afterStart? "Internet-Draft".toList line with
  | some rest => some rest
  | none =>
    match Text.afterStart? "RFC ".toList line with
    | none => none
    | some rest =>
      if (rest.takeWhile Text.isDecimalDigit).isEmpty then none
      else some (rest.dropWhile Text.isDecimalDigit)

/-- Whether a line is a running header: a label, a short title and a date with gaps between
them. -/
def isRunningHeader (line : List Char) : Bool :=
  match afterHeaderLabel? line with
  | none => false
  | some rest => startsGap rest && hasGap (Text.trimStart rest).tail

/-! ## Furniture -/

/-- A line without the form feeds at its start. -/
def dropFormFeeds (line : List Char) : List Char := line.dropWhile (· == '\x0c')

/-- Whether a line, form feeds at its start left aside, is page furniture. -/
def isFurniture (line : List Char) : Bool :=
  Text.isAllBlank line || isFooter line || isRunningHeader line

example : isFooter "Smith      Expires September 2024      [Page 1] ".toList = true := by
  decide +kernel
example : isFooter "[Page x]".toList = false := by decide +kernel
example : isRunningHeader "RFC 9999     A Title     March 2024".toList = true := by decide +kernel
example : isRunningHeader "Internet-Draft     A Title March 2024".toList = false := by
  decide +kernel

end DraftNits.PlainText
