import DraftNits.Text.Trim

/-! # The two columns of a header line

A line of the header block on the first page has a left and a right column with two or more spaces
between them. A line that starts with white space has a right column only. -/

namespace DraftNits.PlainText

/-- A header line in columns; a column that is there is not empty and has no white space at its
ends. -/
structure Columns where
  /-- The left column. -/
  left : Option (List Char)
  /-- The right column. -/
  right : Option (List Char)
  deriving DecidableEq, Repr

namespace Columns

/-- The columns of a line. The first two spaces in a row end the left column. -/
def ofLine (line : List Char) : Columns :=
  let line := Text.trimEnd line
  if line.isEmpty then ⟨none, none⟩
  else if Text.startsBlank line then ⟨none, some (Text.trimStart line)⟩
  else
    match Text.splitAt? [' ', ' '] line with
    | none => ⟨some line, none⟩
    | some (left, right) => ⟨some (Text.trim left), some (Text.trim right)⟩

example : ofLine "Internet-Draft        J. Smith".toList =
    ⟨some "Internet-Draft".toList, some "J. Smith".toList⟩ := by decide +kernel
example : ofLine "        March 2024".toList = ⟨none, some "March 2024".toList⟩ := by
  decide +kernel
example : ofLine " \t ".toList = ⟨none, none⟩ := by decide +kernel

end Columns

end DraftNits.PlainText
