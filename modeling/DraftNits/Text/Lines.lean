import DraftNits.Text.Trim

/-! # Lines

A text is cut at its line feeds; a carriage return directly before a line feed belongs to the
line end. What follows the last line feed is a line only if it is not empty, and it keeps a
carriage return at its end. -/

namespace DraftNits.Text

/-- A line read backwards, without the carriage return that belongs to its line end. -/
def endLine : List Char → List Char
  | '\r' :: cs => cs.reverse
  | cs => cs.reverse

/-- The lines of a text after the characters already read of the current line, latest first. -/
def linesFrom (read : List Char) : List Char → List (List Char)
  | [] => if read.isEmpty then [] else [read.reverse]
  | c :: cs => if c = '\n' then endLine read :: linesFrom [] cs else linesFrom (c :: read) cs

/-- The lines of a text. -/
def splitLines (cs : List Char) : List (List Char) := linesFrom [] cs

@[simp] theorem splitLines_nil : splitLines [] = [] := rfl

/-- A line feed ends the line before it. -/
theorem linesFrom_newline (read cs : List Char) :
    linesFrom read ('\n' :: cs) = endLine read :: splitLines cs := by
  simp [linesFrom, splitLines]

example : splitLines "a\r\nb\n\nc\r".toList = ["a".toList, "b".toList, [], "c\r".toList] := by
  decide +kernel

end DraftNits.Text
