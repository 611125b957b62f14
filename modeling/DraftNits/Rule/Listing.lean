import DraftNits.Rule.Basic
import DraftNits.Text.Utf8

/-! # The listing of rules

The listing is a table of three columns. The first column is as wide as the longest label of
formats in bytes and at least three; labels are set flush right, counted in characters. -/

namespace DraftNits

/-- The number of bytes of a text. -/
def byteLength (s : String) : Nat := (Text.Utf8.encode s.toList).length

/-- A text flush right in a column of a width; a longer text is not cut. -/
def flushRight (width : Nat) (s : String) : String :=
  String.ofList (List.replicate (width - s.toList.length) ' ') ++ s

namespace ListingRow

/-- The width of the first column. -/
def width (rows : List ListingRow) : Nat :=
  rows.foldl (fun width row => max width (byteLength row.formats)) 3

/-- The line of a row. -/
def line (width : Nat) (row : ListingRow) : String :=
  flushRight width row.formats ++ "  " ++ flushRight 3 row.kinds ++ "  " ++ row.description ++ "\n"

/-- The heading of the table. -/
def header : ListingRow := ⟨"Fmt", "Doc", "Comment"⟩

/-- The rule under the heading. -/
def underline : ListingRow := ⟨"---", "---", "-------"⟩

/-- The table of some rows. -/
def table (rows : List ListingRow) : String :=
  let width := width rows
  header.line width ++ underline.line width ++ "\n" ++ String.join (rows.map (line width))

end ListingRow

end DraftNits
