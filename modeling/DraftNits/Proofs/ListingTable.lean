import DraftNits.Proofs.DraftNames
import DraftNits.Proofs.ReportLines
import DraftNits.Rule.Listing
import Mathlib.Data.List.Forall2

/-! # The columns of the rule table

The first column of the table of rules is as wide as the longest label of formats in bytes, but its
labels are set flush right by their characters. A character takes a byte or more, so the width is
enough for all labels whatever script they are in, and the headings have room as well. The second
column has room for three characters. So every row has the end of its formats and the start of its
description where the headings have them, and no label is cut.

* `ListingRow.width_le_iff` — the width is the least that is enough for all labels and headings.
* `ListingRow.StandsAt` — the lines that show a row in given columns.
* `Rule.IsBuilt`, `Rule.IsBuilt.length_kinds` — what is built by the functions for rules has a label of
  three characters for its kinds.
* `ListingRow.table_linesUp` — the table shows all its rows in the same columns. -/

namespace DraftNits

/-! ## The width of the first column -/

/-- A text takes at least as many bytes as it has characters. -/
theorem Text.Utf8.length_le_length_encode (cs : List Char) : cs.length ≤ (encode cs).length := by
  induction cs with
  | nil => exact Nat.le_refl 0
  | cons c cs ih =>
    have some_byte := List.length_pos_of_ne_nil (String.utf8EncodeChar_ne_nil (c := c))
    rw [encode_cons, List.length_append, List.length_cons]
    omega

/-- A text takes at least as many bytes as it has characters. -/
theorem length_le_byteLength (s : String) : s.length ≤ byteLength s := by
  rw [← String.length_toList]
  exact Text.Utf8.length_le_length_encode s.toList

namespace ListingRow

/-- The width of the first column is the least that is enough for the headings and for all labels in
bytes. -/
theorem width_le_iff {rows : List ListingRow} {bound : Nat} :
    width rows ≤ bound ↔ 3 ≤ bound ∧ ∀ row ∈ rows, byteLength row.formats ≤ bound := by
  rw [width]
  -- The induction is on the rows, for any width that the rows before them have made.
  generalize 3 = start
  induction rows generalizing start with
  | nil => simp
  | cons row rows ih => rw [List.foldl_cons, ih, Nat.max_le, List.forall_mem_cons, and_assoc]

/-- The first column has room for the headings and for all labels. -/
theorem length_le_width (rows : List ListingRow) :
    ∀ row ∈ header :: underline :: rows, row.formats.length ≤ width rows := by
  obtain ⟨headings, labels⟩ := width_le_iff.1 (Nat.le_refl (width rows))
  intro row mem
  rcases List.mem_cons.1 mem with rfl | mem
  · exact headings
  rcases List.mem_cons.1 mem with rfl | mem
  · exact headings
  · exact Nat.le_trans (length_le_byteLength row.formats) (labels row mem)

end ListingRow

/-! ## Lines in columns -/

/-- So many spaces. -/
def spaces (count : Nat) : String := String.ofList (List.replicate count ' ')

/-- Spaces behind others are as many as both together. -/
theorem spaces_add (m n : Nat) : spaces (m + n) = spaces m ++ spaces n := by
  rw [spaces, List.replicate_add, String.ofList_append]
  rfl

/-- A text is set flush right by the spaces that its characters leave. -/
theorem flushRight_eq (width : Nat) (s : String) :
    flushRight width s = spaces (width - s.length) ++ s := by
  rw [flushRight, spaces, String.length_toList]

/-- Spaces are on one line. -/
theorem isOneLine_spaces (count : Nat) : IsOneLine (spaces count) := by
  intro mem
  rw [spaces, String.toList_ofList] at mem
  exact absurd (List.eq_of_mem_replicate mem) (by decide)

namespace ListingRow

/-- The lines that show a row in columns, which are counted in characters. The formats end in front of
column `formatsEnd` and the description starts at column `start`. The labels are there in full, and
nothing but spaces stands in front of them and between them. -/
inductive StandsAt (formatsEnd start : Nat) (row : ListingRow) : String → Prop
  | shown {indent gap : Nat} (formats_end : indent + row.formats.length = formatsEnd)
      (wide : 2 ≤ gap) (description_starts : formatsEnd + gap + row.kinds.length + 2 = start) :
      StandsAt formatsEnd start row
        (spaces indent ++ row.formats ++ spaces gap ++ row.kinds ++ spaces 2 ++ row.description)

/-- The line of a row without its line feed. -/
def text (formatsEnd : Nat) (row : ListingRow) : String :=
  flushRight formatsEnd row.formats ++ "  " ++ flushRight 3 row.kinds ++ "  " ++ row.description

variable {row : ListingRow} {formatsEnd start : Nat}

/-- A row stands in its columns if they have room for its labels. -/
theorem standsAt_text (formats_fit : row.formats.length ≤ formatsEnd)
    (kinds_fit : row.kinds.length ≤ 3) :
    row.StandsAt formatsEnd (formatsEnd + 7) (row.text formatsEnd) := by
  have line : row.text formatsEnd = spaces (formatsEnd - row.formats.length) ++ row.formats ++
      spaces (2 + (3 - row.kinds.length)) ++ row.kinds ++ spaces 2 ++ row.description := by
    rw [text, flushRight_eq, flushRight_eq, spaces_add, show "  " = spaces 2 from rfl]
    simp only [String.append_assoc]
  rw [line]
  exact .shown (by omega) (by omega) (by omega)

/-- A row is on one line if its labels and its description are. -/
theorem StandsAt.isOneLine {line : String} (stands : row.StandsAt formatsEnd start line)
    (formats : IsOneLine row.formats) (kinds : IsOneLine row.kinds)
    (description : IsOneLine row.description) : IsOneLine line := by
  cases stands
  simp only [isOneLine_append]
  exact ⟨⟨⟨⟨⟨isOneLine_spaces _, formats⟩, isOneLine_spaces _⟩, kinds⟩, isOneLine_spaces _⟩,
    description⟩

/-- The table has a line for each of the two rows of its head, an empty line, and a line for each
row. -/
theorem table_eq_unlines (rows : List ListingRow) :
    table rows = unlines (header.text (width rows) :: underline.text (width rows) :: "" ::
      rows.map (text (width rows))) := by
  have lines : rows.map (line (width rows)) = (rows.map (text (width rows))).map (· ++ "\n") := by
    rw [List.map_map]
    rfl
  rw [table, lines, unlines_cons, unlines_cons, unlines_cons, ← unlines]
  simp only [line, text, String.append_assoc, String.empty_append]

/-- A label of nine bytes makes the first column nine characters wide, though it has only three. -/
example : table [⟨"日本語", "RFC", "Check text"⟩, ⟨"XML", "any", "Check xml"⟩] =
    "      Fmt  Doc  Comment\n      ---  ---  -------\n\n" ++
      "      日本語  RFC  Check text\n      XML  any  Check xml\n" := by decide +kernel

end ListingRow

/-! ## The labels of rules -/

/-- A label of a scope is on one line if the labels of its values are. -/
theorem Scope.isOneLine_label {α : Type} {valueLabel : α → String}
    (values_on_line : ∀ value, IsOneLine (valueLabel value)) (scope : Scope α) :
    IsOneLine (scope.label valueLabel) := by
  cases scope with
  | any => exact (by decide : IsOneLine "any")
  | only value => exact values_on_line value
  | among values =>
    intro mem
    rw [label, String.toList_intercalate] at mem
    rcases Text.mem_intercalate mem with is_slash | ⟨part, among, in_part⟩
    · exact absurd (List.mem_singleton.1 is_slash) (by decide)
    · simp only [List.map_map, List.mem_map] at among
      obtain ⟨value, -, rfl⟩ := among
      exact values_on_line value in_part

namespace Rule

/-- The rules that are built by the functions for rules. None of them restricts a rule to several
kinds of documents. -/
inductive IsBuilt : Rule → Prop
  | ofCheck (id description : String) (check : Check) : IsBuilt (.ofCheck id description check)
  | placeholder (id description : String) : IsBuilt (.placeholder id description)
  | forFormat {rule : Rule} (built : IsBuilt rule) (format : SourceFormat) :
      IsBuilt (rule.forFormat format)
  | forFormats {rule : Rule} (built : IsBuilt rule) (formats : List SourceFormat) :
      IsBuilt (rule.forFormats formats)
  | forKind {rule : Rule} (built : IsBuilt rule) (kind : DocumentKind) : IsBuilt (rule.forKind kind)
  | withSeverity {rule : Rule} (built : IsBuilt rule) (severity : Severity) :
      IsBuilt (rule.withSeverity severity)

/-- A rule that is built so is for all kinds of documents or for one. -/
theorem IsBuilt.kinds {rule : Rule} (built : rule.IsBuilt) :
    rule.kinds = .any ∨ ∃ kind, rule.kinds = .only kind := by
  induction built with
  | ofCheck => exact .inl rfl
  | placeholder => exact .inl rfl
  | forFormat _ _ ih => exact ih
  | forFormats _ _ ih => exact ih
  | forKind _ kind => exact .inr ⟨kind, rfl⟩
  | withSeverity _ _ ih => exact ih

/-- The label of its kinds has three characters. -/
theorem IsBuilt.length_kinds {rule : Rule} (built : rule.IsBuilt) :
    rule.listingRow.kinds.length = 3 := by
  show (rule.kinds.label DocumentKind.label).length = 3
  rcases built.kinds with kinds | ⟨kind, kinds⟩
  · rw [kinds]
    decide
  · rw [kinds]
    cases kind <;> decide

/-- The labels of a rule are on one line. -/
theorem isOneLine_labels (rule : Rule) :
    IsOneLine rule.listingRow.formats ∧ IsOneLine rule.listingRow.kinds :=
  ⟨Scope.isOneLine_label (fun format => by cases format <;> decide) rule.formats,
    Scope.isOneLine_label (fun kind => by cases kind <;> decide) rule.kinds⟩

end Rule

/-! ## The table -/

namespace ListingRow

/-- The labels of a rule that is built by the functions for rules have no line feed, and that of its
kinds has no more than three characters. For all rows with such labels, the table has two lines for
its head, an empty line, and a line for each row. Counted in characters, the formats end in one
column on all these lines and the description starts in another, where the heading `Comment` does,
and no label is cut. What has no line feed in it is printed on one line. -/
theorem table_linesUp :
    (∀ rule : Rule, rule.IsBuilt → IsOneLine rule.listingRow.formats ∧
      IsOneLine rule.listingRow.kinds ∧ rule.listingRow.kinds.length ≤ 3) ∧
    ∀ rows : List ListingRow,
      (∀ row ∈ rows, IsOneLine row.formats ∧ IsOneLine row.description ∧ row.kinds.length ≤ 3) →
      ∃ formatsEnd start, ∃ heading rule : String, ∃ lines : List String,
        table rows = unlines (heading :: rule :: "" :: lines) ∧
        List.Forall₂ (fun row line => row.StandsAt formatsEnd start line ∧
          (IsOneLine row.kinds → IsOneLine line))
          (header :: underline :: rows) (heading :: rule :: lines) := by
  refine ⟨fun rule built => ⟨rule.isOneLine_labels.1, rule.isOneLine_labels.2,
    Nat.le_of_eq built.length_kinds⟩, fun rows fit => ?_⟩
  have all_fit : ∀ row ∈ header :: underline :: rows,
      IsOneLine row.formats ∧ IsOneLine row.description ∧ row.kinds.length ≤ 3 :=
    List.forall_mem_cons.2 ⟨by decide, List.forall_mem_cons.2 ⟨by decide, fit⟩⟩
  refine ⟨width rows, width rows + 7, header.text (width rows), underline.text (width rows),
    rows.map (text (width rows)), table_eq_unlines rows, ?_⟩
  rw [← List.map_cons, ← List.map_cons, List.forall₂_map_right_iff, List.forall₂_same]
  intro row mem
  obtain ⟨formats, description, kinds_fit⟩ := all_fit row mem
  have stands := standsAt_text (length_le_width rows row mem) kinds_fit
  exact ⟨stands, fun kinds => stands.isOneLine formats kinds description⟩

/-- Rows whose labels take more bytes than characters, with and without a label of kinds. -/
def wideRows : List ListingRow :=
  [⟨"TXT/IDs", "any", "Check text"⟩, ⟨"日本語", "RFC", "Prüfe alles"⟩, ⟨"e\u0301", "", ""⟩]

/-- The table of these rows has its first column as wide as nine bytes. -/
theorem table_linesUp_wide :
    (∀ row ∈ wideRows,
      IsOneLine row.formats ∧ IsOneLine row.description ∧ row.kinds.length ≤ 3) ∧
    ∃ formatsEnd start, ∃ heading rule : String, ∃ lines : List String,
      table wideRows = unlines (heading :: rule :: "" :: lines) ∧
      List.Forall₂ (fun row line => row.StandsAt formatsEnd start line ∧
        (IsOneLine row.kinds → IsOneLine line))
        (header :: underline :: wideRows) (heading :: rule :: lines) := by
  have fit : ∀ row ∈ wideRows,
      IsOneLine row.formats ∧ IsOneLine row.description ∧ row.kinds.length ≤ 3 := by
    decide +kernel
  exact ⟨fit, table_linesUp.2 wideRows fit⟩

end ListingRow

end DraftNits
