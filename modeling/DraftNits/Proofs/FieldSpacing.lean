import DraftNits.Proofs.HeaderColumns

/-! # Spaces behind a label

A field of the header is a label and a value. The value is read with any white space in front of it
taken off, but a line is cut into columns first, and two spaces end the left one. So there are two
ways to read a field, and the number of spaces behind its label chooses between them: with fewer than
two the value is read behind the label, with two or more the label stands alone and the value is the
right column, where it is a date, an author or an organization.

* `PlainText.fieldLine` — a label, so many spaces, and the rest of the line.
* `PlainText.Columns.ofLine_fieldLine_close`, `PlainText.Columns.ofLine_fieldLine_wide` — the columns
  of such a line.
* `PlainText.Header.readLine_fieldLine` — what the line adds to the header.
* `PlainText.field_spacing_iff` — two numbers of spaces are read alike exactly if both are below two
  or neither is. -/

namespace DraftNits.PlainText

/-- The labels of the left column. -/
inductive FieldLabel
  /-- The number of an RFC. -/
  | rfcNumber
  /-- The intended status of a draft. -/
  | intendedStatus
  /-- The category of an RFC. -/
  | category
  /-- The expiry of a draft. -/
  | expires
  deriving DecidableEq

/-- A label as it is written. -/
def FieldLabel.text : FieldLabel → String
  | .rfcNumber => "Request for Comments:"
  | .intendedStatus => "Intended status:"
  | .category => "Category:"
  | .expires => "Expires:"

/-- A label, so many spaces, and the rest of the line. -/
def fieldLine (label : FieldLabel) (spaces : Nat) (rest : List Char) : List Char :=
  label.text.toList ++ (List.replicate spaces ' ' ++ rest)

/-- The header after a field with a value that has no white space at its ends. A number counts only
if the value begins with a digit. -/
def Header.readField (header : Header) (number : Nat) (value : List Char) : FieldLabel → Header
  | .rfcNumber =>
    let digits := value.takeWhile Text.isDecimalDigit
    if digits.isEmpty then header else { header with rfcNumber := Text.readUnsigned32? digits }
  | .intendedStatus => { header with category := some (String.ofList value) }
  | .category => { header with category := some (String.ofList value) }
  | .expires => { header with expiry := header.expiry.readField number value }

variable {label : FieldLabel} {spaces : Nat} {rest value : List Char} {right : Option (List Char)}

/-! ## The columns -/

/-- A label is a column without two spaces. -/
theorem FieldLabel.isColumn_text (label : FieldLabel) :
    IsColumn label.text.toList ∧ ¬ [' ', ' '] <:+: label.text.toList := by
  cases label <;> exact ⟨by decide +kernel, by decide +kernel⟩

/-- There are no two spaces up to a value with at most one space in front of it. -/
theorem not_isInfix_fieldLine (label : FieldLabel) (close : spaces < 2) {c : Char} (ne : ' ' ≠ c) :
    ¬ [' ', ' '] <:+: fieldLine label spaces [c] := by
  have zero_or_one : spaces = 0 ∨ spaces = 1 := by omega
  rcases zero_or_one with rfl | rfl <;> cases label <;>
    simp [fieldLine, FieldLabel.text, List.infix_cons_iff, ne]

/-- A column and another one behind it are together one. -/
theorem IsColumn.append {left right : List Char} (is_left : IsColumn left) (between : List Char)
    (is_right : IsColumn right) : IsColumn (left ++ (between ++ right)) := by
  refine ⟨List.append_ne_nil_of_left_ne_nil is_left.ne_nil _, ?_, ?_⟩
  · rw [List.head?_append_of_ne_nil _ is_left.ne_nil]
    exact is_left.first
  · rw [← List.append_assoc, List.getLast?_append_of_ne_nil _ is_right.ne_nil]
    exact is_right.last

namespace Columns

/-- A line with a left column does not begin with white space. -/
theorem isColumn_trimEnd (columns : ofLine rest = ⟨some value, right⟩) :
    IsColumn (Text.trimEnd rest) := by
  have falls := fallsInto_ofLine rest
  rw [columns] at falls
  cases falls with
  | @left _ trailing is_left _ all_blank =>
    have ended : Text.trimEnd (value ++ trailing) = value := is_left.trimEnd_eq [] all_blank
    rwa [ended]
  | both is_left _ _ _ is_right all_blank =>
    rw [← List.append_assoc, is_right.trimEnd_eq _ all_blank, List.append_assoc]
    exact is_left.append _ is_right

/-- The left column of a line is a column. -/
theorem isColumn_left (columns : ofLine rest = ⟨some value, right⟩) : IsColumn value :=
  ((fallsInto_ofLine rest).isColumn.1 value (by rw [columns]; rfl)).1

/-- The line of a field without the white space at its end. -/
theorem trimEnd_fieldLine (label : FieldLabel) (spaces : Nat)
    (is_column : IsColumn (Text.trimEnd rest)) :
    Text.trimEnd (fieldLine label spaces rest) = fieldLine label spaces (Text.trimEnd rest) := by
  obtain ⟨trailing, is_rest, all_blank⟩ := Text.exists_trimEnd rest
  have taken := is_column.trimEnd_eq (label.text.toList ++ List.replicate spaces ' ') all_blank
  rw [← is_rest, List.append_assoc, List.append_assoc] at taken
  exact taken

/-- With fewer than two spaces behind the label, the line of a field is cut where the rest of it is
cut. -/
theorem splitAt?_fieldLine (label : FieldLabel) (close : spaces < 2) {text : List Char}
    (is_column : IsColumn text) :
    Text.splitAt? [' ', ' '] (fieldLine label spaces text) =
      (Text.splitAt? [' ', ' '] text).map
        fun (left, right) => (fieldLine label spaces left, right) := by
  obtain ⟨c, others, rfl, not_blank⟩ := is_column.exists_cons
  have no_space : ' ' ≠ c := by
    rintro rfl
    exact absurd not_blank (by decide)
  have single := not_isInfix_fieldLine label close no_space
  rw [fieldLine, ← List.append_assoc] at single
  have cut := Text.splitAt?_append single others
  simp only [List.append_assoc] at cut
  exact cut

/-- With fewer than two spaces behind the label, the value stands with it in the left column. -/
theorem ofLine_fieldLine_close (label : FieldLabel) (close : spaces < 2)
    (columns : ofLine rest = ⟨some value, right⟩) :
    ofLine (fieldLine label spaces rest) = ⟨some (fieldLine label spaces value), right⟩ := by
  have is_column := isColumn_trimEnd columns
  have is_line : IsColumn (Text.trimEnd (fieldLine label spaces rest)) := by
    rw [trimEnd_fieldLine label spaces is_column]
    exact label.isColumn_text.1.append _ is_column
  rw [ofLine_of_isColumn is_column] at columns
  rw [ofLine_of_isColumn is_line, trimEnd_fieldLine label spaces is_column,
    splitAt?_fieldLine label close is_column]
  cases found : Text.splitAt? [' ', ' '] (Text.trimEnd rest) with
  | none =>
    rw [found] at columns
    cases columns
    rfl
  | some sides =>
    obtain ⟨left, behind⟩ := sides
    rw [found] at columns
    cases columns
    obtain ⟨is_value, blanks, is_left, all_blank⟩ := isColumn_trim_of_splitAt? is_column found
    have is_field := label.isColumn_text.1.append (List.replicate spaces ' ') is_value
    have trimmed := Text.trim_append (List.forall_mem_nil _) all_blank is_field.first is_field.last
    have kept : Text.trim (fieldLine label spaces left) =
        fieldLine label spaces (Text.trim left) := by
      conv_lhs => rw [is_left]
      simpa [fieldLine] using trimmed
    rw [Option.map_some, Option.elim_some, kept]

/-- With two spaces or more behind the label, it stands alone and everything else is the right
column. -/
theorem ofLine_fieldLine_wide (label : FieldLabel) (wide : 2 ≤ spaces)
    (columns : ofLine rest = ⟨some value, right⟩) :
    ofLine (fieldLine label spaces rest) = ⟨some label.text.toList, some (Text.trimEnd rest)⟩ := by
  obtain ⟨trailing, is_rest, all_blank⟩ := Text.exists_trimEnd rest
  have laid_out := LaidOut.both label.isColumn_text.1 label.isColumn_text.2 wide
    (isColumn_trimEnd columns) all_blank
  rw [← is_rest] at laid_out
  exact laid_out.ofLine_eq

end Columns

/-! ## The header -/

namespace Header

/-- What a header has from left columns. -/
def leftFields (header : Header) : Option Nat × Option String × Expiry :=
  (header.rfcNumber, header.category, header.expiry)

variable (header : Header) (number : Nat)

/-- A right column says nothing of the fields of the left one. -/
theorem leftFields_readRight (right : List Char) :
    (header.readRight number right).leftFields = header.leftFields := by
  show ((header.join header).readRight number right).leftFields = header.leftFields
  rw [join_readRight]
  rfl

/-- The digits behind the label of a number are those that the value begins with. -/
theorem rfcDigits?_fieldLine (spaces : Nat) (first : ∀ c ∈ value.head?, Text.isBlank c = false) :
    rfcDigits? (fieldLine .rfcNumber spaces value) =
      if (value.takeWhile Text.isDecimalDigit).isEmpty then none
      else some (value.takeWhile Text.isDecimalDigit) := by
  have behind : Text.trimStart (List.replicate spaces ' ' ++ value) = value := by
    rw [Text.trimStart, List.dropWhile_append_of_pos (isBlank_of_mem_replicate spaces)]
    cases value with
    | nil => rfl
    | cons c others =>
      rw [List.dropWhile_cons, first c rfl]
      rfl
  rw [rfcDigits?, fieldLine, FieldLabel.text, Text.afterStart?_append]
  dsimp only
  rw [behind]

/-- The spaces between a label and its value do not count. -/
theorem readLeft_fieldLine (label : FieldLabel) (spaces : Nat)
    (first : ∀ c ∈ value.head?, Text.isBlank c = false)
    (last : ∀ c ∈ value.getLast?, Text.isBlank c = false) :
    header.readLeft number (fieldLine label spaces value) = header.readField number value label := by
  have trimmed : Text.trim (List.replicate spaces ' ' ++ value) = value := by
    have kept := Text.trim_append (isBlank_of_mem_replicate spaces) (List.forall_mem_nil _) first last
    rwa [List.append_nil] at kept
  cases label with
  | rfcNumber =>
    have no_status : status? (fieldLine .rfcNumber spaces value) = none := rfl
    have no_expiry : Text.afterStart? "Expires:".toList (fieldLine .rfcNumber spaces value) = none :=
      rfl
    rw [readLeft, rfcDigits?_fieldLine spaces first, no_status, no_expiry, readField]
    cases (value.takeWhile Text.isDecimalDigit).isEmpty <;> rfl
  | intendedStatus =>
    refine (readLeft_status (.inl rfl) header number _).trans ?_
    rw [trimmed]
    rfl
  | category =>
    refine (readLeft_status (.inr rfl) header number _).trans ?_
    rw [trimmed]
    rfl
  | expires =>
    have same_field : header.expiry.readField number (List.replicate spaces ' ' ++ value) =
        header.expiry.readField number value := by
      have same_trim := trimmed.trans (Text.trim_eq_self first last).symm
      rw [Expiry.readField, Expiry.readField, Date.ofFrontMatter?, Date.ofFrontMatter?, same_trim]
    refine (readLeft_expiry header number _).trans ?_
    rw [same_field]
    rfl

/-- With fewer than two spaces behind its label, a field is read with its value, and the right column
by itself. With two or more, the label is read without a value, and everything behind the spaces as
a right column. -/
theorem readLine_fieldLine (label : FieldLabel) (spaces : Nat)
    (columns : Columns.ofLine rest = ⟨some value, right⟩) :
    header.readLine number (fieldLine label spaces rest) =
      if spaces < 2 then
        right.elim (header.readField number value label)
          ((header.readField number value label).readRight number)
      else (header.readField number [] label).readRight number (Text.trimEnd rest) := by
  rw [readLine_eq]
  split
  next close =>
    have is_value := Columns.isColumn_left columns
    rw [Columns.ofLine_fieldLine_close label close columns, Option.elim_some,
      readLeft_fieldLine header number label spaces is_value.first is_value.last]
  next wide =>
    have alone : fieldLine label 0 [] = label.text.toList := List.append_nil _
    rw [Columns.ofLine_fieldLine_wide label (Nat.le_of_not_lt wide) columns, Option.elim_some,
      Option.elim_some, ← alone, readLeft_fieldLine header number label 0 (by simp) (by simp)]

/-- What the line of a field adds to the fields of the left column. -/
theorem leftFields_readLine_fieldLine (label : FieldLabel) (spaces : Nat)
    (columns : Columns.ofLine rest = ⟨some value, right⟩) :
    (header.readLine number (fieldLine label spaces rest)).leftFields =
      (header.readField number (if spaces < 2 then value else []) label).leftFields := by
  rw [readLine_fieldLine header number label spaces columns]
  split
  · cases right with
    | none => rfl
    | some right => exact leftFields_readRight _ number right
  · exact leftFields_readRight _ number (Text.trimEnd rest)

end Header

/-! ## Spaces that are read alike -/

/-- Whether a label is read with a value. That of a number is read if the value begins with a
digit. -/
def FieldLabel.Takes (label : FieldLabel) (value : List Char) : Prop :=
  label = .rfcNumber → ∃ digit others, value = digit :: others ∧ Text.isDecimalDigit digit = true

/-- A number is that of the digits. -/
theorem Header.rfcNumber_readField {digit : Char} (is_digit : Text.isDecimalDigit digit = true)
    (others : List Char) (header : Header) (number : Nat) :
    (header.readField number (digit :: others) .rfcNumber).rfcNumber =
      Text.readUnsigned32? ((digit :: others).takeWhile Text.isDecimalDigit) := by
  have some_digit : ((digit :: others).takeWhile Text.isDecimalDigit).isEmpty = false := by
    rw [List.takeWhile_cons, is_digit]
    rfl
  rw [Header.readField, some_digit]
  rfl

/-- An expiry with a value is not the one without. -/
theorem Expiry.readField_ne (is_value : IsColumn value) (expiry : Expiry) (number : Nat) :
    expiry.readField number value ≠ expiry.readField number [] := by
  intro same
  have nothing : expiry.readField number [] = ⟨none, some number, some (String.ofList [])⟩ := rfl
  rw [nothing, Expiry.readField, Text.trim_eq_self is_value.first is_value.last] at same
  cases is_date : Date.ofFrontMatter? value with
  | some d =>
    rw [is_date] at same
    exact Option.some_ne_none d (congrArg Expiry.date same)
  | none =>
    rw [is_date] at same
    have same_text := Option.some.inj (congrArg Expiry.text same)
    exact is_value.ne_nil (String.ofList_injective same_text)

/-- Behind some header, a value that is read makes a difference. -/
theorem exists_leftFields_ne (is_value : IsColumn value) (takes : label.Takes value) :
    ∃ block, ((Header.ofBlock 1 block).readField (1 + block.length) value label).leftFields ≠
      ((Header.ofBlock 1 block).readField (1 + block.length) [] label).leftFields := by
  have differ : String.ofList value ≠ String.ofList [] :=
    fun same => is_value.ne_nil (String.ofList_injective same)
  cases label with
  | rfcNumber =>
    obtain ⟨digit, others, rfl, is_digit⟩ := takes rfl
    have with_value := Header.rfcNumber_readField is_digit others
    -- A number that cannot be read takes away the one that is known, so there has to be one.
    cases read : Text.readUnsigned32? ((digit :: others).takeWhile Text.isDecimalDigit) with
    | some k =>
      refine ⟨[], fun same => ?_⟩
      have same_number := (with_value _ _).symm.trans (congrArg Prod.fst same)
      rw [read] at same_number
      exact Option.some_ne_none k same_number
    | none =>
      have known : (Header.ofBlock 1 ["Request for Comments: 1".toList]).rfcNumber = some 1 := by
        decide +kernel
      refine ⟨["Request for Comments: 1".toList], fun same => ?_⟩
      have same_number := (with_value _ _).symm.trans (congrArg Prod.fst same)
      rw [read] at same_number
      exact Option.some_ne_none 1 (same_number.trans known).symm
  | intendedStatus =>
    exact ⟨[], fun same => differ (Option.some.inj (congrArg (fun fields => fields.2.1) same))⟩
  | category =>
    exact ⟨[], fun same => differ (Option.some.inj (congrArg (fun fields => fields.2.1) same))⟩
  | expires =>
    exact ⟨[], fun same => Expiry.readField_ne is_value Expiry.unknown 1
      (congrArg (fun fields => fields.2.2) same)⟩

/-- A field of the header is read alike with two numbers of spaces behind its label, if both are
below two or neither is. No other two numbers are read alike in every header, as long as the label is
read with the value: with fewer than two spaces it is, and the right column by itself, with two or
more it is read without a value, and everything behind the spaces as a right column. -/
theorem field_spacing_iff (label : FieldLabel) (n m : Nat)
    (columns : Columns.ofLine rest = ⟨some value, right⟩) :
    (∀ (header : Header) (number spaces : Nat),
      header.readLine number (fieldLine label spaces rest) =
        if spaces < 2 then
          right.elim (header.readField number value label)
            ((header.readField number value label).readRight number)
        else (header.readField number [] label).readRight number (Text.trimEnd rest)) ∧
    ((n < 2 ↔ m < 2) → ∀ number before after,
      Header.ofBlock number (before ++ fieldLine label n rest :: after) =
        Header.ofBlock number (before ++ fieldLine label m rest :: after)) ∧
    (label.Takes value →
      (∀ number before after,
        Header.ofBlock number (before ++ fieldLine label n rest :: after) =
          Header.ofBlock number (before ++ fieldLine label m rest :: after)) →
      (n < 2 ↔ m < 2)) := by
  refine ⟨fun header number spaces => header.readLine_fieldLine number label spaces columns, ?_, ?_⟩
  · intro same_side number before after
    rw [Header.ofBlock_append_cons, Header.ofBlock_append_cons,
      Header.readLine_fieldLine _ _ label n columns, Header.readLine_fieldLine _ _ label m columns]
    simp only [same_side]
  · intro takes alike
    obtain ⟨block, differ⟩ := exists_leftFields_ne (Columns.isColumn_left columns) takes
    have same := congrArg Header.leftFields (alike 1 block [])
    rw [Header.ofBlock_append_cons, Header.ofBlock_append_cons, Header.readLines_nil,
      Header.readLines_nil, Header.leftFields_readLine_fieldLine _ _ label n columns,
      Header.leftFields_readLine_fieldLine _ _ label m columns] at same
    by_cases n_close : n < 2 <;> by_cases m_close : m < 2
    · exact iff_of_true n_close m_close
    · rw [if_pos n_close, if_neg m_close] at same
      exact absurd same differ
    · rw [if_neg n_close, if_pos m_close] at same
      exact absurd same.symm differ
    · exact iff_of_false n_close m_close

/-- What stands behind the label of an expiry, with an author in the right column. -/
def expiryRest : List Char := "September 2, 2024        J. Smith".toList

/-- An expiry beside an author is read alike with no space behind its label and with one, but not
with two, where it stands in the header without a date. -/
theorem field_spacing_iff_expires :
    Columns.ofLine expiryRest = ⟨some "September 2, 2024".toList, some "J. Smith".toList⟩ ∧
      Header.ofBlock 3 [fieldLine .expires 0 expiryRest] =
        Header.ofBlock 3 [fieldLine .expires 1 expiryRest] ∧
      (Header.ofBlock 3 [fieldLine .expires 1 expiryRest]).expiry =
        ⟨some ⟨2024, 9, 2, by decide⟩, some 3, none⟩ ∧
      (Header.ofBlock 3 [fieldLine .expires 2 expiryRest]).expiry = ⟨none, some 3, some ""⟩ ∧
      ¬ ∀ number before after,
        Header.ofBlock number (before ++ fieldLine .expires 1 expiryRest :: after) =
          Header.ofBlock number (before ++ fieldLine .expires 2 expiryRest :: after) := by
  have columns : Columns.ofLine expiryRest =
      ⟨some "September 2, 2024".toList, some "J. Smith".toList⟩ := by decide +kernel
  obtain ⟨-, alike, -⟩ := field_spacing_iff .expires 0 1 columns
  obtain ⟨read, -, only⟩ := field_spacing_iff .expires 1 2 columns
  refine ⟨columns, alike (by decide) 3 [] [], ?_, ?_, fun all_alike => ?_⟩
  · rw [Header.ofBlock, Header.readLines, read]
    decide +kernel
  · rw [Header.ofBlock, Header.readLines, read]
    decide +kernel
  · exact absurd (only (fun no_number => by cases no_number) all_alike) (by decide)

/-- The number of spaces between a label and its value does make a difference: with two of them an
expiry is taken for the date of the document. -/
theorem not_field_spacing :
    ¬ ∀ (label : FieldLabel) (rest value : List Char) (right : Option (List Char)),
      Columns.ofLine rest = ⟨some value, right⟩ →
        ∀ (n m number : Nat) (before after : List (List Char)),
          Header.ofBlock number (before ++ fieldLine label n rest :: after) =
            Header.ofBlock number (before ++ fieldLine label m rest :: after) := by
  intro alike
  have columns : Columns.ofLine "September 2, 2024".toList =
      ⟨some "September 2, 2024".toList, none⟩ := by decide +kernel
  have same := alike .expires _ _ _ columns 1 2 1 [] []
  have dates : (Header.ofBlock 1 [fieldLine .expires 1 "September 2, 2024".toList]).date = none ∧
      (Header.ofBlock 1 [fieldLine .expires 2 "September 2, 2024".toList]).date =
        some (1, ⟨2024, 9, 2, by decide⟩) := by decide +kernel
  have no_date := dates.2.symm.trans ((congrArg Header.date same).symm.trans dates.1)
  cases no_date

end DraftNits.PlainText
