import DraftNits.PlainText.Document
import DraftNits.Proofs.JsonParts

/-! # The header block

The header of a first page is read from the first run of lines that are not blank, provided that one
of them has a right column. Each line of the block changes the header by itself: a number, a status
or an expiry by its left column, a date or an author by its right one.

* `PlainText.IsHeaderBlock` — the header block of a text, said without a search.
* `PlainText.IsHeaderBlock.page` — what the first page has from its header block.
* `PlainText.FrontPage.exists_isHeaderBlock_or` — where there is no such block, the header is empty.
* `PlainText.Header.rfcNumber_readLine`, `PlainText.Header.expiry_readLine`,
  `PlainText.Header.date_readLine` — what one line changes. -/

namespace DraftNits.PlainText

/-! ## The block -/

/-- Whether a run of lines is the header block of a text, which starts behind `start` lines. -/
structure IsHeaderBlock (lines : List (List Char)) (start : Nat) (block : List (List Char)) :
    Prop where
  /-- Only blank lines stand in front of it. -/
  before : ∀ cs ∈ lines.take start, Text.isAllBlank cs = true
  /-- Its lines come next. -/
  follows : block <+: lines.drop start
  /-- None of them is blank. -/
  filled : ∀ cs ∈ block, Text.isAllBlank cs = false
  /-- A blank line or the end of the text stands behind it. -/
  ends : ∀ cs ∈ (lines.drop start)[block.length]?, Text.isAllBlank cs = true
  /-- One of its lines has a right column. -/
  columns : ∃ cs ∈ block, (Columns.ofLine cs).right.isSome = true

namespace IsHeaderBlock

variable {lines block : List (List Char)} {start : Nat}

/-- The block has lines. -/
theorem exists_cons (is_block : IsHeaderBlock lines start block) :
    ∃ cs rest others, block = cs :: rest ∧ lines.drop start = cs :: others := by
  obtain ⟨found, mem, -⟩ := is_block.columns
  obtain ⟨cs, rest, rfl⟩ := List.exists_cons_of_ne_nil (List.ne_nil_of_mem mem)
  obtain ⟨others, is_rest⟩ := is_block.follows
  exact ⟨cs, rest, rest ++ others, rfl, is_rest.symm⟩

/-- The block starts inside the text. -/
theorem start_lt (is_block : IsHeaderBlock lines start block) : start < lines.length := by
  obtain ⟨cs, _, others, -, is_drop⟩ := is_block.exists_cons
  have some_line := congrArg List.length is_drop
  rw [List.length_drop, List.length_cons] at some_line
  omega

/-- The blank lines at the start are those in front of the block. -/
theorem blankLines_eq (is_block : IsHeaderBlock lines start block) :
    FrontPage.blankLines lines = start := by
  have stop : ∀ cs ∈ (lines.drop start).head?, Text.isAllBlank cs = false := by
    obtain ⟨cs, rest, others, rfl, is_drop⟩ := is_block.exists_cons
    rw [is_drop]
    rintro _ ⟨⟩
    exact is_block.filled cs List.mem_cons_self
  have taken : lines.takeWhile Text.isAllBlank = lines.take start := by
    conv_lhs => rw [← List.take_append_drop start lines]
    exact Json.takeWhile_append is_block.before stop
  rw [FrontPage.blankLines, taken, List.length_take]
  exact Nat.min_eq_left (Nat.le_of_lt is_block.start_lt)

/-- The block is the run of lines up to a blank one. -/
theorem block_eq (is_block : IsHeaderBlock lines start block) :
    FrontPage.block (lines.drop start) = block := by
  obtain ⟨rest, is_rest⟩ := is_block.follows
  have ends := is_block.ends
  rw [← is_rest, List.getElem?_append_right (Nat.le_refl _), Nat.sub_self,
    ← List.head?_eq_getElem?] at ends
  rw [FrontPage.block, ← is_rest]
  refine Json.takeWhile_append (fun cs mem => ?_) (fun cs first => ?_)
  · rw [is_block.filled cs mem]
    rfl
  · rw [ends cs first]
    rfl

/-- A text has one header block. -/
theorem unique (is_block : IsHeaderBlock lines start block) {other_start : Nat}
    {other : List (List Char)} (also : IsHeaderBlock lines other_start other) :
    other_start = start ∧ other = block := by
  have same_start := also.blankLines_eq.symm.trans is_block.blankLines_eq
  exact ⟨same_start, also.block_eq.symm.trans (same_start ▸ is_block.block_eq)⟩

/-- The header of the first page is that of the block, and what is missing is missing in it. -/
theorem page (is_block : IsHeaderBlock lines start block) :
    (FrontPage.ofLines lines).header = Header.ofBlock (start + 1) block ∧
      (FrontPage.ofLines lines).diagnostics = FrontPage.headerDiagnostics (start + 1) lines.length
        true (Header.ofBlock (start + 1) block) := by
  have found : FrontPage.hasColumns block = true := List.any_eq_true.2 is_block.columns
  unfold FrontPage.ofLines
  dsimp only
  rw [is_block.blankLines_eq, if_neg (Nat.ne_of_lt is_block.start_lt), is_block.block_eq, found]
  exact ⟨rfl, rfl⟩

end IsHeaderBlock

/-- Behind the longest run of items in a class stands the first one that is not in it. -/
theorem getElem?_length_takeWhile {α : Type} (p : α → Bool) (items : List α) :
    items[(items.takeWhile p).length]? = (items.dropWhile p).head? := by
  induction items with
  | nil => rfl
  | cons item items ih =>
    rw [List.takeWhile_cons, List.dropWhile_cons]
    split
    · exact ih
    · rfl

/-- The first run of lines that are not blank is the header block if a line of it has a right
column. -/
theorem FrontPage.isHeaderBlock {lines : List (List Char)}
    (found : hasColumns (block (lines.drop (blankLines lines))) = true) :
    IsHeaderBlock lines (blankLines lines) (block (lines.drop (blankLines lines))) where
  before := by
    rw [blankLines, ← List.prefix_iff_eq_take.1 (List.takeWhile_prefix _)]
    exact List.all_eq_true.1 List.all_takeWhile
  follows := List.takeWhile_prefix _
  filled := by
    intro cs mem
    simpa using List.all_eq_true.1 List.all_takeWhile cs mem
  ends := by
    intro cs at_end
    rw [block, getElem?_length_takeWhile] at at_end
    simpa [Option.mem_def.1 at_end] using
      List.head?_dropWhile_not (fun cs => !Text.isAllBlank cs) (lines.drop (blankLines lines))
  columns := List.any_eq_true.1 found

/-- Without a header block the header is empty. -/
theorem FrontPage.exists_isHeaderBlock_or (lines : List (List Char)) :
    (∃ start block, IsHeaderBlock lines start block) ∨
      (FrontPage.ofLines lines).header = Header.empty := by
  by_cases found : hasColumns (block (lines.drop (blankLines lines))) = true
  · exact .inl ⟨_, _, isHeaderBlock found⟩
  · right
    unfold FrontPage.ofLines
    dsimp only
    split <;> rfl

/-! ## Lines of the block -/

namespace Header

/-- The value of an expiry in the left column of a line. -/
def expiryValue? (cs : List Char) : Option (List Char) :=
  (Columns.ofLine cs).left.bind (Text.afterStart? "Expires:".toList)

/-- The digits of an RFC number in the left column of a line. -/
def rfcDigitsOn? (cs : List Char) : Option (List Char) := (Columns.ofLine cs).left.bind rfcDigits?

/-- The date in the right column of a line. -/
def dateOn? (cs : List Char) : Option Date := (Columns.ofLine cs).right.bind Date.ofFrontMatter?

variable (header : Header) (number : Nat)

/-- A line is read by its left column first and then by its right one. -/
theorem readLine_eq (cs : List Char) :
    header.readLine number cs =
      (Columns.ofLine cs).right.elim ((Columns.ofLine cs).left.elim header (header.readLeft number))
        (((Columns.ofLine cs).left.elim header (header.readLeft number)).readRight number) := by
  dsimp only [readLine]
  cases (Columns.ofLine cs).left <;> cases (Columns.ofLine cs).right <;> rfl

/-- A right column says nothing of the number and the expiry. -/
theorem fields_readRight (right : List Char) :
    (header.readRight number right).rfcNumber = header.rfcNumber ∧
      (header.readRight number right).expiry = header.expiry := by
  unfold readRight
  split
  · exact ⟨rfl, rfl⟩
  · split <;> exact ⟨rfl, rfl⟩

/-- A left column says nothing of the date. -/
theorem date_readLeft (left : List Char) : (header.readLeft number left).date = header.date := by
  unfold readLeft
  split
  · rfl
  split
  · rfl
  split <;> rfl

/-- A left column gives the number that it states. -/
theorem rfcNumber_readLeft (left : List Char) :
    (header.readLeft number left).rfcNumber =
      (rfcDigits? left).elim header.rfcNumber Text.readUnsigned32? := by
  unfold readLeft
  split
  next found => rw [found]; rfl
  next not_found =>
    rw [not_found]
    split
    · rfl
    split <;> rfl

/-- A left column gives the expiry that it states. No other label begins as that of an expiry. -/
theorem expiry_readLeft (left : List Char) :
    (header.readLeft number left).expiry =
      (Text.afterStart? "Expires:".toList left).elim header.expiry
        (header.expiry.readField number) := by
  have other_label : ∀ {value}, Text.afterStart? "Expires:".toList left = some value →
      rfcDigits? left = none ∧ status? left = none := by
    intro value found
    rw [Text.eq_append_of_afterStart? found]
    exact ⟨rfl, rfl⟩
  unfold readLeft
  cases found : Text.afterStart? "Expires:".toList left with
  | some value =>
    obtain ⟨no_number, no_status⟩ := other_label found
    rw [no_number, no_status]
    rfl
  | none =>
    split
    · rfl
    split <;> rfl

/-- A field that a right column says nothing of is read from the left one. -/
theorem field_readLine {α β : Type} {field : Header → α} {found? : List Char → Option β}
    {value : β → α}
    (of_right : ∀ before right, field (readRight before number right) = field before)
    (of_left : ∀ left, field (header.readLeft number left) = (found? left).elim (field header) value)
    (cs : List Char) :
    field (header.readLine number cs) =
      ((Columns.ofLine cs).left.bind found?).elim (field header) value := by
  have from_left : field ((Columns.ofLine cs).left.elim header (header.readLeft number)) =
      ((Columns.ofLine cs).left.bind found?).elim (field header) value := by
    cases (Columns.ofLine cs).left with
    | none => rfl
    | some left => exact of_left left
  rw [readLine_eq, ← from_left]
  cases (Columns.ofLine cs).right with
  | none => rfl
  | some right => exact of_right _ right

/-- A line gives the number that its left column states. -/
theorem rfcNumber_readLine (cs : List Char) :
    (header.readLine number cs).rfcNumber =
      (rfcDigitsOn? cs).elim header.rfcNumber Text.readUnsigned32? :=
  header.field_readLine number (fun before right => (fields_readRight before number right).1)
    (rfcNumber_readLeft header number) cs

/-- A line gives the expiry that its left column states. -/
theorem expiry_readLine (cs : List Char) :
    (header.readLine number cs).expiry =
      (expiryValue? cs).elim header.expiry (header.expiry.readField number) :=
  header.field_readLine number (fun before right => (fields_readRight before number right).2)
    (expiry_readLeft header number) cs

/-- A line gives the date in its right column. -/
theorem date_readLine (cs : List Char) :
    (header.readLine number cs).date =
      (dateOn? cs).elim header.date fun d => some (number, d) := by
  have of_left : ((Columns.ofLine cs).left.elim header (header.readLeft number)).date =
      header.date := by
    cases (Columns.ofLine cs).left with
    | none => rfl
    | some left => exact date_readLeft header number left
  rw [readLine_eq, dateOn?]
  cases (Columns.ofLine cs).right with
  | none => exact of_left
  | some right =>
    rw [← of_left, Option.elim_some, Option.bind_some, readRight]
    cases Date.ofFrontMatter? right with
    | some d => rfl
    | none =>
      dsimp only [Option.elim_none]
      split <;> rfl

end Header

end DraftNits.PlainText
