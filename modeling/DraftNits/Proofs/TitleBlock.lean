import DraftNits.Proofs.Excerpts
import DraftNits.Proofs.HeaderBlock
import DraftNits.Proofs.TextDocumentLines

/-! # What stands in front of the body

The body of a text document starts behind the title block, or where the title would have started if
there is none. Nothing in front of it is lost: a line there is blank, or it is one of the header
block, or it is one of the title block, and then it is a part of the title or holds a draft name.

* `PlainText.IsNextFilled` — the first line from a place on that is not blank, or the end of the
  text.
* `PlainText.HeaderEndsAt` — where the header block ends.
* `PlainText.IsTitleBlock` — the title block in front of the body of a first page.
* `PlainText.FrontPage.exists_titleStart` — where a first page looks for the title.
* `PlainText.FrontPage.skips_nothing` — what stands in front of the body, and where the body starts
  without a title. -/

namespace DraftNits.PlainText

variable {lines : List (List Char)}

/-! ## Blank lines -/

/-- Whether a place is that of the first line from `start` on that is not blank, or the end of the
text if there is no such line. -/
structure IsNextFilled (lines : List (List Char)) (start place : Nat) : Prop where
  /-- The place is not in front of `start`. -/
  start_le : start ≤ place
  /-- The place is not behind the end. -/
  le_length : place ≤ lines.length
  /-- The lines up to the place are blank. -/
  before : ∀ i line, start ≤ i → i < place → lines[i]? = some line → Text.isAllBlank line = true
  /-- The line at the place is not. -/
  filled : ∀ line ∈ lines[place]?, Text.isAllBlank line = false

/-- Blank lines up to one place and from there to the next are blank lines up to this one. -/
theorem IsNextFilled.trans {start middle place : Nat} (first : IsNextFilled lines start middle)
    (second : IsNextFilled lines middle place) : IsNextFilled lines start place where
  start_le := Nat.le_trans first.start_le second.start_le
  le_length := second.le_length
  before := by
    intro i line from_start below at_line
    rcases Nat.lt_or_ge i middle with early | late
    · exact first.before i line from_start early at_line
    · exact second.before i line late below at_line
  filled := second.filled

/-- Behind the blank lines from a place on comes the first line that is not blank. -/
theorem isNextFilled_blankLines {start : Nat} (inside : start ≤ lines.length) :
    IsNextFilled lines start (start + FrontPage.blankLines (lines.drop start)) where
  start_le := Nat.le_add_right _ _
  le_length := by
    have short := (List.takeWhile_prefix (l := lines.drop start) Text.isAllBlank).length_le
    rw [List.length_drop] at short
    rw [FrontPage.blankLines]
    omega
  before := by
    intro i line from_start below at_line
    obtain ⟨rest, split⟩ := List.takeWhile_prefix (l := lines.drop start) Text.isAllBlank
    have early : i - start < ((lines.drop start).takeWhile Text.isAllBlank).length := by
      rw [FrontPage.blankLines] at below
      omega
    have on_drop : (lines.drop start)[i - start]? = some line := by
      rw [List.getElem?_drop, Nat.add_sub_cancel' from_start, at_line]
    rw [← split, List.getElem?_append_left early] at on_drop
    exact List.all_eq_true.1 List.all_takeWhile line (List.mem_of_getElem? on_drop)
  filled := by
    intro line at_place
    rw [← List.getElem?_drop, FrontPage.blankLines, getElem?_length_takeWhile] at at_place
    simpa [Option.mem_def.1 at_place] using
      List.head?_dropWhile_not Text.isAllBlank (lines.drop start)

/-! ## The header block -/

/-- Where the header block of a text ends: behind its last line, or at the start of the text if
there is no such block. -/
inductive HeaderEndsAt (lines : List (List Char)) : Nat → Prop
  /-- Behind the header block. -/
  | behind {start : Nat} {block : List (List Char)} (is_block : IsHeaderBlock lines start block) :
    HeaderEndsAt lines (start + block.length)
  /-- Without a header block. -/
  | none (no_block : ∀ start block, ¬ IsHeaderBlock lines start block) : HeaderEndsAt lines 0

/-- Whether a line is one of the header block, by its place. -/
def IsHeaderLine (lines : List (List Char)) (i : Nat) : Prop :=
  ∃ start block, IsHeaderBlock lines start block ∧ start ≤ i ∧ i < start + block.length

/-- A line that is not blank and in front of where the header block ends is one of it. -/
theorem HeaderEndsAt.isHeaderLine {headerEnd : Nat} (ends : HeaderEndsAt lines headerEnd) {i : Nat}
    {line : List Char} (below : i < headerEnd) (at_line : lines[i]? = some line)
    (filled : Text.isAllBlank line = false) : IsHeaderLine lines i := by
  cases ends with
  | none => exact absurd below (Nat.not_lt_zero i)
  | @behind start block is_block =>
    refine ⟨start, block, is_block, Nat.le_of_not_lt fun early => ?_, below⟩
    have in_front : line ∈ lines.take start :=
      List.mem_of_getElem? (by rw [List.getElem?_take_of_lt early, at_line])
    rw [is_block.before line in_front] at filled
    cases filled

/-- A header block ends inside the text. -/
theorem HeaderEndsAt.le_length {headerEnd : Nat} (ends : HeaderEndsAt lines headerEnd) :
    headerEnd ≤ lines.length := by
  cases ends with
  | none => exact Nat.zero_le _
  | @behind start block is_block =>
    have short := is_block.follows.length_le
    have inside := is_block.start_lt
    rw [List.length_drop] at short
    omega

/-! ## The title block -/

/-- The draft name on a line of the title block. -/
def draftNameOn? (line : List Char) : Option (List Char) := DraftName.find? (Text.trim line)

/-- What the lines of a title block add to the title: their trimmed texts, those of lines with a
draft name left out. -/
def titleTexts (block : List (List Char)) : List (List Char) :=
  (block.filter fun line => (draftNameOn? line).isNone).map Text.trim

/-- The parts of a title are the texts of its lines. -/
theorem TitleBlock.parts_ofLines (number : Nat) (block : List (List Char)) :
    (TitleBlock.ofLines number block).parts = titleTexts block := by
  induction block generalizing number with
  | nil => rfl
  | cons line rest ih =>
    rw [TitleBlock.ofLines, titleTexts, List.filter_cons, draftNameOn?]
    cases DraftName.find? (Text.trim line) with
    | some name => exact ih (number + 1)
    | none => exact congrArg (Text.trim line :: ·) (ih (number + 1))

/-- The title of a block is made of the texts of its lines. -/
theorem TitleBlock.title?_ofLines (number : Nat) (block : List (List Char)) :
    (TitleBlock.ofLines number block).title? =
      if titleTexts block = [] then none else some ([' '].intercalate (titleTexts block)) := by
  simp only [TitleBlock.title?, TitleBlock.parts_ofLines, List.isEmpty_iff]

/-- Where a line has a draft name, the block has the one of that line or of a line behind it. -/
theorem TitleBlock.exists_draftName (number : Nat) {i : Nat} {block : List (List Char)}
    {line name : List Char} (at_line : block[i]? = some line) (is_name : draftNameOn? line = some name) :
    ∃ found, (TitleBlock.ofLines number block).draftName = some found ∧ number + i ≤ found.2 := by
  induction block generalizing number i with
  | nil => cases at_line
  | cons first rest ih =>
    rw [TitleBlock.ofLines]
    cases i with
    | zero =>
      obtain rfl : first = line := Option.some.inj at_line
      rw [show DraftName.find? (Text.trim first) = some name from is_name]
      cases later : (TitleBlock.ofLines (number + 1) rest).draftName with
      | none => exact ⟨(name, number), by simp, Nat.le_refl _⟩
      | some found =>
        obtain ⟨j, _, _, _, place⟩ := TitleBlock.exists_line later
        exact ⟨found, by simp, by omega⟩
    | succ i =>
      obtain ⟨found, is_found, place⟩ := ih (number + 1) at_line
      have behind : number + (i + 1) ≤ found.2 := by omega
      split
      · exact ⟨found, by simp [is_found], behind⟩
      · exact ⟨found, is_found, behind⟩

/-- A title line is indented and not blank. -/
theorem isTitleLine_iff {line : List Char} :
    isTitleLine line = true ↔ Text.isAllBlank line = false ∧ Text.startsBlank line = true := by
  simp [isTitleLine]

/-- Whether a run of lines from `start` on is the title block of a first page: it stands directly in
front of the body, each of its lines is indented, and each of them is a part of the title or holds a
draft name. The page has the draft name of the last line that holds one. -/
structure IsTitleBlock (lines : List (List Char)) (page : FrontPage) (start : Nat)
    (block : List (List Char)) : Prop where
  /-- The lines stand there. -/
  follows : block <+: lines.drop start
  /-- The body starts behind them. -/
  ends : page.bodyStart = start + block.length
  /-- Each of them is indented, and none is blank. -/
  indented : ∀ line ∈ block, Text.isAllBlank line = false ∧ Text.startsBlank line = true
  /-- The lines without a draft name make the title, in order and with single spaces between them.
  -/
  title : page.title =
    if titleTexts block = [] then none else some ([' '].intercalate (titleTexts block))
  /-- The other lines hold a draft name. -/
  named : ∀ i line name, block[i]? = some line → draftNameOn? line = some name →
    name <:+: line ∧ ∃ j last found, i ≤ j ∧ block[j]? = some last ∧ draftNameOn? last = some found ∧
      page.draftName = some (found, start + j + 1)

/-! ## The first page -/

namespace FrontPage

/-- Whether a first page looks for the title from a place on: the title and the draft name are those
of the title lines there, and the body starts behind them, or at the place if they hold no title. -/
structure LooksForTitleAt (lines : List (List Char)) (page : FrontPage) (start : Nat)
    (run : List (List Char)) : Prop where
  /-- The title lines are those that stand there. -/
  run_eq : run = (lines.drop start).takeWhile isTitleLine
  /-- The title is theirs. -/
  title : page.title = (TitleBlock.ofLines (start + 1) run).title?
  /-- A draft name of theirs is that of the page. -/
  draftName : ∀ found ∈ (TitleBlock.ofLines (start + 1) run).draftName, page.draftName = some found
  /-- The body starts behind a title. -/
  bodyStart : page.bodyStart = if titleTexts run = [] then start else start + run.length

/-- A first page looks for the title behind the blank lines that follow the header block, or behind
those at the start of the text. -/
theorem looksForTitleAt_ofLines {headerEnd : Nat} (filled : blankLines lines ≠ lines.length)
    (is_end : (if hasColumns (block (lines.drop (blankLines lines))) = true then
      blankLines lines + (block (lines.drop (blankLines lines))).length else blankLines lines) =
        headerEnd) :
    ∃ run, LooksForTitleAt lines (ofLines lines) (headerEnd + blankLines (lines.drop headerEnd))
      run := by
  unfold ofLines
  dsimp only
  rw [if_neg filled, is_end]
  generalize headerEnd + blankLines (lines.drop headerEnd) = start
  refine ⟨_, rfl, rfl, ?_, ?_⟩ <;> generalize (lines.drop start).takeWhile isTitleLine = run
  · intro found is_found
    rw [Option.mem_def.1 is_found]
    rfl
  · rw [TitleBlock.parts_ofLines]
    simp only [List.isEmpty_iff]

/-- A first page looks for the title from the first line on that is not blank and behind the header
block. -/
theorem exists_looksForTitleAt (lines : List (List Char)) :
    ∃ headerEnd start run, HeaderEndsAt lines headerEnd ∧ IsNextFilled lines headerEnd start ∧
      LooksForTitleAt lines (ofLines lines) start run := by
  have first_filled : IsNextFilled lines 0 (blankLines lines) := by
    have next := isNextFilled_blankLines (Nat.zero_le lines.length)
    rwa [List.drop_zero, Nat.zero_add] at next
  by_cases all_blank : blankLines lines = lines.length
  · -- Without any line there is no header block, and the title would start at the end.
    have no_block : ∀ start block, ¬ IsHeaderBlock lines start block := fun start block is_block =>
      Nat.lt_irrefl _ (all_blank ▸ is_block.blankLines_eq ▸ is_block.start_lt)
    refine ⟨0, lines.length, [], .none no_block, all_blank ▸ first_filled, ?_⟩
    unfold ofLines
    dsimp only
    rw [if_pos all_blank]
    exact ⟨by rw [List.drop_length]; rfl, rfl, nofun, rfl⟩
  by_cases found : hasColumns (block (lines.drop (blankLines lines))) = true
  · have ends := HeaderEndsAt.behind (isHeaderBlock found)
    obtain ⟨run, looks⟩ := looksForTitleAt_ofLines all_blank (if_pos found)
    exact ⟨_, _, run, ends, isNextFilled_blankLines ends.le_length, looks⟩
  · have no_block : ∀ start block, ¬ IsHeaderBlock lines start block := by
      intro start run is_block
      apply found
      rw [is_block.blankLines_eq, is_block.block_eq]
      exact List.any_eq_true.2 is_block.columns
    have next := isNextFilled_blankLines first_filled.le_length
    obtain ⟨run, looks⟩ := looksForTitleAt_ofLines all_blank (if_neg found)
    exact ⟨0, _, run, .none no_block, first_filled.trans next, looks⟩

/-- The title lines that a page looks at are its title block, if they hold a title. -/
theorem LooksForTitleAt.isTitleBlock {page : FrontPage} {start : Nat} {run : List (List Char)}
    (looks : LooksForTitleAt lines page start run) (some_text : titleTexts run ≠ []) :
    IsTitleBlock lines page start run where
  follows := looks.run_eq ▸ List.takeWhile_prefix _
  ends := by rw [looks.bodyStart, if_neg some_text]
  indented := by
    intro line mem
    rw [looks.run_eq] at mem
    exact isTitleLine_iff.1 (List.all_eq_true.1 List.all_takeWhile line mem)
  title := looks.title.trans (TitleBlock.title?_ofLines _ run)
  named := by
    intro i line name at_line is_name
    refine ⟨(DraftName.find?_isInfix is_name).trans (Text.trim_isInfix line), ?_⟩
    obtain ⟨⟨found, number⟩, is_found, behind⟩ :=
      TitleBlock.exists_draftName (start + 1) at_line is_name
    obtain ⟨j, last, at_last, is_last, rfl⟩ := TitleBlock.exists_line is_found
    refine ⟨j, last, found, by omega, at_last, is_last, ?_⟩
    rw [looks.draftName _ is_found, Nat.add_right_comm]

/-- Without a title there is no title block: it is empty. -/
theorem LooksForTitleAt.isTitleBlock_nil {page : FrontPage} {start : Nat} {run : List (List Char)}
    (looks : LooksForTitleAt lines page start run) (no_text : titleTexts run = []) :
    IsTitleBlock lines page start [] where
  follows := List.nil_prefix
  ends := by rw [looks.bodyStart, if_pos no_text, List.length_nil, Nat.add_zero]
  indented := List.forall_mem_nil _
  title := by rw [looks.title, TitleBlock.title?_ofLines, if_pos no_text]; rfl
  named := nofun

/-- The body starts inside the text or at its end. In front of it stand blank lines, the lines of
the header block, and directly in front of it the title block, whose lines make the title or hold a
draft name. Without a title the body starts at the first line that is not blank and behind the
header block, or at the end if there is none. -/
theorem skips_nothing (lines : List (List Char)) :
    (ofLines lines).bodyStart ≤ lines.length ∧
    (∃ start block, IsTitleBlock lines (ofLines lines) start block ∧
      ∀ i line, i < (ofLines lines).bodyStart → lines[i]? = some line →
        Text.isAllBlank line = false →
        IsHeaderLine lines i ∨ start ≤ i ∧ block[i - start]? = some line) ∧
    ((ofLines lines).title = none → ∃ headerEnd, HeaderEndsAt lines headerEnd ∧
      IsNextFilled lines headerEnd (ofLines lines).bodyStart) := by
  obtain ⟨headerEnd, start, run, ends, next, looks⟩ := exists_looksForTitleAt lines
  -- A line in front of where the title is looked for is blank or one of the header block.
  have in_header : ∀ i line, i < start → lines[i]? = some line → Text.isAllBlank line = false →
      IsHeaderLine lines i := by
    intro i line below at_line filled
    refine ends.isHeaderLine (Nat.lt_of_not_le fun behind => ?_) at_line filled
    rw [next.before i line behind below at_line] at filled
    cases filled
  by_cases no_text : titleTexts run = []
  · have body : (ofLines lines).bodyStart = start := by rw [looks.bodyStart, if_pos no_text]
    refine ⟨body ▸ next.le_length, ⟨start, [], looks.isTitleBlock_nil no_text, ?_⟩,
      fun _ => ⟨headerEnd, ends, body ▸ next⟩⟩
    intro i line below at_line filled
    exact .inl (in_header i line (body ▸ below) at_line filled)
  · have is_block := looks.isTitleBlock no_text
    have short := is_block.follows.length_le
    have inside := next.le_length
    rw [List.length_drop] at short
    refine ⟨by rw [is_block.ends]; omega, ⟨start, run, is_block, ?_⟩, fun no_title => ?_⟩
    · intro i line below at_line filled
      rcases Nat.lt_or_ge i start with early | late
      · exact .inl (in_header i line early at_line filled)
      · refine .inr ⟨late, ?_⟩
        obtain ⟨rest, split⟩ := is_block.follows
        have in_run : i - start < run.length := by rw [is_block.ends] at below; omega
        have in_text : (run ++ rest)[i - start]? = run[i - start]? := List.getElem?_append_left in_run
        rw [← in_text, split, List.getElem?_drop, Nat.add_sub_cancel' late, at_line]
    · rw [is_block.title, if_neg no_text] at no_title
      cases no_title

end FrontPage

end DraftNits.PlainText
