import DraftNits.Proofs.RuleRuns
import DraftNits.Rules.Layout
import Mathlib.Data.List.Basic

/-! # The pages of a text

The lines of a text are divided into pages at its form feeds. A line that holds nothing else belongs
to no page, and any other line with a form feed is the first of one. So the pages are runs of lines
that follow each other without a gap but for such lines, and no line is on two of them.

* `Rules.Page.numbers`, `Rules.IsBreakLine` — the lines of a page, and the lines of none.
* `Rules.Continues` — what holds of the page that goes on while the lines are gone through.
* `Rules.flatMap_numbers_pagesFrom` — the pages list the lines, one step after the other.
* `Rules.sharePage_pagesFrom_iff` — which lines that follow each other are on one page.
* `Rules.pages_partition` — both for all the pages of a document. -/

namespace DraftNits.Rules

/-- The numbers of the lines on a page. -/
def Page.numbers (page : Page) : List Nat := List.range' page.start page.length

/-- Whether a line holds a form feed and nothing but white space, of which a form feed is a part. -/
def IsBreakLine (line : String) : Prop :=
  '\x0c' ∈ line.toList ∧ ∀ c ∈ line.toList, Text.isBlank c = true

instance (line : String) : Decidable (IsBreakLine line) :=
  decidable_of_iff ('\x0c' ∈ line.toList ∧ line.toList.all Text.isBlank = true)
    (and_congr_right fun _ => List.all_eq_true)

/-- Whether a line and the next one are on one of some pages. -/
def SharePage (pages : List Page) (n : Nat) : Prop :=
  ∃ page ∈ pages, n ∈ page.numbers ∧ n + 1 ∈ page.numbers

/-- The numbers of the lines that belong to a page; the first line has the given number. -/
def pageLinesFrom (number : Nat) : List String → List Nat
  | [] => []
  | line :: rest =>
    (if IsBreakLine line then [] else [number]) ++ pageLinesFrom (number + 1) rest

variable {lineCount number : Nat} {current : Page} {line : String} {lines rest : List String}

/-- A line is on a page if it is not in front of the first and not behind the last of it. -/
theorem mem_numbers {page : Page} {n : Nat} :
    n ∈ page.numbers ↔ page.start ≤ n ∧ n < page.start + page.length :=
  List.mem_range'_1

/-- A page without lines lists none. -/
theorem numbers_empty (start : Nat) : (Page.mk start 0).numbers = [] := rfl

/-- A line more is listed at the end of a page. -/
theorem numbers_extend (page : Page) :
    Page.numbers { page with length := page.length + 1 } =
      page.numbers ++ [page.start + page.length] := by
  rw [Page.numbers, List.range'_concat, Nat.one_mul]
  rfl

/-! ## The page that goes on -/

/-- Whether a page goes on at a line: where there are lines left, or lines on it, it ends in front
of that line. -/
structure Continues (lineCount number : Nat) (current : Page) (lines : List String) : Prop where
  /-- The lines that are left are the last of the text. -/
  left : number + lines.length = lineCount + 1
  /-- The page starts in the text. -/
  start : current.start ≤ number
  /-- It ends in front of the line. -/
  reaches : lines ≠ [] ∨ 0 < current.length → current.start + current.length = number

namespace Continues

/-- In front of the first line the first page starts. -/
theorem first (lines : List String) : Continues lines.length 1 ⟨1, 0⟩ lines :=
  ⟨Nat.add_comm .., Nat.le_refl 1, fun _ => rfl⟩

/-- A line without a form feed is added to the page. -/
theorem add (goes_on : Continues lineCount number current (line :: rest)) :
    Continues lineCount (number + 1) { current with length := current.length + 1 } rest := by
  obtain ⟨left, start, reaches⟩ := goes_on
  have here := reaches (.inl (List.cons_ne_nil _ _))
  rw [List.length_cons] at left
  exact ⟨by omega, Nat.le_succ_of_le start, fun _ => by dsimp only; omega⟩

/-- Behind a line with a form feed another page goes on. -/
theorem turn (goes_on : Continues lineCount number current (line :: rest)) :
    Continues lineCount (number + 1) (pageAfterBreak lineCount number line) rest ∧
      number ≤ (pageAfterBreak lineCount number line).start := by
  obtain ⟨left, -, -⟩ := goes_on
  rw [List.length_cons] at left
  unfold pageAfterBreak
  split
  · refine ⟨⟨by omega, Nat.min_le_left _ _, ?_⟩, by dsimp only; omega⟩
    -- The start is moved back only behind the last line, where this page stays without lines.
    rintro (more | no_length)
    · have some_line := List.length_pos_iff.2 more
      show min (number + 1) lineCount + 0 = number + 1
      omega
    · exact absurd no_length (Nat.lt_irrefl 0)
  · exact ⟨⟨by omega, Nat.le_succ number, fun _ => rfl⟩, Nat.le_refl number⟩

end Continues

/-- The first line that is left is added to the page that goes on, or turns it. -/
theorem pagesFrom_cons : pagesFrom lineCount number current (line :: rest) =
    if '\x0c' ∈ line.toList then
      current :: pagesFrom lineCount (number + 1) (pageAfterBreak lineCount number line) rest
    else
      pagesFrom lineCount (number + 1) { current with length := current.length + 1 } rest := by
  simp [pagesFrom, formFeed]

/-- A line with a form feed is the first of the next page unless it holds nothing else. -/
theorem pageAfterBreak_cases (is_break : '\x0c' ∈ line.toList) :
    IsBreakLine line ∧ pageAfterBreak lineCount number line = ⟨min (number + 1) lineCount, 0⟩ ∨
      ¬ IsBreakLine line ∧ pageAfterBreak lineCount number line = ⟨number, 1⟩ := by
  unfold pageAfterBreak
  split
  next blank => exact .inl ⟨⟨is_break, List.all_eq_true.1 blank⟩, rfl⟩
  next filled => exact .inr ⟨fun alone => filled (List.all_eq_true.2 alone.2), rfl⟩

/-! ## All lines -/

/-- The pages list the lines of the page that goes on and then those that are left. -/
theorem flatMap_numbers_pagesFrom (goes_on : Continues lineCount number current lines) :
    (pagesFrom lineCount number current lines).flatMap Page.numbers =
      current.numbers ++ pageLinesFrom number lines := by
  -- By induction on the lines that are left, with the page that goes on.
  induction lines generalizing number current with
  | nil => simp [pagesFrom, pageLinesFrom]
  | cons line rest ih =>
    rw [pagesFrom_cons, pageLinesFrom]
    split
    next is_break =>
      rw [List.flatMap_cons, ih goes_on.turn.1]
      rcases pageAfterBreak_cases is_break with ⟨alone, is_page⟩ | ⟨not_alone, is_page⟩
      · rw [is_page, if_pos alone]
        rfl
      · rw [is_page, if_neg not_alone]
        rfl
    next no_break =>
      have no_break_line : ¬ IsBreakLine line := fun break_line => no_break break_line.1
      have here := goes_on.reaches (.inl (List.cons_ne_nil _ _))
      rw [ih goes_on.add, numbers_extend, here, if_neg no_break_line, List.append_assoc]

/-- No page starts in front of the one that goes on. -/
theorem start_le_of_mem_pagesFrom (goes_on : Continues lineCount number current lines) :
    ∀ page ∈ pagesFrom lineCount number current lines, current.start ≤ page.start := by
  induction lines generalizing number current with
  | nil => simp [pagesFrom]
  | cons line rest ih =>
    rw [pagesFrom_cons]
    split
    · refine List.forall_mem_cons.2 ⟨Nat.le_refl _, fun page mem => ?_⟩
      exact Nat.le_trans (Nat.le_trans goes_on.start goes_on.turn.2) (ih goes_on.turn.1 page mem)
    · exact ih goes_on.add

/-- The page that goes on is one of the pages, perhaps with more lines. -/
theorem exists_extended (lineCount number : Nat) (current : Page) (lines : List String) :
    ∃ page ∈ pagesFrom lineCount number current lines,
      page.start = current.start ∧ current.length ≤ page.length := by
  induction lines generalizing number current with
  | nil => exact ⟨current, List.mem_singleton_self _, rfl, Nat.le_refl _⟩
  | cons line rest ih =>
    rw [pagesFrom_cons]
    split
    · exact ⟨current, List.mem_cons_self, rfl, Nat.le_refl _⟩
    · obtain ⟨page, mem, same_start, longer⟩ :=
        ih (number + 1) { current with length := current.length + 1 }
      exact ⟨page, mem, same_start, Nat.le_of_succ_le longer⟩

/-! ## Lines on one page -/

/-- A page that is turned at a line or in front of it does not have that line. -/
theorem sharePage_cons_iff {n : Nat} {pages : List Page}
    (goes_on : Continues lineCount number current (line :: rest)) (behind : number ≤ n + 1) :
    SharePage (current :: pages) n ↔ SharePage pages n := by
  have here := goes_on.reaches (.inl (List.cons_ne_nil _ _))
  have not_current : ¬ n + 1 ∈ current.numbers := by
    rw [mem_numbers]
    omega
  simp [SharePage, not_current]

/-- The next line is on one page with the line in front of it exactly if it has no form feed and the
page that goes on has lines. -/
theorem sharePage_next_iff {n : Nat}
    (goes_on : Continues lineCount (n + 1) current (line :: rest)) :
    SharePage (pagesFrom lineCount (n + 1) current (line :: rest)) n ↔
      0 < current.length ∧ '\x0c' ∉ line.toList := by
  have here := goes_on.reaches (.inl (List.cons_ne_nil _ _))
  rw [pagesFrom_cons]
  split
  next is_break =>
    rw [sharePage_cons_iff goes_on (Nat.le_refl _)]
    refine iff_of_false ?_ fun both => both.2 is_break
    -- All later pages start at this line or behind it.
    rintro ⟨page, mem, on_page, -⟩
    have later := start_le_of_mem_pagesFrom goes_on.turn.1 page mem
    have from_here := goes_on.turn.2
    rw [mem_numbers] at on_page
    omega
  next no_break =>
    rw [and_iff_left no_break]
    constructor
    · rintro ⟨page, mem, on_page, -⟩
      have later : current.start ≤ page.start := start_le_of_mem_pagesFrom goes_on.add page mem
      rw [mem_numbers] at on_page
      omega
    · intro some_line
      obtain ⟨page, mem, same_start, longer⟩ := exists_extended lineCount (n + 1 + 1)
        { current with length := current.length + 1 } rest
      dsimp only at same_start longer
      refine ⟨page, mem, ?_, ?_⟩ <;> rw [mem_numbers] <;> omega

/-- Two lines that follow each other are on one page exactly if the first is on a page and the
second has no form feed. -/
theorem sharePage_pagesFrom_iff {before after : List String} {first second : String}
    (goes_on : Continues lineCount number current (before ++ first :: second :: after)) :
    SharePage (pagesFrom lineCount number current (before ++ first :: second :: after))
        (number + before.length) ↔
      ¬ IsBreakLine first ∧ '\x0c' ∉ second.toList := by
  induction before generalizing number current with
  | nil =>
    rw [List.nil_append] at goes_on ⊢
    rw [List.length_nil, Nat.add_zero, pagesFrom_cons]
    split
    next is_break =>
      rw [sharePage_cons_iff goes_on (Nat.le_succ number), sharePage_next_iff goes_on.turn.1]
      refine and_congr_left fun _ => ?_
      rcases pageAfterBreak_cases is_break with ⟨alone, is_page⟩ | ⟨not_alone, is_page⟩
      · rw [is_page]
        exact iff_of_false (Nat.lt_irrefl 0) (not_not_intro alone)
      · rw [is_page]
        exact iff_of_true Nat.one_pos not_alone
    next no_break =>
      rw [sharePage_next_iff goes_on.add]
      refine and_congr_left fun _ => iff_of_true (Nat.succ_pos _) ?_
      exact fun break_line => no_break break_line.1
  | cons line before ih =>
    have is_place : number + (line :: before).length = number + 1 + before.length := by
      rw [List.length_cons]
      omega
    rw [List.cons_append] at goes_on ⊢
    rw [is_place, pagesFrom_cons]
    split
    · rw [sharePage_cons_iff goes_on (by omega)]
      exact ih goes_on.turn.1
    · exact ih goes_on.add

/-! ## All pages of a document -/

/-- The lines that belong to a page are all but those that hold a form feed and nothing else. -/
theorem pageLinesFrom_eq (index : Nat) (lines : List String) :
    pageLinesFrom (index + 1) lines =
      (((lines.zipIdx index).map fun (line, index) => (index + 1, line)).filter
        fun numbered => !decide (IsBreakLine numbered.2)).map Prod.fst := by
  induction lines generalizing index with
  | nil => rfl
  | cons line rest ih =>
    rw [pageLinesFrom, ih, List.zipIdx_cons, List.map_cons, List.filter_cons]
    by_cases alone : IsBreakLine line <;> simp [alone]

/-- Pages without lines have no lines. -/
theorem flatMap_numbers_filter (pages : List Page) :
    (pages.filter fun page => 0 < page.length).flatMap Page.numbers =
      pages.flatMap Page.numbers := by
  induction pages with
  | nil => rfl
  | cons page pages ih =>
    rw [List.filter_cons, List.flatMap_cons, ← ih]
    split
    · rfl
    next no_line =>
      have empty : page.length = 0 := by simpa using no_line
      rw [Page.numbers, empty]
      rfl

/-- Pages without lines share none. -/
theorem sharePage_filter_iff {pages : List Page} {n : Nat} :
    SharePage (pages.filter fun page => 0 < page.length) n ↔ SharePage pages n := by
  constructor
  · rintro ⟨page, mem, both⟩
    exact ⟨page, List.mem_of_mem_filter mem, both⟩
  · rintro ⟨page, mem, on_page, next⟩
    have some_line : 0 < page.length := by
      rw [mem_numbers] at on_page
      omega
    exact ⟨page, List.mem_filter.2 ⟨mem, by simpa using some_line⟩, on_page, next⟩

/-- Two lines that follow each other stand side by side in the text. -/
theorem exists_adjacent {index : Nat} {first second : String}
    (is_first : lines[index]? = some first) (is_second : lines[index + 1]? = some second) :
    ∃ before after, lines = before ++ first :: second :: after ∧ before.length = index := by
  obtain ⟨inside, at_first⟩ := List.getElem?_eq_some_iff.1 is_first
  obtain ⟨also_inside, at_second⟩ := List.getElem?_eq_some_iff.1 is_second
  refine ⟨lines.take index, lines.drop (index + 2), ?_, ?_⟩
  · rw [← at_first, ← at_second, ← List.drop_eq_getElem_cons, ← List.drop_eq_getElem_cons,
      List.take_append_drop]
  · exact List.length_take_of_le (Nat.le_of_lt inside)

/-- The pages of every document are runs of its lines, none of them empty. One after the other they
list every line, in order and once, except those that hold a form feed and nothing else. Two lines
that follow each other are on one page exactly if neither holds a form feed and nothing else and the
second has no form feed. -/
theorem pages_partition (doc : Document) :
    (∀ page ∈ pages doc, 0 < page.length ∧ 1 ≤ page.start ∧
        page.start + page.length ≤ doc.lineCount + 1) ∧
      (pages doc).flatMap Page.numbers =
        (doc.numberedLines.filter fun numbered => !decide (IsBreakLine numbered.2)).map Prod.fst ∧
      ∀ n first second, doc.lineAt? n = some first → doc.lineAt? (n + 1) = some second →
        (SharePage (pages doc) n ↔
          ¬ IsBreakLine first ∧ ¬ IsBreakLine second ∧ '\x0c' ∉ second.toList) := by
  have goes_on := Continues.first doc.lines
  have listed : (pages doc).flatMap Page.numbers =
      (doc.numberedLines.filter fun numbered => !decide (IsBreakLine numbered.2)).map
        Prod.fst := by
    rw [pages, flatMap_numbers_filter, Document.lineCount, flatMap_numbers_pagesFrom goes_on,
      numbers_empty, List.nil_append, pageLinesFrom_eq 0]
    rfl
  refine ⟨fun page mem => ?_, listed, fun n first second is_first is_second => ?_⟩
  · have some_line : 0 < page.length := by simpa using (List.mem_filter.1 mem).2
    -- The first and the last line of the page are lines of the document.
    have in_text : ∀ n ∈ page.numbers, 1 ≤ n ∧ n ≤ doc.lineCount := by
      intro n on_page
      have is_listed : n ∈ (pages doc).flatMap Page.numbers :=
        List.mem_flatMap.2 ⟨page, mem, on_page⟩
      rw [listed] at is_listed
      obtain ⟨⟨_, line⟩, kept, rfl⟩ := List.mem_map.1 is_listed
      have is_line := Document.mem_numberedLines_iff.1 (List.mem_of_mem_filter kept)
      exact (doc.isSome_lineAt?_iff _).1 (by rw [is_line]; rfl)
    have at_start := in_text page.start (mem_numbers.2 (by omega))
    have at_end := in_text (page.start + page.length - 1) (mem_numbers.2 (by omega))
    omega
  · cases n with
    | zero => cases is_first
    | succ index =>
      rw [Document.lineAt?_succ] at is_first is_second
      obtain ⟨before, after, is_text, rfl⟩ := exists_adjacent is_first is_second
      rw [is_text] at goes_on
      have shared := sharePage_pagesFrom_iff goes_on
      rw [← is_text, Nat.add_comm] at shared
      refine sharePage_filter_iff.trans (shared.trans ?_)
      refine and_congr_right fun _ => ⟨fun no_break => ⟨?_, no_break⟩, And.right⟩
      exact fun alone => no_break alone.1

/-- A text with a form feed on a line of its own, one in front of other text, and one at its end. -/
def pagedText : Document where
  path := "draft.txt"
  format := .paginated
  kind := .draft
  lines := ["one", "two", " \x0c", "three", "\x0cfour", "five", "\x0c"]
  front := FrontMatter.empty
  sections := []
  references := []
  citations := []
  diagnostics := []

/-- Its pages have the lines 1 and 2, the line 4, and the lines 5 and 6. -/
theorem pages_partition_pagedText :
    (pages pagedText).flatMap Page.numbers = [1, 2, 4, 5, 6] ∧
      pagedText.lineAt? 4 = some "three" ∧ pagedText.lineAt? 5 = some "\x0cfour" ∧
      pagedText.lineAt? 6 = some "five" ∧
      SharePage (pages pagedText) 5 ∧ ¬ SharePage (pages pagedText) 4 := by
  obtain ⟨-, listed, shared⟩ := pages_partition pagedText
  refine ⟨listed.trans (by decide +kernel), rfl, rfl, rfl, ?_, ?_⟩
  · exact (shared 5 "\x0cfour" "five" rfl rfl).2 (by decide +kernel)
  · rw [shared 4 "three" "\x0cfour" rfl rfl]
    decide +kernel

end DraftNits.Rules
