import DraftNits.Rules.Layout
import Mathlib.Data.List.Basic

/-! # The layout of text

What the rules on the layout look for, said about lines as they are written and not by the way in
which the rules take them apart.

* `Rules.lineLength_le_iff` — a line is short if what stands before its line end is.
* `Rules.pages_le_iff` — the pages are short exactly if no run of lines on one page is long.
* `PlainText.isFooter_iff_isFooterLine` — what a footer of a page looks like.
* `Rules.characterProblem?_eq_none_iff` — the characters that are allowed. -/

namespace DraftNits

/-! ## Lines -/

namespace Rules

/-- Whether a text takes up at most a number of characters before form feeds and carriage returns
at its end. -/
def FitsIn (limit : Nat) (line : List Char) : Prop :=
  ∃ text ending, line = text ++ ending ∧ (∀ c ∈ ending, c = '\x0c' ∨ c = '\r') ∧
    text.length ≤ limit

/-- A text loses an ending of characters in a class and perhaps more. -/
theorem length_dropEndWhile_append_le {p : Char → Bool} {ending : List Char}
    (h : ∀ c ∈ ending, p c = true) (text : List Char) :
    (Text.dropEndWhile p (text ++ ending)).length ≤ text.length := by
  have all : ∀ c ∈ ending.reverse, p c = true := fun c mem => h c (List.mem_reverse.1 mem)
  rw [Text.dropEndWhile, List.reverse_append, List.dropWhile_append_of_pos all, List.length_reverse]
  have shorter := (List.dropWhile_suffix (l := text.reverse) p).length_le
  rwa [List.length_reverse] at shorter

/-- A line has at most a length exactly if it fits in it. -/
theorem lineLength_le_iff {line : String} {limit : Nat} :
    lineLength line ≤ limit ↔ FitsIn limit line.toList := by
  constructor
  · intro short
    obtain ⟨ending, split, all⟩ := Text.exists_dropEndWhile_append
      (fun c => c == formFeed || c == '\r') line.toList
    exact ⟨_, ending, split, by simpa [formFeed] using all, short⟩
  · rintro ⟨text, ending, split, all, short⟩
    have taken := length_dropEndWhile_append_le (p := fun c => c == formFeed || c == '\r')
      (by simpa [formFeed] using all) text
    rw [lineLength, split]
    omega

/-! ## Pages -/

/-- Whether lines that follow each other stand on one page: a form feed may only be in the first of
them, and not if that line holds nothing else. -/
def OnOnePage : List String → Prop
  | [] => True
  | first :: rest =>
    ('\x0c' ∈ first.toList → Text.isAllBlank first.toList = false) ∧
      ∀ line ∈ rest, '\x0c' ∉ line.toList

/-- Lines without form feeds stand on one page. -/
theorem onOnePage_of_forall {run : List String} (h : ∀ line ∈ run, '\x0c' ∉ line.toList) :
    OnOnePage run := by
  cases run with
  | nil => trivial
  | cons first rest =>
    rw [List.forall_mem_cons] at h
    exact ⟨fun break_in => absurd break_in h.1, h.2⟩

/-- No page gets longer than a limit when a page of `taken` lines goes on with some lines: not this
page, with the lines that still belong to it, and no run of lines on a later one. -/
structure StaysWithin (limit taken : Nat) (lines : List String) : Prop where
  /-- The page that goes on. -/
  current : ∀ run, run <+: lines → (∀ line ∈ run, '\x0c' ∉ line.toList) →
    taken + run.length ≤ limit
  /-- Any run of lines on one page. -/
  runs : ∀ run, run <:+: lines → OnOnePage run → run.length ≤ limit

/-- At the end of the text the page is what it was. -/
theorem staysWithin_nil {limit taken : Nat} : StaysWithin limit taken [] ↔ taken ≤ limit := by
  constructor
  · intro within
    simpa using within.current [] (List.prefix_refl []) (by simp)
  · intro short
    refine ⟨fun run is_start _ => ?_, fun run is_run _ => ?_⟩
    · rw [List.prefix_nil.1 is_start]
      exact short
    · rw [List.infix_nil.1 is_run]
      exact Nat.zero_le limit

/-- A line without a form feed belongs to the page that goes on. -/
theorem staysWithin_cons {limit taken : Nat} {line : String} {rest : List String}
    (no_break : '\x0c' ∉ line.toList) :
    StaysWithin limit taken (line :: rest) ↔ StaysWithin limit (taken + 1) rest := by
  constructor
  · intro within
    refine ⟨fun run is_start clean => ?_,
      fun run is_run => within.runs run (is_run.trans (List.suffix_cons line rest).isInfix)⟩
    have short := within.current (line :: run) (List.cons_prefix_cons.2 ⟨rfl, is_start⟩)
      (List.forall_mem_cons.2 ⟨no_break, clean⟩)
    simp only [List.length_cons] at short
    omega
  · intro within
    -- The line counts on both sides: in a run that starts with it, or as taken before the run.
    have at_start : ∀ run, run <+: line :: rest → (∀ other ∈ run.tail, '\x0c' ∉ other.toList) →
        taken + run.length ≤ limit := by
      intro run is_start clean
      rcases List.prefix_cons_iff.1 is_start with rfl | ⟨tail, rfl, tail_start⟩
      · have short := within.current [] (by simp) (by simp)
        simp only [List.length_nil] at short ⊢
        omega
      · have short := within.current tail tail_start clean
        simp only [List.length_cons]
        omega
    refine ⟨fun run is_start clean => at_start run is_start fun other mem =>
      clean other (List.mem_of_mem_tail mem), fun run is_run on_page => ?_⟩
    rcases List.infix_cons_iff.1 is_run with is_start | is_later
    · have clean : ∀ other ∈ run.tail, '\x0c' ∉ other.toList := by
        cases run with
        | nil => simp
        | cons first tail => exact on_page.2
      have short := at_start run is_start clean
      omega
    · exact within.runs run is_later on_page

/-- A line with a form feed ends the page. The next one starts with this line, or after it if it
holds nothing else. -/
theorem staysWithin_cons_break {limit taken : Nat} {line : String} {rest : List String}
    (is_break : '\x0c' ∈ line.toList) :
    StaysWithin limit taken (line :: rest) ↔
      taken ≤ limit ∧ StaysWithin limit (if Text.isAllBlank line.toList then 0 else 1) rest := by
  constructor
  · intro within
    refine ⟨by simpa using within.current [] (by simp) (by simp), fun run is_start clean => ?_,
      fun run is_run => within.runs run (is_run.trans (List.suffix_cons line rest).isInfix)⟩
    by_cases blank : Text.isAllBlank line.toList = true
    · -- The next page starts after this line.
      have short := within.runs run (is_start.isInfix.trans (List.suffix_cons line rest).isInfix)
        (onOnePage_of_forall clean)
      simpa [blank] using short
    · -- The next page starts with this line.
      have on_page : OnOnePage (line :: run) := ⟨fun _ => by simpa using blank, clean⟩
      have short := within.runs (line :: run)
        (List.cons_prefix_cons.2 ⟨rfl, is_start⟩).isInfix on_page
      simpa [blank, Nat.add_comm] using short
  · rintro ⟨current_short, within⟩
    refine ⟨fun run is_start clean => ?_, fun run is_run on_page => ?_⟩
    · -- A run that starts with this line is not without form feeds, so the run is empty.
      rcases List.prefix_cons_iff.1 is_start with rfl | ⟨tail, rfl, -⟩
      · simpa using current_short
      · exact absurd is_break (clean line (by simp))
    · rcases List.infix_cons_iff.1 is_run with is_start | is_later
      · rcases List.prefix_cons_iff.1 is_start with rfl | ⟨tail, rfl, tail_start⟩
        · exact Nat.zero_le limit
        · have short := within.current tail tail_start on_page.2
          simpa [on_page.1 is_break, Nat.add_comm] using short
      · exact within.runs run is_later on_page

/-- From a current page on, no page is longer than a limit exactly if none gets longer when the
current page goes on with the lines that are left. -/
theorem pagesFrom_le_iff {limit lineCount number : Nat} {current : Page} {lines : List String} :
    (∀ page ∈ pagesFrom lineCount number current lines, page.length ≤ limit) ↔
      StaysWithin limit current.length lines := by
  induction lines generalizing number current with
  | nil => simp [pagesFrom, staysWithin_nil]
  | cons line rest ih =>
    rw [pagesFrom]
    by_cases is_break : '\x0c' ∈ line.toList
    · have found : line.toList.contains formFeed = true := by simpa [formFeed] using is_break
      rw [if_pos found, List.forall_mem_cons, ih, staysWithin_cons_break is_break, pageAfterBreak]
      by_cases blank : Text.isAllBlank line.toList = true <;> simp [blank]
    · have not_found : ¬ line.toList.contains formFeed = true := by simpa [formFeed] using is_break
      rw [if_neg not_found, ih, staysWithin_cons is_break]

/-- No page of a document is longer than a limit exactly if no run of its lines on one page is. -/
theorem pages_le_iff {doc : Document} {limit : Nat} :
    (∀ page ∈ pages doc, page.length ≤ limit) ↔
      ∀ run, run <:+: doc.lines → OnOnePage run → run.length ≤ limit := by
  -- The pages that are left out are empty and within every limit.
  have kept : (∀ page ∈ pages doc, page.length ≤ limit) ↔
      ∀ page ∈ pagesFrom doc.lineCount 1 ⟨1, 0⟩ doc.lines, page.length ≤ limit := by
    simp only [pages, List.mem_filter, decide_eq_true_eq]
    exact ⟨fun h page mem => by
        by_cases empty : page.length = 0
        · omega
        · exact h page ⟨mem, by omega⟩,
      fun h page mem => h page mem.1⟩
  rw [kept, pagesFrom_le_iff]
  constructor
  · exact StaysWithin.runs
  · intro runs
    -- Before the first line nothing is taken, so the first page is a run like any other.
    refine ⟨fun run is_start clean => ?_, runs⟩
    simpa using runs run is_start.isInfix (onOnePage_of_forall clean)

end Rules

/-! ## Footers -/

namespace PlainText

/-- Whether a line ends in `[Page `, decimal digits and `]`, up to white space. -/
def IsFooterLine (line : List Char) : Prop :=
  ∃ front digits blanks, line = front ++ "[Page ".toList ++ digits ++ ']' :: blanks ∧
    digits ≠ [] ∧ (∀ c ∈ digits, Text.isDecimalDigit c = true) ∧
    ∀ c ∈ blanks, Text.isBlank c = true

/-- A text that is read up to the end of a class splits there. -/
theorem takeWhile_dropWhile_append {p : Char → Bool} {inside : List Char} {c : Char}
    (h : ∀ a ∈ inside, p a = true) (outside : p c = false) (rest : List Char) :
    (inside ++ c :: rest).takeWhile p = inside ∧ (inside ++ c :: rest).dropWhile p = c :: rest := by
  rw [List.takeWhile_append_of_pos h, List.dropWhile_append_of_pos h]
  simp [outside]

/-- The footers are the lines that end like one. -/
theorem isFooter_iff_isFooterLine {line : List Char} :
    isFooter line = true ↔ IsFooterLine line := by
  constructor
  · intro h
    unfold isFooter at h
    split at h
    next backwards found =>
      -- The line is read from its end: blanks, the bracket, digits, and the label backwards.
      simp only [endsPageNumber, Bool.and_eq_true, Bool.not_eq_eq_eq_not, Bool.not_true,
        List.isEmpty_eq_false_iff, List.isPrefixOf_iff_prefix] at h
      obtain ⟨nonempty, front, label⟩ := h
      have split_line := List.takeWhile_append_dropWhile (p := Text.isBlank) (l := line.reverse)
      have split_number := List.takeWhile_append_dropWhile (p := Text.isDecimalDigit)
        (l := backwards)
      rw [found, ← split_number, ← label] at split_line
      have digits : (backwards.takeWhile Text.isDecimalDigit).all Text.isDecimalDigit = true :=
        List.all_takeWhile
      have blanks : (line.reverse.takeWhile Text.isBlank).all Text.isBlank = true :=
        List.all_takeWhile
      refine ⟨front.reverse, (backwards.takeWhile Text.isDecimalDigit).reverse,
        (line.reverse.takeWhile Text.isBlank).reverse, ?_, by simpa using nonempty,
        fun c mem => List.all_eq_true.1 digits c (List.mem_reverse.1 mem),
        fun c mem => List.all_eq_true.1 blanks c (List.mem_reverse.1 mem)⟩
      -- Turned around, these pieces are the line.
      have again := congrArg List.reverse split_line
      rw [List.reverse_reverse] at again
      exact again.symm.trans (by simp)
    · cases h
  · rintro ⟨front, digits, blanks, rfl, nonempty, digit, blank⟩
    have backwards : (front ++ "[Page ".toList ++ digits ++ ']' :: blanks).reverse =
        blanks.reverse ++ ']' :: (digits.reverse ++ ' ' :: ("egaP[".toList ++ front.reverse)) := by
      simp
    -- The blanks end at the bracket and the digits at the space of the label.
    have number := takeWhile_dropWhile_append (p := Text.isDecimalDigit) (c := ' ')
      (fun c mem => digit c (List.mem_reverse.1 mem)) (by decide) ("egaP[".toList ++ front.reverse)
    have line_end := takeWhile_dropWhile_append (p := Text.isBlank) (c := ']')
      (fun c mem => blank c (List.mem_reverse.1 mem)) (by decide)
      (digits.reverse ++ ' ' :: ("egaP[".toList ++ front.reverse))
    rw [isFooter, backwards, line_end.2]
    simp only [endsPageNumber, number.1, number.2]
    simp [nonempty]

end PlainText

/-! ## Characters -/

namespace Rules

/-- A character is allowed exactly if it is a form feed, a carriage return or no control character,
and in the latter case an ASCII character unless the mode is lenient. -/
theorem characterProblem?_eq_none_iff {lenient : Bool} {c : Char} :
    characterProblem? lenient c = none ↔
      c = '\x0c' ∨ c = '\r' ∨
        Text.isControl c = false ∧ (lenient = true ∨ c.toNat < 0x80) := by
  unfold characterProblem?
  by_cases line_end : c = formFeed ∨ c = '\r'
  · rw [if_pos (by simpa using line_end)]
    rcases line_end with h | h <;> simp [h, formFeed]
  · rw [if_neg (by simpa using line_end)]
    simp only [formFeed, not_or] at line_end
    by_cases tab : c = '\t'
    · -- A tab is a control character with a message of its own.
      subst tab
      simp [show Text.isControl '\t' = true by decide]
    · rw [if_neg tab]
      by_cases control : Text.isControl c = true
      · simp [control, line_end]
      · cases lenient <;> simp [control, line_end]

end Rules

end DraftNits
