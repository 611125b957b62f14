import DraftNits.Proofs.Excerpts
import DraftNits.Proofs.HeaderLayout

/-! # The words of a header line

A line of the header is cut at its first two spaces and loses white space at its ends and on both
sides of the cut. White space is any of Unicode's, but only U+0020 makes a cut. Whatever mixture of
both a line has, it falls into columns that can stand as such, and nothing but white space is lost:
the words of the columns are those of the line.

* `Text.words_eq_filter` — words are what stands between white space, where it is not empty.
* `Text.words_append_blank` — white space keeps the words on its two sides apart.
* `PlainText.FallsInto`, `PlainText.Columns.fallsInto_ofLine` — how a line is made up of its columns
  and white space.
* `PlainText.Columns.ofLine_keeps_words` — the columns keep the words of the line. -/

namespace DraftNits

namespace Text

/-! ## Words -/

/-- The words of a text are what stands between its white space, where it is not empty. -/
theorem words_eq_filter (cs : List Char) :
    words cs = (cs.splitOnP isBlank).filter fun word => !word.isEmpty := by
  induction cs with
  | nil => simp [words, List.splitOnP_nil]
  | cons c cs ih =>
    rw [words, List.splitOnP_cons_eq_if_modifyHead]
    by_cases blank : isBlank c = true
    · simp [blank, ih]
    · simp only [blank, Bool.false_eq_true, if_false]
      -- The first word goes on with `c`, unless white space or the end of the text comes next.
      cases cs with
      | nil => simp [startsBlank, words, List.splitOnP_nil]
      | cons d cs =>
        rw [ih, List.splitOnP_cons_eq_if_modifyHead, startsBlank]
        by_cases next : isBlank d = true
        · simp [next]
        · obtain ⟨word, others, split⟩ :=
            List.exists_cons_of_ne_nil (List.splitOnP_ne_nil isBlank cs)
          simp [next, split]

/-- White space keeps the words in front of it and behind it apart. -/
theorem words_append_blank (cs rest : List Char) {c : Char} (blank : isBlank c = true) :
    words (cs ++ c :: rest) = words cs ++ words rest := by
  simp only [words_eq_filter]
  rw [List.splitOnP_append_cons cs rest blank, List.filter_append]

/-- White space in front of a text adds no word. -/
theorem words_blanks_append {blanks : List Char} (all_blank : ∀ c ∈ blanks, isBlank c = true)
    (cs : List Char) : words (blanks ++ cs) = words cs := by
  induction blanks with
  | nil => rfl
  | cons c blanks ih =>
    rw [List.forall_mem_cons] at all_blank
    rw [List.cons_append, words_cons_blank all_blank.1, ih all_blank.2]

/-- White space between two texts keeps their words apart. -/
theorem words_append_gap (cs rest : List Char) {gap : List Char} (some_gap : gap ≠ [])
    (all_blank : ∀ c ∈ gap, isBlank c = true) :
    words (cs ++ (gap ++ rest)) = words cs ++ words rest := by
  obtain ⟨c, gap, rfl⟩ := List.exists_cons_of_ne_nil some_gap
  rw [List.forall_mem_cons] at all_blank
  rw [List.cons_append, words_append_blank cs _ all_blank.1, words_blanks_append all_blank.2]

/-- White space behind a text adds no word. -/
theorem words_append_blanks (cs : List Char) {blanks : List Char}
    (all_blank : ∀ c ∈ blanks, isBlank c = true) : words (cs ++ blanks) = words cs := by
  by_cases nothing : blanks = []
  · rw [nothing, List.append_nil]
  · have apart := words_append_gap cs [] nothing all_blank
    rwa [List.append_nil, words_nil, List.append_nil] at apart

/-! ## The first occurrence -/

/-- A text does not occur in front of its first occurrence. -/
theorem not_isInfix_of_splitAt? {needle cs before behind : List Char} (some_char : needle ≠ [])
    (found : splitAt? needle cs = some (before, behind)) : ¬ needle <:+: before := by
  induction cs generalizing before behind with
  | nil =>
    rw [splitAt?, if_neg (by simpa using some_char)] at found
    cases found
  | cons c cs ih =>
    rw [splitAt?] at found
    split at found
    next =>
      cases found
      rwa [List.infix_nil]
    next not_here =>
      obtain ⟨⟨before, behind⟩, found_later, same⟩ := Option.map_eq_some_iff.1 found
      cases same
      rw [List.infix_cons_iff]
      rintro (here | later)
      · apply not_here
        rw [List.isPrefixOf_iff_prefix, eq_append_of_splitAt? found_later, List.append_assoc]
        exact here.trans (List.prefix_append _ _)
      · exact ih found_later later

end Text

namespace PlainText

/-! ## Lines that fall into columns -/

/-- How a line falls into columns. White space stands in front of them, between them and behind
them; two spaces are in it between two columns, and none in the left one. Only a line without a left
column starts with white space. -/
inductive FallsInto : List Char → Columns → Prop
  | nothing {line : List Char} (all_blank : ∀ c ∈ line, Text.isBlank c = true) :
      FallsInto line ⟨none, none⟩
  | left {left trailing : List Char} (is_left : IsColumn left)
      (single : ¬ [' ', ' '] <:+: left) (all_blank : ∀ c ∈ trailing, Text.isBlank c = true) :
      FallsInto (left ++ trailing) ⟨some left, none⟩
  | right {indent right trailing : List Char} (indented : indent ≠ [])
      (indent_blank : ∀ c ∈ indent, Text.isBlank c = true) (is_right : IsColumn right)
      (all_blank : ∀ c ∈ trailing, Text.isBlank c = true) :
      FallsInto (indent ++ (right ++ trailing)) ⟨none, some right⟩
  | both {left gap right trailing : List Char} (is_left : IsColumn left)
      (single : ¬ [' ', ' '] <:+: left) (wide : [' ', ' '] <:+: gap)
      (gap_blank : ∀ c ∈ gap, Text.isBlank c = true) (is_right : IsColumn right)
      (all_blank : ∀ c ∈ trailing, Text.isBlank c = true) :
      FallsInto (left ++ (gap ++ (right ++ trailing))) ⟨some left, some right⟩

/-- The words of some columns, those of the left one first. -/
def Columns.words (columns : Columns) : List (List Char) :=
  columns.left.elim [] Text.words ++ columns.right.elim [] Text.words

/-- A line that is not blank is a column with white space around it. -/
theorem exists_isColumn {line : List Char} (filled : ¬ ∀ c ∈ line, Text.isBlank c = true) :
    ∃ before column after, line = before ++ (column ++ after) ∧ IsColumn column ∧
      (∀ c ∈ before, Text.isBlank c = true) ∧ ∀ c ∈ after, Text.isBlank c = true := by
  obtain ⟨before, after, is_line, front, back⟩ := Text.exists_trim line
  obtain ⟨first, last⟩ := Text.isBlank_trim line
  exact ⟨before, Text.trim line, after, is_line, ⟨mt Text.trim_eq_nil_iff.1 filled, first, last⟩,
    front, back⟩

namespace IsColumn

variable {cs : List Char}

/-- A text that begins with a column does not start with white space. -/
theorem startsBlank_append (is_column : IsColumn cs) (rest : List Char) :
    Text.startsBlank (cs ++ rest) = false := by
  obtain ⟨c, others, rfl, not_blank⟩ := is_column.exists_cons
  exact not_blank

/-- An end of a column is not all white space. -/
theorem filled_of_isSuffix (is_column : IsColumn cs) {ending : List Char} (some_char : ending ≠ [])
    (at_end : ending <:+ cs) : ¬ ∀ c ∈ ending, Text.isBlank c = true := by
  intro all_blank
  obtain ⟨before, rfl⟩ := at_end
  have last : Text.isBlank (ending.getLast some_char) = false := by
    apply is_column.last
    rw [List.getLast?_append_of_ne_nil _ some_char]
    exact List.getLast?_eq_some_getLast some_char
  rw [all_blank _ (List.getLast_mem some_char)] at last
  cases last

/-- A beginning of a column is a column with perhaps white space behind it. -/
theorem trim_of_isPrefix (is_column : IsColumn cs) {start : List Char} (some_char : start ≠ [])
    (at_start : start <+: cs) :
    IsColumn (Text.trim start) ∧
      ∃ blanks, start = Text.trim start ++ blanks ∧ ∀ c ∈ blanks, Text.isBlank c = true := by
  obtain ⟨rest, rfl⟩ := at_start
  obtain ⟨c, others, rfl⟩ := List.exists_cons_of_ne_nil some_char
  have not_blank : Text.isBlank c = false := is_column.first c rfl
  have trimmed : Text.trim (c :: others) = Text.trimEnd (c :: others) := by
    rw [Text.trim, Text.trimStart, List.dropWhile_cons, not_blank]
    rfl
  have filled : Text.trim (c :: others) ≠ [] := by
    intro nothing
    rw [Text.trim_eq_nil_iff.1 nothing c List.mem_cons_self] at not_blank
    cases not_blank
  obtain ⟨first, last⟩ := Text.isBlank_trim (c :: others)
  obtain ⟨blanks, is_start, all_blank⟩ := Text.exists_trimEnd (c :: others)
  exact ⟨⟨filled, first, last⟩, blanks, by rwa [trimmed], all_blank⟩

end IsColumn

namespace Columns

/-- A line of white space has no columns. -/
theorem ofLine_of_blank {line : List Char} (all_blank : ∀ c ∈ line, Text.isBlank c = true) :
    ofLine line = ⟨none, none⟩ := by
  have nothing : Text.trimEnd ([] ++ line) = [] := Text.dropEndWhile_append all_blank nofun
  rw [List.nil_append] at nothing
  rw [ofLine, nothing]
  rfl

/-- A line that does not begin with white space is cut at the first two spaces, if it has two. -/
theorem ofLine_of_isColumn {line : List Char} (is_column : IsColumn (Text.trimEnd line)) :
    ofLine line = (Text.splitAt? [' ', ' '] (Text.trimEnd line)).elim
      ⟨some (Text.trimEnd line), none⟩
      fun sides => ⟨some (Text.trim sides.1), some (Text.trim sides.2)⟩ := by
  obtain ⟨c, others, is_text, not_blank⟩ := is_column.exists_cons
  rw [ofLine, is_text, if_neg (by simp), if_neg (by simp [Text.startsBlank, not_blank])]
  cases Text.splitAt? [' ', ' '] (c :: others) <;> rfl

/-- What stands in front of the first two spaces is a column with perhaps white space behind it. -/
theorem isColumn_trim_of_splitAt? {text left behind : List Char} (is_column : IsColumn text)
    (found : Text.splitAt? [' ', ' '] text = some (left, behind)) :
    IsColumn (Text.trim left) ∧
      ∃ blanks, left = Text.trim left ++ blanks ∧ ∀ c ∈ blanks, Text.isBlank c = true := by
  have is_text := Text.eq_append_of_splitAt? found
  refine is_column.trim_of_isPrefix ?_ ⟨[' ', ' '] ++ behind, by rw [is_text, List.append_assoc]⟩
  rintro rfl
  exact absurd (is_column.first ' ' (by rw [is_text]; rfl)) (by decide)

/-- A line that does not begin with white space falls into what stands before and behind its first
two spaces. -/
theorem fallsInto_ofLine_of_isColumn {text trailing : List Char} (is_text : IsColumn text)
    (all_blank : ∀ c ∈ trailing, Text.isBlank c = true) :
    FallsInto (text ++ trailing) (ofLine (text ++ trailing)) := by
  have ended : Text.trimEnd (text ++ trailing) = text := is_text.trimEnd_eq [] all_blank
  rw [ofLine_of_isColumn (by rwa [ended]), ended]
  cases found : Text.splitAt? [' ', ' '] text with
  | none =>
    refine .left is_text (fun inside => ?_) all_blank
    have occurs := Text.contains_iff.2 inside
    rw [Text.contains, found] at occurs
    cases occurs
  | some sides =>
    obtain ⟨left, behind⟩ := sides
    have is_cut := Text.eq_append_of_splitAt? found
    have at_end : [' ', ' '] ++ behind <:+ text := ⟨left, by rw [is_cut, List.append_assoc]⟩
    obtain ⟨is_left, blanks, left_eq, blanks_blank⟩ := isColumn_trim_of_splitAt? is_text found
    have single : ¬ [' ', ' '] <:+: Text.trim left := fun inside =>
      Text.not_isInfix_of_splitAt? (List.cons_ne_nil _ _) found
        (inside.trans (Text.trim_isInfix left))
    have filled : ¬ ∀ c ∈ behind, Text.isBlank c = true := fun behind_blank =>
      is_text.filled_of_isSuffix (List.cons_ne_nil _ _) at_end
        (List.forall_mem_append.2 ⟨isBlank_of_mem_replicate 2, behind_blank⟩)
    obtain ⟨spaces, right, after, rfl, is_right, spaces_blank, after_blank⟩ :=
      exists_isColumn filled
    have trimmed : Text.trim (spaces ++ (right ++ after)) = right :=
      Text.trim_append spaces_blank after_blank is_right.first is_right.last
    have whole : text ++ trailing = Text.trim left ++ ((blanks ++ [' ', ' '] ++ spaces) ++
        (right ++ (after ++ trailing))) := by
      rw [is_cut]
      conv_lhs => rw [left_eq]
      simp only [List.append_assoc]
    rw [whole, Option.elim_some, trimmed]
    refine .both is_left single ⟨blanks, spaces, rfl⟩ ?_ is_right ?_
    · exact List.forall_mem_append.2
        ⟨List.forall_mem_append.2 ⟨blanks_blank, isBlank_of_mem_replicate 2⟩, spaces_blank⟩
    · exact List.forall_mem_append.2 ⟨after_blank, all_blank⟩

/-- Every line falls into its columns. -/
theorem fallsInto_ofLine (line : List Char) : FallsInto line (ofLine line) := by
  by_cases blank : ∀ c ∈ line, Text.isBlank c = true
  · rw [ofLine_of_blank blank]
    exact .nothing blank
  · obtain ⟨indent, text, trailing, rfl, is_text, indent_blank, all_blank⟩ := exists_isColumn blank
    cases indent with
    | nil =>
      rw [List.nil_append]
      exact fallsInto_ofLine_of_isColumn is_text all_blank
    | cons c indent =>
      have indented := List.cons_ne_nil c indent
      rw [(LaidOut.right indented indent_blank is_text all_blank).ofLine_eq]
      exact .right indented indent_blank is_text all_blank

end Columns

namespace FallsInto

variable {line : List Char} {columns : Columns}

/-- The columns of a line keep its words. -/
theorem words_eq (falls : FallsInto line columns) : columns.words = Text.words line := by
  cases falls with
  | nothing all_blank => exact (Text.words_append_blanks [] all_blank).symm
  | left _ _ all_blank =>
    rw [Text.words_append_blanks _ all_blank]
    exact List.append_nil _
  | right _ indent_blank _ all_blank =>
    rw [Text.words_blanks_append indent_blank, Text.words_append_blanks _ all_blank]
    rfl
  | both _ _ wide gap_blank _ all_blank =>
    have some_gap := List.ne_nil_of_length_pos (Nat.lt_of_lt_of_le Nat.two_pos wide.length_le)
    rw [Text.words_append_gap _ _ some_gap gap_blank, Text.words_append_blanks _ all_blank]
    rfl

/-- What stands in a column can stand there. -/
theorem isColumn (falls : FallsInto line columns) :
    (∀ left ∈ columns.left, IsColumn left ∧ ¬ [' ', ' '] <:+: left) ∧
      ∀ right ∈ columns.right, IsColumn right := by
  cases falls with
  | nothing => exact ⟨nofun, nofun⟩
  | left is_left single => exact ⟨by rintro _ ⟨⟩; exact ⟨is_left, single⟩, nofun⟩
  | right _ _ is_right => exact ⟨nofun, by rintro _ ⟨⟩; exact is_right⟩
  | both is_left single _ _ is_right =>
    exact ⟨by rintro _ ⟨⟩; exact ⟨is_left, single⟩, by rintro _ ⟨⟩; exact is_right⟩

/-- A line has no column exactly if it is blank. -/
theorem eq_none_iff (falls : FallsInto line columns) :
    columns = ⟨none, none⟩ ↔ Text.isAllBlank line = true := by
  cases falls with
  | nothing all_blank => exact iff_of_true rfl (List.all_eq_true.2 all_blank)
  | left is_left =>
    exact iff_of_false nofun
      (Bool.eq_false_iff.1 (is_left.isAllBlank_eq (List.prefix_append _ _).isInfix))
  | right _ _ is_right =>
    exact iff_of_false nofun
      (Bool.eq_false_iff.1 (is_right.isAllBlank_eq (List.infix_append' _ _ _)))
  | both is_left =>
    exact iff_of_false nofun
      (Bool.eq_false_iff.1 (is_left.isAllBlank_eq (List.prefix_append _ _).isInfix))

/-- A line that is not blank has no left column exactly if it starts with white space. -/
theorem left_eq_none_iff (falls : FallsInto line columns)
    (filled : Text.isAllBlank line = false) :
    columns.left = none ↔ Text.startsBlank line = true := by
  cases falls with
  | nothing all_blank =>
    have blank : Text.isAllBlank line = true := List.all_eq_true.2 all_blank
    rw [blank] at filled
    cases filled
  | left is_left => exact iff_of_false nofun (Bool.eq_false_iff.1 (is_left.startsBlank_append _))
  | @right indent _ _ indented indent_blank =>
    obtain ⟨c, indent, rfl⟩ := List.exists_cons_of_ne_nil indented
    exact iff_of_true rfl (indent_blank c List.mem_cons_self)
  | both is_left => exact iff_of_false nofun (Bool.eq_false_iff.1 (is_left.startsBlank_append _))

end FallsInto

/-- A line has no column exactly if it is blank. What any other line has in its columns is not empty
and has no white space at its ends, the left one has no two spaces in it, and the words of the left
one and of the right one behind them are those of the line; there is no left column exactly if the
line starts with white space. -/
theorem Columns.ofLine_keeps_words (line : List Char) :
    (ofLine line = ⟨none, none⟩ ↔ Text.isAllBlank line = true) ∧
    (Text.isAllBlank line = false →
      (∀ left ∈ (ofLine line).left, IsColumn left ∧ ¬ [' ', ' '] <:+: left) ∧
      (∀ right ∈ (ofLine line).right, IsColumn right) ∧
      (ofLine line).words = Text.words line ∧
      ((ofLine line).left = none ↔ Text.startsBlank line = true)) := by
  have falls := fallsInto_ofLine line
  exact ⟨falls.eq_none_iff, fun filled => ⟨falls.isColumn.1, falls.isColumn.2, falls.words_eq,
    falls.left_eq_none_iff filled⟩⟩

/-- White space other than U+0020 goes with the cut, but makes none. -/
theorem Columns.ofLine_keeps_words_mixed :
    Text.isAllBlank "A\u00a0B\tC \t  \u2003 D \t E \r".toList = false ∧
      (ofLine "A\u00a0B\tC \t  \u2003 D \t E \r".toList).words =
        ["A".toList, "B".toList, "C".toList, "D".toList, "E".toList] := by
  have filled : Text.isAllBlank "A\u00a0B\tC \t  \u2003 D \t E \r".toList = false := by
    decide +kernel
  refine ⟨filled, ((ofLine_keeps_words _).2 filled).2.2.1.trans ?_⟩
  decide +kernel

end PlainText

end DraftNits
