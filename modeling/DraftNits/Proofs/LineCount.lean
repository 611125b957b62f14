import DraftNits.Text.Lines
import Mathlib.Data.List.Basic

/-! # How many lines a text has

The number of lines and the number of line feeds go together: a place of the text that some
character follows is on a line that the text has. The lines hold the characters of the text but for
its line ends.

* `Text.count_newline_lt_length_splitLines` — the line of a character is one of the lines.
* `Text.mem_of_mem_splitLines` — the characters of a line are characters of the text, and none of
  them is a line feed.
* `Text.findIdx?_linesFrom` — the first line with a character is found by counting line feeds. -/

namespace DraftNits.Text

/-- A line that has begun is one of the lines. -/
theorem linesFrom_ne_nil {read : List Char} (begun : read ≠ []) (cs : List Char) :
    linesFrom read cs ≠ [] := by
  induction cs generalizing read with
  | nil => simpa [linesFrom] using begun
  | cons c cs ih =>
    rw [linesFrom]
    by_cases newline : c = '\n'
    · simp [newline]
    · rw [if_neg newline]
      exact ih (List.cons_ne_nil c read)

/-- What follows a line feed is on a line of its own: the lines are at least those that the line
feeds before it end, and the lines after. -/
theorem exists_length_linesFrom_append (read before cs : List Char) :
    ∃ left, (linesFrom read (before ++ cs)).length =
      before.count '\n' + (linesFrom left cs).length := by
  -- Each line feed of what comes before ends a line, and the next one begins with nothing read.
  induction before generalizing read with
  | nil => exact ⟨read, by simp⟩
  | cons c before ih =>
    rw [List.cons_append, linesFrom]
    by_cases newline : c = '\n'
    · obtain ⟨left, same⟩ := ih []
      refine ⟨left, ?_⟩
      rw [if_pos newline, List.length_cons, same, newline, List.count_cons_self]
      omega
    · obtain ⟨left, same⟩ := ih (c :: read)
      refine ⟨left, ?_⟩
      rw [if_neg newline, same, List.count_cons_of_ne newline]

/-- A character stands on a line that the text has. -/
theorem count_newline_lt_length_splitLines (before : List Char) (c : Char) (after : List Char) :
    before.count '\n' < (splitLines (before ++ c :: after)).length := by
  obtain ⟨left, same⟩ := exists_length_linesFrom_append [] before (c :: after)
  have some_line : linesFrom left (c :: after) ≠ [] := by
    rw [linesFrom]
    by_cases newline : c = '\n'
    · simp [newline]
    · rw [if_neg newline]
      exact linesFrom_ne_nil (List.cons_ne_nil c left) after
  have positive := List.length_pos_of_ne_nil some_line
  rw [splitLines, same]
  omega

/-- A text of which there is something has lines. -/
theorem splitLines_ne_nil {cs : List Char} (some_char : cs ≠ []) : splitLines cs ≠ [] := by
  obtain ⟨c, rest, rfl⟩ := List.exists_cons_of_ne_nil some_char
  have on_line := count_newline_lt_length_splitLines [] c rest
  exact List.ne_nil_of_length_pos (Nat.zero_lt_of_lt on_line)

/-! ## What the lines hold -/

/-- The characters of a line have been read for it. -/
theorem mem_of_mem_endLine {c : Char} {read : List Char} (mem : c ∈ endLine read) : c ∈ read := by
  unfold endLine at mem
  split at mem
  · exact List.mem_cons_of_mem _ (List.mem_reverse.1 mem)
  · exact List.mem_reverse.1 mem

/-- What has been read of a line is kept when it ends, but for a carriage return. -/
theorem mem_endLine {c : Char} {read : List Char} (mem : c ∈ read) (no_return : c ≠ '\r') :
    c ∈ endLine read := by
  unfold endLine
  split
  · exact List.mem_reverse.2 (List.mem_of_ne_of_mem no_return mem)
  · exact List.mem_reverse.2 mem

/-- The characters of a line come from what has been read of it or from the text after that; no line
feed is among the latter. -/
theorem mem_of_mem_linesFrom {c : Char} {read cs line : List Char}
    (is_line : line ∈ linesFrom read cs) (mem : c ∈ line) : c ∈ read ∨ c ∈ cs ∧ c ≠ '\n' := by
  induction cs generalizing read with
  | nil =>
    rw [linesFrom] at is_line
    split at is_line
    · cases is_line
    · rw [List.mem_singleton.1 is_line] at mem
      exact .inl (List.mem_reverse.1 mem)
  | cons d cs ih =>
    rw [linesFrom] at is_line
    by_cases newline : d = '\n'
    · rw [if_pos newline] at is_line
      rcases List.mem_cons.1 is_line with rfl | later
      · exact .inl (mem_of_mem_endLine mem)
      · rcases ih later with nothing | ⟨in_rest, not_newline⟩
        · cases nothing
        · exact .inr ⟨List.mem_cons_of_mem _ in_rest, not_newline⟩
    · rw [if_neg newline] at is_line
      rcases ih is_line with in_read | ⟨in_rest, not_newline⟩
      · rcases List.mem_cons.1 in_read with rfl | before
        · exact .inr ⟨List.mem_cons_self, newline⟩
        · exact .inl before
      · exact .inr ⟨List.mem_cons_of_mem _ in_rest, not_newline⟩

/-- The characters of a line are characters of the text, and none of them is a line feed. -/
theorem mem_of_mem_splitLines {c : Char} {cs line : List Char} (is_line : line ∈ splitLines cs)
    (mem : c ∈ line) : c ∈ cs ∧ c ≠ '\n' := by
  rcases mem_of_mem_linesFrom is_line mem with nothing | found
  · cases nothing
  · exact found

/-- What has been read of a line is on the first line, but for a carriage return. -/
theorem exists_linesFrom_eq_cons {c : Char} {read : List Char} (mem : c ∈ read)
    (no_return : c ≠ '\r') (cs : List Char) :
    ∃ line rest, linesFrom read cs = line :: rest ∧ c ∈ line := by
  induction cs generalizing read with
  | nil =>
    refine ⟨read.reverse, [], ?_, List.mem_reverse.2 mem⟩
    rw [linesFrom, if_neg (by simpa using List.ne_nil_of_mem mem)]
  | cons d cs ih =>
    rw [linesFrom]
    by_cases newline : d = '\n'
    · rw [if_pos newline]
      exact ⟨endLine read, linesFrom [] cs, rfl, mem_endLine mem no_return⟩
    · rw [if_neg newline]
      exact ih (List.mem_cons_of_mem d mem)

/-- The first line with a character, which is no line end, is the one after as many lines as there
are line feeds before it. -/
theorem findIdx?_linesFrom {c : Char} (no_return : c ≠ '\r') (no_newline : c ≠ '\n')
    {read before : List Char} (unread : c ∉ read) (first : c ∉ before) (after : List Char) :
    (linesFrom read (before ++ c :: after)).findIdx? (fun line => line.contains c) =
      some (before.count '\n') := by
  induction before generalizing read with
  | nil =>
    rw [List.nil_append, linesFrom, if_neg no_newline]
    obtain ⟨line, rest, is_first, mem⟩ :=
      exists_linesFrom_eq_cons (List.mem_cons_self (a := c) (l := read)) no_return after
    rw [is_first, List.findIdx?_cons, if_pos (List.contains_iff_mem.2 mem)]
    rfl
  | cons d before ih =>
    obtain ⟨not_here, not_later⟩ := List.ne_and_not_mem_of_not_mem_cons first
    rw [List.cons_append, linesFrom]
    by_cases newline : d = '\n'
    · have not_on_line : ¬ (endLine read).contains c = true := fun on_line =>
        unread (mem_of_mem_endLine (List.contains_iff_mem.1 on_line))
      rw [if_pos newline, List.findIdx?_cons, if_neg not_on_line, ih (List.not_mem_nil) not_later,
        newline, List.count_cons_self]
      rfl
    · rw [if_neg newline, ih (List.not_mem_cons_of_ne_of_not_mem not_here unread) not_later,
        List.count_cons_of_ne newline]

end DraftNits.Text
