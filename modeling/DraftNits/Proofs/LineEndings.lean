import DraftNits.Intake
import DraftNits.Rules.Standard
import Mathlib.Data.List.Basic

/-! # Line ends in text

A line of a text may end in a line feed or in a carriage return and a line feed. What is read from
the text does not depend on that: not whether it is blank, not its lines, and not the format that is
told from its beginning. So a text and the same text with other line ends are taken in as the same
document, or refused for the same reason.

* `Text.withReturns` — the text with a carriage return in front of some of its line feeds.
* `Text.splitLines_withReturns` — it has the same lines.
* `detectFormat_withReturns` — it has the same format.
* `readText_withReturns` — it is the same document, with the same report. -/

namespace DraftNits

namespace Text

/-- A text with a carriage return in front of the chosen ones of its line feeds. The line feeds are
counted from `count` on. -/
def withReturnsFrom (chosen : Nat → Bool) (count : Nat) : List Char → List Char
  | [] => []
  | c :: cs =>
    if c = '\n' then
      if chosen count then '\r' :: '\n' :: withReturnsFrom chosen (count + 1) cs
      else '\n' :: withReturnsFrom chosen (count + 1) cs
    else c :: withReturnsFrom chosen count cs

/-- A text with a carriage return in front of the chosen ones of its line feeds; the first line feed
has number 0. -/
def withReturns (chosen : Nat → Bool) (cs : List Char) : List Char := withReturnsFrom chosen 0 cs

variable {chosen : Nat → Bool} {count : Nat}

/-- A line feed ends its line with or without a carriage return. -/
theorem withReturnsFrom_newline (cs : List Char) :
    withReturnsFrom chosen count ('\n' :: cs) =
      if chosen count then '\r' :: '\n' :: withReturnsFrom chosen (count + 1) cs
      else '\n' :: withReturnsFrom chosen (count + 1) cs := by
  rw [withReturnsFrom, if_pos rfl]

/-- Every other character is kept. -/
theorem withReturnsFrom_cons {c : Char} (no_newline : c ≠ '\n') (cs : List Char) :
    withReturnsFrom chosen count (c :: cs) = c :: withReturnsFrom chosen count cs := by
  rw [withReturnsFrom, if_neg no_newline]

/-! ## Lines -/

/-- A carriage return in front of a line feed belongs to the end of the line. -/
theorem linesFrom_return_newline (read cs : List Char) :
    linesFrom read ('\r' :: '\n' :: cs) = read.reverse :: splitLines cs := by
  rw [linesFrom, if_neg (by decide), linesFrom_newline]
  rfl

/-- Nothing is taken from a line without carriage returns when it ends. -/
theorem endLine_of_notMem {read : List Char} (no_return : '\r' ∉ read) :
    endLine read = read.reverse := by
  unfold endLine
  split
  · exact absurd List.mem_cons_self no_return
  · rfl

/-- The lines are the same whatever they end in. -/
theorem linesFrom_withReturnsFrom {read cs : List Char} (not_read : '\r' ∉ read)
    (no_return : '\r' ∉ cs) :
    linesFrom read (withReturnsFrom chosen count cs) = linesFrom read cs := by
  induction cs generalizing read count with
  | nil => rfl
  | cons c cs ih =>
    obtain ⟨not_here, not_later⟩ := List.ne_and_not_mem_of_not_mem_cons no_return
    by_cases newline : c = '\n'
    · subst newline
      have later : linesFrom [] (withReturnsFrom chosen (count + 1) cs) = linesFrom [] cs :=
        ih List.not_mem_nil not_later
      rw [withReturnsFrom_newline, linesFrom_newline, endLine_of_notMem not_read]
      split
      · rw [linesFrom_return_newline, splitLines, later, splitLines]
      · rw [linesFrom_newline, endLine_of_notMem not_read, splitLines, later, splitLines]
    · rw [withReturnsFrom_cons newline, linesFrom, linesFrom, if_neg newline, if_neg newline]
      exact ih (List.not_mem_cons_of_ne_of_not_mem not_here not_read) not_later

/-- A text has the same lines whatever they end in. -/
theorem splitLines_withReturns {cs : List Char} (no_return : '\r' ∉ cs) :
    splitLines (withReturns chosen cs) = splitLines cs :=
  linesFrom_withReturnsFrom List.not_mem_nil no_return

/-! ## The beginning of a text -/

/-- A text is blank whatever its lines end in. -/
theorem isAllBlank_withReturnsFrom (cs : List Char) :
    isAllBlank (withReturnsFrom chosen count cs) = isAllBlank cs := by
  induction cs generalizing count with
  | nil => rfl
  | cons c cs ih =>
    simp only [isAllBlank] at ih
    by_cases newline : c = '\n'
    · subst newline
      rw [withReturnsFrom_newline]
      split <;> simp [isAllBlank, ih, isBlank]
    · simp [withReturnsFrom_cons newline, isAllBlank, ih]

/-- Characters that are no line feeds are taken off the beginning as before. -/
theorem dropWhile_withReturnsFrom {p : Char → Bool} (no_newline : p '\n' = false)
    (no_return : p '\r' = false) (cs : List Char) :
    (withReturnsFrom chosen count cs).dropWhile p = withReturnsFrom chosen count (cs.dropWhile p) := by
  induction cs with
  | nil => rfl
  | cons c cs ih =>
    by_cases newline : c = '\n'
    · subst newline
      rw [List.dropWhile_cons_of_neg (by simp [no_newline]), withReturnsFrom_newline]
      split
      · exact List.dropWhile_cons_of_neg (by simp [no_return])
      · exact List.dropWhile_cons_of_neg (by simp [no_newline])
    · rw [withReturnsFrom_cons newline, List.dropWhile_cons, List.dropWhile_cons]
      split
      · exact ih
      · rw [withReturnsFrom_cons newline]

/-- White space is taken off the beginning with its line ends. -/
theorem exists_trimStart_withReturnsFrom (chosen : Nat → Bool) (count : Nat) (cs : List Char) :
    ∃ later, trimStart (withReturnsFrom chosen count cs) =
      withReturnsFrom chosen later (trimStart cs) := by
  induction cs generalizing count with
  | nil => exact ⟨0, rfl⟩
  | cons c cs ih =>
    by_cases newline : c = '\n'
    · subst newline
      obtain ⟨later, same⟩ := ih (count + 1)
      refine ⟨later, ?_⟩
      rw [withReturnsFrom_newline]
      simp only [trimStart] at same ⊢
      split <;> simpa [isBlank] using same
    · simp only [trimStart, withReturnsFrom_cons newline, List.dropWhile_cons] at ih ⊢
      split
      · exact ih count
      · exact ⟨count, (withReturnsFrom_cons newline cs).symm⟩

/-- A text without line ends begins a text whatever its lines end in. -/
theorem isPrefixOf_withReturnsFrom {start : List Char} (no_newline : '\n' ∉ start)
    (no_return : '\r' ∉ start) (cs : List Char) :
    start.isPrefixOf (withReturnsFrom chosen count cs) = start.isPrefixOf cs := by
  induction start generalizing cs with
  | nil => rfl
  | cons d start ih =>
    obtain ⟨not_newline, no_newline⟩ := List.ne_and_not_mem_of_not_mem_cons no_newline
    obtain ⟨not_return, no_return⟩ := List.ne_and_not_mem_of_not_mem_cons no_return
    cases cs with
    | nil => rfl
    | cons c cs =>
      by_cases newline : c = '\n'
      · subst newline
        have other : (d == '\n') = false ∧ (d == '\r') = false :=
          ⟨beq_false_of_ne not_newline.symm, beq_false_of_ne not_return.symm⟩
        rw [withReturnsFrom_newline]
        split
        · rw [List.isPrefixOf, List.isPrefixOf, other.1, other.2, Bool.false_and, Bool.false_and]
        · rw [List.isPrefixOf, List.isPrefixOf, other.1, Bool.false_and, Bool.false_and]
      · rw [withReturnsFrom_cons newline, List.isPrefixOf, List.isPrefixOf, ih no_newline no_return]

end Text

/-! ## Documents -/

variable {chosen : Nat → Bool} {count : Nat}

/-- The format of a text is told past its byte order marks. -/
theorem detectFormat_dropMark (mode : Mode) (text : List Char) :
    detectFormat mode (dropMark text) = detectFormat mode text := by
  unfold dropMark
  split
  · rfl
  · rfl

/-- A text that does not begin with a byte order mark is kept. -/
theorem dropMark_cons {c : Char} (no_mark : c ≠ '\ufeff') (cs : List Char) :
    dropMark (c :: cs) = c :: cs := by
  unfold dropMark
  split
  next same => exact absurd (List.cons.inj same).1 no_mark
  next => rfl

/-- What is left of a text stands in it. -/
theorem mem_of_mem_dropMark {c : Char} {text : List Char} (mem : c ∈ dropMark text) : c ∈ text := by
  unfold dropMark at mem
  split at mem
  · exact List.mem_cons_of_mem _ mem
  · exact mem

/-- A byte order mark is left aside as before. -/
theorem dropMark_withReturnsFrom (text : List Char) :
    dropMark (Text.withReturnsFrom chosen count text) =
      Text.withReturnsFrom chosen count (dropMark text) := by
  cases text with
  | nil => rfl
  | cons c cs =>
    by_cases newline : c = '\n'
    · subst newline
      rw [dropMark_cons (by decide), Text.withReturnsFrom_newline]
      split <;> exact dropMark_cons (by decide) _
    · rw [Text.withReturnsFrom_cons newline]
      by_cases mark : c = '\ufeff'
      · subst mark
        rfl
      · rw [dropMark_cons mark, dropMark_cons mark, Text.withReturnsFrom_cons newline]

/-- The format of a text is the same whatever its lines end in. -/
theorem detectFormat_withReturnsFrom (mode : Mode) (text : List Char) :
    detectFormat mode (Text.withReturnsFrom chosen count text) = detectFormat mode text := by
  obtain ⟨later, same⟩ := Text.exists_trimStart_withReturnsFrom chosen count
    (text.dropWhile (· == '\ufeff'))
  have on_line : ∀ s ∈ xmlBeginnings, '\n' ∉ s.toList ∧ '\r' ∉ s.toList := by decide
  have begins : ∀ cs, (xmlBeginnings.any fun s =>
      s.toList.isPrefixOf (Text.withReturnsFrom chosen later cs)) =
        xmlBeginnings.any fun s => s.toList.isPrefixOf cs := by
    intro cs
    rw [Bool.eq_iff_iff, List.any_eq_true, List.any_eq_true]
    refine exists_congr fun s => and_congr_right fun mem => ?_
    rw [Text.isPrefixOf_withReturnsFrom (on_line s mem).1 (on_line s mem).2]
  unfold detectFormat
  dsimp only
  rw [Text.dropWhile_withReturnsFrom (by decide) (by decide), same, begins]

/-- A text that is not XML is taken in by its lines. -/
theorem readText_of_ne_xml (path : String) {mode : Mode} {text : List Char}
    (is_text : detectFormat mode text ≠ .xml) :
    readText path mode text =
      if Text.isAllBlank (dropMark text) then .error .empty
      else
        match nulLine? (Text.splitLines (dropMark text)) with
        | some line => .error (.binary line)
        | none => .ok (PlainText.readDocument path (detectFormat mode text)
            (Text.splitLines (dropMark text))) := by
  rw [← detectFormat_dropMark] at is_text ⊢
  unfold readText
  dsimp only
  split
  · rfl
  cases nulLine? (Text.splitLines (dropMark text)) with
  | some line => rfl
  | none =>
    cases format : detectFormat mode (dropMark text) with
    | xml => exact absurd format is_text
    | paginated => rfl
    | submission => rfl

/-- A text without carriage returns that is not XML is taken in as the same document, or refused for
the same reason, with a carriage return in front of any of its line feeds; and the standard rules
report the same on it. -/
theorem readText_withReturns (path : String) (mode : Mode) {text : List Char}
    (no_return : '\r' ∉ text) (is_text : detectFormat mode text ≠ .xml) (chosen : Nat → Bool) :
    readText path mode (Text.withReturns chosen text) = readText path mode text ∧
      ∀ options,
        (readText path mode (Text.withReturns chosen text)).map (RuleSet.standard.check · options) =
          (readText path mode text).map (RuleSet.standard.check · options) := by
  have taken : readText path mode (Text.withReturns chosen text) = readText path mode text := by
    have still_text : detectFormat mode (Text.withReturns chosen text) ≠ .xml := by
      rwa [Text.withReturns, detectFormat_withReturnsFrom]
    have not_in_rest : '\r' ∉ dropMark text := fun mem => no_return (mem_of_mem_dropMark mem)
    rw [readText_of_ne_xml path still_text, readText_of_ne_xml path is_text, Text.withReturns,
      dropMark_withReturnsFrom, detectFormat_withReturnsFrom, Text.isAllBlank_withReturnsFrom,
      ← Text.withReturns, Text.splitLines_withReturns not_in_rest]
  exact ⟨taken, fun options => by rw [taken]⟩

/-- Of three line feeds the second one gets a carriage return, behind a byte order mark and a line
of white space. -/
theorem readText_withReturns_second :
    Text.withReturns (· == 1) "\ufeff \n1. A\n\n".toList = "\ufeff \n1. A\r\n\n".toList ∧
      '\r' ∉ "\ufeff \n1. A\n\n".toList ∧
      detectFormat .submission "\ufeff \n1. A\n\n".toList ≠ .xml ∧
      readText "draft.txt" .submission "\ufeff \n1. A\r\n\n".toList =
        readText "draft.txt" .submission "\ufeff \n1. A\n\n".toList := by
  have no_return : '\r' ∉ "\ufeff \n1. A\n\n".toList := by decide
  have is_text : detectFormat .submission "\ufeff \n1. A\n\n".toList ≠ .xml := by decide +kernel
  have second : Text.withReturns (· == 1) "\ufeff \n1. A\n\n".toList =
      "\ufeff \n1. A\r\n\n".toList := by decide +kernel
  refine ⟨second, no_return, is_text, ?_⟩
  rw [← second]
  exact (readText_withReturns "draft.txt" .submission no_return is_text (· == 1)).1

end DraftNits
