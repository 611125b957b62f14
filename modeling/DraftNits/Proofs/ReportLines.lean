import DraftNits.Proofs.RuleRuns
import DraftNits.Report.Text

/-! # The lines of a detailed report

The detailed text of a report is laid out in lines: for each severity with findings a heading, for
each finding its summary and one line for each nit, and in the end the counts, with empty lines
between (`Report.detailedLines`). Where no message holds a line feed, the lines can be told apart
again, and from them the report: an empty line ends the nits of a finding, and what comes after it
starts like a summary, like a heading or like the counts.

* `Report.text_detailed` — the detailed text is these lines.
* `Report.nitText_injective` — the line of a nit says whether the nit has a line, which one, and its
  message.
* `Report.detailedLines_injective` — the lines say what the findings are.
* `Report.render_detailed_injective` — so does the detailed text of a report without line feeds in its
  messages. -/

namespace DraftNits

/-! ## Lines of text -/

/-- The text of lines, each of which a line feed ends. -/
def unlines (lines : List String) : String := String.join (lines.map (· ++ "\n"))

@[simp] theorem unlines_nil : unlines [] = "" := rfl

@[simp] theorem unlines_cons (line : String) (lines : List String) :
    unlines (line :: lines) = line ++ "\n" ++ unlines lines := by
  simp [unlines]

theorem unlines_append (before after : List String) :
    unlines (before ++ after) = unlines before ++ unlines after := by
  simp [unlines]

theorem unlines_flatMap {α : Type} (f : α → List String) (xs : List α) :
    unlines (xs.flatMap f) = String.join (xs.map fun x => unlines (f x)) := by
  induction xs with
  | nil => rfl
  | cons x xs ih => rw [List.flatMap_cons, unlines_append, ih, List.map_cons, String.join_cons]

/-- Whether a text is on one line. -/
def IsOneLine (text : String) : Prop := '\n' ∉ text.toList

instance (text : String) : Decidable (IsOneLine text) := inferInstanceAs (Decidable (_ ∉ _))

/-- Two texts are on one line together if each is. -/
@[simp] theorem isOneLine_append {before after : String} :
    IsOneLine (before ++ after) ↔ IsOneLine before ∧ IsOneLine after := by
  rw [IsOneLine, IsOneLine, IsOneLine, String.toList_append, List.mem_append, not_or]

/-- What stands before the first occurrence of a character, and what after it, is determined by the
text. -/
theorem append_cons_inj_of_first {c : Char} {as bs rest rest' : List Char} (not_in_as : c ∉ as)
    (not_in_bs : c ∉ bs) (same : as ++ c :: rest = bs ++ c :: rest') : as = bs ∧ rest = rest' := by
  induction as generalizing bs with
  | nil =>
    cases bs with
    | nil => exact ⟨rfl, (List.cons.inj same).2⟩
    | cons b bs => exact absurd ((List.cons.inj same).1 ▸ List.mem_cons_self) not_in_bs
  | cons a as ih =>
    cases bs with
    | nil => exact absurd ((List.cons.inj same).1 ▸ List.mem_cons_self) not_in_as
    | cons b bs =>
      obtain ⟨first, later⟩ := List.cons.inj same
      obtain ⟨before, after⟩ := ih (List.not_mem_of_not_mem_cons not_in_as)
        (List.not_mem_of_not_mem_cons not_in_bs) later
      exact ⟨by rw [first, before], after⟩

/-- Lines can be told apart again. -/
theorem unlines_injective {as bs : List String} (as_one_line : ∀ line ∈ as, IsOneLine line)
    (bs_one_line : ∀ line ∈ bs, IsOneLine line) (same : unlines as = unlines bs) : as = bs := by
  induction as generalizing bs with
  | nil =>
    cases bs with
    | nil => rfl
    | cons b bs =>
      have same := congrArg String.toList same
      simp at same
  | cons a as ih =>
    cases bs with
    | nil =>
      have same := congrArg String.toList same
      simp at same
    | cons b bs =>
      rw [List.forall_mem_cons] at as_one_line bs_one_line
      -- The first line feed ends the first line.
      have split : a.toList ++ '\n' :: (unlines as).toList =
          b.toList ++ '\n' :: (unlines bs).toList := by
        simpa using congrArg String.toList same
      obtain ⟨first, rest⟩ := append_cons_inj_of_first as_one_line.1 bs_one_line.1 split
      rw [String.toList_inj] at first rest
      rw [first, ih as_one_line.2 bs_one_line.2 rest]

/-! ## Numbers -/

/-- A number is written in digits. -/
theorem notMem_toDigits {c : Char} (no_digit : c.isDigit = false) (n : Nat) :
    c ∉ Nat.toDigits 10 n := by
  intro mem
  rw [Nat.isDigit_of_mem_toDigits (by decide) (by decide) mem] at no_digit
  cases no_digit

/-- The digits of a number say which it is. -/
theorem toDigits_injective {m n : Nat} (same : Nat.toDigits 10 m = Nat.toDigits 10 n) : m = n := by
  have value : ∀ k, Nat.ofDigitChars 10 (Nat.toDigits 10 k) 0 = k :=
    fun k => Nat.ofDigitChars_toDigits (by decide) (by decide)
  rw [← value m, same, value n]

/-- A number is on one line. -/
theorem isOneLine_toString (n : Nat) : IsOneLine (toString n) := by
  have is_digits : (toString n).toList = Nat.toDigits 10 n := Nat.toList_repr
  rw [IsOneLine, is_digits]
  exact notMem_toDigits (by decide) n

/-- A number of things is on one line. -/
theorem isOneLine_countOf (n : Nat) {noun : String} (one_line : IsOneLine noun) :
    IsOneLine (countOf n noun) := by
  have ending : IsOneLine (if n = 1 then "" else "s") := by split <;> decide
  have space : IsOneLine " " := by decide
  simp only [countOf, isOneLine_append]
  exact ⟨⟨⟨isOneLine_toString n, space⟩, one_line⟩, ending⟩

/-! ## Messages on lines -/

/-- Whether neither the summary of a finding nor one of its messages holds a line feed. -/
structure Finding.IsOnLines (finding : Finding) : Prop where
  /-- The summary. -/
  summary : IsOneLine finding.summary
  /-- The messages. -/
  messages : ∀ nit ∈ finding.nits, IsOneLine nit.message

/-- Whether no summary and no message of a report holds a line feed. -/
def Report.IsOnLines (report : Report) : Prop :=
  ∀ severity, ∀ finding ∈ report.bucket severity, finding.IsOnLines

namespace Report

/-! ## The layout -/

/-- The line of a nit in the detailed form. -/
def nitText (file : String) (nit : Nit) : String :=
  match nit.line with
  | some line => file ++ "(" ++ toString line ++ "): " ++ nit.message
  | none => file ++ ": " ++ nit.message

/-- The lines of a finding in the detailed form. -/
def findingLines (file : String) (finding : Finding) : List String :=
  ("   " ++ finding.summary ++ ":") :: "" :: (finding.nits.map (nitText file) ++ [""])

/-- The line above the findings of a severity. -/
def headingLine (severity : Severity) (count : Nat) : String := heading severity count ++ ":"

/-- The lines of the findings of a severity in the detailed form. -/
def bucketLines (file : String) (severity : Severity) (findings : List Finding) : List String :=
  if findings.isEmpty then []
  else "" :: headingLine severity findings.length :: "" :: findings.flatMap (findingLines file)

/-- The lines of a report in the detailed form. -/
def detailedLines (file : String) (report : Report) : List String :=
  (Severity.all.flatMap fun severity => bucketLines file severity (report.bucket severity)) ++
    ["", report.summary]

theorem nitLine_eq (file : String) (nit : Nit) : nitLine file nit = nitText file nit ++ "\n" := by
  unfold nitLine nitText
  cases nit.line <;> rfl

/-- The detailed text of a finding is its lines. -/
theorem findingText_detailed (file : String) (finding : Finding) :
    findingText file true finding = unlines (findingLines file finding) := by
  have nits : String.join (finding.nits.map (nitLine file)) =
      unlines (finding.nits.map (nitText file)) := by
    rw [unlines, List.map_map]
    exact congrArg String.join (List.map_congr_left fun nit _ => nitLine_eq file nit)
  rw [findingText, if_pos rfl, nits, findingLines, unlines_cons, unlines_cons, unlines_append]
  apply String.toList_injective
  simp

/-- The detailed text of the findings of a severity is their lines. -/
theorem bucketText_detailed (file : String) (severity : Severity) (findings : List Finding) :
    bucketText file true severity findings = unlines (bucketLines file severity findings) := by
  unfold bucketText bucketLines
  split
  · rfl
  · have texts : String.join (findings.map (findingText file true)) =
        unlines (findings.flatMap (findingLines file)) := by
      rw [unlines_flatMap]
      exact congrArg String.join (List.map_congr_left fun f _ => findingText_detailed file f)
    rw [texts, unlines_cons, unlines_cons, unlines_cons, headingLine]
    apply String.toList_injective
    simp

/-- The detailed text of a report is its lines. -/
theorem text_detailed (file : String) (report : Report) :
    report.text file true = unlines (detailedLines file report) := by
  rw [text, Report.buckets, List.map_map, detailedLines, unlines_append, unlines_flatMap]
  have buckets : ∀ severity ∈ Severity.all,
      bucketText file true severity (report.bucket severity) =
        unlines (bucketLines file severity (report.bucket severity)) :=
    fun severity _ => bucketText_detailed file severity _
  rw [← List.map_congr_left buckets]
  simp [String.append_assoc, Function.comp_def]

/-! ## What the lines say -/

/-- The line of a nit says whether the nit has a line, which one, and its message. -/
theorem nitText_injective {file : String} {nit other : Nit}
    (same : nitText file nit = nitText file other) : nit = other := by
  rcases nit with ⟨line, message⟩
  rcases other with ⟨line', message'⟩
  have same := congrArg String.toList same
  cases line with
  | none =>
    cases line' with
    | none =>
      simp only [nitText, String.toList_append, List.append_assoc, List.append_cancel_left_eq] at same
      rw [String.toList_inj.1 same]
    | some n => simp [nitText] at same
  | some m =>
    cases line' with
    | none => simp [nitText] at same
    | some n =>
      have split : Nat.toDigits 10 m ++ ')' :: ':' :: ' ' :: message.toList =
          Nat.toDigits 10 n ++ ')' :: ':' :: ' ' :: message'.toList := by
        simpa [nitText] using same
      -- The digits of the number end at the closing parenthesis.
      obtain ⟨digits, rest⟩ := append_cons_inj_of_first (notMem_toDigits (by decide) m)
        (notMem_toDigits (by decide) n) split
      simp only [List.cons.injEq, true_and] at rest
      rw [toDigits_injective digits, String.toList_injective rest]

/-- The line of a nit is not empty. -/
theorem nitText_ne_empty (file : String) (nit : Nit) : nitText file nit ≠ "" := by
  intro empty
  have empty := congrArg String.toList empty
  unfold nitText at empty
  split at empty <;> simp at empty

/-- The nits of a finding end with the first empty line. -/
theorem nits_injective {file : String} {nits others : List Nit} {rest rest' : List String}
    (same : nits.map (nitText file) ++ "" :: rest = others.map (nitText file) ++ "" :: rest') :
    nits = others ∧ rest = rest' := by
  induction nits generalizing others with
  | nil =>
    cases others with
    | nil => exact ⟨rfl, (List.cons.inj same).2⟩
    | cons other others => exact absurd (List.cons.inj same).1.symm (nitText_ne_empty file other)
  | cons nit nits ih =>
    cases others with
    | nil => exact absurd (List.cons.inj same).1 (nitText_ne_empty file nit)
    | cons other others =>
      obtain ⟨first, later⟩ := List.cons.inj same
      obtain ⟨nits_same, rest_same⟩ := ih later
      exact ⟨by rw [nitText_injective first, nits_same], rest_same⟩

/-- The line above a finding says its summary. -/
theorem summaryLine_injective {summary other : String}
    (same : "   " ++ summary ++ ":" = "   " ++ other ++ ":") : summary = other :=
  (String.append_right_inj _).1 ((String.append_left_inj _).1 same)

/-- The line above a finding is not empty. -/
theorem summaryLine_ne_empty (summary : String) : "   " ++ summary ++ ":" ≠ "" := by
  intro empty
  have empty := congrArg String.toList empty
  simp at empty

/-- The findings of a severity end with an empty line in the place of a summary. -/
theorem findings_injective {file : String} {findings others : List Finding}
    {rest rest' : List String}
    (same : findings.flatMap (findingLines file) ++ "" :: rest =
      others.flatMap (findingLines file) ++ "" :: rest') : findings = others ∧ rest = rest' := by
  induction findings generalizing others with
  | nil =>
    cases others with
    | nil => exact ⟨rfl, (List.cons.inj same).2⟩
    | cons other others =>
      exact absurd (List.cons.inj same).1.symm (summaryLine_ne_empty other.summary)
  | cons finding findings ih =>
    cases others with
    | nil => exact absurd (List.cons.inj same).1 (summaryLine_ne_empty finding.summary)
    | cons other others =>
      rw [List.flatMap_cons, List.flatMap_cons, findingLines, findingLines] at same
      simp only [List.cons_append, List.append_assoc, List.nil_append] at same
      obtain ⟨first, later⟩ := List.cons.inj same
      obtain ⟨nits, later⟩ := nits_injective (List.cons.inj later).2
      obtain ⟨findings_same, rest_same⟩ := ih later
      have finding_same : finding = other := by
        rcases finding with ⟨finding_nits, finding_summary⟩
        rcases other with ⟨other_nits, other_summary⟩
        rw [Finding.mk.injEq]
        exact ⟨nits, summaryLine_injective first⟩
      exact ⟨by rw [finding_same, findings_same], rest_same⟩

/-- A heading starts with the first letter of its severity. -/
theorem head?_headingLine (severity : Severity) (count : Nat) :
    (headingLine severity count).toList.head? = severity.title.toList.head? := by
  cases severity <;> simp [headingLine, heading, Severity.title]

/-- The headings of different severities are different. -/
theorem headingLine_ne {severity other : Severity} (different : severity ≠ other)
    (count count' : Nat) : headingLine severity count ≠ headingLine other count' := by
  intro same
  have first := congrArg (fun line => line.toList.head?) same
  simp only [head?_headingLine] at first
  revert first different
  cases severity <;> cases other <;> decide

/-- The counts are no heading. -/
theorem summary_ne_headingLine (report : Report) (severity : Severity) (count : Nat) :
    report.summary ≠ headingLine severity count := by
  intro same
  have first := congrArg (fun line => line.toList.head?) same
  simp only [head?_headingLine] at first
  cases severity <;> simp [summary, Severity.title] at first

/-- Whether lines can follow the findings of a severity: an empty line, and after it a line that is
no heading of the severity. -/
def EndsBucket (severity : Severity) (lines : List String) : Prop :=
  ∃ line rest, lines = "" :: line :: rest ∧ ∀ count, line ≠ headingLine severity count

/-- The lines of a severity say what its findings are, if there are any. -/
theorem bucketLines_injective {file : String} {severity : Severity} {findings others : List Finding}
    {rest rest' : List String} (ends : EndsBucket severity rest) (ends' : EndsBucket severity rest')
    (same : bucketLines file severity findings ++ rest =
      bucketLines file severity others ++ rest') : findings = others ∧ rest = rest' := by
  obtain ⟨line, lines, rfl, no_heading⟩ := ends
  obtain ⟨line', lines', rfl, no_heading'⟩ := ends'
  -- Where there are no findings, what comes next is no heading of the severity.
  cases findings with
  | nil =>
    cases others with
    | nil => exact ⟨rfl, same⟩
    | cons other others => exact absurd (List.cons.inj (List.cons.inj same).2).1 (no_heading _)
  | cons finding findings =>
    cases others with
    | nil => exact absurd (List.cons.inj (List.cons.inj same).2).1.symm (no_heading' _)
    | cons other others =>
      simp only [bucketLines, List.isEmpty_cons, Bool.false_eq_true, if_false, List.cons_append,
        List.cons.injEq, true_and] at same
      obtain ⟨findings_same, rest_same⟩ := findings_injective same.2
      exact ⟨findings_same, by rw [rest_same]⟩

/-- The lines of the severities that are left, and the counts. -/
def linesFrom (file : String) (report : Report) (severities : List Severity) : List String :=
  (severities.flatMap fun severity => bucketLines file severity (report.bucket severity)) ++
    ["", report.summary]

/-- The lines of the severities that are left can follow another severity. -/
theorem endsBucket_linesFrom {file : String} {report : Report} {severity : Severity}
    {severities : List Severity} (other : severity ∉ severities) :
    EndsBucket severity (linesFrom file report severities) := by
  induction severities with
  | nil => exact ⟨report.summary, [], rfl, summary_ne_headingLine report severity⟩
  | cons next severities ih =>
    rw [List.mem_cons, not_or] at other
    rw [linesFrom, List.flatMap_cons, List.append_assoc]
    cases report.bucket next with
    | nil => exact ih other.2
    | cons finding findings =>
      refine ⟨headingLine next (finding :: findings).length, _, rfl, fun count => ?_⟩
      exact headingLine_ne (Ne.symm other.1) _ count

/-- The lines of some severities say what their findings are. -/
theorem bucket_eq_of_linesFrom {file : String} {report other : Report} {severities : List Severity}
    (distinct : severities.Nodup)
    (same : linesFrom file report severities = linesFrom file other severities) :
    ∀ severity ∈ severities, report.bucket severity = other.bucket severity := by
  induction severities with
  | nil => exact fun severity mem => by cases mem
  | cons severity severities ih =>
    rw [List.nodup_cons] at distinct
    rw [linesFrom, linesFrom, List.flatMap_cons, List.flatMap_cons, List.append_assoc,
      List.append_assoc] at same
    obtain ⟨here, later⟩ := bucketLines_injective (endsBucket_linesFrom distinct.1)
      (endsBucket_linesFrom distinct.1) same
    exact List.forall_mem_cons.2 ⟨here, ih distinct.2 later⟩

/-- The lines of a detailed report say what its findings are. -/
theorem detailedLines_injective {file : String} {report other : Report}
    (same : detailedLines file report = detailedLines file other) : report = other :=
  ext_bucket fun severity =>
    bucket_eq_of_linesFrom (by decide) same severity (Severity.mem_all severity)

/-! ## From the text to the lines -/

/-- The line of a nit is one line if its message is. -/
theorem isOneLine_nitText {file : String} (file_on_line : IsOneLine file) {nit : Nit}
    (message : IsOneLine nit.message) : IsOneLine (nitText file nit) := by
  unfold nitText
  split
  next n _ =>
    have opens : IsOneLine "(" := by decide
    have closes : IsOneLine "): " := by decide
    simp only [isOneLine_append]
    exact ⟨⟨⟨⟨file_on_line, opens⟩, isOneLine_toString n⟩, closes⟩, message⟩
  next =>
    have colon : IsOneLine ": " := by decide
    simp only [isOneLine_append]
    exact ⟨⟨file_on_line, colon⟩, message⟩

/-- The counts are on one line. -/
theorem isOneLine_summary (report : Report) : IsOneLine report.summary := by
  have count : ∀ n noun, IsOneLine noun → IsOneLine (countOf n noun) := fun n _ => isOneLine_countOf n
  have found : IsOneLine "Found " := by decide
  have comma : IsOneLine ", " := by decide
  have period : IsOneLine "." := by decide
  simp only [summary, isOneLine_append]
  exact ⟨⟨⟨⟨⟨⟨found, count _ _ (by decide)⟩, comma⟩, count _ _ (by decide)⟩, comma⟩,
    count _ _ (by decide)⟩, period⟩

/-- A heading is on one line. -/
theorem isOneLine_headingLine (severity : Severity) (count : Nat) :
    IsOneLine (headingLine severity count) := by
  have ending : IsOneLine (if count = 1 then "" else "s") := by split <;> decide
  have title : IsOneLine severity.title := by cases severity <;> decide
  have colon : IsOneLine ":" := by decide
  simp only [headingLine, heading, isOneLine_append]
  exact ⟨⟨title, ending⟩, colon⟩

/-- The lines of a finding are lines if its messages are. -/
theorem isOneLine_findingLines {file : String} (file_on_line : IsOneLine file) {finding : Finding}
    (on_lines : finding.IsOnLines) : ∀ line ∈ findingLines file finding, IsOneLine line := by
  have indent : IsOneLine "   " := by decide
  have colon : IsOneLine ":" := by decide
  have empty : IsOneLine "" := by decide
  rw [findingLines, List.forall_mem_cons, List.forall_mem_cons, List.forall_mem_append]
  refine ⟨?_, empty, ?_, ?_⟩
  · simp only [isOneLine_append]
    exact ⟨⟨indent, on_lines.summary⟩, colon⟩
  · intro line mem
    obtain ⟨nit, among, rfl⟩ := List.mem_map.1 mem
    exact isOneLine_nitText file_on_line (on_lines.messages nit among)
  · simpa using empty

/-- The lines of a detailed report are lines if its messages are. -/
theorem isOneLine_detailedLines {file : String} (file_on_line : IsOneLine file) {report : Report}
    (on_lines : report.IsOnLines) : ∀ line ∈ detailedLines file report, IsOneLine line := by
  have empty : IsOneLine "" := by decide
  rw [detailedLines, List.forall_mem_append]
  constructor
  · intro line mem
    obtain ⟨severity, -, mem⟩ := List.mem_flatMap.1 mem
    unfold bucketLines at mem
    split at mem
    · cases mem
    · simp only [List.mem_cons, List.mem_flatMap] at mem
      rcases mem with rfl | rfl | rfl | ⟨finding, among, mem⟩
      · exact empty
      · exact isOneLine_headingLine severity _
      · exact empty
      · exact isOneLine_findingLines file_on_line (on_lines severity finding among) line mem
  · simpa using ⟨empty, isOneLine_summary report⟩

/-- The detailed text loses nothing: under one file name without line feeds, two reports whose
messages hold no line feed and that can be written have different texts unless they are equal. -/
theorem render_detailed_injective {file : String} (file_on_line : IsOneLine file)
    {report other : Report} (on_lines : report.IsOnLines) (other_on_lines : other.IsOnLines)
    (well_formed : report.isWellFormed = true) (other_well_formed : other.isWellFormed = true)
    (same : report.render file true = other.render file true) : report = other := by
  rw [render, if_pos well_formed, render, if_pos other_well_formed, Except.ok.injEq,
    text_detailed, text_detailed] at same
  apply detailedLines_injective
  apply unlines_injective (isOneLine_detailedLines file_on_line on_lines)
    (isOneLine_detailedLines file_on_line other_on_lines) same

/-- A message that imitates the line of a nit, in a report that was filled finding by finding. -/
theorem render_detailed_injective_imitation :
    let finding : Finding := ⟨[⟨none, "(2): Found 1 error"⟩, ⟨some 2, ""⟩], "a.txt: "⟩
    let report : Report := ⟨[finding], [], [finding]⟩
    let other := (Report.empty.push .comment finding).push .error finding
    report.render "a.txt" true = other.render "a.txt" true ∧ report = other := by
  intro finding report other
  have finding_on_lines : finding.IsOnLines := by
    refine ⟨by decide, ?_⟩
    simp only [finding, List.forall_mem_cons]
    exact ⟨by decide, by decide, fun nit mem => by cases mem⟩
  have on_lines : report.IsOnLines := by
    intro severity f mem
    cases severity
    case warning => cases mem
    all_goals exact List.mem_singleton.1 mem ▸ finding_on_lines
  have same : report.render "a.txt" true = other.render "a.txt" true := rfl
  exact ⟨same, render_detailed_injective (by decide) on_lines on_lines (by decide) (by decide) same⟩

end Report

end DraftNits
