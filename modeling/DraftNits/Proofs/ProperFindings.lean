import DraftNits.Proofs.XmlDocumentLines
import DraftNits.Report.Text
import Mathlib.Data.List.Basic

/-! # Findings that can be shown

A finding is proper for a document if none of its messages ends with a period and every line that it
points to is one of the document's. Whatever the document says, also where a message quotes it, the
standard rules make proper findings only, if the document's own line numbers are in order. So they
never fail, and their report can be written.

* `Rules.standard_isSound` — each standard rule makes proper findings on a located document.
* `RuleSet.exists_report_of_isSound` — rules that make proper findings give a proper report.
* `Report.exists_render_of_isProper` — a proper report can be written. -/

namespace DraftNits

/-! ## Messages without a period at the end -/

/-- A message ends like its last part. -/
theorem endsWithPeriod_append (a : String) {b : String} (h : b ≠ "") :
    endsWithPeriod (a ++ b) = endsWithPeriod b := by
  have nonempty : b.toList ≠ [] := by simpa using h
  rw [endsWithPeriod, endsWithPeriod, String.toList_append,
    List.getLast?_append_of_ne_nil _ nonempty]

/-- A message ends without a period if its last part does. -/
theorem endsWithPeriod_append_eq_false (a : String) {b : String}
    (h : b ≠ "" ∧ endsWithPeriod b = false) : endsWithPeriod (a ++ b) = false := by
  rw [endsWithPeriod_append a h.1, h.2]

/-- A number of things ends like the noun for them or in an `s`. -/
theorem endsWithPeriod_countOf (n : Nat) (noun : String) (h : noun ≠ "")
    (fine : endsWithPeriod noun = false) : endsWithPeriod (countOf n noun) = false := by
  unfold countOf
  by_cases one : n = 1
  · rw [if_pos one, String.append_empty, endsWithPeriod_append _ h, fine]
  · rw [if_neg one]
    exact endsWithPeriod_append_eq_false _ (by decide)

/-- The digits of a number end in the last of them. -/
theorem getLast?_toDigits (base : Nat) (h : 1 < base) (n : Nat) :
    (Nat.toDigits base n).getLast? = some (n % base).digitChar := by
  rw [Nat.toDigits_eq_if h]
  by_cases small : n < base
  · rw [if_pos small, Nat.mod_eq_of_lt small]
    rfl
  · rw [if_neg small, List.getLast?_concat]

/-- The name of a character ends in a hexadecimal digit. -/
theorem endsWithPeriod_codePoint (c : Char) : endsWithPeriod (Text.codePoint c) = false := by
  -- Only the last digit counts, and it is one of sixteen.
  have no_period : ∀ d < 16, (Nat.digitChar d).toUpper ≠ '.' := by decide
  have last := getLast?_toDigits 16 (by decide) c.toNat
  have digits : ((Text.hexadecimal c.toNat).map Char.toUpper).getLast? =
      some (Nat.digitChar (c.toNat % 16)).toUpper := by
    rw [List.getLast?_map, Text.hexadecimal, last]
    rfl
  have nonempty : (Text.hexadecimal c.toNat).map Char.toUpper ≠ [] := by
    intro none_left
    rw [none_left] at digits
    cases digits
  rw [endsWithPeriod, Text.codePoint, String.toList_ofList,
    List.getLast?_append_of_ne_nil _ nonempty, digits]
  simpa using no_period _ (Nat.mod_lt _ (by decide))

/-- A date ends in the last digit of its day. -/
theorem endsWithPeriod_dateText (d : Date) : endsWithPeriod d.text = false := by
  have nonempty : Nat.toDigits 10 d.day ≠ [] := Nat.toDigits_ne_nil
  have day : (Text.decimalPadded 2 d.day).getLast? = some (d.day % 10).digitChar := by
    rw [Text.decimalPadded, Text.decimal, List.getLast?_append_of_ne_nil _ nonempty,
      getLast?_toDigits 10 (by decide)]
  have day_nonempty : Text.decimalPadded 2 d.day ≠ [] := by simp [← List.getLast?_isSome, day]
  rw [endsWithPeriod, Date.text, String.toList_ofList, List.append_cons,
    List.getLast?_append_of_ne_nil _ day_nonempty, day]
  simp

/-- A message from which the periods were taken ends with none. -/
theorem endsWithPeriod_withoutPeriods (message : String) :
    endsWithPeriod (Finding.withoutPeriods message) = false := by
  rw [endsWithPeriod, Finding.withoutPeriods, String.toList_ofList, beq_eq_false_iff_ne]
  intro last
  exact absurd (Text.stop_dropEndWhile _ _ '.' last) (by decide)

/-! ## Proper findings -/

/-- Whether a finding can be shown for a document: no message ends with a period, and every line is
one of the document's. -/
structure Finding.IsProper (doc : Document) (finding : Finding) : Prop where
  /-- The summary. -/
  summary : endsWithPeriod finding.summary = false
  /-- The messages of the nits. -/
  messages : ∀ nit ∈ finding.nits, endsWithPeriod nit.message = false
  /-- The lines of the nits. -/
  lines : ∀ nit ∈ finding.nits, ∀ n ∈ nit.line, doc.HasLine n

/-- Whether a check does not fail on a document and all that it finds is proper. -/
def Check.IsSound (check : Check) (doc : Document) (options : Options) : Prop :=
  ∃ findings, check doc options = .ok findings ∧ ∀ finding ∈ findings, finding.IsProper doc

namespace Finding

variable {doc : Document}

/-- A finding of one nit is proper if the nit is. -/
theorem isProper_single {nit : Nit} {summary : String} (fine : endsWithPeriod summary = false)
    (message : endsWithPeriod nit.message = false) (line : ∀ n ∈ nit.line, doc.HasLine n) :
    (single nit summary).IsProper doc :=
  ⟨fine, by simpa [single] using message, by simpa [single] using line⟩

/-- A finding of one nit about no line is proper if its messages are. -/
theorem isProper_general {message summary : String} (fine : endsWithPeriod summary = false)
    (fine_message : endsWithPeriod message = false) :
    (single (.general message) summary).IsProper doc :=
  isProper_single fine fine_message (by simp [Nit.general])

/-- The finding of some nits is proper if the nits are. -/
theorem isProper_ofNits {nits : List Nit} {summary : Nat → String}
    (fine : ∀ n, endsWithPeriod (summary n) = false)
    (nits_fine : ∀ nit ∈ nits,
      endsWithPeriod nit.message = false ∧ ∀ n ∈ nit.line, doc.HasLine n) :
    ∀ finding ∈ ofNits nits summary, finding.IsProper doc := by
  intro finding mem
  unfold ofNits at mem
  split at mem
  · cases mem
  · obtain rfl := List.mem_singleton.1 mem
    exact ⟨fine _, fun nit among => (nits_fine nit among).1,
      fun nit among => (nits_fine nit among).2⟩

end Finding

/-- The number of a line is one that the document has. -/
theorem Document.hasLine_of_mem_numberedLines {doc : Document} {entry : Nat × String}
    (mem : entry ∈ doc.numberedLines) : doc.HasLine entry.1 := by
  have found := mem_numberedLines_iff.1 mem
  exact (isSome_lineAt?_iff doc entry.1).1 (by rw [found]; rfl)

/-! ## The rules -/

namespace Rules

variable {doc : Document} {options : Options}

/-- The rule on the title has one finding, with fixed messages. -/
theorem title_isSound : title.IsSound doc options := by
  refine ⟨_, rfl, ?_⟩
  split
  · simp
  · simpa using Finding.isProper_general (by decide) (by decide)

/-- The rule on draft names points to the line of the draft name and quotes it. -/
theorem draftName_isSound (located : doc.Located) : draftName.IsSound doc options := by
  unfold Check.IsSound draftName
  split
  · exact ⟨_, rfl, by simpa using Finding.isProper_general (by decide) (by decide)⟩
  · refine ⟨_, rfl, ?_⟩
    split
    · simp
    · refine List.forall_mem_singleton.2 (Finding.isProper_single (by decide) ?_ ?_)
      · exact endsWithPeriod_append_eq_false _ (by decide)
      · exact located.front.draftName

/-- The rule on the category has one finding, with fixed messages. -/
theorem category_isSound : category.IsSound doc options := by
  refine ⟨_, rfl, ?_⟩
  split
  · simp
  · simpa using Finding.isProper_general (by decide) (by decide)

/-- The rule on authors points to the lines of authors and names them. -/
theorem authors_isSound (located : doc.Located) : authors.IsSound doc options := by
  refine ⟨_, rfl, ?_⟩
  split
  · simpa using Finding.isProper_general (by decide) (by decide)
  split
  · refine List.forall_mem_singleton.2 ⟨?_, ?_, ?_⟩
    · exact endsWithPeriod_append_eq_false _ (by decide)
    · intro nit mem
      obtain ⟨author, -, rfl⟩ := List.mem_map.1 mem
      exact endsWithPeriod_append_eq_false _ (by decide)
    · intro nit mem
      obtain ⟨author, late, rfl⟩ := List.mem_map.1 mem
      exact located.front.authors author (List.mem_of_mem_drop late)
  · simp

/-- The rule on the abstract has one finding, with fixed messages. -/
theorem abstract_isSound : abstract.IsSound doc options := by
  refine ⟨_, rfl, ?_⟩
  split
  · simp
  · simpa using Finding.isProper_general (by decide) (by decide)

/-- The rule on the vocabulary points to no line; its message may quote the version. -/
theorem xmlVersion_isSound : xmlVersion.IsSound doc options := by
  unfold Check.IsSound xmlVersion
  dsimp only
  split
  · exact ⟨_, rfl, by simpa using Finding.isProper_general (by decide) (by decide)⟩
  · refine ⟨_, rfl, ?_⟩
    split
    · simp
    · refine List.forall_mem_singleton.2 (Finding.isProper_general (by decide) ?_)
      exact endsWithPeriod_append_eq_false _ (by decide)

/-- What is wrong with an expiry ends without a period. -/
theorem endsWithPeriod_expiryProblem? {date expires : Date} {problem : String}
    (h : expiryProblem? date expires = some problem) : endsWithPeriod problem = false := by
  unfold expiryProblem? at h
  dsimp only at h
  split at h
  · cases h
    have nonempty : date.text ≠ "" := by simp [Date.text, ← String.toList_inj]
    exact endsWithPeriod_append_eq_false _ ⟨nonempty, endsWithPeriod_dateText date⟩
  split at h
  · cases h
    exact endsWithPeriod_append_eq_false _ (by decide)
  · cases h

/-- The rule on expiry points to the line of the expiry and may quote it. -/
theorem expiry_isSound (located : doc.Located) : expiry.IsSound doc options := by
  unfold Check.IsSound expiry
  split
  · refine ⟨_, rfl, List.forall_mem_singleton.2 ?_⟩
    split
    · refine Finding.isProper_single (by decide) ?_ located.front.expires
      exact endsWithPeriod_append_eq_false _ (by decide)
    · exact Finding.isProper_general (by decide) (by decide)
  · split
    · exact ⟨[], rfl, by simp⟩
    · refine ⟨_, rfl, Finding.isProper_ofNits (fun _ => by decide) fun nit mem => ?_⟩
      obtain ⟨problem, is_problem, rfl⟩ := List.mem_map.1 mem
      exact ⟨endsWithPeriod_expiryProblem? (Option.mem_toList.1 is_problem), located.front.expires⟩

/-- The rule on citations points to the lines of citations and names them. -/
theorem undefinedCitations_isSound (located : doc.Located) :
    undefinedCitations.IsSound doc options := by
  refine ⟨_, rfl, Finding.isProper_ofNits (fun n => ?_) fun nit mem => ?_⟩
  · exact endsWithPeriod_append_eq_false _ (by decide)
  · obtain ⟨citation, missing, rfl⟩ := List.mem_map.1 mem
    refine ⟨endsWithPeriod_append_eq_false _ (by decide), ?_⟩
    simpa [Nit.onLine] using located.citations citation (List.mem_of_mem_filter missing)

/-- The rule on references points to the lines of references and names them. -/
theorem unusedReferences_isSound (located : doc.Located) :
    unusedReferences.IsSound doc options := by
  refine ⟨_, rfl, Finding.isProper_ofNits (fun n => ?_) fun nit mem => ?_⟩
  · have noun := endsWithPeriod_countOf n "unused reference" (by decide) (by decide)
    -- However many there are, their number is no empty text.
    rw [endsWithPeriod_append, noun]
    simp [countOf]
  · obtain ⟨reference, unused, rfl⟩ := List.mem_map.1 mem
    refine ⟨endsWithPeriod_append_eq_false _ (by decide), ?_⟩
    simpa [Nit.onLine] using located.references reference (List.mem_of_mem_filter unused)

/-- The rule on the required sections points to no line. -/
theorem boilerplate_isSound : boilerplate.IsSound doc options := by
  refine ⟨_, rfl, Finding.isProper_ofNits (fun n => ?_) fun nit mem => ?_⟩
  · have noun := endsWithPeriod_countOf n "required boilerplate section" (by decide)
      (by decide)
    exact endsWithPeriod_append_eq_false _ ⟨by simp [countOf], noun⟩
  · obtain ⟨title, -, rfl⟩ := List.mem_map.1 mem
    exact ⟨endsWithPeriod_append_eq_false _ (by decide), by simp [Nit.general]⟩

/-- A nit for a numbered line points to a line of the document. -/
theorem hasLine_of_mem_onLine {entry : Nat × String} (mem : entry ∈ doc.numberedLines)
    (message : String) : ∀ n ∈ (Nit.onLine entry.1 message).line, doc.HasLine n := by
  intro n is_line
  obtain rfl : entry.1 = n := by simpa [Nit.onLine] using is_line
  exact Document.hasLine_of_mem_numberedLines mem

/-- The rule on the length of lines points to lines that it has looked at. -/
theorem lineLengths_isSound : lineLengths.IsSound doc options := by
  refine ⟨_, rfl, Finding.isProper_ofNits (fun n => ?_) fun nit mem => ?_⟩
  · exact endsWithPeriod_append_eq_false _ (by decide)
  · obtain ⟨entry, among, is_nit⟩ := List.mem_filterMap.1 mem
    dsimp only at is_nit
    split at is_nit
    · cases is_nit
      exact ⟨endsWithPeriod_append_eq_false _ (by decide), hasLine_of_mem_onLine among _⟩
    · cases is_nit

/-- Each page that has lines starts on a line of the document: the current page does, once it has
lines, and the next page starts no later than its first line. -/
theorem start_of_mem_pagesFrom {lineCount number : Nat} {current : Page} {lines : List String}
    (positive : 1 ≤ current.start) (reached : current.start ≤ number)
    (inside : 0 < current.length → current.start ≤ lineCount)
    (count : number + lines.length ≤ lineCount + 1) :
    ∀ page ∈ pagesFrom lineCount number current lines, 0 < page.length →
      1 ≤ page.start ∧ page.start ≤ lineCount := by
  induction lines generalizing number current with
  | nil =>
    intro page mem has_lines
    obtain rfl := List.mem_singleton.1 mem
    exact ⟨positive, inside has_lines⟩
  | cons line rest ih =>
    rw [List.length_cons] at count
    rw [pagesFrom]
    split
    · rw [List.forall_mem_cons]
      refine ⟨fun has_lines => ⟨positive, inside has_lines⟩, ?_⟩
      unfold pageAfterBreak
      split
      · -- After a break on a line of its own the next page has no lines yet.
        exact ih (by simp only; omega) (by simp only; omega) (by simp) (by omega)
      · exact ih (by simp only; omega) (by simp only; omega) (by simp only; omega) (by omega)
    · exact ih positive (by simp only; omega) (by simp only; omega) (by omega)

/-- The rule on the length of pages points to the lines on which pages start. -/
theorem pageLengths_isSound : pageLengths.IsSound doc options := by
  refine ⟨_, rfl, ?_⟩
  split
  · simp
  refine Finding.isProper_ofNits (fun n => ?_) fun nit mem => ?_
  · exact endsWithPeriod_append_eq_false _ (by decide)
  · obtain ⟨⟨page, index⟩, among, is_nit⟩ := List.mem_filterMap.1 mem
    dsimp only at is_nit
    split at is_nit
    next long =>
      cases is_nit
      refine ⟨endsWithPeriod_append_eq_false _ (by decide), fun n is_line => ?_⟩
      obtain rfl : page.start = n := by simpa [Nit.onLine] using is_line
      have listed := List.mem_of_getElem? (List.mem_zipIdx_iff_getElem?.1 among)
      -- A page that is too long has lines, so it starts on one.
      have has_lines : 0 < page.length := by omega
      have count : 1 + doc.lines.length ≤ doc.lineCount + 1 := by
        rw [Document.lineCount]
        omega
      exact start_of_mem_pagesFrom (by simp) (by simp) (by simp) count page
        (List.mem_filter.1 listed).1 has_lines
    next => cases is_nit

/-- The rule on pagination points to lines that it has looked at. -/
theorem pagination_isSound : pagination.IsSound doc options := by
  refine ⟨_, rfl, Finding.isProper_ofNits (fun n => ?_) fun nit mem => ?_⟩
  · exact endsWithPeriod_append_eq_false _ (by decide)
  · obtain ⟨entry, among, is_nit⟩ := List.mem_filterMap.1 mem
    obtain ⟨problem, is_problem, rfl⟩ := Option.map_eq_some_iff.1 is_nit
    refine ⟨?_, hasLine_of_mem_onLine among _⟩
    -- The message is the problem as it is.
    show endsWithPeriod problem = false
    unfold paginationProblem? at is_problem
    split at is_problem
    · cases is_problem
      decide
    split at is_problem
    · cases is_problem
      decide
    · cases is_problem

/-- What is wrong with a character ends without a period. -/
theorem endsWithPeriod_characterProblem? {lenient : Bool} {c : Char} {problem : String}
    (h : characterProblem? lenient c = some problem) : endsWithPeriod problem = false := by
  have named : ∀ label, endsWithPeriod (label ++ Text.codePoint c) = false := fun label =>
    endsWithPeriod_append_eq_false label
      ⟨by simp [Text.codePoint, ← String.toList_inj], endsWithPeriod_codePoint c⟩
  unfold characterProblem? at h
  split at h
  · cases h
  split at h
  · cases h
    decide
  split at h
  · cases h
    exact named _
  split at h
  · cases h
    exact named _
  · cases h

/-- The rule on characters points to lines that it has looked at. -/
theorem characters_isSound : characters.IsSound doc options := by
  refine ⟨_, rfl, Finding.isProper_ofNits (fun n => ?_) fun nit mem => ?_⟩
  · exact endsWithPeriod_append_eq_false _ (by decide)
  · obtain ⟨entry, among, is_nit⟩ := List.mem_filterMap.1 mem
    obtain ⟨problem, is_problem, rfl⟩ := Option.map_eq_some_iff.1 is_nit
    obtain ⟨c, -, is_first⟩ := List.exists_of_findSome?_eq_some is_problem
    exact ⟨endsWithPeriod_characterProblem? is_first, hasLine_of_mem_onLine among _⟩

/-- Each standard rule that is meant for a located document makes proper findings on it. -/
theorem standard_isSound (located : doc.Located) (options : Options) :
    ∀ rule ∈ RuleSet.standard.meantFor doc, ∀ check, rule.check = some check →
      check.IsSound doc options :=
  (RuleSet.forall_meantFor_standard_iff (p := fun _ check => check.IsSound doc options)).2
    ⟨title_isSound, fun _ => draftName_isSound located, fun _ => category_isSound,
      authors_isSound located, abstract_isSound, fun _ => boilerplate_isSound,
      fun _ => lineLengths_isSound, fun _ => pageLengths_isSound, fun _ => pagination_isSound,
      undefinedCitations_isSound located, unusedReferences_isSound located,
      fun _ _ => expiry_isSound located, fun _ => xmlVersion_isSound, fun _ => characters_isSound⟩

end Rules

/-! ## Reports -/

/-- What could not be read of a located document makes a proper finding. -/
theorem Document.Located.isProper_openingFindings {doc : Document} (located : doc.Located) :
    ∀ finding ∈ doc.openingFindings, finding.IsProper doc := by
  unfold openingFindings
  split
  · simp
  · refine List.forall_mem_singleton.2 ⟨?_, ?_, ?_⟩
    · exact endsWithPeriod_append_eq_false _ (by decide)
    · intro nit mem
      obtain ⟨diagnostic, -, rfl⟩ := List.mem_map.1 mem
      exact endsWithPeriod_withoutPeriods diagnostic.message
    · intro nit mem
      obtain ⟨diagnostic, among, rfl⟩ := List.mem_map.1 mem
      exact located.diagnostics diagnostic among

/-- A rule with a sound check keeps to the document. -/
theorem Rule.keepsTo_of_isSound {rule : Rule} {doc : Document} {options : Options}
    (written : rule.check.isSome = true)
    (sound : ∀ check, rule.check = some check → check.IsSound doc options) :
    rule.KeepsTo doc options := by
  obtain ⟨check, is_check⟩ := Option.isSome_iff_exists.1 written
  obtain ⟨findings, done, proper⟩ := sound check is_check
  refine ⟨check, findings, is_check, done, fun finding mem number is_line => ?_⟩
  obtain ⟨nit, among, points⟩ := List.mem_filterMap.1 is_line
  exact (proper finding mem).lines nit among number points

/-- A rule with a sound check reports proper findings. -/
theorem Rule.isProper_of_mem_reported {rule : Rule} {doc : Document} {options : Options}
    (sound : ∀ check, rule.check = some check → check.IsSound doc options) :
    ∀ finding ∈ rule.reported doc options, finding.IsProper doc := by
  unfold reported
  split
  · simp
  next check is_check =>
    obtain ⟨findings, done, proper⟩ := sound check is_check
    rw [done]
    exact proper

/-- Sound rules give a report on a located document, and all of its findings are proper. -/
theorem RuleSet.exists_report_of_isSound {set : RuleSet} {doc : Document} {options : Options}
    (sound : ∀ rule ∈ set.meantFor doc, ∀ check, rule.check = some check →
      check.IsSound doc options)
    (located : doc.Located) :
    ∃ report, set.check doc options = .ok report ∧
      ∀ severity, ∀ finding ∈ report.bucket severity, finding.IsProper doc := by
  have keeps : ∀ rule ∈ set.meantFor doc, rule.KeepsTo doc options := fun rule mem =>
    Rule.keepsTo_of_isSound (isSome_check_of_mem_meantFor mem) (sound rule mem)
  obtain ⟨report, holds⟩ := Report.exists_bucket fun severity =>
    (if severity = .error then doc.openingFindings else []) ++
      reportedWith doc options severity (set.meantFor doc)
  refine ⟨report, check_eq_ok_iff.2 ⟨keeps, holds⟩, fun severity finding mem => ?_⟩
  rw [holds] at mem
  -- A finding is about what could not be read, or a rule reported it.
  rcases List.mem_append.1 mem with opening | reported
  · split at opening
    · exact located.isProper_openingFindings finding opening
    · cases opening
  · obtain ⟨rule, among, found⟩ := List.mem_flatMap.1 reported
    have meant := List.mem_of_mem_filter among
    exact Rule.isProper_of_mem_reported (sound rule meant) finding found

/-- A report of proper findings can be written. -/
theorem Report.exists_render_of_isProper {report : Report} {doc : Document}
    (proper : ∀ severity, ∀ finding ∈ report.bucket severity, finding.IsProper doc)
    (file : String) (verbose : Bool) : ∃ out, report.render file verbose = .ok out := by
  have well_formed : ∀ severity, (report.bucket severity).all Finding.isWellFormed = true := by
    intro severity
    refine List.all_eq_true.2 fun finding mem => ?_
    have fine := proper severity finding mem
    have messages : ∀ nit ∈ finding.nits, (!endsWithPeriod nit.message) = true := fun nit among =>
      by rw [fine.messages nit among]; rfl
    simpa [Finding.isWellFormed, fine.summary] using messages
  refine ⟨_, render_eq_ok_iff.2 ⟨?_, rfl⟩⟩
  rw [isWellFormed, Bool.and_eq_true, Bool.and_eq_true]
  exact ⟨⟨well_formed .error, well_formed .warning⟩, well_formed .comment⟩

end DraftNits
