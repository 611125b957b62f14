import DraftNits.Proofs.LenientMode

/-! # What the mode decides

The mode decides how text is taken in, and then only which of two rules looks at its pages. In
lenient mode a document is read as in normal mode. In submission mode it differs in its format
alone, and only if it is text (`Document.inSubmission`). No standard rule asks for the format: the
format says which rules count, and two of them count for one format of text but not for the other.

* `readText_submission_eq_map` — submission mode takes in the same texts, as documents that differ
  in their format.
* `RuleSet.exists_split_standard` — the standard rules but two are meant for both formats of text or
  for none.
* `RuleSet.submission_changes_pages_only` — the reports of the two modes differ in the findings of
  these two rules. -/

namespace DraftNits

/-! ## Documents in submission mode -/

/-- The format that submission mode gives to what normal mode reads in a format. -/
def SourceFormat.inSubmission : SourceFormat → SourceFormat
  | .paginated => .submission
  | .submission => .submission
  | .xml => .xml

/-- A document as submission mode takes it in. -/
def Document.inSubmission (doc : Document) : Document :=
  { doc with format := doc.format.inSubmission }

/-- A document in XML is the same in submission mode. -/
theorem Document.inSubmission_of_xml {doc : Document} (is_xml : doc.format = .xml) :
    doc.inSubmission = doc := by
  rcases doc with ⟨path, format, kind, lines, front, sections, references, citations, diagnostics⟩
  cases is_xml
  rfl

/-- Submission mode tells the format of a text as normal mode does, and then changes it. -/
theorem detectFormat_submission (text : List Char) :
    detectFormat .submission text = (detectFormat .normal text).inSubmission := by
  unfold detectFormat
  dsimp only
  split
  · rfl
  · rfl

/-- Normal mode takes no text as text for submission. -/
theorem detectFormat_normal_ne_submission (text : List Char) :
    detectFormat .normal text ≠ .submission := by
  unfold detectFormat
  dsimp only
  split
  · exact nofun
  · exact nofun

/-- Submission mode takes in the texts that normal mode takes in, and refuses the others for the
same reason. The documents differ in their format only, and only if it is that of text. -/
theorem readText_submission_eq_map (path : String) (text : List Char) :
    readText path .submission text = (readText path .normal text).map Document.inSubmission := by
  simp only [readText, detectFormat_submission]
  split
  · rfl
  split
  · rfl
  cases format : detectFormat .normal (dropMark text) with
  | paginated => rfl
  | submission => exact absurd format (detectFormat_normal_ne_submission _)
  | xml =>
    cases read : RfcXml.readDocument path (dropMark text) (Text.splitLines (dropMark text)) with
    | error name => simp [SourceFormat.inSubmission, Except.mapError, Except.map]
    | ok doc =>
      have same := Document.inSubmission_of_xml (RfcXml.format_readDocument read)
      simp [SourceFormat.inSubmission, Except.mapError, Except.map, same]

/-- Normal mode takes in no document as one for submission. -/
theorem format_readText_normal_ne_submission {path : String} {text : List Char} {doc : Document}
    (done : readText path .normal text = .ok doc) : doc.format ≠ .submission := by
  rcases readText_cases done with ⟨-, read⟩ | ⟨-, rfl⟩
  · rw [RfcXml.format_readDocument read]
    exact nofun
  · exact detectFormat_normal_ne_submission _

/-! ## Rules in both modes -/

/-- Nits make one finding at most. -/
theorem Finding.length_ofNits_le_one (nits : List Nit) (summary : Nat → String) :
    (ofNits nits summary).length ≤ 1 := by
  unfold ofNits
  split
  · exact Nat.zero_le 1
  · exact Nat.le_refl 1

/-- The rule on the length of pages has one finding at most. -/
theorem Rules.exists_pageLengths (doc : Document) (options : Options) :
    ∃ pages, pageLengths doc options = .ok pages ∧ pages.length ≤ 1 := by
  refine ⟨_, rfl, ?_⟩
  split
  · exact Nat.zero_le 1
  · exact Finding.length_ofNits_le_one _ _

/-- The rule on pagination has one finding at most. -/
theorem Rules.exists_pagination (doc : Document) (options : Options) :
    ∃ breaks, pagination doc options = .ok breaks ∧ breaks.length ≤ 1 :=
  ⟨_, rfl, Finding.length_ofNits_le_one _ _⟩

namespace RuleSet

variable {doc : Document} {options : Options}

/-- The findings with a severity that some rules make on a document, those left out that are not
meant for it. -/
def foundAmong (doc : Document) (options : Options) (severity : Severity) (rules : List Rule) :
    List Finding :=
  reportedWith doc options severity (rules.filter fun rule => rule.IsMeantFor doc)

/-- A report holds what the rules of its set find, the errors after what could not be read. -/
theorem bucket_eq_foundAmong {set : RuleSet} {report : Report}
    (checked : set.check doc options = .ok report) (severity : Severity) :
    report.bucket severity =
      (if severity = .error then doc.openingFindings else []) ++
        foundAmong doc options severity set.rules :=
  (check_eq_ok_iff.1 checked).2 severity

/-- Rules find what each part of them finds. -/
theorem foundAmong_append (severity : Severity) (rules rest : List Rule) :
    foundAmong doc options severity (rules ++ rest) =
      foundAmong doc options severity rules ++ foundAmong doc options severity rest := by
  simp only [foundAmong, reportedWith, List.filter_append, List.flatMap_append]

/-- A rule that is not meant for a document finds nothing in it. -/
theorem foundAmong_singleton_of_not_isMeantFor {rule : Rule} (other : ¬ rule.IsMeantFor doc)
    (severity : Severity) : foundAmong doc options severity [rule] = [] := by
  simp [foundAmong, reportedWith, other]

/-- A rule on its own finds what its check does, on the documents that it is meant for. -/
theorem foundAmong_singleton {rule : Rule} {check : Check} {findings : List Finding} {p : Prop}
    [Decidable p] (is_check : rule.check = some check) (done : check doc options = .ok findings)
    (meant : rule.IsMeantFor doc ↔ p) (severity : Severity) :
    foundAmong doc options severity [rule] =
      if p ∧ severity = rule.severity then findings else [] := by
  have reported : rule.reported doc options = findings := by
    simp only [Rule.reported, is_check, done]
  by_cases holds : p
  · have alone : foundAmong doc options severity [rule] =
        if rule.severity = severity then findings else [] := by
      rw [foundAmong, List.filter_singleton, decide_eq_true (meant.2 holds), cond_true,
        reportedWith_cons, reported]
      exact List.append_nil _
    rw [alone]
    simp only [holds, true_and, eq_comm]
  · rw [foundAmong_singleton_of_not_isMeantFor (mt meant.1 holds), if_neg fun both => holds both.1]

/-- No standard rule asks for the format of a document, and none tells submission mode from normal
mode. -/
theorem reported_inSubmission (doc : Document) (options : Options) :
    ∀ rule ∈ standard.rules,
      rule.reported doc.inSubmission (options.withMode .submission) =
        rule.reported doc (options.withMode .normal) := by
  simp only [standard, Rules.standard, List.forall_mem_cons, List.not_mem_nil, false_imp_iff,
    implies_true, and_true]
  exact ⟨rfl, rfl, rfl, rfl, rfl, rfl, rfl, rfl, rfl, rfl, rfl, rfl, rfl, rfl, rfl, rfl⟩

/-- Of the standard rules one is meant for text with pages only, the next one for text for
submission only, and each of the others for both or for none. -/
theorem exists_split_standard :
    ∃ front pageLengths pagination back,
      standard.rules = front ++ (pageLengths :: pagination :: back) ∧
      (pageLengths.check = some Rules.pageLengths ∧ pageLengths.severity = .warning ∧
        ∀ doc, pageLengths.IsMeantFor doc ↔ doc.format = .paginated) ∧
      (pagination.check = some Rules.pagination ∧ pagination.severity = .warning ∧
        ∀ doc, pagination.IsMeantFor doc ↔ doc.format = .submission) ∧
      ∀ rule ∈ front ++ back, ∀ doc, doc.format ≠ .submission →
        (rule.IsMeantFor doc.inSubmission ↔ rule.IsMeantFor doc) := by
  refine ⟨standard.rules.take 7, standard.rules[7], standard.rules[8], standard.rules.drop 9, rfl,
    ⟨rfl, rfl, fun doc => ?_⟩, ⟨rfl, rfl, fun doc => ?_⟩, ?_⟩
  · exact ⟨fun meant => meant.2.1, fun is_format => ⟨rfl, is_format, trivial⟩⟩
  · exact ⟨fun meant => meant.2.1, fun is_format => ⟨rfl, is_format, trivial⟩⟩
  · have both : ∀ rule ∈ standard.rules.take 7 ++ standard.rules.drop 9,
        (rule.formats.Admits .submission ↔ rule.formats.Admits .paginated) := by decide
    intro rule mem doc not_submission
    have same := both rule mem
    simp only [Rule.IsMeantFor, Document.inSubmission]
    cases format : doc.format with
    | xml => rfl
    | paginated => rw [SourceFormat.inSubmission, same]
    | submission => exact absurd format not_submission

/-- Rules that are meant for the same documents and report the same find the same. -/
theorem foundAmong_congr {other : Document} {options' : Options} {rules : List Rule}
    (meant : ∀ rule ∈ rules, (rule.IsMeantFor other ↔ rule.IsMeantFor doc))
    (reported : ∀ rule ∈ rules, rule.reported other options' = rule.reported doc options)
    (severity : Severity) :
    foundAmong other options' severity rules = foundAmong doc options severity rules := by
  have same_rules : (rules.filter fun rule => rule.IsMeantFor other) =
      rules.filter fun rule => rule.IsMeantFor doc :=
    List.filter_congr fun rule mem => by rw [decide_eq_decide, meant rule mem]
  rw [foundAmong, foundAmong, same_rules, reportedWith, reportedWith]
  refine List.flatMap_congr fun rule mem => reported rule ?_
  exact List.mem_of_mem_filter (List.mem_of_mem_filter mem)

/-- The reports of both modes have the same findings of each severity, except that the warnings on
text hold the finding on long pages in normal mode and the one on page breaks in submission mode,
both in the same place. -/
theorem exists_bucket_split {pages breaks : List Finding} {normal submission : Report}
    (found_pages : Rules.pageLengths doc (options.withMode .normal) = .ok pages)
    (found_breaks :
      Rules.pagination doc.inSubmission (options.withMode .submission) = .ok breaks)
    (normal_checked : standard.check doc (options.withMode .normal) = .ok normal)
    (submission_checked :
      standard.check doc.inSubmission (options.withMode .submission) = .ok submission)
    (not_submission : doc.format ≠ .submission) (severity : Severity) :
    ∃ before after,
      normal.bucket severity =
        before ++ (if doc.format = .paginated ∧ severity = .warning then pages else []) ++ after ∧
      submission.bucket severity =
        before ++ (if doc.format = .paginated ∧ severity = .warning then breaks else []) ++
          after := by
  obtain ⟨front, page_rule, break_rule, back, split, ⟨page_check, page_severity, page_meant⟩,
    ⟨break_check, break_severity, break_meant⟩, others⟩ := exists_split_standard
  have reported := reported_inSubmission doc options
  rw [split, List.forall_mem_append, List.forall_mem_cons, List.forall_mem_cons] at reported
  obtain ⟨front_reported, -, -, back_reported⟩ := reported
  rw [List.forall_mem_append] at others
  -- What comes before the two rules, and what comes after them, is found in both modes.
  have same_front := foundAmong_congr (fun rule mem => others.1 rule mem doc not_submission)
    front_reported severity
  have same_back := foundAmong_congr (fun rule mem => others.2 rule mem doc not_submission)
    back_reported severity
  have parts : ∀ doc options, foundAmong doc options severity standard.rules =
      foundAmong doc options severity front ++ (foundAmong doc options severity [page_rule] ++
        (foundAmong doc options severity [break_rule] ++
          foundAmong doc options severity back)) := by
    intro doc options
    rw [split, ← foundAmong_append, ← foundAmong_append, ← foundAmong_append]
    rfl
  -- Of the two rules each mode has one, on text.
  have submission_format : doc.inSubmission.format = .submission ↔ doc.format = .paginated := by
    show doc.format.inSubmission = .submission ↔ doc.format = .paginated
    cases format : doc.format with
    | xml => simp [SourceFormat.inSubmission]
    | paginated => simp [SourceFormat.inSubmission]
    | submission => exact absurd format not_submission
  have no_pages : ¬ break_rule.IsMeantFor doc ∧ ¬ page_rule.IsMeantFor doc.inSubmission := by
    rw [break_meant, page_meant]
    refine ⟨not_submission, ?_⟩
    show doc.format.inSubmission ≠ .paginated
    cases doc.format <;> exact nofun
  have only_pages := foundAmong_singleton page_check found_pages (page_meant doc) severity
  have only_breaks := foundAmong_singleton break_check found_breaks
    ((break_meant _).trans submission_format) severity
  rw [page_severity] at only_pages
  rw [break_severity] at only_breaks
  refine ⟨(if severity = .error then doc.openingFindings else []) ++
      foundAmong doc (options.withMode .normal) severity front,
    foundAmong doc (options.withMode .normal) severity back, ?_, ?_⟩
  · rw [bucket_eq_foundAmong normal_checked, parts, only_pages,
      foundAmong_singleton_of_not_isMeantFor no_pages.1]
    simp only [List.nil_append, List.append_assoc]
  · rw [bucket_eq_foundAmong submission_checked, parts, only_breaks, same_front, same_back,
      foundAmong_singleton_of_not_isMeantFor no_pages.2]
    simp only [List.nil_append, List.append_assoc]
    rfl

/-- Lenient mode takes in a text as normal mode does, and so does submission mode but for the format
of text. On every document both normal and submission mode have a report, with the same errors and
comments. For XML the reports are equal. For text the warnings are equal once the finding on long
pages is taken out in normal mode and the finding on page breaks in submission mode. -/
theorem submission_changes_pages_only (path : String) (text : List Char) (options : Options) :
    readText path .lenient text = readText path .normal text ∧
    readText path .submission text = (readText path .normal text).map Document.inSubmission ∧
    ∀ doc, readText path .normal text = .ok doc →
      ∃ normal submission,
        standard.check doc (options.withMode .normal) = .ok normal ∧
        standard.check doc.inSubmission (options.withMode .submission) = .ok submission ∧
        submission.errors = normal.errors ∧ submission.comments = normal.comments ∧
        (doc.format = .xml → doc.inSubmission = doc ∧ submission = normal) ∧
        (doc.format ≠ .xml → ∃ before pages breaks after,
          Rules.pageLengths doc (options.withMode .normal) = .ok pages ∧ pages.length ≤ 1 ∧
          Rules.pagination doc.inSubmission (options.withMode .submission) = .ok breaks ∧
          breaks.length ≤ 1 ∧
          normal.warnings = before ++ pages ++ after ∧
          submission.warnings = before ++ breaks ++ after) := by
  refine ⟨readText_lenient_eq_normal path text, readText_submission_eq_map path text,
    fun doc read => ?_⟩
  have submission_read : readText path .submission text = .ok doc.inSubmission := by
    rw [readText_submission_eq_map, read]
    rfl
  have located := located_readText read
  have submission_located := located_readText submission_read
  obtain ⟨normal, normal_checked, -⟩ := exists_report_of_isSound
    (Rules.standard_isSound located (options.withMode .normal)) located
  obtain ⟨submission, submission_checked, -⟩ := exists_report_of_isSound
    (Rules.standard_isSound submission_located (options.withMode .submission)) submission_located
  have not_submission := format_readText_normal_ne_submission read
  obtain ⟨pages, found_pages, one_page⟩ :=
    Rules.exists_pageLengths doc (options.withMode .normal)
  obtain ⟨breaks, found_breaks, one_break⟩ :=
    Rules.exists_pagination doc.inSubmission (options.withMode .submission)
  have split := exists_bucket_split found_pages found_breaks normal_checked submission_checked
    not_submission
  -- Where no finding of the two rules stands, the parts before and after it are all there is.
  have same : ∀ severity, ¬ (doc.format = .paginated ∧ severity = .warning) →
      submission.bucket severity = normal.bucket severity := by
    intro severity other
    obtain ⟨before, after, in_normal, in_submission⟩ := split severity
    rw [in_normal, in_submission, if_neg other, if_neg other]
  refine ⟨normal, submission, normal_checked, submission_checked, same .error nofun,
    same .comment nofun, fun is_xml => ⟨Document.inSubmission_of_xml is_xml, ?_⟩,
    fun is_text => ?_⟩
  · refine Report.ext_bucket fun severity => same severity fun both => ?_
    rw [is_xml] at both
    exact nomatch both.1
  · have paginated : doc.format = .paginated := by
      cases format : doc.format with
      | xml => exact absurd format is_text
      | paginated => rfl
      | submission => exact absurd format not_submission
    obtain ⟨before, after, in_normal, in_submission⟩ := split .warning
    rw [if_pos ⟨paginated, rfl⟩] at in_normal in_submission
    exact ⟨before, pages, breaks, after, found_pages, one_page, found_breaks, one_break,
      in_normal, in_submission⟩

/-- A form feed is a warning in submission mode and none in normal mode; the errors are the same. -/
theorem submission_changes_pages_only_formFeed :
    ∃ doc normal submission, readText "draft.txt" .normal "a\x0c".toList = .ok doc ∧
      standard.check doc (.ofMode .normal) = .ok normal ∧
      standard.check doc.inSubmission (.ofMode .submission) = .ok submission ∧
      submission.errors = normal.errors ∧
      submission.warnings.length = normal.warnings.length + 1 := by
  have read : readText "draft.txt" .normal "a\x0c".toList =
      .ok (PlainText.readDocument "draft.txt" .paginated ["a\x0c".toList]) := by decide +kernel
  obtain ⟨-, -, reports⟩ :=
    submission_changes_pages_only "draft.txt" "a\x0c".toList (.ofMode .normal)
  obtain ⟨normal, submission, normal_checked, submission_checked, errors, -, -, warnings⟩ :=
    reports _ read
  refine ⟨_, normal, submission, read, normal_checked, submission_checked, errors, ?_⟩
  obtain ⟨before, pages, breaks, after, found_pages, -, found_breaks, -, in_normal,
    in_submission⟩ := warnings nofun
  have no_pages : pages = [] := Except.ok.inj (found_pages.symm.trans (by decide +kernel))
  have one_break : breaks.length = 1 := by
    rw [Except.ok.inj (found_breaks.symm.trans rfl)]
    decide +kernel
  rw [in_normal, in_submission, no_pages]
  simp only [List.length_append, one_break, List.length_nil]
  omega

end RuleSet

end DraftNits
