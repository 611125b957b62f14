import DraftNits.Proofs.AttributeValues
import DraftNits.Proofs.EndToEnd
import DraftNits.Proofs.ExpiryFields
import DraftNits.Proofs.Recognition

/-! # Reports with one line for each nit

In the detailed text of a report each nit should have a line of its own. It has, unless its message
quotes a line feed from the document, and which documents make a message do so depends on their
form: no text document does; an XML document does only where it refers to a line feed by its number;
and a malformed one does exactly if the words for its syntax error do, which show the character at
which reading stopped.

* `Document.Traced.isOneLine` — what comes from a line is on one line.
* `PlainText.quotesOnLines_readDocument`, `RfcXml.quotesOnLines_recover_iff` — text documents and
  malformed ones; XML documents are in `RfcXml.quotesOnLines_ofRoot`.
* `readBytes_isOnLines` — the report on any bytes. -/

namespace DraftNits

/-! ## Texts that come from lines -/

/-- The lines of a text hold no line feeds. -/
theorem isOneLine_of_mem_splitLines {text : List Char} :
    ∀ line ∈ (Text.splitLines text).map String.ofList, IsOneLine line := by
  rw [List.forall_mem_map]
  intro line is_line mem
  rw [String.toList_ofList] at mem
  exact (Text.mem_of_mem_splitLines is_line mem).2 rfl

namespace Document

variable {doc : Document}

/-- What a document shows on a line has no line feed if the lines have none. -/
theorem Shows.notMem {number : Nat} {text : List Char} (shown : doc.Shows number text)
    (on_lines : ∀ line ∈ doc.lines, IsOneLine line) : '\n' ∉ text := by
  obtain ⟨line, at_line, is_part⟩ := shown
  cases number with
  | zero => cases at_line
  | succ n =>
    rw [lineAt?_succ] at at_line
    exact fun mem => on_lines line (List.mem_of_getElem? at_line) (is_part.subset mem)

/-- What comes from the lines of a document is on one line: its name, its authors, and the anchors
of references and citations. -/
theorem Traced.isOneLine {written : String → List Char} (traced : doc.Traced written)
    (keeps : ∀ anchor, anchor.toList ⊆ written anchor)
    (on_lines : ∀ line ∈ doc.lines, IsOneLine line) :
    (∀ name ∈ doc.front.draftName, IsOneLine name) ∧
      (∀ author ∈ doc.front.authors, IsOneLine author.name) ∧
      (∀ r ∈ doc.references, IsOneLine r.anchor) ∧ ∀ c ∈ doc.citations, IsOneLine c.anchor := by
  refine ⟨fun name is_name => ?_, fun author mem => ?_, fun r mem newline => ?_,
    fun c mem newline => ?_⟩
  · have has_line := traced.hasDraftName
    rw [Option.mem_def.1 is_name, Option.isSome_some] at has_line
    obtain ⟨n, is_line⟩ := Option.isSome_iff_exists.1 has_line.symm
    exact (traced.draftName name is_name n is_line).notMem on_lines
  · obtain ⟨n, -, shown⟩ := traced.authors author mem
    exact shown.notMem on_lines
  · exact (traced.references r mem).notMem on_lines (keeps _ newline)
  · exact (traced.citations c mem).notMem on_lines (keeps _ newline)

end Document

/-! ## Text documents -/

namespace PlainText

/-- Whether the words for the expiry, where it is no date, are on one line. -/
def Expiry.IsOnLine (expiry : Expiry) : Prop := ∀ text ∈ expiry.text, IsOneLine text

/-- The words for the expiry are those behind a label on a line. -/
theorem Expiry.IsOnLine.readField {expiry : Expiry} (on_line : expiry.IsOnLine) (number : Nat)
    {value : List Char} (value_on_line : '\n' ∉ value) :
    (expiry.readField number value).IsOnLine := by
  unfold Expiry.readField
  split
  · exact on_line
  · intro text is_text newline
    obtain rfl := Option.some.inj is_text
    rw [String.toList_ofList] at newline
    exact value_on_line ((Text.trim_isInfix value).subset newline)

/-- A line of the body gives the expiry a date, or leaves it as it is. -/
theorem Expiry.IsOnLine.readText {expiry : Expiry} (on_line : expiry.IsOnLine) (number : Nat)
    (line : List Char) : (expiry.readText number line).IsOnLine := by
  unfold Expiry.readText
  split
  · exact on_line
  split
  · exact fun text is_text => by cases is_text
  · exact on_line

/-- The expiry after a line of the header. -/
theorem Header.isOnLine_readLine {header : Header} (on_line : header.expiry.IsOnLine)
    (number : Nat) {cs : List Char} (cs_on_line : '\n' ∉ cs) :
    (header.readLine number cs).expiry.IsOnLine := by
  rw [Header.expiry_readLine]
  cases is_value : Header.expiryValue? cs with
  | none => exact on_line
  | some value =>
    refine on_line.readField number fun newline => cs_on_line ?_
    exact (Header.isInfix_of_expiryValue? is_value).subset newline

/-- The expiry after the lines of the header. -/
theorem Header.isOnLine_readLines {header : Header} (on_line : header.expiry.IsOnLine)
    (number : Nat) {block : List (List Char)} (on_lines : ∀ cs ∈ block, '\n' ∉ cs) :
    (header.readLines number block).expiry.IsOnLine := by
  induction block generalizing header number with
  | nil => exact on_line
  | cons cs rest ih =>
    rw [List.forall_mem_cons] at on_lines
    rw [Header.readLines]
    exact ih (Header.isOnLine_readLine on_line number on_lines.1) (number + 1) on_lines.2

/-- The expiry on the first page. -/
theorem FrontPage.isOnLine_ofLines {lines : List (List Char)} (on_lines : ∀ cs ∈ lines, '\n' ∉ cs) :
    (FrontPage.ofLines lines).header.expiry.IsOnLine := by
  have nothing : Header.empty.expiry.IsOnLine := fun text is_text => by cases is_text
  rcases FrontPage.header_ofLines lines with is_empty | ⟨start, is_block⟩
  · rw [is_empty]
    exact nothing
  · rw [is_block]
    refine Header.isOnLine_readLines nothing _ fun cs mem => ?_
    exact on_lines cs (List.mem_of_mem_drop ((List.takeWhile_prefix _).subset mem))

/-- What is missing in a header block is said in fixed texts. -/
theorem FrontPage.isOneLine_of_mem_headerDiagnostics {line lineCount : Nat} {found : Bool}
    {header : Header} :
    ∀ d ∈ headerDiagnostics line lineCount found header, IsOneLine d.message := by
  intro d mem
  unfold headerDiagnostics at mem
  split at mem
  · rw [List.mem_singleton.1 mem, Diagnostic.message_near]
    decide
  split at mem
  · rw [List.mem_singleton.1 mem, Diagnostic.message_near]
    decide
  · cases mem

/-- The diagnostics of a text document are fixed texts. -/
theorem FrontPage.isOneLine_of_mem_diagnostics {lines : List (List Char)} :
    ∀ d ∈ (FrontPage.ofLines lines).diagnostics, IsOneLine d.message := by
  unfold FrontPage.ofLines
  dsimp only
  split
  · exact fun d mem => by cases mem
  · exact FrontPage.isOneLine_of_mem_headerDiagnostics

/-- Of a text document a report quotes what comes from its lines, and so nothing with a line
feed. -/
theorem quotesOnLines_readDocument (path : String) {format : SourceFormat}
    (is_text : format ≠ .xml) (text : List Char) (mode : Mode) :
    (readDocument path format (Text.splitLines text)).QuotesOnLines mode := by
  have on_lines : ∀ cs ∈ Text.splitLines text, '\n' ∉ cs := fun cs is_line mem =>
    (Text.mem_of_mem_splitLines is_line mem).2 rfl
  have keeps : ∀ anchor : String, anchor.toList ⊆ bracketed anchor.toList := by
    intro anchor c mem
    exact List.mem_cons_of_mem _ (List.mem_append_left _ mem)
  obtain ⟨draft_name, authors, references, citations⟩ :=
    (traced_readDocument path format (Text.splitLines text)).1.isOneLine keeps
      isOneLine_of_mem_splitLines
  exact {
    diagnostics := fun d mem => (FrontPage.isOneLine_of_mem_diagnostics d mem).withoutPeriods
    draftName := fun _ => draft_name
    authors := fun _ author mem => authors author (List.mem_of_mem_drop mem)
    citations := fun c mem _ => citations c mem
    references := fun r mem _ _ => references r mem
    expiry := fun _ _ _ =>
      Body.expiry_ofLines (FrontPage.isOnLine_ofLines on_lines) Expiry.IsOnLine.readText _ _
    version := fun is_xml => absurd is_xml is_text }

end PlainText

/-! ## Malformed documents -/

namespace RfcXml

/-- The version that is saved of a line is on one line. -/
theorem Recovered.isOneLine_version_readLine {saved : Recovered}
    (on_line : ∀ version ∈ saved.front.xmlVersion, IsOneLine version) (number : Nat)
    {line : List Char} (line_on_line : '\n' ∉ line) :
    ∀ version ∈ (saved.readLine number line).front.xmlVersion, IsOneLine version := by
  have of_root : ∀ version ∈ (Recovered.readRoot saved.front number line).xmlVersion,
      IsOneLine version := by
    unfold Recovered.readRoot
    cases is_version : firstAttribute? "version" line with
    | none =>
      cases firstAttribute? "docName" line <;> cases firstNumber? "number" line <;> exact on_line
    | some version =>
      intro found is_found newline
      obtain rfl := Option.some.inj is_found
      rw [String.toList_ofList] at newline
      exact line_on_line ((firstAttribute?_isInfix is_version).subset newline)
  dsimp only [Recovered.readLine, Recovered.readFront]
  split
  · exact of_root
  · exact on_line

/-- The version that is saved of lines is on one line. -/
theorem Recovered.isOneLine_version_readLines {saved : Recovered}
    (on_line : ∀ version ∈ saved.front.xmlVersion, IsOneLine version) (number : Nat)
    {text : List (List Char)} (on_lines : ∀ cs ∈ text, '\n' ∉ cs) :
    ∀ version ∈ (saved.readLines number text).front.xmlVersion, IsOneLine version := by
  induction text generalizing saved number with
  | nil => exact on_line
  | cons line rest ih =>
    rw [List.forall_mem_cons] at on_lines
    rw [Recovered.readLines]
    exact ih (Recovered.isOneLine_version_readLine on_line number on_lines.1) (number + 1)
      on_lines.2

/-- Of a malformed document a report quotes what comes from its lines, and the words for its syntax
error: it is the latter that decide. -/
theorem quotesOnLines_recover_iff (path : String) (text : List Char) (error : Xml.SyntaxError)
    (mode : Mode) :
    (recover path (Text.splitLines text)
        (syntaxDiagnostic (Text.splitLines text).length error)).QuotesOnLines mode ↔
      IsOneLine (Finding.withoutPeriods error.message) := by
  have on_lines : ∀ cs ∈ Text.splitLines text, '\n' ∉ cs := fun cs is_line mem =>
    (Text.mem_of_mem_splitLines is_line mem).2 rfl
  have words : (syntaxDiagnostic (Text.splitLines text).length error).message = error.message :=
    Diagnostic.message_near _ _ _
  constructor
  · intro quotes
    have of_error := quotes.diagnostics _ List.mem_cons_self
    rwa [words] at of_error
  · intro of_error
    obtain ⟨draft_name, authors, references, citations⟩ :=
      (traced_recover path (Text.splitLines text)
        (syntaxDiagnostic (Text.splitLines text).length error)).isOneLine
        (fun anchor c mem => mem) isOneLine_of_mem_splitLines
    exact {
      diagnostics := by
        intro d mem
        rw [List.mem_singleton.1 mem, words]
        exact of_error
      draftName := fun _ => draft_name
      authors := fun _ author mem => authors author (List.mem_of_mem_drop mem)
      citations := fun c mem _ => citations c mem
      references := fun r mem _ _ => references r mem
      expiry := fun not_xml => absurd rfl not_xml
      version := by
        intro _ version is_version newline
        refine Recovered.isOneLine_version_readLines ?_ 1 on_lines version is_version
          ((Text.trim_isInfix version.toList).subset newline)
        exact fun version is_version => by cases is_version }

end RfcXml

/-! ## Reports -/

/-- A line is a part of the text of the lines, with the line feed that ends it. -/
theorem isInfix_unlines {lines : List String} {line : String} (mem : line ∈ lines) :
    (line ++ "\n").toList <:+: (unlines lines).toList := by
  obtain ⟨before, after, rfl⟩ := List.append_of_mem mem
  refine ⟨(unlines before).toList, (unlines after).toList, ?_⟩
  rw [unlines_append, unlines_cons]
  simp only [String.toList_append, List.append_assoc]

/-- Every nit of a report has a line in its detailed text. -/
theorem Report.nitText_mem_detailedLines (file : String) {report : Report} {severity : Severity}
    {finding : Finding} (mem : finding ∈ report.bucket severity) {nit : Nit}
    (among : nit ∈ finding.nits) : nitText file nit ∈ detailedLines file report := by
  have in_finding : nitText file nit ∈ findingLines file finding := by
    refine List.mem_cons_of_mem _ (List.mem_cons_of_mem _ (List.mem_append_left _ ?_))
    exact List.mem_map_of_mem among
  have in_bucket : nitText file nit ∈ bucketLines file severity (report.bucket severity) := by
    -- Only a severity without findings has no lines, and this one has a finding.
    have some_finding : (report.bucket severity).isEmpty = false :=
      List.isEmpty_eq_false_iff.2 (List.ne_nil_of_mem mem)
    rw [bucketLines, some_finding, if_neg Bool.false_ne_true]
    iterate 3 apply List.mem_cons_of_mem
    exact List.mem_flatMap.2 ⟨finding, mem, in_finding⟩
  refine List.mem_append_left _ (List.mem_flatMap.2 ⟨severity, ?_, in_bucket⟩)
  cases severity <;> decide

/-- What a report quotes of a document that was read from a text: in plain text nothing with a line
feed, in XML neither unless the text refers to a line feed, and for a malformed text it depends on
the syntax error. -/
theorem quotesOnLines_of_readText {path : String} {mode : Mode} {content : List Char}
    {doc : Document} (done : readText path mode content = .ok doc) (judged : Mode) :
    (doc.format ≠ .xml → doc.QuotesOnLines judged) ∧
      (Xml.IsWellFormed (dropMark content) → ¬ Xml.HasBreakReference (dropMark content) →
        doc.QuotesOnLines judged) ∧
      ∀ error, doc.format = .xml → Xml.parse (dropMark content) = .error error →
        (doc.QuotesOnLines judged ↔ IsOneLine (Finding.withoutPeriods error.message)) := by
  rcases readText_cases done with ⟨-, read⟩ | ⟨not_xml, rfl⟩
  · have is_xml := RfcXml.format_readDocument read
    -- Parsing succeeds in the one case and fails in the other, so each is about its own document.
    refine ⟨fun not_xml => absurd is_xml not_xml, ?_, ?_⟩
    · rintro ⟨nodes, parsed⟩ no_break
      obtain ⟨root, is_root, is_element⟩ := Xml.exists_root?_of_parse parsed
      simp only [RfcXml.readDocument, parsed, is_root] at read
      split at read
      · cases read
        have meets := Xml.parse_meets (Xml.supplies_oneLine no_break) parsed root
          (List.mem_of_find?_eq_some is_root)
        exact RfcXml.quotesOnLines_ofRoot path _ meets judged
      · cases read
    · intro error _ malformed
      simp only [RfcXml.readDocument, malformed] at read
      cases read
      exact RfcXml.quotesOnLines_recover_iff path _ error judged
  · have quotes := PlainText.quotesOnLines_readDocument path not_xml (dropMark content) judged
    exact ⟨fun _ => quotes, fun _ _ => quotes, fun _ is_xml => absurd is_xml not_xml⟩

/-- For all bytes that are taken in as a document, and in every mode, the summaries of the standard
report are on one line each, and its messages are exactly if the texts that they quote are. In a
text document they are, and in an XML document without a character reference to a line feed; in a
malformed one exactly if the words for its syntax error are. Where all messages are, and the name of
the file is, the detailed text is made of lines, of which every nit has one. -/
theorem readBytes_isOnLines {path : String} {mode : Mode} {bytes : List UInt8} {doc : Document}
    (done : readBytes path mode bytes = .ok doc) (options : Options) :
    ∃ report, RuleSet.standard.check doc options = .ok report ∧
      (∀ severity, ∀ finding ∈ report.bucket severity, IsOneLine finding.summary) ∧
      (report.IsOnLines ↔ doc.QuotesOnLines options.mode) ∧
      (doc.format ≠ .xml → report.IsOnLines) ∧
      (∀ text, Contain bytes text → Xml.IsWellFormed text → ¬ Xml.HasBreakReference text →
        report.IsOnLines) ∧
      (∀ text error, Contain bytes text → doc.format = .xml → Xml.parse text = .error error →
        (report.IsOnLines ↔ IsOneLine (Finding.withoutPeriods error.message))) ∧
      ∀ file, IsOneLine file → report.IsOnLines →
        report.render file true = .ok (unlines (Report.detailedLines file report)) ∧
          (∀ line ∈ Report.detailedLines file report, IsOneLine line) ∧
          ∀ severity, ∀ finding ∈ report.bucket severity, ∀ nit ∈ finding.nits,
            Report.nitText file nit ∈ Report.detailedLines file report := by
  have located := located_readBytes done
  obtain ⟨report, checked, proper⟩ :=
    RuleSet.exists_report_of_isSound (Rules.standard_isSound located options) located
  have on_lines_iff := RuleSet.isOnLines_standard_iff checked
  have quotes : ∃ content, Contain bytes (dropMark content) ∧
      readText path mode content = .ok doc := by
    unfold readBytes at done
    split at done
    · cases done
    next content decoded =>
      exact ⟨content, ⟨content, Text.Utf8.decode_eq_ok_iff.1 decoded, rfl⟩, done⟩
  obtain ⟨content, contain, read⟩ := quotes
  obtain ⟨of_text, of_tree, of_error⟩ := quotesOnLines_of_readText read options.mode
  refine ⟨report, checked, RuleSet.isOneLine_summary_standard checked, on_lines_iff, ?_, ?_, ?_, ?_⟩
  · exact fun is_text => on_lines_iff.2 (of_text is_text)
  · intro text contains well_formed no_break
    obtain rfl := contain.unique contains
    exact on_lines_iff.2 (of_tree well_formed no_break)
  · intro text error contains is_xml malformed
    obtain rfl := contain.unique contains
    exact on_lines_iff.trans (of_error error is_xml malformed)
  · intro file file_on_line on_lines
    obtain ⟨out, written⟩ := Report.exists_render_of_isProper proper file true
    have is_text := (Report.render_eq_ok_iff.1 written).2
    refine ⟨?_, Report.isOneLine_detailedLines file_on_line on_lines, ?_⟩
    · rw [written, ← is_text, Report.text_detailed]
    · exact fun severity finding mem nit among =>
        Report.nitText_mem_detailedLines file mem among

/-- What a computation gives as an option, it gives. -/
theorem eq_ok_of_toOption {ε α : Type} {result : Except ε α} {value : α}
    (gives : result.toOption = some value) : result = .ok value := by
  cases result with
  | error error => cases gives
  | ok found =>
    obtain rfl : found = value := Option.some.inj gives
    rfl

/-- A line feed that is written into an attribute is read as a space, so the report on it is on
lines. -/
theorem readBytes_isOnLines_brokenTarget :
    ∃ doc, readBytes "a.xml" .normal "<rfc><xref target='X\nY'/></rfc>".toUTF8.toList = .ok doc ∧
      doc.citations.map Citation.anchor = ["X Y"] ∧
      ∃ report, RuleSet.standard.check doc (.ofMode .normal) = .ok report ∧ report.IsOnLines ∧
        report.render "a.xml" true = .ok (unlines (Report.detailedLines "a.xml" report)) := by
  have read : (readBytes "a.xml" .normal "<rfc><xref target='X\nY'/></rfc>".toUTF8.toList).toOption.map
      (fun doc => doc.citations.map Citation.anchor) = some ["X Y"] := by decide +kernel
  have parsed : (Xml.parse "<rfc><xref target='X\nY'/></rfc>".toList).toOption.isSome = true := by
    decide +kernel
  obtain ⟨doc, gives, anchors⟩ := Option.map_eq_some_iff.1 read
  obtain ⟨nodes, gives_nodes⟩ := Option.isSome_iff_exists.1 parsed
  have contain : Contain "<rfc><xref target='X\nY'/></rfc>".toUTF8.toList
      "<rfc><xref target='X\nY'/></rfc>".toList :=
    ⟨"<rfc><xref target='X\nY'/></rfc>".toList, by decide +kernel, by decide +kernel⟩
  obtain ⟨report, checked, -, -, -, of_tree, -, written⟩ :=
    readBytes_isOnLines (eq_ok_of_toOption gives) (.ofMode .normal)
  have on_lines := of_tree _ contain ⟨nodes, eq_ok_of_toOption gives_nodes⟩
    (Xml.not_hasBreakReference_of_notMem (by decide +kernel))
  exact ⟨doc, eq_ok_of_toOption gives, anchors, report, checked, on_lines,
    (written "a.xml" (by decide) on_lines).1⟩

/-- A document with one citation, which refers to a line feed and goes on like the line of a nit. -/
def forgingText : String := "<rfc>\n<xref target='X&#10;a.xml(1): Y'/></rfc>"

/-- The message on its citation holds a line feed, and the detailed text has a line that is the one
of a nit on line 1 which is not in the report. -/
theorem not_isOnLines_forgingText :
    ∃ doc report text, readBytes "a.xml" .normal forgingText.toUTF8.toList = .ok doc ∧
      RuleSet.standard.check doc (.ofMode .normal) = .ok report ∧
      report.render "a.xml" true = .ok text ∧ ¬ report.IsOnLines ∧
      (∀ severity, ∀ finding ∈ report.bucket severity,
        Nit.onLine 1 "Y] has no matching reference" ∉ finding.nits) ∧
      ("\n" ++ Report.nitText "a.xml" (.onLine 1 "Y] has no matching reference") ++ "\n").toList <:+:
        text.toList := by
  have run : (readBytes "a.xml" .normal forgingText.toUTF8.toList).toOption.bind (fun doc =>
      (RuleSet.standard.check doc (.ofMode .normal)).toOption.map fun report =>
        (decide (∃ finding ∈ report.bucket .warning,
            Nit.onLine 2 "Citation [X\na.xml(1): Y] has no matching reference" ∈ finding.nits),
          Severity.all.all fun severity => decide (∀ finding ∈ report.bucket severity,
            Nit.onLine 1 "Y] has no matching reference" ∉ finding.nits))) =
      some (true, true) := by decide +kernel
  obtain ⟨doc, gives, rest⟩ := Option.bind_eq_some_iff.1 run
  obtain ⟨report, gives_report, facts⟩ := Option.map_eq_some_iff.1 rest
  obtain ⟨has_real, has_no_forged⟩ := Prod.mk.inj facts
  have read := eq_ok_of_toOption gives
  have checked := eq_ok_of_toOption gives_report
  obtain ⟨finding, among, real⟩ := of_decide_eq_true has_real
  obtain ⟨other, also, proper⟩ := RuleSet.exists_report_of_isSound
    (Rules.standard_isSound (located_readBytes read) (.ofMode .normal)) (located_readBytes read)
  obtain rfl : report = other := Except.ok.inj (checked.symm.trans also)
  obtain ⟨text, written⟩ := Report.exists_render_of_isProper proper "a.xml" true
  refine ⟨doc, report, text, read, checked, written, ?_, ?_, ?_⟩
  · intro on_lines
    exact absurd ((on_lines .warning finding among).messages _ real) (by decide)
  · intro severity found mem
    rw [List.all_eq_true] at has_no_forged
    exact of_decide_eq_true (has_no_forged severity (by cases severity <;> decide)) found mem
  · -- The line of the nit ends in what looks like the line of another one.
    have is_line := Report.nitText_mem_detailedLines "a.xml" among real
    rw [← (Report.render_eq_ok_iff.1 written).2, Report.text_detailed]
    exact List.IsInfix.trans ⟨"a.xml(2): Citation [X".toList, [], by decide⟩ (isInfix_unlines is_line)

end DraftNits
