import DraftNits.Proofs.DraftNames
import DraftNits.Proofs.Layout
import DraftNits.Proofs.RuleRuns

/-! # What a clean report says

The standard rules accept a document exactly if it conforms to a list of conditions that mention no
rule and no report (`Document.Conforms`). One lemma for each rule says what it accepts; the table
of the standard rules then says for which documents each of them counts.

* `RuleSet.isClean_iff_accepts` — a report is clean exactly if everything was read and every rule
  that is meant for the document accepts it.
* `RuleSet.isClean_standard_iff_conforms` — under the standard rules it is clean exactly if the
  document conforms. -/

namespace DraftNits

/-! ## Conforming documents -/

/-- Whether a text is there and has a character that is not white space. -/
def Stated (text : Option String) : Prop :=
  ∃ s, text = some s ∧ ∃ c ∈ s.toList, Text.isBlank c = false

/-- Whether some section title begins with a text in small letters, when it is lowered itself. -/
def Document.HasSectionLike (doc : Document) (lowered : String) : Prop :=
  ∃ s ∈ doc.sections, lowered.toList <+: Text.lowercase s.title.toList

/-- Whether two names are the same up to the case of ASCII letters. -/
def SameName (a b : String) : Prop := a.toList.map Text.asciiLower = b.toList.map Text.asciiLower

/-- What a document has to be like in a mode, by its format and kind. -/
structure Document.Conforms (mode : Mode) (doc : Document) : Prop where
  /-- All of it could be read. -/
  read : doc.diagnostics = []
  /-- It has a title. -/
  title : Stated doc.front.title
  /-- A draft has a draft name, perhaps with `.txt` after it. -/
  draftName : doc.kind = .draft → ∃ stated, doc.front.draftName = some stated ∧
    ∃ name, DraftName.IsName name ∧
      (stated.toList = name ∨ stated.toList = name ++ ".txt".toList)
  /-- An RFC has a category. -/
  category : doc.kind = .rfc → Stated doc.front.category
  /-- It has authors. -/
  hasAuthors : doc.front.authors ≠ []
  /-- There are at most five of them. -/
  fewAuthors : mode ≠ .lenient → doc.front.authors.length ≤ 5
  /-- It has an abstract. -/
  abstract : doc.front.hasAbstract = true ∨ doc.HasSectionLike "abstract"
  /-- Every citation names a reference. -/
  citations : ∀ c ∈ doc.citations, ∃ r ∈ doc.references, SameName r.anchor c.anchor
  /-- Every reference is cited; in lenient mode every normative one is. -/
  references : ∀ r ∈ doc.references, (mode = .lenient → r.normative = true) →
    ∃ c ∈ doc.citations, SameName c.anchor r.anchor
  /-- XML source is in the third version of the vocabulary. -/
  version : doc.format = .xml →
    ∃ version, doc.front.xmlVersion = some version ∧ Text.trim version.toList = ['3']
  /-- Text has the sections that every document has to have. -/
  boilerplate : doc.format ≠ .xml →
    doc.HasSectionLike "status of this memo" ∧ doc.HasSectionLike "copyright notice"
  /-- Lines of text are short. -/
  lines : doc.format ≠ .xml → ∀ line ∈ doc.lines,
    Rules.FitsIn (if mode = .lenient then 80 else 72) line.toList
  /-- Text has no control characters but form feeds and carriage returns and, unless the mode is
  lenient, only ASCII characters. -/
  characters : doc.format ≠ .xml → ∀ line ∈ doc.lines, ∀ c ∈ line.toList,
    c = '\x0c' ∨ c = '\r' ∨ Text.isControl c = false ∧ (mode = .lenient ∨ c.toNat < 0x80)
  /-- Pages are short. -/
  pages : doc.format = .paginated → mode ≠ .lenient →
    ∀ run, run <:+: doc.lines → Rules.OnOnePage run → run.length ≤ 58
  /-- Text for submission has no form feeds and no footers. -/
  unpaged : doc.format = .submission → ∀ line ∈ doc.lines,
    '\x0c' ∉ line.toList ∧ ¬ PlainText.IsFooterLine line.toList
  /-- A draft in text says when it expires: after its date, and not long after it. -/
  expiry : doc.format ≠ .xml → doc.kind = .draft → ∃ expires, doc.front.expires = some expires ∧
    ∀ date, doc.front.date = some date → 0 < date.daysTo expires ∧ date.daysTo expires ≤ 185

/-! ## What a rule accepts -/

/-- Whether a check finds nothing in a document. -/
def Check.Accepts (check : Check) (doc : Document) (options : Options) : Prop :=
  check doc options = .ok []

/-- A mode is lenient if it is the lenient one. -/
theorem Mode.isLenient_iff {mode : Mode} : mode.isLenient = true ↔ mode = .lenient := by
  simp [isLenient]

/-- Names are equal when ASCII case is ignored exactly if they are the same. -/
theorem sameName_iff {a b : String} :
    Text.eqIgnoringAsciiCase a.toList b.toList = true ↔ SameName a b := by
  simp [Text.eqIgnoringAsciiCase, SameName]

/-- A name is cited exactly if some citation is the same but for ASCII case. -/
theorem Document.cites_iff {doc : Document} {anchor : String} :
    doc.cites anchor = true ↔ ∃ c ∈ doc.citations, SameName c.anchor anchor := by
  simp [cites, sameName_iff]

/-- A section is found exactly if there is one whose title begins like the one looked for. -/
theorem Document.isSome_findSection?_iff {doc : Document} (title : String) {lowered : String}
    (h : Text.lowercase title.toList = lowered.toList) :
    (doc.findSection? title).isSome = true ↔ doc.HasSectionLike lowered := by
  simp [findSection?, titleStarts, HasSectionLike, h]

namespace Rules

variable {doc : Document} {options : Options}

/-- A text is stated exactly if it is there and not blank. -/
theorem isStated_iff {text : Option String} : isStated text = true ↔ Stated text := by
  cases text with
  | none => simp [isStated, Stated]
  | some s => simp [isStated, Stated, Text.isAllBlank]

/-- The rule on the title accepts documents with a title. -/
theorem title_accepts_iff : title.Accepts doc options ↔ Stated doc.front.title := by
  rw [← isStated_iff]
  by_cases stated : isStated doc.front.title = true <;> simp [Check.Accepts, title, stated]

/-- The rule on draft names accepts documents with a draft name. -/
theorem draftName_accepts_iff :
    draftName.Accepts doc options ↔ ∃ stated, doc.front.draftName = some stated ∧
      ∃ name, DraftName.IsName name ∧
        (stated.toList = name ∨ stated.toList = name ++ ".txt".toList) := by
  cases is_stated : doc.front.draftName with
  | none => simp [Check.Accepts, draftName, is_stated]
  | some stated =>
    simp only [Option.some.injEq, exists_eq_left', ← DraftName.isWellFormed_withoutExtension_iff]
    by_cases formed : DraftName.isWellFormed (DraftName.withoutExtension stated.toList) = true <;>
      simp [Check.Accepts, draftName, is_stated, formed]

/-- The rule on the category accepts documents with a category. -/
theorem category_accepts_iff : category.Accepts doc options ↔ Stated doc.front.category := by
  rw [← isStated_iff]
  by_cases stated : isStated doc.front.category = true <;> simp [Check.Accepts, category, stated]

/-- The rule on authors accepts documents with one author or more and not too many. -/
theorem authors_accepts_iff :
    authors.Accepts doc options ↔ doc.front.authors ≠ [] ∧
      (options.mode ≠ .lenient → doc.front.authors.length ≤ 5) := by
  have many : (maxAuthors < doc.front.authors.length && !options.mode.isLenient) = true ↔
      ¬ (options.mode ≠ .lenient → doc.front.authors.length ≤ 5) := by
    rw [Bool.and_eq_true, Bool.not_eq_true', ← Bool.not_eq_true, Mode.isLenient_iff,
      decide_eq_true_iff, Classical.not_imp, Nat.not_le, and_comm, maxAuthors]
  cases none_listed : doc.front.authors with
  | nil =>
    -- With no author at all the rule does not ask for the mode.
    simp [Check.Accepts, authors, none_listed]
  | cons first rest =>
    rw [none_listed] at many
    simp only [Check.Accepts, authors, none_listed, List.isEmpty_cons, Bool.false_eq_true,
      if_false, many]
    by_cases few : options.mode ≠ .lenient → (first :: rest).length ≤ 5
    · rw [if_neg (not_not_intro few)]
      exact ⟨fun _ => ⟨by simp, few⟩, fun _ => rfl⟩
    · rw [if_pos few]
      simpa using few

/-- The rule on the abstract accepts documents with an abstract. -/
theorem abstract_accepts_iff :
    abstract.Accepts doc options ↔
      doc.front.hasAbstract = true ∨ doc.HasSectionLike "abstract" := by
  rw [← Document.isSome_findSection?_iff "Abstract" (by decide +kernel),
    ← Bool.or_eq_true]
  by_cases found : (doc.front.hasAbstract || (doc.findSection? "Abstract").isSome) = true <;>
    simp only [Check.Accepts, abstract, found] <;> simp

/-- The rule on citations accepts documents in which every citation names a reference. -/
theorem undefinedCitations_accepts_iff :
    undefinedCitations.Accepts doc options ↔
      ∀ c ∈ doc.citations, ∃ r ∈ doc.references, SameName r.anchor c.anchor := by
  simp [Check.Accepts, undefinedCitations, Finding.ofNits_eq_nil_iff, Document.hasReference,
    sameName_iff]

/-- In lenient mode only the normative references count. -/
theorem counts_iff {r : Reference} : (r.normative || !options.mode.isLenient) = true ↔
    (options.mode = .lenient → r.normative = true) := by
  rw [← Mode.isLenient_iff]
  cases options.mode.isLenient <;> simp

/-- The rule on references accepts documents in which every reference that counts is cited. -/
theorem unusedReferences_accepts_iff :
    unusedReferences.Accepts doc options ↔
      ∀ r ∈ doc.references, (options.mode = .lenient → r.normative = true) →
        ∃ c ∈ doc.citations, SameName c.anchor r.anchor := by
  simp only [Check.Accepts, unusedReferences, Except.ok.injEq, Finding.ofNits_eq_nil_iff,
    List.map_eq_nil_iff, List.filter_eq_nil_iff]
  refine forall_congr' fun r => imp_congr_right fun _ => ?_
  rw [Bool.and_eq_true, counts_iff, ← Document.cites_iff]
  simp

/-- The rule on the vocabulary accepts documents in its third version. -/
theorem xmlVersion_accepts_iff :
    xmlVersion.Accepts doc options ↔
      ∃ version, doc.front.xmlVersion = some version ∧ Text.trim version.toList = ['3'] := by
  cases declared : doc.front.xmlVersion with
  | none => simp [Check.Accepts, xmlVersion, declared]
  | some version =>
    -- The rule compares strings, and the condition is on their characters.
    have third : String.ofList (Text.trim version.toList) = "3" ↔
        Text.trim version.toList = ['3'] := by
      rw [show "3" = String.ofList ['3'] from rfl, String.ofList_inj]
    by_cases trimmed : Text.trim version.toList = ['3'] <;>
      simp [Check.Accepts, xmlVersion, declared, third, trimmed]

/-- The rule on the required sections accepts documents that have both. -/
theorem boilerplate_accepts_iff :
    boilerplate.Accepts doc options ↔
      doc.HasSectionLike "status of this memo" ∧ doc.HasSectionLike "copyright notice" := by
  rw [← Document.isSome_findSection?_iff "Status of This Memo" (by decide +kernel),
    ← Document.isSome_findSection?_iff "Copyright Notice" (by decide +kernel)]
  simp [Check.Accepts, boilerplate, boilerplateTitles, Finding.ofNits_eq_nil_iff,
    Option.isSome_iff_ne_none]

/-- The rule on the length of lines accepts documents with short lines. -/
theorem lineLengths_accepts_iff :
    lineLengths.Accepts doc options ↔
      ∀ line ∈ doc.lines, FitsIn (if options.mode = .lenient then 80 else 72) line.toList := by
  have limit : maxLineLength options.mode = if options.mode = .lenient then 80 else 72 := by
    simp [maxLineLength, Mode.isLenient_iff]
  rw [← limit, ← Document.forall_mem_numberedLines
    (p := fun line => FitsIn (maxLineLength options.mode) line.toList)]
  simp only [Check.Accepts, lineLengths, Except.ok.injEq, Finding.ofNits_eq_nil_iff,
    List.filterMap_eq_nil_iff, ← lineLength_le_iff]
  simp

/-- The rule on the length of pages accepts documents with short pages. -/
theorem pageLengths_accepts_iff :
    pageLengths.Accepts doc options ↔ (options.mode ≠ .lenient →
      ∀ run, run <:+: doc.lines → OnOnePage run → run.length ≤ 58) := by
  rw [← pages_le_iff]
  by_cases lenient : options.mode = .lenient
  · simp [Check.Accepts, pageLengths, Mode.isLenient_iff, lenient]
  · have strict : ¬ options.mode.isLenient = true := by simpa [Mode.isLenient_iff] using lenient
    simp only [Check.Accepts, pageLengths, if_neg strict, Except.ok.injEq,
      Finding.ofNits_eq_nil_iff, List.filterMap_eq_nil_iff]
    -- Pages come with their indices here, which matter for the message only.
    constructor
    · intro none_long _ page mem
      obtain ⟨index, found⟩ := List.mem_iff_getElem?.1 mem
      simpa [maxPageLength] using
        none_long (page, index) (List.mem_zipIdx_iff_getElem?.2 found)
    · intro short entry mem
      have len := short lenient entry.1 (List.mem_of_getElem? (List.mem_zipIdx_iff_getElem?.1 mem))
      simpa [maxPageLength] using len

/-- The rule on pagination accepts documents without form feeds and footers. -/
theorem pagination_accepts_iff :
    pagination.Accepts doc options ↔
      ∀ line ∈ doc.lines, '\x0c' ∉ line.toList ∧ ¬ PlainText.IsFooterLine line.toList := by
  rw [← Document.forall_mem_numberedLines
    (p := fun line => '\x0c' ∉ line.toList ∧ ¬ PlainText.IsFooterLine line.toList)]
  simp only [Check.Accepts, pagination, Except.ok.injEq, Finding.ofNits_eq_nil_iff,
    List.filterMap_eq_nil_iff, Option.map_eq_none_iff, ← PlainText.isFooter_iff_isFooterLine]
  refine forall_congr' fun entry => imp_congr_right fun _ => ?_
  by_cases is_break : '\x0c' ∈ entry.2.toList <;>
    simp [paginationProblem?, formFeed, is_break]

/-- The rule on characters accepts documents whose characters are all allowed. -/
theorem characters_accepts_iff :
    characters.Accepts doc options ↔
      ∀ line ∈ doc.lines, ∀ c ∈ line.toList, c = '\x0c' ∨ c = '\r' ∨
        Text.isControl c = false ∧ (options.mode = .lenient ∨ c.toNat < 0x80) := by
  rw [← Document.forall_mem_numberedLines (p := fun line => ∀ c ∈ line.toList, c = '\x0c' ∨
    c = '\r' ∨ Text.isControl c = false ∧ (options.mode = .lenient ∨ c.toNat < 0x80))]
  simp only [Check.Accepts, characters, Except.ok.injEq, Finding.ofNits_eq_nil_iff,
    List.filterMap_eq_nil_iff, Option.map_eq_none_iff, List.findSome?_eq_none_iff,
    characterProblem?_eq_none_iff, Mode.isLenient_iff]

/-- The rule on expiry accepts documents that expire in time after their date. -/
theorem expiry_accepts_iff :
    expiry.Accepts doc options ↔ ∃ expires, doc.front.expires = some expires ∧
      ∀ date, doc.front.date = some date →
        0 < date.daysTo expires ∧ date.daysTo expires ≤ 185 := by
  cases given : doc.front.expires with
  | none => simp [Check.Accepts, expiry, given]
  | some expires =>
    cases dated : doc.front.date with
    | none => simp [Check.Accepts, expiry, given, dated]
    | some date =>
      have problem : expiryProblem? date expires = none ↔
          0 < date.daysTo expires ∧ date.daysTo expires ≤ 185 := by
        rw [show (185 : Int) = maxExpiryDays from rfl]
        -- Too early, too late, or in between; only the last has no problem.
        by_cases early : date.daysTo expires ≤ 0
        · have not_after : ¬ 0 < date.daysTo expires := by omega
          simp [expiryProblem?, early, not_after]
        · have after : 0 < date.daysTo expires := by omega
          by_cases late : maxExpiryDays < date.daysTo expires
          · have not_within : ¬ date.daysTo expires ≤ maxExpiryDays := by omega
            simp [expiryProblem?, early, late, not_within]
          · have within : date.daysTo expires ≤ maxExpiryDays := by omega
            simp [expiryProblem?, early, late, after, within]
      simp [Check.Accepts, expiry, given, dated, Finding.ofNits_eq_nil_iff, problem]

end Rules

/-! ## Clean reports -/

/-- A report is clean exactly if no severity has findings. -/
theorem Report.isClean_iff_bucket {report : Report} :
    report.isClean = true ↔ ∀ severity, report.bucket severity = [] := by
  rw [isClean_iff]
  constructor
  · rintro rfl severity
    cases severity <;> rfl
  · intro none_found
    exact ext_bucket fun severity => by rw [none_found]; cases severity <;> rfl

/-- A document that could be read opens a report with nothing. -/
theorem Document.openingFindings_eq_nil_iff {doc : Document} :
    doc.openingFindings = [] ↔ doc.diagnostics = [] := by
  by_cases read : doc.diagnostics = [] <;> simp [openingFindings, read]

/-- A rule that keeps to a document reports nothing exactly if its check accepts the document. -/
theorem Rule.KeepsTo.reported_eq_nil_iff {rule : Rule} {doc : Document} {options : Options}
    (keeps : rule.KeepsTo doc options) :
    rule.reported doc options = [] ↔
      ∀ check, rule.check = some check → check.Accepts doc options := by
  obtain ⟨check, findings, is_check, done, -⟩ := keeps
  simp [reported, is_check, done, Check.Accepts]

namespace RuleSet

variable {set : RuleSet} {doc : Document} {options : Options} {report : Report}

/-- A report is clean exactly if all of the document could be read and every rule that is meant for
it accepts it. -/
theorem isClean_iff_accepts (h : set.check doc options = .ok report) :
    report.isClean = true ↔ doc.diagnostics = [] ∧
      ∀ rule ∈ set.meantFor doc, ∀ check, rule.check = some check → check.Accepts doc options := by
  obtain ⟨keeps, holds⟩ := check_eq_ok_iff.1 h
  have silent : (∀ severity, reportedWith doc options severity (set.meantFor doc) = []) ↔
      ∀ rule ∈ set.meantFor doc, ∀ check, rule.check = some check → check.Accepts doc options := by
    simp only [reportedWith, List.flatMap_eq_nil_iff, List.mem_filter, decide_eq_true_eq, and_imp]
    constructor
    · intro none_found rule mem
      exact (keeps rule mem).reported_eq_nil_iff.1 (none_found rule.severity rule mem rfl)
    · intro accepts severity rule mem _
      exact (keeps rule mem).reported_eq_nil_iff.2 (accepts rule mem)
  -- What could not be read stands with the errors, so there the two conditions meet.
  rw [Report.isClean_iff_bucket, ← silent, ← Document.openingFindings_eq_nil_iff]
  simp only [holds, List.append_eq_nil_iff]
  constructor
  · intro none_found
    exact ⟨by simpa using (none_found .error).1, fun severity => (none_found severity).2⟩
  · rintro ⟨opening, none_found⟩ severity
    exact ⟨by simp [opening], none_found severity⟩

/-- A report of the standard rules is clean exactly if the document conforms. -/
theorem isClean_standard_iff_conforms (h : standard.check doc options = .ok report) :
    report.isClean = true ↔ doc.Conforms options.mode := by
  rw [isClean_iff_accepts h,
    forall_meantFor_standard_iff (p := fun _ check => check.Accepts doc options)]
  simp only [Rules.title_accepts_iff, Rules.draftName_accepts_iff, Rules.category_accepts_iff,
    Rules.authors_accepts_iff, Rules.abstract_accepts_iff, Rules.boilerplate_accepts_iff,
    Rules.lineLengths_accepts_iff, Rules.pageLengths_accepts_iff, Rules.pagination_accepts_iff,
    Rules.undefinedCitations_accepts_iff, Rules.unusedReferences_accepts_iff,
    Rules.expiry_accepts_iff, Rules.xmlVersion_accepts_iff, Rules.characters_accepts_iff]
  -- The table and the conditions hold the same facts in a different order.
  constructor
  · rintro ⟨read, title, draft_name, category, ⟨has_authors, few_authors⟩, abstract, boilerplate,
      lines, pages, unpaged, citations, references, expiry, version, characters⟩
    exact ⟨read, title, draft_name, category, has_authors, few_authors, abstract, citations,
      references, version, boilerplate, lines, characters, pages, unpaged, expiry⟩
  · intro conforms
    exact ⟨conforms.read, conforms.title, conforms.draftName, conforms.category,
      ⟨conforms.hasAuthors, conforms.fewAuthors⟩, conforms.abstract, conforms.boilerplate,
      conforms.lines, conforms.pages, conforms.unpaged, conforms.citations, conforms.references,
      conforms.expiry, conforms.version, conforms.characters⟩

end RuleSet

/-- A small draft that conforms: one page, and a citation whose case differs from its reference. -/
def Document.smallDraft : Document where
  path := "draft-smith-sample-00.txt"
  format := .paginated
  kind := .draft
  lines := ["A Sample", "Abstract", "See [rfc2119].", "\x0c"]
  front := {
    FrontMatter.empty with
    title := some "A Sample"
    draftName := some "draft-smith-sample-00.txt"
    authors := [⟨"J. Smith", none, some 1⟩]
    date := Date.ofYmd? 2024 3 1
    expires := Date.ofYmd? 2024 9 2 }
  sections := [⟨none, "Abstract", 2⟩, ⟨none, "Status of This Memo", 2⟩,
    ⟨none, "Copyright Notice", 2⟩]
  references := [⟨"RFC2119", none, true, 3⟩]
  citations := [⟨"rfc2119", 3⟩]
  diagnostics := []

/-- The small draft has a clean report, so it conforms. -/
theorem Document.smallDraft_conforms :
    RuleSet.standard.check smallDraft (.ofMode .normal) = .ok .empty ∧
      smallDraft.Conforms .normal := by
  have clean : RuleSet.standard.check smallDraft (.ofMode .normal) = .ok .empty := by rfl
  exact ⟨clean, (RuleSet.isClean_standard_iff_conforms clean).1 rfl⟩

end DraftNits
