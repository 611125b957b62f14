import DraftNits.Proofs.Layout
import DraftNits.Proofs.ProperFindings
import DraftNits.Proofs.TextDocumentLines

/-! # What lenient mode leaves out

Lenient mode is to leave nits out, never to add any. Every rule but one does so on every document
(`Check.Relaxes`). The rule on characters reports one character of each line, the first that counts
in the mode: on a line with a character beyond ASCII before a control character the two modes report
different ones (`Rules.IsMasked`). So lenient nits are normal nits exactly for documents in XML and
for texts without such a line.

* `Rules.lineProblem?_of_not_isMasked` — on other lines lenient mode reports what normal mode does.
* `Rules.lineProblem?_of_isMasked` — on a masked line the modes report different characters.
* `RuleSet.lenient_subset_normal_iff` — when the nits of lenient mode are among those of normal
  mode. -/

namespace DraftNits

/-! ## Nits of rules and reports -/

/-- The options with another mode. -/
def Options.withMode (options : Options) (mode : Mode) : Options := { options with mode := mode }

@[simp] theorem Options.mode_withMode (options : Options) (mode : Mode) :
    (options.withMode mode).mode = mode := rfl

/-- The nits that a check finds in a document; none if it fails. -/
def Check.nits (check : Check) (doc : Document) (options : Options) : List Nit :=
  match check doc options with
  | .ok findings => findings.flatMap Finding.nits
  | .error _ => []

/-- The nits of a report that have a severity. -/
def Report.nitsOf (report : Report) (severity : Severity) : List Nit :=
  (report.bucket severity).flatMap Finding.nits

/-- Whether a check finds in lenient mode only nits that it finds in normal mode too. -/
def Check.Relaxes (check : Check) (doc : Document) (options : Options) : Prop :=
  ∀ nit ∈ check.nits doc (options.withMode .lenient),
    nit ∈ check.nits doc (options.withMode .normal)

/-- A rule reports the nits that its check finds. -/
theorem Rule.flatMap_nits_reported {rule : Rule} {check : Check}
    (is_check : rule.check = some check) (doc : Document) (options : Options) :
    (rule.reported doc options).flatMap Finding.nits = check.nits doc options := by
  simp only [reported, is_check, Check.nits]
  cases check doc options <;> rfl

/-- The nits of a report are those for what could not be read and those of the rules that are meant
for the document. -/
theorem RuleSet.mem_nitsOf_iff {set : RuleSet} {doc : Document} {options : Options}
    {report : Report} (checked : set.check doc options = .ok report) {severity : Severity}
    {nit : Nit} :
    nit ∈ report.nitsOf severity ↔
      severity = .error ∧ nit ∈ doc.openingFindings.flatMap Finding.nits ∨
        ∃ rule ∈ set.meantFor doc, rule.severity = severity ∧
          ∃ check, rule.check = some check ∧ nit ∈ check.nits doc options := by
  -- The findings of a severity are those for the diagnostics, then those of its rules.
  rw [Report.nitsOf, (check_eq_ok_iff.1 checked).2, List.flatMap_append, List.mem_append]
  refine or_congr ?_ ?_
  · by_cases error : severity = .error <;> simp [error]
  · rw [reportedWith, List.flatMap_assoc, List.mem_flatMap]
    constructor
    · rintro ⟨rule, among, found⟩
      obtain ⟨meant, same⟩ := List.mem_filter.1 among
      obtain ⟨check, is_check⟩ := Option.isSome_iff_exists.1 (isSome_check_of_mem_meantFor meant)
      rw [Rule.flatMap_nits_reported is_check] at found
      exact ⟨rule, meant, by simpa using same, check, is_check, found⟩
    · rintro ⟨rule, meant, same, check, is_check, found⟩
      rw [← Rule.flatMap_nits_reported is_check] at found
      exact ⟨rule, List.mem_filter.2 ⟨meant, by simpa using same⟩, found⟩

/-! ## Characters -/

namespace Rules

/-- Whether a character is a control character that may not stand on a line. -/
def IsForbiddenControl (c : Char) : Prop := Text.isControl c = true ∧ c ≠ '\x0c' ∧ c ≠ '\r'

/-- Whether the first control character of a line that is forbidden stands after a character beyond
ASCII. -/
def IsMasked (line : List Char) : Prop :=
  ∃ before c after, line = before ++ c :: after ∧ IsForbiddenControl c ∧
    (∀ a ∈ before, ¬ IsForbiddenControl a) ∧ ∃ a ∈ before, 0x80 ≤ a.toNat

/-- Whether a message is worded like those about the characters of a line. -/
def IsOnCharacters (message : String) : Prop := "Line contains ".toList <+: message.toList

/-- What is wrong with a line: the problem of its first character that has one. -/
def lineProblem? (lenient : Bool) (line : List Char) : Option String :=
  line.findSome? (characterProblem? lenient)

/-- In lenient mode only forbidden control characters are a problem. -/
theorem characterProblem?_lenient_eq_none_iff {c : Char} :
    characterProblem? true c = none ↔ ¬ IsForbiddenControl c := by
  rw [characterProblem?_eq_none_iff, IsForbiddenControl]
  by_cases control : Text.isControl c = true <;> by_cases feed : c = '\x0c' <;>
    simp [control, feed]

/-- Both modes have the same to say about a forbidden control character. -/
theorem characterProblem?_of_isForbiddenControl {c : Char} (h : IsForbiddenControl c) :
    characterProblem? false c = characterProblem? true c := by
  obtain ⟨control, not_feed, not_return⟩ := h
  simp [characterProblem?, formFeed, control, not_feed, not_return]

/-- Beyond ASCII, normal mode reports a character that is no forbidden control character. -/
theorem characterProblem?_of_not_isForbiddenControl {c : Char} (allowed : ¬ IsForbiddenControl c)
    (beyond : 0x80 ≤ c.toNat) :
    characterProblem? false c =
      some ("Line contains non-ASCII character " ++ Text.codePoint c) := by
  have not_feed : c ≠ '\x0c' := by
    rintro rfl
    exact absurd beyond (by decide)
  have not_return : c ≠ '\r' := by
    rintro rfl
    exact absurd beyond (by decide)
  have not_tab : c ≠ '\t' := by
    rintro rfl
    exact absurd beyond (by decide)
  have no_control : Text.isControl c = false := by
    rw [← Bool.not_eq_true]
    exact fun control => allowed ⟨control, not_feed, not_return⟩
  simp [characterProblem?, formFeed, not_feed, not_return, not_tab, no_control, beyond]

/-- Within ASCII, normal mode reports forbidden control characters only. -/
theorem characterProblem?_of_ascii {c : Char} (allowed : ¬ IsForbiddenControl c)
    (ascii : c.toNat < 0x80) : characterProblem? false c = none := by
  have lenient := characterProblem?_eq_none_iff.1 (characterProblem?_lenient_eq_none_iff.2 allowed)
  exact characterProblem?_eq_none_iff.2 (by simpa [ascii] using lenient)

/-- The message about a forbidden control character is worded like those about characters, and it
is not about one beyond ASCII. -/
theorem isOnCharacters_of_isForbiddenControl {c : Char} (forbidden : IsForbiddenControl c)
    {problem : String} (h : characterProblem? true c = some problem) :
    IsOnCharacters problem ∧
      ∀ b, problem ≠ "Line contains non-ASCII character " ++ Text.codePoint b := by
  obtain ⟨control, not_feed, not_return⟩ := forbidden
  by_cases tab : c = '\t'
  · obtain rfl : "Line contains a tab character" = problem := by
      simpa [characterProblem?, formFeed, tab] using h
    simp [IsOnCharacters, ← String.toList_inj]
  · obtain rfl : "Line contains control character " ++ Text.codePoint c = problem := by
      simpa [characterProblem?, formFeed, tab, control, not_feed, not_return] using h
    simp [IsOnCharacters, ← String.toList_inj]

/-- Lenient mode reports of a line its first forbidden control character. -/
theorem lineProblem?_lenient_eq_some_iff {line : List Char} {problem : String} :
    lineProblem? true line = some problem ↔
      ∃ before c after, line = before ++ c :: after ∧ IsForbiddenControl c ∧
        (∀ a ∈ before, ¬ IsForbiddenControl a) ∧ characterProblem? true c = some problem := by
  rw [lineProblem?, List.findSome?_eq_some_iff]
  simp only [characterProblem?_lenient_eq_none_iff]
  constructor
  · rintro ⟨before, c, after, split, is_problem, clean⟩
    have forbidden : IsForbiddenControl c := by
      by_contra allowed
      rw [characterProblem?_lenient_eq_none_iff.2 allowed] at is_problem
      cases is_problem
    exact ⟨before, c, after, split, forbidden, clean, is_problem⟩
  · rintro ⟨before, c, after, split, -, clean, is_problem⟩
    exact ⟨before, c, after, split, is_problem, clean⟩

/-- On a line that is not masked, normal mode reports what lenient mode does. -/
theorem lineProblem?_of_not_isMasked {line : List Char} (unmasked : ¬ IsMasked line)
    {problem : String} (h : lineProblem? true line = some problem) :
    lineProblem? false line = some problem := by
  obtain ⟨before, c, after, split, forbidden, clean, is_problem⟩ :=
    lineProblem?_lenient_eq_some_iff.1 h
  refine List.findSome?_eq_some_iff.2 ⟨before, c, after, split, ?_, fun a mem => ?_⟩
  · rw [characterProblem?_of_isForbiddenControl forbidden, is_problem]
  · -- A character beyond ASCII before the reported one would mask it.
    have ascii : a.toNat < 0x80 := by
      by_contra beyond
      exact unmasked ⟨before, c, after, split, forbidden, clean, a, mem, by omega⟩
    exact characterProblem?_of_ascii (clean a mem) ascii

/-- On a masked line, lenient mode reports a control character and normal mode one beyond ASCII. -/
theorem lineProblem?_of_isMasked {line : List Char} (masked : IsMasked line) :
    ∃ control beyond, lineProblem? true line = some control ∧
      lineProblem? false line = some beyond ∧ IsOnCharacters control ∧ control ≠ beyond := by
  obtain ⟨before, c, after, rfl, forbidden, clean, a, mem, beyond⟩ := masked
  -- Normal mode stops before the control character, at the first character beyond ASCII.
  obtain ⟨first, is_first⟩ : ∃ problem, lineProblem? false before = some problem := by
    refine Option.isSome_iff_exists.1 (List.findSome?_isSome_iff.2 ⟨a, mem, ?_⟩)
    rw [characterProblem?_of_not_isForbiddenControl (clean a mem) beyond]
    rfl
  have is_beyond : ∃ b, first = "Line contains non-ASCII character " ++ Text.codePoint b := by
    obtain ⟨b, among, problem⟩ := List.exists_of_findSome?_eq_some is_first
    refine ⟨b, ?_⟩
    have far : 0x80 ≤ b.toNat := by
      by_contra near
      rw [characterProblem?_of_ascii (clean b among) (Nat.lt_of_not_le near)] at problem
      cases problem
    rw [characterProblem?_of_not_isForbiddenControl (clean b among) far] at problem
    exact (Option.some.inj problem).symm
  obtain ⟨b, rfl⟩ := is_beyond
  have whole : lineProblem? false (before ++ c :: after) = lineProblem? false before := by
    rw [lineProblem?, List.findSome?_append, ← lineProblem?, is_first]
    rfl
  -- Lenient mode passes over all that comes before the control character.
  obtain ⟨control, is_control⟩ : ∃ problem, characterProblem? true c = some problem := by
    rw [← Option.ne_none_iff_exists', ne_eq, characterProblem?_lenient_eq_none_iff]
    exact not_not_intro forbidden
  have found : lineProblem? true (before ++ c :: after) = some control :=
    lineProblem?_lenient_eq_some_iff.2 ⟨before, c, after, rfl, forbidden, clean, is_control⟩
  obtain ⟨on_characters, differs⟩ := isOnCharacters_of_isForbiddenControl forbidden is_control
  exact ⟨control, _, found, whole.trans is_first, on_characters, differs b⟩

/-! ## Rules that lenient mode relaxes -/

variable {doc : Document} {options : Options}

/-- The nits on characters are the problems of lines. -/
theorem nits_characters :
    characters.nits doc options = doc.numberedLines.filterMap fun entry =>
      (lineProblem? options.mode.isLenient entry.2.toList).map (Nit.onLine entry.1) := by
  rw [Check.nits, characters]
  exact Finding.flatMap_nits_ofNits _ _

/-- A line of a document has one nit on characters at most, and that is its problem. -/
theorem mem_nits_characters_iff {number : Nat} {line problem : String}
    (found : doc.lineAt? number = some line) :
    Nit.onLine number problem ∈ characters.nits doc options ↔
      lineProblem? options.mode.isLenient line.toList = some problem := by
  rw [nits_characters, List.mem_filterMap]
  constructor
  · rintro ⟨⟨other, text⟩, mem, is_nit⟩
    obtain ⟨own, is_problem, same⟩ := Option.map_eq_some_iff.1 is_nit
    obtain ⟨rfl, rfl⟩ : other = number ∧ own = problem := by simpa [Nit.onLine] using same
    have same_line := (Document.mem_numberedLines_iff.1 mem).symm.trans found
    rwa [← Option.some.inj same_line]
  · intro is_problem
    refine ⟨(number, line), Document.mem_numberedLines_iff.2 found, ?_⟩
    rw [is_problem]
    rfl

/-- The rule on authors reports nothing in lenient mode if there are authors. -/
theorem authors_relaxes : authors.Relaxes doc options := by
  intro nit mem
  simp only [Check.nits, authors, Options.mode_withMode, Mode.isLenient] at mem ⊢
  by_cases none_listed : doc.front.authors.isEmpty = true
  · simpa [none_listed] using mem
  · simp [none_listed] at mem

/-- The nits on the length of lines are about lines that are too long. -/
theorem mem_nits_lineLengths_iff {nit : Nit} :
    nit ∈ lineLengths.nits doc options ↔
      ∃ entry ∈ doc.numberedLines, maxLineLength options.mode < lineLength entry.2 ∧
        Nit.onLine entry.1 ("Line is " ++ toString (lineLength entry.2) ++ " characters long") =
          nit := by
  simp only [Check.nits, lineLengths, Finding.flatMap_nits_ofNits, List.mem_filterMap,
    Option.ite_none_right_eq_some, Option.some.injEq]

/-- The lines that are too long in lenient mode are too long in normal mode. -/
theorem lineLengths_relaxes : lineLengths.Relaxes doc options := by
  intro nit mem
  obtain ⟨entry, among, long, is_nit⟩ := mem_nits_lineLengths_iff.1 mem
  have shorter : maxLineLength .normal < maxLineLength .lenient := by decide
  exact mem_nits_lineLengths_iff.2 ⟨entry, among, Nat.lt_trans shorter long, is_nit⟩

/-- The rule on the length of pages reports nothing in lenient mode. -/
theorem pageLengths_relaxes : pageLengths.Relaxes doc options := by
  intro nit mem
  simp [Check.nits, pageLengths, Mode.isLenient] at mem

/-- The rule on references reports those that count and are not cited. -/
theorem mem_nits_unusedReferences_iff {nit : Nit} :
    nit ∈ unusedReferences.nits doc options ↔
      ∃ r ∈ doc.references, (options.mode = .lenient → r.normative = true) ∧
        doc.cites r.anchor = false ∧
          Nit.onLine r.line ("Reference [" ++ r.anchor ++ "] is not cited in the text") = nit := by
  simp only [Check.nits, unusedReferences, Finding.flatMap_nits_ofNits, List.mem_map,
    List.mem_filter, Bool.and_eq_true, counts_iff, Bool.not_eq_true', and_assoc]

/-- The references that are to be cited in lenient mode are to be cited in normal mode. -/
theorem unusedReferences_relaxes : unusedReferences.Relaxes doc options := by
  intro nit mem
  obtain ⟨r, listed, -, uncited, is_nit⟩ := mem_nits_unusedReferences_iff.1 mem
  exact mem_nits_unusedReferences_iff.2 ⟨r, listed, nofun, uncited, is_nit⟩

/-- The rule on characters is relaxed on documents without masked lines. -/
theorem characters_relaxes (unmasked : ∀ line ∈ doc.lines, ¬ IsMasked line.toList) :
    characters.Relaxes doc options := by
  intro nit mem
  rw [nits_characters, List.mem_filterMap] at mem ⊢
  obtain ⟨entry, among, is_nit⟩ := mem
  obtain ⟨problem, is_problem, rfl⟩ := Option.map_eq_some_iff.1 is_nit
  have clear := Document.forall_mem_numberedLines.2 unmasked entry among
  refine ⟨entry, among, ?_⟩
  have normal := lineProblem?_of_not_isMasked clear is_problem
  exact Option.map_eq_some_iff.2 ⟨problem, normal, rfl⟩

/-- Each standard rule is relaxed on a document whose lines are not masked; those that do not look
at the mode find the same in both. -/
theorem standard_relaxes
    (unmasked : doc.format ≠ .xml → ∀ line ∈ doc.lines, ¬ IsMasked line.toList)
    (options : Options) :
    ∀ rule ∈ RuleSet.standard.meantFor doc, ∀ check, rule.check = some check →
      check.Relaxes doc options :=
  (RuleSet.forall_meantFor_standard_iff (p := fun _ check => check.Relaxes doc options)).2
    ⟨fun _ mem => mem, fun _ _ mem => mem, fun _ _ mem => mem, authors_relaxes, fun _ mem => mem,
      fun _ _ mem => mem, fun _ => lineLengths_relaxes, fun _ => pageLengths_relaxes,
      fun _ _ mem => mem, fun _ mem => mem, unusedReferences_relaxes, fun _ _ _ mem => mem,
      fun _ _ mem => mem, fun text => characters_relaxes (unmasked text)⟩

/-! ## Messages about characters -/

/-- A check that makes one finding at most, of one nit with another message, has no nit about
characters. -/
theorem not_isOnCharacters_of_single {check : Check} {accepts : Prop} [Decidable accepts]
    {nit : Nit} {summary : String}
    (done : check doc options = .ok (if accepts then [] else [Finding.single nit summary]))
    (other : ¬ IsOnCharacters nit.message) :
    ∀ found ∈ check.nits doc options, ¬ IsOnCharacters found.message := by
  rw [Check.nits, done]
  by_cases h : accepts
  · simp [h]
  · simpa [h, Finding.single] using other

/-- The nits on draft names are not about characters. -/
theorem not_isOnCharacters_of_mem_draftName :
    ∀ nit ∈ draftName.nits doc options, ¬ IsOnCharacters nit.message := by
  cases is_stated : doc.front.draftName with
  | none => simp [Check.nits, draftName, is_stated, Finding.single, Nit.general, IsOnCharacters]
  | some stated =>
    refine not_isOnCharacters_of_single (by simp only [draftName, is_stated]; rfl) ?_
    simp [IsOnCharacters]

/-- The nits on required sections are not about characters. -/
theorem not_isOnCharacters_of_mem_boilerplate :
    ∀ nit ∈ boilerplate.nits doc options, ¬ IsOnCharacters nit.message := by
  simp only [Check.nits, boilerplate, Finding.flatMap_nits_ofNits]
  exact List.forall_mem_map.2 fun title _ => by simp [IsOnCharacters, Nit.general]

/-- The nits on the length of lines are not about characters. -/
theorem not_isOnCharacters_of_mem_lineLengths :
    ∀ nit ∈ lineLengths.nits doc options, ¬ IsOnCharacters nit.message := by
  intro nit mem
  obtain ⟨entry, -, -, rfl⟩ := mem_nits_lineLengths_iff.1 mem
  simp [IsOnCharacters, Nit.onLine]

/-- Only the rule on characters makes errors that are worded like its own. -/
theorem mem_nits_characters_of_isOnCharacters (nit : Nit)
    (on_characters : IsOnCharacters nit.message) :
    ∀ rule ∈ RuleSet.standard.meantFor doc, ∀ check, rule.check = some check →
      rule.severity = .error → nit ∈ check.nits doc options →
        nit ∈ characters.nits doc options := by
  -- Three of the rules have one finding with a fixed message.
  have fixed : ∀ (check : Check) {accepts : Prop} [Decidable accepts] {other : Nit}
      {summary : String},
      check doc options = .ok (if accepts then [] else [Finding.single other summary]) →
      ¬ IsOnCharacters other.message → nit ∉ check.nits doc options :=
    fun _ _ _ _ _ done other mem => not_isOnCharacters_of_single done other nit mem on_characters
  refine (RuleSet.forall_meantFor_standard_iff (p := fun severity check => severity = .error →
    nit ∈ check.nits doc options → nit ∈ characters.nits doc options)).2 ⟨?_, ?_, ?_, nofun, ?_, ?_,
      ?_, nofun, nofun, nofun, nofun, nofun, nofun, fun _ _ mem => mem⟩
  · exact fun _ mem => (fixed title rfl (by simp [IsOnCharacters, Nit.general]) mem).elim
  · exact fun _ _ mem => (not_isOnCharacters_of_mem_draftName nit mem on_characters).elim
  · exact fun _ _ mem => (fixed category rfl (by simp [IsOnCharacters, Nit.general]) mem).elim
  · exact fun _ mem => (fixed abstract rfl (by simp [IsOnCharacters, Nit.general]) mem).elim
  · exact fun _ _ mem => (not_isOnCharacters_of_mem_boilerplate nit mem on_characters).elim
  · exact fun _ _ mem => (not_isOnCharacters_of_mem_lineLengths nit mem on_characters).elim

/-- What is missing in a header is not about characters. -/
theorem not_isOnCharacters_of_mem_headerDiagnostics {line lineCount : Nat} {found : Bool}
    {header : PlainText.Header} :
    ∀ d ∈ PlainText.FrontPage.headerDiagnostics line lineCount found header,
      ¬ IsOnCharacters (Finding.withoutPeriods d.message) := by
  have near : ∀ message, (Diagnostic.near line lineCount message).message = message := by
    intro message
    unfold Diagnostic.near
    split <;> rfl
  unfold PlainText.FrontPage.headerDiagnostics IsOnCharacters
  split
  · rw [List.forall_mem_singleton, near]
    decide +kernel
  split
  · rw [List.forall_mem_singleton, near]
    decide +kernel
  · simp

/-- What could not be read of a text document is not about characters. -/
theorem not_isOnCharacters_of_mem_openingFindings {path : String} {format : SourceFormat}
    {lines : List (List Char)} :
    ∀ nit ∈ (PlainText.readDocument path format lines).openingFindings.flatMap Finding.nits,
      ¬ IsOnCharacters nit.message := by
  have messages : ∀ d ∈ (PlainText.readDocument path format lines).diagnostics,
      ¬ IsOnCharacters (Finding.withoutPeriods d.message) := by
    show ∀ d ∈ (PlainText.FrontPage.ofLines lines).diagnostics, _
    unfold PlainText.FrontPage.ofLines
    dsimp only
    split
    · simp
    · exact not_isOnCharacters_of_mem_headerDiagnostics
  unfold Document.openingFindings
  split
  · simp
  · simpa using messages

end Rules

/-! ## Both modes -/

/-- Lenient and normal mode take in the same documents. -/
theorem readText_lenient_eq_normal (path : String) (text : List Char) :
    readText path .lenient text = readText path .normal text := by
  have same : ∀ cs, detectFormat .lenient cs = detectFormat .normal cs := fun _ => rfl
  simp only [readText, same]

/-- Text that is not taken in as XML is read as plain text. -/
theorem exists_eq_readDocument_of_readText {path : String} {mode : Mode} {text : List Char}
    {doc : Document} (done : readText path mode text = .ok doc) (is_text : doc.format ≠ .xml) :
    ∃ format lines, doc = PlainText.readDocument path format lines := by
  rcases readText_cases done with ⟨-, read⟩ | ⟨-, rfl⟩
  · exact absurd (RfcXml.format_readDocument read) is_text
  · exact ⟨_, _, rfl⟩

namespace RuleSet

/-- On a text document with a masked line, lenient mode has a nit that normal mode has not. -/
theorem exists_lenient_only_nit {doc : Document} {options : Options} {lenient normal : Report}
    (lenient_checked : standard.check doc (options.withMode .lenient) = .ok lenient)
    (normal_checked : standard.check doc (options.withMode .normal) = .ok normal)
    (is_text : doc.format ≠ .xml)
    (opening : ∀ nit ∈ doc.openingFindings.flatMap Finding.nits,
      ¬ Rules.IsOnCharacters nit.message)
    {line : String} (mem : line ∈ doc.lines) (masked : Rules.IsMasked line.toList) :
    ∃ nit ∈ lenient.nitsOf .error, nit ∉ normal.nitsOf .error := by
  obtain ⟨control, beyond, in_lenient, in_normal, on_characters, differ⟩ :=
    Rules.lineProblem?_of_isMasked masked
  obtain ⟨index, at_index⟩ := List.mem_iff_getElem?.1 mem
  have found : doc.lineAt? (index + 1) = some line := by rw [Document.lineAt?_succ, at_index]
  have reported : ∀ rule ∈ standard.meantFor doc, ∀ check, rule.check = some check →
      ∀ nit ∈ check.nits doc (options.withMode .lenient), nit ∈ lenient.nitsOf rule.severity :=
    fun rule meant check is_check nit among =>
      (mem_nitsOf_iff lenient_checked).2 (.inr ⟨rule, meant, rfl, check, is_check, among⟩)
  refine ⟨Nit.onLine (index + 1) control, ?_, fun again => ?_⟩
  · -- The rule on characters is meant for texts, and lenient mode reports the control character.
    have all := (forall_meantFor_standard_iff (p := fun severity check =>
      ∀ nit ∈ check.nits doc (options.withMode .lenient), nit ∈ lenient.nitsOf severity)).1 reported
    obtain ⟨-, -, -, -, -, -, -, -, -, -, -, -, -, characters⟩ := all
    exact characters is_text _ ((Rules.mem_nits_characters_iff found).2 in_lenient)
  · rcases (mem_nitsOf_iff normal_checked).1 again with ⟨-, in_opening⟩ |
      ⟨rule, meant, is_error, check, is_check, among⟩
    · exact opening _ in_opening on_characters
    · -- Another rule would word it differently, and this one has one nit for the line.
      have in_characters := Rules.mem_nits_characters_of_isOnCharacters
        (Nit.onLine (index + 1) control) on_characters rule meant check is_check is_error
        among
      have same := (Rules.mem_nits_characters_iff found).1 in_characters
      exact differ (Option.some.inj (same.symm.trans in_normal))

/-- The nits of lenient mode are among those of normal mode, each with its severity, line and
message, exactly if the document is in XML or no line of it is masked. Both modes take in the same
document, and both have a report on it. -/
theorem lenient_subset_normal_iff {path : String} {text : List Char} {doc : Document}
    (read : readText path .lenient text = .ok doc) (options : Options) :
    readText path .normal text = .ok doc ∧
      ∃ lenient normal, standard.check doc (options.withMode .lenient) = .ok lenient ∧
        standard.check doc (options.withMode .normal) = .ok normal ∧
        ((∀ severity, ∀ nit ∈ lenient.nitsOf severity, nit ∈ normal.nitsOf severity) ↔
          doc.format = .xml ∨ ∀ line ∈ doc.lines, ¬ Rules.IsMasked line.toList) := by
  have located := located_readText read
  obtain ⟨lenient, lenient_checked, -⟩ := exists_report_of_isSound
    (Rules.standard_isSound located (options.withMode .lenient)) located
  obtain ⟨normal, normal_checked, -⟩ := exists_report_of_isSound
    (Rules.standard_isSound located (options.withMode .normal)) located
  refine ⟨by rw [← readText_lenient_eq_normal, read], lenient, normal, lenient_checked,
    normal_checked, ?_⟩
  constructor
  · -- A masked line would have a nit that only lenient mode has.
    intro subset
    by_contra neither
    obtain ⟨is_text, some_masked⟩ := not_or.1 neither
    obtain ⟨line, mem, masked⟩ : ∃ line ∈ doc.lines, Rules.IsMasked line.toList := by
      simpa using some_masked
    obtain ⟨format, lines, rfl⟩ := exists_eq_readDocument_of_readText read is_text
    obtain ⟨nit, in_lenient, not_in_normal⟩ := exists_lenient_only_nit lenient_checked
      normal_checked is_text Rules.not_isOnCharacters_of_mem_openingFindings mem masked
    exact not_in_normal (subset .error nit in_lenient)
  · intro clear severity nit mem
    have unmasked : doc.format ≠ .xml → ∀ line ∈ doc.lines, ¬ Rules.IsMasked line.toList :=
      fun is_text => clear.resolve_left is_text
    rcases (mem_nitsOf_iff lenient_checked).1 mem with opening |
      ⟨rule, meant, same, check, is_check, among⟩
    · exact (mem_nitsOf_iff normal_checked).2 (.inl opening)
    · have relaxed := Rules.standard_relaxes unmasked options rule meant check is_check
      exact (mem_nitsOf_iff normal_checked).2
        (.inr ⟨rule, meant, same, check, is_check, relaxed nit among⟩)

/-- With the tab before the character beyond ASCII, both modes report the tab. -/
theorem lenient_subset_normal_tabFirst :
    ∃ doc lenient normal, readText "draft.txt" .lenient "\té".toList = .ok doc ∧
      standard.check doc (.ofMode .lenient) = .ok lenient ∧
      standard.check doc (.ofMode .normal) = .ok normal ∧
      ∀ severity, ∀ nit ∈ lenient.nitsOf severity, nit ∈ normal.nitsOf severity := by
  have read : readText "draft.txt" .lenient "\té".toList =
      .ok (PlainText.readDocument "draft.txt" .paginated ["\té".toList]) := by decide +kernel
  obtain ⟨-, lenient, normal, lenient_checked, normal_checked, subset_iff⟩ :=
    lenient_subset_normal_iff read (.ofMode .normal)
  refine ⟨_, lenient, normal, read, lenient_checked, normal_checked, subset_iff.2 (.inr ?_)⟩
  refine List.forall_mem_singleton.2 ?_
  rintro ⟨before, c, after, split, -, clean, a, mem, beyond⟩
  -- The tab would have to stand before the first forbidden control character.
  cases before with
  | nil => cases mem
  | cons first before =>
    obtain rfl : first = '\t' := by simpa using (congrArg List.head? split).symm
    exact clean '\t' (by simp) ⟨by decide, by decide, by decide⟩

/-- With the character beyond ASCII before the tab, lenient mode reports the tab and normal mode
does not. -/
theorem lenient_not_subset_normal :
    ∃ doc lenient normal, readText "draft.txt" .lenient "é\t".toList = .ok doc ∧
      readText "draft.txt" .normal "é\t".toList = .ok doc ∧
      standard.check doc (.ofMode .lenient) = .ok lenient ∧
      standard.check doc (.ofMode .normal) = .ok normal ∧
      ∃ nit ∈ lenient.nitsOf .error, nit ∉ normal.nitsOf .error :=
  ⟨PlainText.readDocument "draft.txt" .paginated ["é\t".toList], _, _, rfl, rfl, rfl, rfl,
    Nit.onLine 1 "Line contains a tab character", by decide +kernel, by decide +kernel⟩

end RuleSet

end DraftNits
