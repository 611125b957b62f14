import DraftNits.Rules.Standard
import Mathlib.Data.List.Basic

/-! # What a rule set reports

The report of a rule set, said without its loop. Only the rules that are meant for a document count
(`RuleSet.meantFor`). Each of them keeps to the document (`Rule.KeepsTo`) or fails
(`Rule.Fails`), with an error of its own or with the first line that it reports and the document
does not have.

* `RuleSet.check_eq_ok_iff` — there is a report exactly if all these rules keep to the document,
  and each severity holds their findings in order.
* `RuleSet.check_eq_error_iff` — there is none exactly if one of them fails after rules that keep
  to the document.
* `RuleSet.forall_meantFor_standard_iff` — which of the standard rules count for which documents.
* `RuleSet.check_refines` — both together, and that no other rule has a say. -/

namespace DraftNits

/-! ## Rules that are meant for a document -/

/-- Whether a scope takes in a value, by its own words. -/
def Scope.Admits {α : Type} : Scope α → α → Prop
  | .any, _ => True
  | .only wanted, value => value = wanted
  | .among values, value => value ∈ values

/-- A scope includes the values that it admits. -/
theorem Scope.includes_iff_admits {α : Type} [DecidableEq α] (scope : Scope α) (value : α) :
    scope.includes value = true ↔ scope.Admits value := by
  cases scope with
  | any => simp [includes, Admits]
  | only wanted => simpa [includes, Admits] using eq_comm
  | among values => simp [includes, Admits]

instance {α : Type} [DecidableEq α] (scope : Scope α) (value : α) :
    Decidable (scope.Admits value) :=
  decidable_of_iff _ (scope.includes_iff_admits value)

/-- A rule is meant for a document if its check is written and its scopes admit the document's
format and kind. -/
def Rule.IsMeantFor (rule : Rule) (doc : Document) : Prop :=
  rule.check.isSome = true ∧ rule.formats.Admits doc.format ∧ rule.kinds.Admits doc.kind

instance (rule : Rule) (doc : Document) : Decidable (rule.IsMeantFor doc) :=
  inferInstanceAs (Decidable (_ ∧ _ ∧ _))

/-- The rules of a set that are meant for a document, in their order. -/
def RuleSet.meantFor (set : RuleSet) (doc : Document) : List Rule :=
  set.rules.filter fun rule => rule.IsMeantFor doc

/-- A rule applies to the documents that it is meant for. -/
theorem Rule.appliesTo_iff_isMeantFor (rule : Rule) (doc : Document) :
    rule.appliesTo doc.format doc.kind = true ↔ rule.IsMeantFor doc := by
  cases h : rule.check <;>
    simp [appliesTo, isPlaceholder, IsMeantFor, h, Scope.includes_iff_admits]

/-- The rules that run on a document are those that are meant for it. -/
theorem RuleSet.applicable_eq_meantFor (set : RuleSet) (doc : Document) :
    set.applicable doc.format doc.kind = set.meantFor doc := by
  refine List.filter_congr fun rule _ => ?_
  rw [Bool.eq_iff_iff, Rule.appliesTo_iff_isMeantFor, decide_eq_true_iff]

/-- The check of a rule that is meant for a document is written. -/
theorem RuleSet.isSome_check_of_mem_meantFor {set : RuleSet} {doc : Document} {rule : Rule}
    (h : rule ∈ set.meantFor doc) : rule.check.isSome = true := by
  have meant : rule.IsMeantFor doc := by simpa [meantFor] using (List.mem_filter.1 h).2
  exact meant.1

/-! ## Lines of a document -/

/-- Whether a document has a line of a number. -/
def Document.HasLine (doc : Document) (number : Nat) : Prop :=
  1 ≤ number ∧ number ≤ doc.lineCount

instance (doc : Document) (number : Nat) : Decidable (doc.HasLine number) :=
  inferInstanceAs (Decidable (_ ∧ _))

/-- The lines that a finding points to, in the order of its nits. -/
def Finding.linesOf (finding : Finding) : List Nat := finding.nits.filterMap Nit.line

/-- A line that is looked for in vain is a line that the document does not have. -/
theorem Document.isNone_lineAt?_iff (doc : Document) (number : Nat) :
    (doc.lineAt? number).isNone = true ↔ ¬ doc.HasLine number := by
  rw [HasLine, ← isSome_lineAt?_iff]
  cases doc.lineAt? number <;> simp

/-- A numbered line is a line with the number under which the document has it. -/
theorem Document.mem_numberedLines_iff {doc : Document} {number : Nat} {line : String} :
    (number, line) ∈ doc.numberedLines ↔ doc.lineAt? number = some line := by
  simp only [numberedLines, List.mem_map, Prod.mk.injEq, Prod.exists]
  constructor
  · rintro ⟨text, index, mem, rfl, rfl⟩
    rw [lineAt?_succ]
    exact List.mem_zipIdx_iff_getElem?.1 mem
  · intro found
    cases number with
    | zero => simp at found
    | succ index =>
      rw [lineAt?_succ] at found
      exact ⟨line, index, List.mem_zipIdx_iff_getElem?.2 found, rfl, rfl⟩

/-- What holds of the text of every numbered line holds of every line. -/
theorem Document.forall_mem_numberedLines {doc : Document} {p : String → Prop} :
    (∀ entry ∈ doc.numberedLines, p entry.2) ↔ ∀ line ∈ doc.lines, p line := by
  constructor
  · intro all line mem
    obtain ⟨index, found⟩ := List.mem_iff_getElem?.1 mem
    exact all (index + 1, line) (mem_numberedLines_iff.2 (by rw [lineAt?_succ, found]))
  · rintro all ⟨number, line⟩ mem
    have found := mem_numberedLines_iff.1 mem
    cases number with
    | zero => simp at found
    | succ index => exact all line (List.mem_of_getElem? (by rwa [lineAt?_succ] at found))

/-- A finding strays at the first of its lines that the document does not have. -/
theorem Finding.strayLine?_eq_find? (doc : Document) (finding : Finding) :
    finding.strayLine? doc = finding.linesOf.find? fun number => ¬ doc.HasLine number := by
  rcases finding with ⟨nits, summary⟩
  simp only [strayLine?, linesOf]
  induction nits with
  | nil => rfl
  | cons nit nits ih =>
    rw [List.findSome?_cons, ih, List.filterMap_cons]
    cases nit.line with
    | none =>
      -- A nit without a line is in neither list.
      rfl
    | some line =>
      simp only [Document.isNone_lineAt?_iff, List.find?_cons]
      by_cases inside : doc.HasLine line <;> simp only [inside, not_true_eq_false,
        not_false_eq_true, if_true, if_false, decide_true, decide_false]

/-- Findings stray at the first of all their lines that the document does not have. -/
theorem Finding.findSome?_strayLine? (doc : Document) (findings : List Finding) :
    findings.findSome? (strayLine? doc) =
      (findings.flatMap linesOf).find? fun number => ¬ doc.HasLine number := by
  induction findings with
  | nil => rfl
  | cons finding findings ih =>
    rw [List.findSome?_cons, List.flatMap_cons, List.find?_append, strayLine?_eq_find?, ih]
    cases finding.linesOf.find? fun number => ¬ doc.HasLine number <;> rfl

/-! ## One rule -/

namespace Rule

/-- What the check of a rule finds in a document; nothing if it fails or is not written. -/
def reported (doc : Document) (options : Options) (rule : Rule) : List Finding :=
  match rule.check with
  | none => []
  | some check =>
    match check doc options with
    | .ok findings => findings
    | .error _ => []

/-- A rule keeps to a document: its check does not fail, and it points only to lines that the
document has. -/
def KeepsTo (rule : Rule) (doc : Document) (options : Options) : Prop :=
  ∃ check findings, rule.check = some check ∧ check doc options = .ok findings ∧
    ∀ finding ∈ findings, ∀ number ∈ finding.linesOf, doc.HasLine number

/-- The ways in which a rule fails on a document. -/
inductive Fails (rule : Rule) (doc : Document) (options : Options) : RuleFailure → Prop
  /-- The check fails with an error of its own. -/
  | ofCheck {check : Check} {failure : RuleFailure} (written : rule.check = some check)
      (failed : check doc options = .error failure) : Fails rule doc options failure
  /-- The check points to lines of which `number` is the first that the document does not have. -/
  | ofLine {check : Check} {findings : List Finding} {inside rest : List Nat} {number : Nat}
      (written : rule.check = some check) (done : check doc options = .ok findings)
      (split : findings.flatMap Finding.linesOf = inside ++ number :: rest)
      (before : ∀ n ∈ inside, doc.HasLine n) (stray : ¬ doc.HasLine number) :
      Fails rule doc options
        ⟨rule.id, "reported line " ++ toString number ++ " of a " ++ toString doc.lineCount ++
          "-line document"⟩

variable {rule : Rule} {doc : Document} {options : Options}

/-- A rule whose check is written makes findings exactly if it keeps to the document. -/
theorem findings_eq_ok_iff (written : rule.check.isSome = true) {findings : List Finding} :
    rule.findings doc options = .ok findings ↔
      rule.KeepsTo doc options ∧ findings = rule.reported doc options := by
  obtain ⟨check, is_check⟩ := Option.isSome_iff_exists.1 written
  simp only [Rule.findings, KeepsTo, reported, is_check, Option.some.injEq]
  cases done : check doc options with
  | error failure => simp [done]
  | ok found =>
    simp only [Finding.findSome?_strayLine?]
    -- The check is done: what is left is whether it points to a line that is not there.
    cases stray : (found.flatMap Finding.linesOf).find? fun number => ¬ doc.HasLine number with
    | none =>
      have inside : ∀ finding ∈ found, ∀ number ∈ finding.linesOf, doc.HasLine number := by
        simpa using stray
      simp [done, eq_comm]
      exact fun _ => inside
    | some line =>
      have outside : ¬ doc.HasLine line := by simpa using List.find?_some stray
      have mem := List.mem_of_find?_eq_some stray
      obtain ⟨finding, of_found, of_line⟩ := List.mem_flatMap.1 mem
      simp [done]
      intro inside
      exact absurd (inside finding of_found line of_line) outside

/-- A rule makes no findings exactly if it fails, and for the reason for which it fails. -/
theorem findings_eq_error_iff {failure : RuleFailure} :
    rule.findings doc options = .error failure ↔ rule.Fails doc options failure := by
  constructor
  · intro failed
    cases is_check : rule.check with
    | none => simp [Rule.findings, is_check] at failed
    | some check =>
      simp only [Rule.findings, is_check] at failed
      cases done : check doc options with
      | error own =>
        rw [done] at failed
        obtain rfl : own = failure := by simpa using failed
        exact .ofCheck is_check done
      | ok found =>
        rw [done] at failed
        -- No error of its own, so the failure names the first stray line.
        simp only [Finding.findSome?_strayLine?] at failed
        cases stray : (found.flatMap Finding.linesOf).find? fun n => ¬ doc.HasLine n with
        | none => rw [stray] at failed; cases failed
        | some number =>
          rw [stray] at failed
          obtain rfl : rule.strayFailure doc number = failure := by simpa using failed
          obtain ⟨outside, inside, rest, split, before⟩ := List.find?_eq_some_iff_append.1 stray
          exact .ofLine is_check done split (by simpa using before) (by simpa using outside)
  · intro fails
    cases fails with
    | ofCheck written failed => simp [Rule.findings, written, failed]
    | ofLine written done split before stray =>
      have found : (List.flatMap Finding.linesOf _).find? (fun n => ¬ doc.HasLine n) = some _ :=
        List.find?_eq_some_iff_append.2 ⟨by simpa using stray, _, _, split, by simpa using before⟩
      simp only [Rule.findings, written, done, Finding.findSome?_strayLine?, found, strayFailure]

/-- A rule that keeps to a document does not fail on it. -/
theorem KeepsTo.not_fails (keeps : rule.KeepsTo doc options) {failure : RuleFailure} :
    ¬ rule.Fails doc options failure := by
  have written : rule.check.isSome = true := by
    obtain ⟨check, findings, is_check, -⟩ := keeps
    simp [is_check]
  have done := (findings_eq_ok_iff written).2 ⟨keeps, rfl⟩
  rw [← findings_eq_error_iff, done]
  simp

end Rule

/-! ## Reports -/

namespace Report

/-- Findings that are pushed one after the other stand at the end of their severity. -/
theorem bucket_pushAll (report : Report) (severity other : Severity) (findings : List Finding) :
    (report.pushAll severity findings).bucket other =
      report.bucket other ++ if severity = other then findings else [] := by
  induction findings generalizing report with
  | nil => simp [pushAll]
  | cons finding findings ih =>
    have step : report.pushAll severity (finding :: findings) =
        (report.push severity finding).pushAll severity findings := rfl
    rw [step, ih, bucket_push]
    by_cases same : severity = other <;> simp [same]

/-- A report is known from the findings of each severity. -/
theorem ext_bucket {a b : Report} (h : ∀ severity, a.bucket severity = b.bucket severity) :
    a = b := by
  rcases a with ⟨errors, warnings, comments⟩
  rcases b with ⟨errors', warnings', comments'⟩
  have same_errors : errors = errors' := h .error
  have same_warnings : warnings = warnings' := h .warning
  have same_comments : comments = comments' := h .comment
  rw [same_errors, same_warnings, same_comments]

/-- There is a report with any findings for each severity. -/
theorem exists_bucket (findings : Severity → List Finding) :
    ∃ report : Report, ∀ severity, report.bucket severity = findings severity :=
  ⟨⟨findings .error, findings .warning, findings .comment⟩, fun severity => by
    cases severity <;> rfl⟩

end Report

/-- The findings with which the errors of a report open: one nit for each diagnostic, in order. -/
def Document.openingFindings (doc : Document) : List Finding :=
  if doc.diagnostics = [] then []
  else
    [⟨doc.diagnostics.map fun d => ⟨d.line, Finding.withoutPeriods d.message⟩,
      "Found " ++ countOf doc.diagnostics.length "parse error" ++
        " while processing file. The result may be incomplete"⟩]

/-! ## All rules -/

namespace RuleSet

/-- The findings that some rules report with a severity, in the order of the rules. -/
def reportedWith (doc : Document) (options : Options) (severity : Severity)
    (rules : List Rule) : List Finding :=
  (rules.filter fun rule => rule.severity = severity).flatMap (Rule.reported doc options)

variable {set : RuleSet} {doc : Document} {options : Options}

/-- The findings of a rule come before those of the rules after it. -/
theorem reportedWith_cons (severity : Severity) (rule : Rule) (rules : List Rule) :
    reportedWith doc options severity (rule :: rules) =
      (if rule.severity = severity then rule.reported doc options else []) ++
        reportedWith doc options severity rules := by
  by_cases same : rule.severity = severity <;> simp [reportedWith, same]

/-- The first report holds what could not be read, as an error. -/
theorem bucket_initialReport (doc : Document) (severity : Severity) :
    (initialReport doc).bucket severity =
      if severity = .error then doc.openingFindings else [] := by
  unfold initialReport Finding.ofDiagnostics? Document.openingFindings
  cases doc.diagnostics <;> cases severity <;> rfl

/-- Rules that run on a document add their findings to a report exactly if all of them keep to the
document. -/
theorem runRules_eq_ok_iff {rules : List Rule}
    (written : ∀ rule ∈ rules, rule.check.isSome = true) {before after : Report} :
    runRules doc options before rules = .ok after ↔
      (∀ rule ∈ rules, rule.KeepsTo doc options) ∧
        ∀ severity, after.bucket severity =
          before.bucket severity ++ reportedWith doc options severity rules := by
  induction rules generalizing before with
  | nil =>
    simp only [runRules, Except.ok.injEq, reportedWith]
    constructor
    · rintro rfl
      simp
    · rintro ⟨-, same⟩
      exact (Report.ext_bucket fun severity => by simpa using same severity).symm
  | cons rule rules ih =>
    rw [List.forall_mem_cons] at written
    rw [runRules, List.forall_mem_cons]
    cases done : rule.findings doc options with
    | error failure =>
      -- The run ends here without a report, and the first rule does not keep to the document.
      have fails := Rule.findings_eq_error_iff.1 done
      simp only [reduceCtorEq, false_iff]
      rintro ⟨⟨keeps, -⟩, -⟩
      exact keeps.not_fails fails
    | ok findings =>
      -- The rules after it run on the report to which its findings were added.
      obtain ⟨keeps, rfl⟩ := (Rule.findings_eq_ok_iff written.1).1 done
      simp only [ih written.2, Report.bucket_pushAll, reportedWith_cons, keeps, true_and,
        List.append_assoc]

/-- Rules that run on a document end with a failure exactly if it is that of a rule after rules
that keep to the document. -/
theorem runRules_eq_error_iff {rules : List Rule}
    (written : ∀ rule ∈ rules, rule.check.isSome = true) {before : Report}
    {failure : RuleFailure} :
    runRules doc options before rules = .error failure ↔
      ∃ kept rule rest, rules = kept ++ rule :: rest ∧ (∀ r ∈ kept, r.KeepsTo doc options) ∧
        rule.Fails doc options failure := by
  induction rules generalizing before with
  | nil => simp [runRules]
  | cons first rules ih =>
    rw [List.forall_mem_cons] at written
    rw [runRules]
    cases done : first.findings doc options with
    | error own =>
      have own_fails := Rule.findings_eq_error_iff.1 done
      simp only [Except.error.injEq]
      constructor
      · rintro rfl
        exact ⟨[], first, rules, rfl, by simp, own_fails⟩
      · -- The first rule fails, so no rule can have been kept before the one that fails.
        rintro ⟨kept, rule, rest, split, keeps, fails⟩
        cases kept with
        | nil =>
          obtain ⟨rfl, -⟩ := List.cons.inj split
          have same := done.symm.trans (Rule.findings_eq_error_iff.2 fails)
          simpa using same
        | cons head kept =>
          obtain ⟨rfl, -⟩ := List.cons.inj split
          exact absurd own_fails (keeps first (by simp)).not_fails
    | ok findings =>
      have first_keeps := ((Rule.findings_eq_ok_iff written.1).1 done).1
      simp only [ih written.2]
      constructor
      · rintro ⟨kept, rule, rest, rfl, keeps, fails⟩
        exact ⟨first :: kept, rule, rest, rfl, by simpa [first_keeps] using keeps, fails⟩
      · -- The first rule keeps to the document, so it is among those that were kept.
        rintro ⟨kept, rule, rest, split, keeps, fails⟩
        cases kept with
        | nil =>
          obtain ⟨rfl, -⟩ := List.cons.inj split
          exact absurd fails first_keeps.not_fails
        | cons head kept =>
          obtain ⟨rfl, rfl⟩ := List.cons.inj split
          exact ⟨kept, rule, rest, rfl, fun r h => keeps r (by simp [h]), fails⟩

/-- A set has a report on a document exactly if every rule that is meant for it keeps to it. The
report holds the findings of these rules in order, by severity, the errors after what could not be
read. -/
theorem check_eq_ok_iff {report : Report} :
    set.check doc options = .ok report ↔
      (∀ rule ∈ set.meantFor doc, rule.KeepsTo doc options) ∧
        ∀ severity, report.bucket severity =
          (if severity = .error then doc.openingFindings else []) ++
            reportedWith doc options severity (set.meantFor doc) := by
  rw [check, applicable_eq_meantFor, runRules_eq_ok_iff fun _ => isSome_check_of_mem_meantFor]
  simp only [bucket_initialReport]

/-- A set has no report on a document exactly if some rule that is meant for it fails on it, and
the failure is that of the first such rule. -/
theorem check_eq_error_iff {failure : RuleFailure} :
    set.check doc options = .error failure ↔
      ∃ kept rule rest, set.meantFor doc = kept ++ rule :: rest ∧
        (∀ r ∈ kept, r.KeepsTo doc options) ∧ rule.Fails doc options failure := by
  rw [check, applicable_eq_meantFor, runRules_eq_error_iff fun _ => isSome_check_of_mem_meantFor]

/-- The documents for which each of the standard rules counts, and the severity with which it
does. -/
theorem forall_meantFor_standard_iff {p : Severity → Check → Prop} :
    (∀ rule ∈ standard.meantFor doc, ∀ check, rule.check = some check → p rule.severity check) ↔
      p .error Rules.title ∧
      (doc.kind = .draft → p .error Rules.draftName) ∧
      (doc.kind = .rfc → p .error Rules.category) ∧
      p .warning Rules.authors ∧
      p .error Rules.abstract ∧
      (doc.format ≠ .xml → p .error Rules.boilerplate) ∧
      (doc.format ≠ .xml → p .error Rules.lineLengths) ∧
      (doc.format = .paginated → p .warning Rules.pageLengths) ∧
      (doc.format = .submission → p .warning Rules.pagination) ∧
      p .warning Rules.undefinedCitations ∧
      p .comment Rules.unusedReferences ∧
      (doc.format ≠ .xml → doc.kind = .draft → p .warning Rules.expiry) ∧
      (doc.format = .xml → p .comment Rules.xmlVersion) ∧
      (doc.format ≠ .xml → p .error Rules.characters) := by
  have text : doc.format ∈ Rules.textFormats ↔ doc.format ≠ .xml := by
    cases doc.format <;> simp [Rules.textFormats]
  simp only [meantFor, List.mem_filter, decide_eq_true_eq, and_imp, standard, Rules.standard,
    List.forall_mem_cons, List.not_mem_nil, false_imp_iff, implies_true, and_true,
    Rule.IsMeantFor, Rule.ofCheck, Rule.placeholder, Rule.forFormat, Rule.forFormats, Rule.forKind,
    Rule.withSeverity, Scope.Admits, text, Option.isSome_some, Option.isSome_none,
    Bool.false_eq_true, true_imp_iff, Option.some.injEq, forall_eq']

/-- Checking a document does what the rules that are meant for it say, and nothing else. If all of
them keep to the document, each severity holds exactly their findings with that severity in order,
the errors after one finding for what could not be read. Otherwise there is no report but the
failure of the first of them that fails. Rules that are not meant for the document have no say,
whatever they do. -/
theorem check_refines (set : RuleSet) (doc : Document) (options : Options) :
    ((∀ rule ∈ set.meantFor doc, rule.KeepsTo doc options) →
      ∃ report, set.check doc options = .ok report ∧
        ∀ severity, report.bucket severity =
          (if severity = .error then doc.openingFindings else []) ++
            ((set.meantFor doc).filter fun rule => rule.severity = severity).flatMap
              (Rule.reported doc options)) ∧
    ((¬ ∀ rule ∈ set.meantFor doc, rule.KeepsTo doc options) →
      ∃ kept rule rest failure, set.meantFor doc = kept ++ rule :: rest ∧
        (∀ r ∈ kept, r.KeepsTo doc options) ∧ rule.Fails doc options failure ∧
        set.check doc options = .error failure) ∧
    ∀ other : RuleSet, other.meantFor doc = set.meantFor doc →
      other.check doc options = set.check doc options := by
  refine ⟨fun keeps => ?_, fun not_kept => ?_, fun other same => ?_⟩
  · obtain ⟨report, holds⟩ := Report.exists_bucket fun severity =>
      (if severity = .error then doc.openingFindings else []) ++
        reportedWith doc options severity (set.meantFor doc)
    exact ⟨report, check_eq_ok_iff.2 ⟨keeps, holds⟩, holds⟩
  · cases done : set.check doc options with
    | ok report => exact absurd (check_eq_ok_iff.1 done).1 not_kept
    | error failure =>
      obtain ⟨kept, rule, rest, split, keeps, fails⟩ := check_eq_error_iff.1 done
      exact ⟨kept, rule, rest, failure, split, keeps, fails, rfl⟩
  · rw [check, check, applicable_eq_meantFor, applicable_eq_meantFor, same]

end RuleSet

end DraftNits
