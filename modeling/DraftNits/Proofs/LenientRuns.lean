import DraftNits.Proofs.LenientMode
import DraftNits.Proofs.SeveralDocuments

/-! # Lenient mode never makes a run worse

Lenient mode may word a nit in another way than normal mode does, but it never points to a place that
normal mode passes over. Rule by rule the places of its nits are, in order, among those of normal
mode, and it has no more findings (`Finding.Within`). So each severity of a report is at most as long,
and a run that ends with status 1 in lenient mode does so in normal mode.

* `Finding.within_ofNits` — the nits of a rule decide about its findings.
* `Rules.standard_eases` — each standard rule.
* `RuleSet.within_bucket` — each severity of a report.
* `lenient_never_worse` — every text in both modes, and every run over documents. -/

namespace DraftNits

/-! ## Places -/

namespace Finding

/-- The places that findings point to, in order: the line of each nit, if it is about one. -/
def placesOf (findings : List Finding) : List (Option Nat) :=
  (findings.flatMap Finding.nits).map Nit.line

/-- Whether findings stay within others: their places are, in order, among the places of these, and
there are no more of them. -/
structure Within (few many : List Finding) : Prop where
  /-- The places are among the others. -/
  places : (placesOf few).Sublist (placesOf many)
  /-- There are no more findings. -/
  length_le : few.length ≤ many.length

/-- Findings stay within themselves. -/
theorem Within.refl (findings : List Finding) : Within findings findings :=
  ⟨.refl _, Nat.le_refl _⟩

/-- No findings stay within any. -/
theorem within_nil (findings : List Finding) : Within [] findings :=
  ⟨List.nil_sublist _, Nat.zero_le _⟩

/-- Findings behind others stay within what stands behind these. -/
theorem Within.append {few many later others : List Finding} (first : Within few many)
    (second : Within later others) : Within (few ++ later) (many ++ others) where
  places := by
    simp only [placesOf, List.flatMap_append, List.map_append]
    exact first.places.append second.places
  length_le := by
    rw [List.length_append, List.length_append]
    exact Nat.add_le_add first.length_le second.length_le

/-- Where findings of each item stay within others, those of all items do. -/
theorem Within.flatMap {α : Type} {items : List α} {few many : α → List Finding}
    (each : ∀ item ∈ items, Within (few item) (many item)) :
    Within (items.flatMap few) (items.flatMap many) := by
  induction items with
  | nil => exact .refl []
  | cons item items ih =>
    rw [List.forall_mem_cons] at each
    exact each.1.append (ih each.2)

/-- The findings of nits stay within those of others if the places of the nits do. -/
theorem within_ofNits {few many : List Nit} (among : (few.map Nit.line).Sublist (many.map Nit.line))
    (summary other : Nat → String) : Within (ofNits few summary) (ofNits many other) where
  places := by
    rw [placesOf, placesOf, flatMap_nits_ofNits, flatMap_nits_ofNits]
    exact among
  length_le := by
    cases few with
    | nil => exact Nat.zero_le _
    | cons nit few =>
      -- A place cannot be among none.
      cases many with
      | nil => cases among
      | cons _ _ => exact Nat.le_refl 1

end Finding

/-- Where what is picked from an item has a counterpart of the same key, the keys of all that is
picked are, in order, among those of the counterparts. -/
theorem sublist_map_filterMap {α β κ : Type} {key : β → κ} {pick other : α → Option β}
    {items : List α}
    (each : ∀ item ∈ items, ∀ b, pick item = some b → ∃ c, other item = some c ∧ key b = key c) :
    ((items.filterMap pick).map key).Sublist ((items.filterMap other).map key) := by
  induction items with
  | nil => exact .slnil
  | cons item items ih =>
    rw [List.forall_mem_cons] at each
    have later := ih each.2
    rw [List.filterMap_cons, List.filterMap_cons]
    cases picked : pick item with
    | none =>
      cases other item with
      | none => exact later
      | some c => exact later.cons (key c)
    | some b =>
      obtain ⟨c, also, same⟩ := each.1 b picked
      rw [also, List.map_cons, List.map_cons, same]
      exact later.cons_cons (key c)

/-! ## Rules -/

namespace Check

variable {check : Check} {doc : Document} {options : Options}

/-- What a check finds in a document; nothing if it fails. -/
def found (check : Check) (doc : Document) (options : Options) : List Finding :=
  match check doc options with
  | .ok findings => findings
  | .error _ => []

/-- Whether what a check finds in lenient mode stays within what it finds in normal mode. -/
def Eases (check : Check) (doc : Document) (options : Options) : Prop :=
  Finding.Within (check.found doc (options.withMode .lenient))
    (check.found doc (options.withMode .normal))

/-- A check whose findings in lenient mode stay within those in normal mode. -/
theorem eases_of_within {few many : List Finding}
    (lenient : check doc (options.withMode .lenient) = .ok few)
    (normal : check doc (options.withMode .normal) = .ok many)
    (within : Finding.Within few many) : check.Eases doc options := by
  rw [Eases, found, found, lenient, normal]
  exact within

/-- A check that does not look at the mode finds the same in both. -/
theorem eases_of_eq
    (same : check doc (options.withMode .lenient) = check doc (options.withMode .normal)) :
    check.Eases doc options := by
  rw [Eases, found, found, same]
  exact .refl _

end Check

/-- A rule reports what its check finds. -/
theorem Rule.reported_eq_found {rule : Rule} {check : Check} (is_check : rule.check = some check)
    (doc : Document) (options : Options) : rule.reported doc options = check.found doc options := by
  simp only [reported, is_check]
  cases result : check doc options <;> simp only [Check.found, result]

namespace Rules

variable {doc : Document} {options : Options}

/-- The rule on authors finds nothing in lenient mode if there are authors. -/
theorem authors_eases : authors.Eases doc options := by
  simp only [Check.Eases, Check.found, authors, Options.mode_withMode, Mode.isLenient]
  by_cases none_listed : doc.front.authors.isEmpty = true
  · rw [if_pos none_listed, if_pos none_listed]
    exact .refl _
  · simp only [none_listed, beq_self_eq_true, Bool.not_true, Bool.and_false, Bool.false_eq_true,
      if_false]
    exact Finding.within_nil _

/-- A line that is too long in lenient mode is too long in normal mode. -/
theorem lineLengths_eases : lineLengths.Eases doc options := by
  refine Check.eases_of_within rfl rfl (Finding.within_ofNits
    (sublist_map_filterMap fun entry _ nit found => ?_) _ _)
  obtain ⟨long, is_nit⟩ := Option.ite_none_right_eq_some.1 found
  have shorter : maxLineLength .normal < maxLineLength .lenient := by decide
  exact ⟨nit, Option.ite_none_right_eq_some.2 ⟨Nat.lt_trans shorter long, is_nit⟩, rfl⟩

/-- The rule on the length of pages finds nothing in lenient mode. -/
theorem pageLengths_eases : pageLengths.Eases doc options :=
  Check.eases_of_within rfl rfl (Finding.within_nil _)

/-- A reference that is to be cited in lenient mode is to be cited in normal mode. -/
theorem unusedReferences_eases : unusedReferences.Eases doc options := by
  refine Check.eases_of_within rfl rfl (Finding.within_ofNits
    (List.Sublist.map _ (List.Sublist.map _ ?_)) _ _)
  refine List.monotone_filter_right _ fun r counts => ?_
  rw [Bool.and_eq_true] at counts ⊢
  exact ⟨by simp [Mode.isLenient], counts.2⟩

/-- A line with a forbidden control character has a problem in normal mode too, if perhaps another
one. -/
theorem exists_lineProblem?_of_lenient {line : List Char} {problem : String}
    (found : lineProblem? true line = some problem) :
    ∃ other, lineProblem? false line = some other := by
  by_cases masked : IsMasked line
  · obtain ⟨-, other, -, is_other, -⟩ := lineProblem?_of_isMasked masked
    exact ⟨other, is_other⟩
  · exact ⟨problem, lineProblem?_of_not_isMasked masked found⟩

/-- A line with a nit on characters in lenient mode has one in normal mode. -/
theorem characters_eases : characters.Eases doc options := by
  refine Check.eases_of_within rfl rfl (Finding.within_ofNits
    (sublist_map_filterMap fun entry _ nit found => ?_) _ _)
  obtain ⟨problem, is_problem, rfl⟩ := Option.map_eq_some_iff.1 found
  obtain ⟨other, is_other⟩ := exists_lineProblem?_of_lenient is_problem
  exact ⟨Nit.onLine entry.1 other, Option.map_eq_some_iff.2 ⟨other, is_other, rfl⟩, rfl⟩

/-- Lenient mode eases each standard rule that is meant for a document. -/
theorem standard_eases (doc : Document) (options : Options) :
    ∀ rule ∈ RuleSet.standard.meantFor doc, ∀ check, rule.check = some check →
      check.Eases doc options :=
  (RuleSet.forall_meantFor_standard_iff (p := fun _ check => check.Eases doc options)).2
    ⟨Check.eases_of_eq rfl, fun _ => Check.eases_of_eq rfl, fun _ => Check.eases_of_eq rfl,
      authors_eases, Check.eases_of_eq rfl, fun _ => Check.eases_of_eq rfl,
      fun _ => lineLengths_eases, fun _ => pageLengths_eases, fun _ => Check.eases_of_eq rfl,
      Check.eases_of_eq rfl, unusedReferences_eases, fun _ _ => Check.eases_of_eq rfl,
      fun _ => Check.eases_of_eq rfl, fun _ => characters_eases⟩

end Rules

/-! ## Reports -/

namespace RuleSet

/-- What a standard rule reports in lenient mode stays within what it reports in normal mode. -/
theorem within_reported {doc : Document} {rule : Rule} (meant : rule ∈ standard.meantFor doc)
    (options : Options) :
    Finding.Within (rule.reported doc (options.withMode .lenient))
      (rule.reported doc (options.withMode .normal)) := by
  obtain ⟨check, is_check⟩ := Option.isSome_iff_exists.1 (isSome_check_of_mem_meantFor meant)
  rw [Rule.reported_eq_found is_check, Rule.reported_eq_found is_check]
  exact Rules.standard_eases doc options rule meant check is_check

/-- Each severity of the report in lenient mode stays within that of the report in normal mode. -/
theorem within_bucket {doc : Document} {options : Options} {lenient normal : Report}
    (lenient_checked : standard.check doc (options.withMode .lenient) = .ok lenient)
    (normal_checked : standard.check doc (options.withMode .normal) = .ok normal)
    (severity : Severity) :
    Finding.Within (lenient.bucket severity) (normal.bucket severity) := by
  rw [(check_eq_ok_iff.1 lenient_checked).2, (check_eq_ok_iff.1 normal_checked).2]
  refine (Finding.Within.refl _).append (Finding.Within.flatMap fun rule among => ?_)
  exact within_reported (List.mem_of_mem_filter among) options

end RuleSet

/-! ## Runs -/

namespace CommandLine

/-- The request in another mode. -/
def Request.inMode (request : Request) (mode : Mode) : Request :=
  { request with options := request.options.withMode mode }

/-- Lenient and normal mode take in the same files. -/
theorem readFile_lenient_eq_normal (read : ReadFile) (path : String) :
    readFile read .lenient path = readFile read .normal path := by
  simp only [readFile, readBytes, readText_lenient_eq_normal]

/-- A document with errors in lenient mode has errors in normal mode. -/
theorem HasErrors.of_lenient {read : ReadFile} {options : Options} {path : String}
    (has_errors : HasErrors read (options.withMode .lenient) path) :
    HasErrors read (options.withMode .normal) path := by
  obtain ⟨doc, lenient, done, lenient_checked, some_error⟩ := has_errors
  have normal_done : readFile read (options.withMode .normal).mode path = .ok doc :=
    (readFile_lenient_eq_normal read path).symm.trans done
  obtain ⟨normal, -, normal_checked, -⟩ := exists_body_of_readFile normal_done .json
  refine ⟨doc, normal, normal_done, normal_checked, ?_⟩
  have no_more := (RuleSet.within_bucket lenient_checked normal_checked .error).length_le
  rw [← List.length_pos_iff_ne_nil] at some_error ⊢
  exact Nat.lt_of_lt_of_le some_error no_more

/-- A run that ends with status 1 in lenient mode does so in normal mode. -/
theorem Request.status_inMode_normal {request : Request} {read : ReadFile}
    (failed : ((request.inMode .lenient).outcome read).status = 1) :
    ((request.inMode .normal).outcome read).status = 1 := by
  cases no_list : request.list with
  | true =>
    have listed : (request.inMode .lenient).outcome read =
        ⟨0, ListingRow.table RuleSet.standard.listing, ""⟩ := if_pos no_list
    rw [listed] at failed
    cases failed
  | false =>
    have same_reading : ∀ path, CanRead read .lenient path ↔ CanRead read .normal path := by
      intro path
      rw [CanRead, CanRead, readFile_lenient_eq_normal]
    have lenient_runs : (request.inMode .lenient).list = false := no_list
    have normal_runs : (request.inMode .normal).list = false := no_list
    by_cases can_read : ∀ path ∈ request.documents, CanRead read .normal path
    · obtain ⟨-, lenient_iff, -⟩ := outcome_of_canRead lenient_runs
        fun path mem => (same_reading path).2 (can_read path mem)
      obtain ⟨-, normal_iff, -⟩ := outcome_of_canRead normal_runs can_read
      obtain ⟨path, mem, has_errors⟩ := lenient_iff.1 failed
      exact normal_iff.2 ⟨path, mem, has_errors.of_lenient⟩
    · -- Both runs end at the first document that cannot be read.
      obtain ⟨before, k, after, split, before_read, cannot⟩ := exists_first_not can_read
      obtain ⟨errors, run⟩ := exists_outcome_of_not_canRead normal_runs before_read cannot
      have whole : (request.inMode .normal).withDocuments (before ++ k :: after) =
          request.inMode .normal := by
        rw [← split]
        rfl
      rw [← whole, run]

end CommandLine

/-- Lenient mode never makes a run worse. Every text that it takes in, normal mode takes in as the
same document. For every standard rule that applies to the document, the places of the nits in
lenient mode are, in order, among those in normal mode, and there are no more findings; so each
severity of the report is at most as long. A document with errors in lenient mode has errors in
normal mode, and a run over documents that ends with status 1 in lenient mode does so in normal
mode. -/
theorem lenient_never_worse (options : Options) :
    (∀ path text doc, readText path .lenient text = .ok doc →
      readText path .normal text = .ok doc ∧
      (∀ rule ∈ RuleSet.standard.applicable doc.format doc.kind, ∃ lenient normal,
        rule.findings doc (options.withMode .lenient) = .ok lenient ∧
        rule.findings doc (options.withMode .normal) = .ok normal ∧
        (Finding.placesOf lenient).Sublist (Finding.placesOf normal) ∧
        lenient.length ≤ normal.length) ∧
      ∃ lenient normal, RuleSet.standard.check doc (options.withMode .lenient) = .ok lenient ∧
        RuleSet.standard.check doc (options.withMode .normal) = .ok normal ∧
        ∀ severity, (lenient.bucket severity).length ≤ (normal.bucket severity).length) ∧
    ∀ (request : CommandLine.Request) (read : CommandLine.ReadFile),
      (∀ path, CommandLine.HasErrors read (options.withMode .lenient) path →
        CommandLine.HasErrors read (options.withMode .normal) path) ∧
      (((request.inMode .lenient).outcome read).status = 1 →
        ((request.inMode .normal).outcome read).status = 1) := by
  refine ⟨fun path text doc done => ?_, fun request read =>
    ⟨fun path has_errors => has_errors.of_lenient, CommandLine.Request.status_inMode_normal⟩⟩
  have located := located_readText done
  have keeps : ∀ rule ∈ RuleSet.standard.meantFor doc, ∀ mode,
      rule.KeepsTo doc (options.withMode mode) := fun rule meant mode =>
    Rule.keepsTo_of_isSound (RuleSet.isSome_check_of_mem_meantFor meant)
      (Rules.standard_isSound located (options.withMode mode) rule meant)
  refine ⟨by rw [← readText_lenient_eq_normal, done], fun rule applies => ?_, ?_⟩
  · rw [RuleSet.applicable_eq_meantFor] at applies
    have written := RuleSet.isSome_check_of_mem_meantFor applies
    have within := RuleSet.within_reported applies options
    exact ⟨_, _, (Rule.findings_eq_ok_iff written).2 ⟨keeps rule applies .lenient, rfl⟩,
      (Rule.findings_eq_ok_iff written).2 ⟨keeps rule applies .normal, rfl⟩, within.places,
      within.length_le⟩
  · obtain ⟨lenient, lenient_checked, -⟩ := RuleSet.exists_report_of_isSound
      (Rules.standard_isSound located (options.withMode .lenient)) located
    obtain ⟨normal, normal_checked, -⟩ := RuleSet.exists_report_of_isSound
      (Rules.standard_isSound located (options.withMode .normal)) located
    exact ⟨lenient, normal, lenient_checked, normal_checked, fun severity =>
      (RuleSet.within_bucket lenient_checked normal_checked severity).length_le⟩

/-- A request for the only file there is. -/
def CommandLine.oneRequest : CommandLine.Request := ⟨false, .ofMode .normal, .text, ["a.txt"]⟩

/-- On a line where the modes report different characters they report the same place, and a run over
a file that has no title ends with status 1 in both. -/
theorem lenient_never_worse_masked :
    ∃ doc, readText "draft.txt" .lenient "é\t".toList = .ok doc ∧
      readText "draft.txt" .normal "é\t".toList = .ok doc ∧
      (∃ rule ∈ RuleSet.standard.applicable doc.format doc.kind, ∃ lenient normal,
        rule.findings doc (.ofMode .lenient) = .ok lenient ∧
        rule.findings doc (.ofMode .normal) = .ok normal ∧ lenient ≠ normal ∧
        (Finding.placesOf lenient).Sublist (Finding.placesOf normal)) ∧
      ((CommandLine.oneRequest.inMode .lenient).outcome CommandLine.oneFile.read).status = 1 ∧
      ((CommandLine.oneRequest.inMode .normal).outcome CommandLine.oneFile.read).status = 1 := by
  have read : readText "draft.txt" .lenient "é\t".toList =
      .ok (PlainText.readDocument "draft.txt" .paginated ["é\t".toList]) := by decide +kernel
  obtain ⟨texts, runs⟩ := lenient_never_worse (.ofMode .normal)
  obtain ⟨also_read, rules, -⟩ := texts "draft.txt" "é\t".toList _ read
  have failed : ((CommandLine.oneRequest.inMode .lenient).outcome
      CommandLine.oneFile.read).status = 1 := by decide +kernel
  -- The rule on characters, which reports the tab in one mode and the letter in the other.
  have applies : RuleSet.standard.rules[13] ∈ RuleSet.standard.applicable .paginated .draft :=
    List.mem_filter.2 ⟨List.getElem_mem _, by decide⟩
  obtain ⟨lenient, normal, lenient_found, normal_found, among, -⟩ := rules _ applies
  have differ : (RuleSet.standard.rules[13].findings
        (PlainText.readDocument "draft.txt" .paginated ["é\t".toList]) (.ofMode .lenient)).toOption ≠
      (RuleSet.standard.rules[13].findings
        (PlainText.readDocument "draft.txt" .paginated ["é\t".toList])
        (.ofMode .normal)).toOption := by decide +kernel
  refine ⟨_, read, also_read, ⟨_, applies, lenient, normal, lenient_found, normal_found, ?_, among⟩,
    failed, (runs CommandLine.oneRequest CommandLine.oneFile.read).2 failed⟩
  rintro rfl
  exact differ (congrArg Except.toOption (lenient_found.trans normal_found.symm))

end DraftNits
