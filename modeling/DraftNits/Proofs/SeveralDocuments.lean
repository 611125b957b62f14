import DraftNits.CommandLine.Run
import DraftNits.Proofs.EndToEnd

/-! # Runs over several documents

A run over several documents is made of the runs over each of them. A document that can be read adds
what a run over it alone writes, and its errors. The first document that cannot be read ends the
run, with the line that announces it and nothing after it. A report never keeps a run from going on,
for the rules do not fail on a document that was read and their report can always be written.

* `exists_runDocuments_cons` — what a document that can be read adds to a run.
* `runDocuments_cons_of_error` — where a document that cannot be read ends it.
* `exists_runDocuments_append` — what documents that can be read add to a run before the others.
* `RuleSet.check_standard_congr` — of the options only the mode has a say in a report.
* `Request.outcome_composes` — the output and the exit status of a run. -/

namespace DraftNits

/-! ## Options and reports -/

namespace RuleSet

/-- Rules that find the same with two sets of options make the same report with them. -/
theorem runRules_congr {doc : Document} {a b : Options} {rules : List Rule}
    (same : ∀ rule ∈ rules, rule.findings doc a = rule.findings doc b) (report : Report) :
    runRules doc a report rules = runRules doc b report rules := by
  induction rules generalizing report with
  | nil => rfl
  | cons rule rules ih =>
    rw [List.forall_mem_cons] at same
    rw [runRules, runRules, same.1]
    cases rule.findings doc b with
    | error failure => rfl
    | ok findings => exact ih same.2 _

/-- Of the options only the mode has a say in the report of the standard rules. -/
theorem check_standard_congr {a b : Options} (same_mode : a.mode = b.mode) (doc : Document) :
    standard.check doc a = standard.check doc b := by
  rcases a with ⟨mode, verbose, debug⟩
  rcases b with ⟨_, verbose', debug'⟩
  obtain rfl : mode = _ := same_mode
  have all : ∀ rule ∈ standard.rules,
      rule.findings doc ⟨mode, verbose, debug⟩ = rule.findings doc ⟨mode, verbose', debug'⟩ := by
    simp only [standard, Rules.standard, List.forall_mem_cons, List.not_mem_nil, false_imp_iff,
      implies_true, and_true]
    exact ⟨rfl, rfl, rfl, rfl, rfl, rfl, rfl, rfl, rfl, rfl, rfl, rfl, rfl, rfl, rfl, rfl⟩
  rw [check, check]
  exact runRules_congr (fun rule mem => all rule (List.mem_of_mem_filter mem)) _

end RuleSet

/-- Errors are counted: there are some after a report if there were some before it or the report has
some. -/
theorem Tally.hasErrors_record (tally : Tally) (report : Report) :
    (tally.record report).hasErrors = true ↔ tally.hasErrors = true ∨ report.errors ≠ [] := by
  rw [← List.length_pos_iff_ne_nil]
  have counted : (tally.record report).errors = tally.errors + report.errors.length := rfl
  rw [Tally.hasErrors, Tally.hasErrors, decide_eq_true_iff, decide_eq_true_iff, counted]
  omega

namespace CommandLine

variable {read : ReadFile} {output : OutputFormat} {options : Options}

/-! ## One document -/

/-- Whether a document can be read in a mode. -/
def CanRead (read : ReadFile) (mode : Mode) (path : String) : Prop :=
  ∃ doc, readFile read mode path = .ok doc

/-- Whether a document can be read and the standard rules have an error for it. -/
def HasErrors (read : ReadFile) (options : Options) (path : String) : Prop :=
  ∃ doc report, readFile read options.mode path = .ok doc ∧
    RuleSet.standard.check doc options = .ok report ∧ report.errors ≠ []

/-- What a run over a document alone writes. -/
def textOf (read : ReadFile) (output : OutputFormat) (options : Options) (path : String) :
    String :=
  (runDocuments read output options "" Tally.empty [path]).output

/-- Only the mode decides whether a document has errors. -/
theorem hasErrors_congr {a b : Options} (same_mode : a.mode = b.mode) (path : String) :
    HasErrors read a path ↔ HasErrors read b path := by
  simp only [HasErrors, same_mode, RuleSet.check_standard_congr same_mode]

/-- A document that is read has a report, and its text can be written in either format. -/
theorem exists_body_of_readFile {path : String} {doc : Document}
    (done : readFile read options.mode path = .ok doc) (output : OutputFormat) :
    ∃ report text, RuleSet.standard.check doc options = .ok report ∧
      body output options path doc report = .ok text := by
  unfold readFile at done
  split at done
  · cases done
  next bytes _ =>
    have located := located_readBytes done
    obtain ⟨report, checked, proper⟩ :=
      RuleSet.exists_report_of_isSound (Rules.standard_isSound located options) located
    cases output with
    | json => exact ⟨report, _, checked, rfl⟩
    | text =>
      obtain ⟨out, written⟩ := Report.exists_render_of_isProper proper path options.verbose
      exact ⟨report, out, checked, by rw [body, written]; rfl⟩

/-- A document that can be read adds to a run what a run over it alone writes, and its report to the
totals. -/
theorem exists_runDocuments_cons (output : OutputFormat) {path : String}
    (can_read : CanRead read options.mode path) :
    ∃ report : Report, (report.errors ≠ [] ↔ HasErrors read options path) ∧
      ∀ written tally rest, runDocuments read output options written tally (path :: rest) =
        runDocuments read output options (written ++ textOf read output options path)
          (tally.record report) rest := by
  obtain ⟨doc, done⟩ := can_read
  obtain ⟨report, text, checked, is_text⟩ := exists_body_of_readFile done output
  have step : ∀ written tally rest, runDocuments read output options written tally (path :: rest) =
      runDocuments read output options (written ++ opening output path ++ text)
        (tally.record report) rest := by
    intro written tally rest
    simp only [runDocuments, checkFile, done, checked, is_text]
  refine ⟨report, ?_, fun written tally rest => ?_⟩
  · constructor
    · exact fun errors => ⟨doc, report, done, checked, errors⟩
    · rintro ⟨other, own, read_other, own_checked, errors⟩
      obtain rfl : doc = other := Except.ok.inj (done.symm.trans read_other)
      obtain rfl : report = own := Except.ok.inj (checked.symm.trans own_checked)
      exact errors
  · have alone : textOf read output options path = opening output path ++ text := by
      rw [textOf, step, runDocuments]
      exact congrArg (· ++ text) String.empty_append
    rw [step, alone, String.append_assoc]

/-- A document that cannot be read ends a run with the line that announces it. -/
theorem runDocuments_cons_of_error {path : String} {error : IntakeError}
    (failed : readFile read options.mode path = .error error) (written : String) (tally : Tally)
    (rest : List String) :
    runDocuments read output options written tally (path :: rest) =
      ⟨written ++ opening output path, tally, some (.intake path error)⟩ := by
  simp only [runDocuments, checkFile, failed]

/-! ## All documents -/

/-- Documents that can be read add to a run what a run over each of them writes, in order, and the
run has errors after them if it had some before or one of them has some. -/
theorem exists_runDocuments_append (output : OutputFormat) {before : List String}
    (can_read : ∀ path ∈ before, CanRead read options.mode path) (written : String)
    (tally : Tally) :
    ∃ after : Tally,
      (after.hasErrors = true ↔
        tally.hasErrors = true ∨ ∃ path ∈ before, HasErrors read options path) ∧
      ∀ rest, runDocuments read output options written tally (before ++ rest) =
        runDocuments read output options
          (written ++ String.join (before.map (textOf read output options))) after rest := by
  -- The induction is on the documents, with what the ones before have written and counted.
  induction before generalizing written tally with
  | nil => exact ⟨tally, by simp, fun rest => by simp⟩
  | cons path before ih =>
    rw [List.forall_mem_cons] at can_read
    obtain ⟨report, has_errors, step⟩ := exists_runDocuments_cons output can_read.1
    obtain ⟨after, counted, run⟩ :=
      ih can_read.2 (written ++ textOf read output options path) (tally.record report)
    refine ⟨after, ?_, fun rest => ?_⟩
    · rw [counted, Tally.hasErrors_record, has_errors, or_assoc, List.exists_mem_cons_iff]
    · rw [List.cons_append, step, run, List.map_cons, String.join_cons, String.append_assoc]

/-- A run over documents that can be read goes through all of them. -/
theorem exists_runDocuments_of_canRead (output : OutputFormat) {documents : List String}
    (can_read : ∀ path ∈ documents, CanRead read options.mode path) :
    ∃ tally : Tally,
      (tally.hasErrors = true ↔ ∃ path ∈ documents, HasErrors read options path) ∧
      runDocuments read output options "" Tally.empty documents =
        ⟨String.join (documents.map (textOf read output options)), tally, none⟩ := by
  obtain ⟨tally, counted, run⟩ := exists_runDocuments_append output can_read "" .empty
  refine ⟨tally, ?_, ?_⟩
  · rw [counted]
    simp [Tally.empty, Tally.hasErrors]
  · have whole := run []
    rwa [List.append_nil, String.empty_append, runDocuments] at whole

/-- A run ends at the first document that cannot be read, whatever comes after it. -/
theorem exists_runDocuments_of_not_canRead (output : OutputFormat) {before : List String}
    {k : String}
    (can_read : ∀ path ∈ before, CanRead read options.mode path)
    (cannot : ¬ CanRead read options.mode k) :
    ∃ tally error, ∀ after,
      runDocuments read output options "" Tally.empty (before ++ k :: after) =
        ⟨String.join (before.map (textOf read output options)) ++ opening output k, tally,
          some (.intake k error)⟩ := by
  obtain ⟨tally, -, run⟩ := exists_runDocuments_append output can_read "" .empty
  cases done : readFile read options.mode k with
  | ok doc => exact absurd ⟨doc, done⟩ cannot
  | error error =>
    refine ⟨tally, error, fun after => ?_⟩
    rw [run, runDocuments_cons_of_error done, String.empty_append]

/-- A run looks at its documents only. -/
theorem runDocuments_congr {read' : ReadFile} {documents : List String}
    (same : ∀ path ∈ documents, read' path = read path) (written : String) (tally : Tally) :
    runDocuments read' output options written tally documents =
      runDocuments read output options written tally documents := by
  induction documents generalizing written tally with
  | nil => rfl
  | cons path documents ih =>
    rw [List.forall_mem_cons] at same
    have same_file : checkFile read' options path = checkFile read options path := by
      simp only [checkFile, readFile, same.1]
    rw [runDocuments, runDocuments, same_file]
    split
    · rfl
    split
    · rfl
    · exact ih same.2 _ _

/-- Of things that do not all have a property there is a first one without it. -/
theorem exists_first_not {α : Type} {p : α → Prop} {l : List α} (not_all : ¬ ∀ x ∈ l, p x) :
    ∃ before k after, l = before ++ k :: after ∧ (∀ x ∈ before, p x) ∧ ¬ p k := by
  classical
  obtain ⟨x, mem, lacks⟩ : ∃ x ∈ l, ¬ p x := by simpa using not_all
  obtain ⟨k, first⟩ := Option.isSome_iff_exists.1
    (List.find?_isSome.2 ⟨x, mem, decide_eq_true lacks⟩ : (l.find? fun x => ¬ p x).isSome)
  obtain ⟨lacks_k, before, after, split, have_it⟩ := List.find?_eq_some_iff_append.1 first
  exact ⟨before, k, after, split, by simpa using have_it, by simpa using lacks_k⟩

/-! ## Requests -/

/-- A run stops early with the output that it has. -/
@[simp] theorem Progress.output_outcome (progress : Progress) :
    progress.outcome.output = progress.output := by
  unfold Progress.outcome
  cases progress.error <;> rfl

/-- The request for other documents. -/
def Request.withDocuments (request : Request) (documents : List String) : Request :=
  { request with documents }

/-- The request for one document in place of all. -/
def Request.only (request : Request) (path : String) : Request := request.withDocuments [path]

/-- A request looks at its documents only. -/
theorem Request.outcome_congr {request : Request} {read' : ReadFile}
    (same : ∀ path ∈ request.documents, read' path = read path) :
    request.outcome read' = request.outcome read := by
  rw [outcome, outcome, runDocuments_congr same]

/-- What a run over one document of a request writes. -/
theorem Request.output_outcome_only {request : Request} (no_list : request.list = false)
    (read : ReadFile) (path : String) :
    ((request.only path).outcome read).output =
      textOf read request.output request.options path := by
  simp [outcome, only, withDocuments, no_list, textOf]

/-- A request for documents that can be read. -/
theorem Request.outcome_of_canRead {request : Request} (no_list : request.list = false)
    (can_read : ∀ path ∈ request.documents, CanRead read request.options.mode path) :
    (request.outcome read).output =
        String.join (request.documents.map fun path => ((request.only path).outcome read).output) ∧
      ((request.outcome read).status = 1 ↔
        ∃ path ∈ request.documents, HasErrors read request.options path) ∧
      (request.outcome read).status ≤ 1 := by
  obtain ⟨tally, has_errors, run⟩ :=
    exists_runDocuments_of_canRead request.output can_read
  have outcome : request.outcome read = ⟨tally.exitStatus,
      String.join (request.documents.map (textOf read request.output request.options)), ""⟩ := by
    rw [Request.outcome, no_list, if_neg Bool.false_ne_true, run, Progress.outcome]
  rw [outcome, ← has_errors]
  refine ⟨?_, ?_, ?_⟩
  · simp only [output_outcome_only no_list]
  · by_cases errors : tally.hasErrors = true <;> simp [Tally.exitStatus, errors]
  · by_cases errors : tally.hasErrors = true <;> simp [Tally.exitStatus, errors]

/-- A request with a document that cannot be read, after others that can. -/
theorem Request.exists_outcome_of_not_canRead {request : Request} (no_list : request.list = false)
    {before : List String} {k : String}
    (can_read : ∀ path ∈ before, CanRead read request.options.mode path)
    (cannot : ¬ CanRead read request.options.mode k) :
    ∃ errors, ∀ after, (request.withDocuments (before ++ k :: after)).outcome read =
      ⟨1, String.join (before.map fun path => ((request.only path).outcome read).output) ++
        opening request.output k, errors⟩ := by
  obtain ⟨tally, error, run⟩ :=
    exists_runDocuments_of_not_canRead request.output can_read cannot
  refine ⟨"Error: " ++ (RunError.intake k error).message ++ "\n", fun after => ?_⟩
  simp only [output_outcome_only no_list]
  rw [outcome, withDocuments, no_list, if_neg Bool.false_ne_true, run, Progress.outcome]

/-- What comes after a document that cannot be read has no influence on a request, neither the names
nor the files. -/
theorem Request.outcome_eq_of_not_canRead {request : Request} (no_list : request.list = false)
    {before : List String} {k : String}
    (can_read : ∀ path ∈ before, CanRead read request.options.mode path)
    (cannot : ¬ CanRead read request.options.mode k) {read' : ReadFile}
    (same : ∀ path ∈ before ++ [k], read' path = read path) (after others : List String) :
    (request.withDocuments (before ++ k :: others)).outcome read' =
      (request.withDocuments (before ++ k :: after)).outcome read := by
  -- Each of the runs is one over the documents up to the one that cannot be read.
  have same_reading : ∀ path ∈ before ++ [k],
      (CanRead read' request.options.mode path ↔ CanRead read request.options.mode path) :=
    fun path mem => by rw [CanRead, CanRead, readFile, readFile, same path mem]
  obtain ⟨errors, run⟩ := exists_outcome_of_not_canRead no_list can_read cannot
  obtain ⟨errors', run'⟩ := exists_outcome_of_not_canRead no_list
    (fun path mem => (same_reading path (by simp [mem])).2 (can_read path mem))
    (mt (same_reading k (by simp)).1 cannot)
  calc (request.withDocuments (before ++ k :: others)).outcome read'
      = (request.withDocuments (before ++ [k])).outcome read' := by rw [run', run']
    _ = (request.withDocuments (before ++ [k])).outcome read := outcome_congr same
    _ = (request.withDocuments (before ++ k :: after)).outcome read := by rw [run, run]

/-- The status of a request depends on its documents and its mode only. -/
theorem Request.status_outcome_congr {a b : Request} (a_no_list : a.list = false)
    (b_no_list : b.list = false) (same_documents : a.documents = b.documents)
    (same_mode : a.options.mode = b.options.mode) :
    (a.outcome read).status = (b.outcome read).status := by
  by_cases can_read : ∀ path ∈ a.documents, CanRead read a.options.mode path
  · obtain ⟨-, a_errors, a_bound⟩ := outcome_of_canRead a_no_list can_read
    rw [same_documents, same_mode] at can_read
    obtain ⟨-, b_errors, b_bound⟩ := outcome_of_canRead b_no_list can_read
    have both : (a.outcome read).status = 1 ↔ (b.outcome read).status = 1 := by
      rw [a_errors, b_errors, same_documents]
      simp only [hasErrors_congr same_mode]
    omega
  · -- Both runs end at the first document that cannot be read.
    obtain ⟨before, k, after, split, before_read, cannot⟩ := exists_first_not can_read
    obtain ⟨errors, run⟩ := exists_outcome_of_not_canRead a_no_list before_read cannot
    rw [same_mode] at before_read cannot
    obtain ⟨errors', run'⟩ := exists_outcome_of_not_canRead b_no_list before_read cannot
    have a_whole : a.withDocuments (before ++ k :: after) = a := by rw [← split, withDocuments]
    have b_whole : b.withDocuments (before ++ k :: after) = b := by
      rw [← split, same_documents, withDocuments]
    have a_outcome := run after
    have b_outcome := run' after
    rw [a_whole] at a_outcome
    rw [b_whole] at b_outcome
    rw [a_outcome, b_outcome]

/-- A run over several documents is made of the runs over each. If all of them can be read, the
output is that of the single runs one after the other, and the exit status is 1 exactly if some
document has an error, else 0. Otherwise the output is that of the single runs before the first
document `k` that cannot be read, with the line that announces `k` where the output is text; the
status is 1; and what comes after `k` has no influence, neither the names nor the files. The exit
status is the same with all details or without, with a log or without, and in either format. -/
theorem Request.outcome_composes (request : Request) (read : ReadFile)
    (no_list : request.list = false) :
    ((∀ path ∈ request.documents, CanRead read request.options.mode path) →
      (request.outcome read).output = String.join
          (request.documents.map fun path => ((request.only path).outcome read).output) ∧
        ((request.outcome read).status = 1 ↔
          ∃ path ∈ request.documents, HasErrors read request.options path) ∧
        (request.outcome read).status ≤ 1) ∧
    (∀ before k after, request.documents = before ++ k :: after →
      (∀ path ∈ before, CanRead read request.options.mode path) →
      ¬ CanRead read request.options.mode k →
      (request.outcome read).output =
          String.join (before.map fun path => ((request.only path).outcome read).output) ++
            (if request.output = .text then "Inspecting file " ++ k ++ "\n" else "") ∧
        (request.outcome read).status = 1 ∧
        ∀ others read', (∀ path ∈ before ++ [k], read' path = read path) →
          (request.withDocuments (before ++ k :: others)).outcome read' = request.outcome read) ∧
    ∀ other : Request, other.list = false → other.documents = request.documents →
      other.options.mode = request.options.mode →
        (other.outcome read).status = (request.outcome read).status := by
  refine ⟨outcome_of_canRead no_list, fun before k after split can_read cannot => ?_,
    fun other no_list' same_documents same_mode =>
      status_outcome_congr no_list' no_list same_documents same_mode⟩
  obtain ⟨errors, run⟩ := exists_outcome_of_not_canRead no_list can_read cannot
  have whole : request.withDocuments (before ++ k :: after) = request := by
    rw [← split, withDocuments]
  have announced : opening request.output k =
      if request.output = .text then "Inspecting file " ++ k ++ "\n" else "" := by
    cases request.output <;> rfl
  have outcome := run after
  rw [whole, announced] at outcome
  refine ⟨by rw [outcome], by rw [outcome], fun others read' same => ?_⟩
  rw [outcome_eq_of_not_canRead no_list can_read cannot same after others, whole]

/-- A directory with a file `a.txt` and no other one. -/
def oneFile : FileTree := .ofPaths [("a.txt", "a".toUTF8.toList)] []

/-- Of three documents the second is missing, so the third one is not even announced. -/
theorem Request.outcome_composes_missing :
    let request : Request := ⟨false, .ofMode .normal, .text, ["a.txt", "b.txt", "c.txt"]⟩
    (request.outcome oneFile.read).output =
        ((request.only "a.txt").outcome oneFile.read).output ++ "Inspecting file b.txt\n" ∧
      (request.outcome oneFile.read).status = 1 := by
  intro request
  have first : readFile oneFile.read .normal "a.txt" =
      .ok (PlainText.readDocument "a.txt" .paginated ["a".toList]) := by decide +kernel
  have second : ∃ error, readFile oneFile.read .normal "b.txt" = .error error :=
    ⟨.unreadable "b.txt" FileError.missing.message, by decide +kernel⟩
  have cannot : ¬ CanRead oneFile.read .normal "b.txt" := by
    rintro ⟨doc, done⟩
    obtain ⟨error, failed⟩ := second
    exact nomatch failed.symm.trans done
  obtain ⟨-, stops, -⟩ := outcome_composes request oneFile.read rfl
  obtain ⟨output, status, -⟩ := stops ["a.txt"] "b.txt" ["c.txt"] rfl
    (List.forall_mem_singleton.2 ⟨_, first⟩) cannot
  refine ⟨?_, status⟩
  rw [output, List.map_singleton, String.join_cons, String.join_nil, String.append_empty]
  rfl

end CommandLine

end DraftNits
