import DraftNits.Proofs.Conformance
import DraftNits.Proofs.ReportLines

/-! # What messages quote

The messages of the standard rules are fixed but for numbers and for texts of the document, which
they quote as they are. So a report is on lines exactly if the texts that it quotes are
(`Document.QuotesOnLines`); its summaries always are.

* `Check.IsOnLinesIff` — which texts a check quotes, by one lemma for each of the standard rules.
* `RuleSet.forall_bucket_iff` — what holds of all findings holds of each rule, and of what could not
  be read.
* `RuleSet.isOnLines_standard_iff` — a report is on lines exactly if no text that it quotes holds a
  line feed. -/

namespace DraftNits

/-! ## Numbers -/

/-- The digits of a number are digits of its base. -/
theorem exists_of_mem_toDigits {base : Nat} (large : 1 < base) {n : Nat} {c : Char}
    (mem : c ∈ Nat.toDigits base n) : ∃ d < base, c = d.digitChar := by
  induction n using Nat.strongRecOn with
  | _ n ih =>
    rw [Nat.toDigits_eq_if large] at mem
    by_cases small : n < base
    · rw [if_pos small] at mem
      exact ⟨n, small, List.mem_singleton.1 mem⟩
    · rw [if_neg small, List.mem_append] at mem
      rcases mem with earlier | last
      · exact ih _ (Nat.div_lt_self (by omega) large) earlier
      · exact ⟨n % base, Nat.mod_lt _ (by omega), List.mem_singleton.1 last⟩

/-- The name of a character is on one line. -/
theorem isOneLine_codePoint (c : Char) : IsOneLine (Text.codePoint c) := by
  have no_break : ∀ d < 16, (Nat.digitChar d).toUpper ≠ '\n' := by decide
  rw [IsOneLine, Text.codePoint, String.toList_ofList]
  intro mem
  simp only [List.mem_cons, List.mem_append, List.mem_replicate, List.mem_map] at mem
  rcases mem with (is_u | is_plus | ⟨-, is_zero⟩) | ⟨digit, among, is_break⟩
  · exact absurd is_u (by decide)
  · exact absurd is_plus (by decide)
  · exact absurd is_zero (by decide)
  · obtain ⟨d, small, rfl⟩ := exists_of_mem_toDigits (by decide) among
    exact no_break d small is_break

/-- A date is on one line. -/
theorem isOneLine_dateText (d : Date) : IsOneLine d.text := by
  have digits : ∀ width n, '\n' ∉ Text.decimalPadded width n := by
    intro width n mem
    rw [Text.decimalPadded, List.mem_append, List.mem_replicate] at mem
    rcases mem with ⟨-, is_zero⟩ | among
    · exact absurd is_zero (by decide)
    · exact notMem_toDigits (by decide) n among
  have year : '\n' ∉ Date.yearText d.year := by
    unfold Date.yearText
    split
    · exact digits _ _
    · rw [List.mem_cons, not_or]
      exact ⟨by split <;> decide, digits _ _⟩
  rw [IsOneLine, Date.text, String.toList_ofList]
  simp only [List.mem_append, List.mem_cons, not_or]
  exact ⟨⟨year, by decide, digits _ _⟩, by decide, digits _ _⟩

/-- A whole number is on one line. -/
theorem isOneLine_toString_int (i : Int) : IsOneLine (toString i) := by
  cases i with
  | ofNat n => exact isOneLine_toString n
  | negSucc n =>
    have sign : toString (Int.negSucc n) = "-" ++ toString (n + 1) := rfl
    rw [sign, isOneLine_append]
    exact ⟨by decide, isOneLine_toString _⟩

/-- A text between two that are on one line is on one line exactly if all three are together. -/
theorem isOneLine_between {before after : String} (before_on_line : IsOneLine before)
    (after_on_line : IsOneLine after) {text : String} :
    IsOneLine (before ++ text ++ after) ↔ IsOneLine text := by
  rw [isOneLine_append, isOneLine_append]
  exact ⟨fun all => all.1.2, fun middle => ⟨⟨before_on_line, middle⟩, after_on_line⟩⟩

/-! ## What a check quotes -/

namespace Finding

/-- The nits of the finding of some nits are these, and its summary is one of theirs. -/
theorem forall_mem_ofNits {nits : List Nit} {summary : Nat → String} {p : Nit → Prop} :
    (∀ finding ∈ ofNits nits summary, ∀ nit ∈ finding.nits, p nit) ↔ ∀ nit ∈ nits, p nit := by
  rw [← List.forall_mem_flatMap, flatMap_nits_ofNits]

/-- The finding of some nits has a summary of their number. -/
theorem summary_of_mem_ofNits {nits : List Nit} {summary : Nat → String} {p : String → Prop}
    (all : ∀ n, p (summary n)) : ∀ finding ∈ ofNits nits summary, p finding.summary := by
  intro finding mem
  unfold ofNits at mem
  split at mem
  · cases mem
  · rw [List.mem_singleton.1 mem]
    exact all _

end Finding

/-- Whether the messages of what a check finds are on lines exactly if something holds; the
summaries are in any case. -/
structure Check.IsOnLinesIff (check : Check) (doc : Document) (options : Options) (quoted : Prop) :
    Prop where
  /-- The summaries. -/
  summaries : ∀ findings, check doc options = .ok findings →
    ∀ finding ∈ findings, IsOneLine finding.summary
  /-- The messages. -/
  messages : (∀ findings, check doc options = .ok findings →
    ∀ finding ∈ findings, ∀ nit ∈ finding.nits, IsOneLine nit.message) ↔ quoted

namespace Rules

variable {doc : Document} {options : Options} {check : Check} {quoted : Prop}

/-- A check is judged by its findings. -/
theorem isOnLinesIff_of_eq {findings : List Finding} (done : check doc options = .ok findings)
    (summaries : ∀ finding ∈ findings, IsOneLine finding.summary)
    (messages : (∀ finding ∈ findings, ∀ nit ∈ finding.nits, IsOneLine nit.message) ↔ quoted) :
    check.IsOnLinesIff doc options quoted := by
  constructor
  · intro found found_eq
    rw [done] at found_eq
    cases found_eq
    exact summaries
  · rw [← messages]
    constructor
    · exact fun all => all findings done
    · intro all found found_eq
      rw [done] at found_eq
      cases found_eq
      exact all

/-- A check that finds something fixed, or nothing, quotes no text. -/
theorem isOnLinesIff_fixed {found : Bool} {finding : Finding} (on_lines : finding.IsOnLines)
    (done : check doc options = .ok (if found then [] else [finding])) :
    check.IsOnLinesIff doc options True := by
  refine isOnLinesIff_of_eq done ?_ (iff_true_intro ?_)
  · split
    · exact fun finding mem => by cases mem
    · exact List.forall_mem_singleton.2 on_lines.summary
  · split
    · exact fun finding mem => by cases mem
    · exact List.forall_mem_singleton.2 on_lines.messages

/-- A check whose nits make one finding quotes what the nits do. -/
theorem isOnLinesIff_ofNits {nits : List Nit} {summary : Nat → String}
    (done : check doc options = .ok (Finding.ofNits nits summary))
    (summaries : ∀ n, IsOneLine (summary n))
    (messages : (∀ nit ∈ nits, IsOneLine nit.message) ↔ quoted) :
    check.IsOnLinesIff doc options quoted :=
  isOnLinesIff_of_eq done (Finding.summary_of_mem_ofNits summaries)
    (Finding.forall_mem_ofNits.trans messages)

/-! ## The rules -/

/-- The rule on the title quotes nothing. -/
theorem title_isOnLinesIff : title.IsOnLinesIff doc options True :=
  isOnLinesIff_fixed ⟨by decide, by decide⟩ rfl

/-- The rule on the category quotes nothing. -/
theorem category_isOnLinesIff : category.IsOnLinesIff doc options True :=
  isOnLinesIff_fixed ⟨by decide, by decide⟩ rfl

/-- The rule on the abstract quotes nothing. -/
theorem abstract_isOnLinesIff : abstract.IsOnLinesIff doc options True :=
  isOnLinesIff_fixed ⟨by decide, by decide⟩ rfl

end Rules

namespace DraftName

/-- A draft name holds no line feed. -/
theorem newline_notMem_of_isName {name : List Char} (is_name : IsName name) : '\n' ∉ name := by
  obtain ⟨components, a, b, -, all, ha, hb, rfl⟩ := is_name
  have no_digit : ∀ {d}, Text.isDecimalDigit d = true → '\n' ≠ d := by
    rintro d is_digit rfl
    exact absurd is_digit (by decide)
  have joined : '\n' ∉ ['-'].intercalate components := by
    intro mem
    rcases Text.mem_intercalate mem with hyphen | ⟨component, among, mem⟩
    · exact absurd hyphen (by decide)
    · exact absurd ((all component among).2 '\n' mem) (by decide)
  simp only [List.mem_append, List.mem_cons, List.not_mem_nil, or_false, not_or]
  exact ⟨⟨by decide, joined⟩, by decide, no_digit ha, no_digit hb⟩

/-- A text without its extension is as much on one line as with it. -/
theorem isOneLine_withoutExtension {stated : String} :
    IsOneLine (String.ofList (withoutExtension stated.toList)) ↔ IsOneLine stated := by
  rw [IsOneLine, IsOneLine, String.toList_ofList, withoutExtension]
  by_cases suffix : ".txt".toList.isSuffixOf stated.toList
  · rw [if_pos suffix]
    obtain ⟨name, is_stated⟩ := List.isSuffixOf_iff_suffix.1 suffix
    have no_break : '\n' ∉ ".txt".toList := by decide
    have taken : (name ++ ".txt".toList).take ((name ++ ".txt".toList).length - 4) = name := by
      simp
    rw [← is_stated, taken, List.mem_append, not_or]
    exact ⟨fun in_name => ⟨in_name, no_break⟩, And.left⟩
  · rw [if_neg suffix]

end DraftName

namespace Rules

variable {doc : Document} {options : Options}

/-- The rule on draft names quotes the draft name. -/
theorem draftName_isOnLinesIff :
    draftName.IsOnLinesIff doc options (∀ name ∈ doc.front.draftName, IsOneLine name) := by
  cases is_stated : doc.front.draftName with
  | none =>
    have done : draftName doc options = .ok [Finding.single
        (.general "No draft name of the form draft-<name>-<nn> was found")
        "The document does not state its draft name"] := by
      rw [draftName, is_stated]
    refine isOnLinesIff_of_eq done (by decide) (iff_of_true ?_ ?_)
    · exact List.forall_mem_singleton.2 (List.forall_mem_singleton.2 (by decide))
    · exact fun name mem => by cases mem
  | some stated =>
    have done : draftName doc options =
        .ok (if DraftName.isWellFormed (DraftName.withoutExtension stated.toList) then []
          else [Finding.single ⟨doc.front.draftNameLine, "Malformed draft name '" ++
              String.ofList (DraftName.withoutExtension stated.toList) ++ "'"⟩
            "The draft name is malformed"]) := by
      rw [draftName, is_stated]
    have quoted : (∀ name ∈ some stated, IsOneLine name) ↔
        IsOneLine (String.ofList (DraftName.withoutExtension stated.toList)) := by
      rw [DraftName.isOneLine_withoutExtension]
      simp
    rw [quoted]
    by_cases formed : DraftName.isWellFormed (DraftName.withoutExtension stated.toList) = true
    · rw [if_pos formed] at done
      -- A name that is not quoted is well formed, so it holds no line feed anyway.
      have no_break :=
        DraftName.newline_notMem_of_isName (DraftName.isWellFormed_iff_isName.1 formed)
      refine isOnLinesIff_of_eq done (by simp) (iff_of_true (by simp) ?_)
      rwa [IsOneLine, String.toList_ofList]
    · rw [if_neg formed] at done
      have summary : IsOneLine "The draft name is malformed" := by decide
      refine isOnLinesIff_of_eq done (List.forall_mem_singleton.2 summary) ?_
      rw [List.forall_mem_singleton, Finding.single, List.forall_mem_singleton]
      exact isOneLine_between (by decide) (by decide)

/-- The rule on authors quotes the names of the authors past the fifth, unless the mode is
lenient. -/
theorem authors_isOnLinesIff :
    authors.IsOnLinesIff doc options (options.mode ≠ .lenient →
      ∀ author ∈ doc.front.authors.drop 5, IsOneLine author.name) := by
  cases listed : doc.front.authors with
  | nil =>
    have done : authors doc options =
        .ok [Finding.single (.general "No author names were found in the front matter")
          "The document lists no authors"] := by
      rw [authors, listed]
      rfl
    refine isOnLinesIff_of_eq done (List.forall_mem_singleton.2 (by decide)) (iff_of_true ?_ ?_)
    · exact List.forall_mem_singleton.2 (List.forall_mem_singleton.2 (by decide))
    · simp
  | cons first rest =>
    by_cases lenient : options.mode = .lenient
    · have done : authors doc options = .ok [] := by
        rw [authors, listed]
        simp [lenient, Mode.isLenient]
      exact isOnLinesIff_of_eq done (by simp) (iff_of_true (by simp) (absurd lenient))
    · have strict : options.mode.isLenient = false := by
        rw [← Bool.not_eq_true, Mode.isLenient_iff]
        exact lenient
      by_cases many : maxAuthors < (first :: rest).length
      · have done : authors doc options =
            .ok [⟨((first :: rest).drop maxAuthors).map fun a =>
                ⟨a.line, "Author '" ++ a.name ++ "' is past the fifth"⟩,
              "The document has " ++ toString (first :: rest).length ++
                " authors, more than the recommended " ++ toString maxAuthors⟩] := by
          rw [authors, listed]
          simp only [List.isEmpty_cons, Bool.false_eq_true, if_false, strict, many, decide_true,
            Bool.not_false, Bool.and_self, if_true]
        have quotes : ∀ a : Author, IsOneLine ("Author '" ++ a.name ++ "' is past the fifth") ↔
            IsOneLine a.name := fun a => isOneLine_between (by decide) (by decide)
        refine isOnLinesIff_of_eq done (List.forall_mem_singleton.2 ?_) ?_
        · have before : IsOneLine "The document has " := by decide
          have after : IsOneLine " authors, more than the recommended " := by decide
          simp only [isOneLine_append]
          exact ⟨⟨⟨before, isOneLine_toString _⟩, after⟩, isOneLine_toString _⟩
        · simp only [List.forall_mem_singleton, List.forall_mem_map, quotes]
          exact ⟨fun all _ => all, fun all => all lenient⟩
      · have done : authors doc options = .ok [] := by
          rw [authors, listed]
          simp only [List.isEmpty_cons, Bool.false_eq_true, if_false, many, decide_false,
            Bool.false_and]
        have none_past : (first :: rest).drop 5 = [] :=
          List.drop_eq_nil_of_le (Nat.not_lt.1 many)
        refine isOnLinesIff_of_eq done (by simp) (iff_of_true (by simp) fun _ => ?_)
        rw [none_past]
        exact fun author mem => by cases mem

/-- The rule on citations quotes the anchors that name no reference. -/
theorem undefinedCitations_isOnLinesIff :
    undefinedCitations.IsOnLinesIff doc options
      (∀ c ∈ doc.citations, doc.hasReference c.anchor = false → IsOneLine c.anchor) := by
  refine isOnLinesIff_ofNits rfl (fun n => ?_) ?_
  · exact (isOneLine_between (by decide) (by decide)).2 (isOneLine_countOf n (by decide))
  · have quotes : ∀ c : Citation,
        IsOneLine ("Citation [" ++ c.anchor ++ "] has no matching reference") ↔
          IsOneLine c.anchor := fun c => isOneLine_between (by decide) (by decide)
    simp only [List.forall_mem_map, List.mem_filter, Nit.onLine, quotes, and_imp,
      Bool.not_eq_true']

/-- The rule on references quotes the anchors that are not cited; in lenient mode only those of
normative references. -/
theorem unusedReferences_isOnLinesIff :
    unusedReferences.IsOnLinesIff doc options
      (∀ r ∈ doc.references, (options.mode = .lenient → r.normative = true) →
        doc.cites r.anchor = false → IsOneLine r.anchor) := by
  refine isOnLinesIff_ofNits rfl (fun n => ?_) ?_
  · rw [isOneLine_append]
    exact ⟨by decide, isOneLine_countOf n (by decide)⟩
  · have quotes : ∀ r : Reference,
        IsOneLine ("Reference [" ++ r.anchor ++ "] is not cited in the text") ↔
          IsOneLine r.anchor := fun r => isOneLine_between (by decide) (by decide)
    have counts : ∀ r : Reference, (r.normative || !options.mode.isLenient) = true ↔
        (options.mode = .lenient → r.normative = true) := by
      intro r
      rw [← Mode.isLenient_iff]
      cases options.mode.isLenient <;> simp
    simp only [List.forall_mem_map, List.mem_filter, Nit.onLine, quotes, Bool.and_eq_true, counts,
      and_imp, Bool.not_eq_true']

/-- The rule on the required sections names only these. -/
theorem boilerplate_isOnLinesIff : boilerplate.IsOnLinesIff doc options True := by
  refine isOnLinesIff_ofNits rfl (fun n => ?_) (iff_true_intro ?_)
  · rw [isOneLine_append]
    exact ⟨by decide, isOneLine_countOf n (by decide)⟩
  · have titles : ∀ title ∈ boilerplateTitles, IsOneLine title := by decide
    rw [List.forall_mem_map]
    intro title mem
    exact (isOneLine_between (by decide) (by decide)).2 (titles title (List.mem_of_mem_filter mem))

/-- The rule on the length of lines quotes nothing but numbers. -/
theorem lineLengths_isOnLinesIff : lineLengths.IsOnLinesIff doc options True := by
  refine isOnLinesIff_ofNits rfl (fun n => ?_) (iff_true_intro ?_)
  · have found : IsOneLine "Found " := by decide
    have longer : IsOneLine " longer than " := by decide
    have characters : IsOneLine " characters" := by decide
    simp only [isOneLine_append]
    exact ⟨⟨⟨⟨found, isOneLine_countOf n (by decide)⟩, longer⟩, isOneLine_toString _⟩, characters⟩
  · intro nit mem
    obtain ⟨⟨number, line⟩, -, is_nit⟩ := List.mem_filterMap.1 mem
    dsimp only at is_nit
    split at is_nit
    · cases is_nit
      exact (isOneLine_between (by decide) (by decide)).2 (isOneLine_toString _)
    · cases is_nit

/-- The rule on the length of pages quotes nothing but numbers. -/
theorem pageLengths_isOnLinesIff : pageLengths.IsOnLinesIff doc options True := by
  have summary : ∀ n, IsOneLine
      ("Found " ++ countOf n "page" ++ " longer than " ++ toString maxPageLength ++ " lines") := by
    intro n
    have found : IsOneLine "Found " := by decide
    have longer : IsOneLine " longer than " := by decide
    have lines : IsOneLine " lines" := by decide
    simp only [isOneLine_append]
    exact ⟨⟨⟨⟨found, isOneLine_countOf n (by decide)⟩, longer⟩, isOneLine_toString _⟩, lines⟩
  by_cases lenient : options.mode.isLenient = true
  · have done : pageLengths doc options = .ok [] := by rw [pageLengths, if_pos lenient]
    exact isOnLinesIff_of_eq done (by simp) (iff_true_intro (by simp))
  · refine isOnLinesIff_ofNits (by rw [pageLengths, if_neg lenient]) summary (iff_true_intro ?_)
    intro nit mem
    obtain ⟨⟨page, index⟩, -, is_nit⟩ := List.mem_filterMap.1 mem
    dsimp only at is_nit
    split at is_nit
    · cases is_nit
      have before : IsOneLine "Page " := by decide
      have between : IsOneLine " is " := by decide
      have after : IsOneLine " lines long" := by decide
      simp only [Nit.onLine, isOneLine_append]
      exact ⟨⟨⟨⟨before, isOneLine_toString _⟩, between⟩, isOneLine_toString _⟩, after⟩
    · cases is_nit

/-- The rule on pagination quotes nothing. -/
theorem pagination_isOnLinesIff : pagination.IsOnLinesIff doc options True := by
  refine isOnLinesIff_ofNits rfl (fun n => ?_) (iff_true_intro ?_)
  · exact (isOneLine_between (by decide) (by decide)).2 (isOneLine_countOf n (by decide))
  · intro nit mem
    obtain ⟨⟨number, line⟩, -, is_nit⟩ := List.mem_filterMap.1 mem
    obtain ⟨problem, is_problem, rfl⟩ := Option.map_eq_some_iff.1 is_nit
    show IsOneLine problem
    unfold paginationProblem? at is_problem
    repeat' split at is_problem
    all_goals cases is_problem
    all_goals decide

/-- The rule on characters names characters by their numbers. -/
theorem characters_isOnLinesIff : characters.IsOnLinesIff doc options True := by
  have named : ∀ {label : String} {c : Char}, IsOneLine label →
      IsOneLine (label ++ Text.codePoint c) := fun on_line =>
    isOneLine_append.2 ⟨on_line, isOneLine_codePoint _⟩
  refine isOnLinesIff_ofNits rfl (fun n => ?_) (iff_true_intro ?_)
  · exact (isOneLine_between (by decide) (by decide)).2 (isOneLine_countOf n (by decide))
  · intro nit mem
    obtain ⟨⟨number, line⟩, -, is_nit⟩ := List.mem_filterMap.1 mem
    obtain ⟨problem, is_problem, rfl⟩ := Option.map_eq_some_iff.1 is_nit
    obtain ⟨c, -, is_first⟩ := List.exists_of_findSome?_eq_some is_problem
    show IsOneLine problem
    unfold characterProblem? at is_first
    split at is_first
    · cases is_first
    split at is_first
    · cases is_first
      decide
    split at is_first
    · cases is_first
      exact named (by decide)
    split at is_first
    · cases is_first
      exact named (by decide)
    · cases is_first

/-- What is wrong with an expiry is said by dates and numbers. -/
theorem isOneLine_expiryProblem? {date expires : Date} {problem : String}
    (is_problem : expiryProblem? date expires = some problem) : IsOneLine problem := by
  unfold expiryProblem? at is_problem
  dsimp only at is_problem
  split at is_problem
  · cases is_problem
    have before : IsOneLine "Expiration date " := by decide
    have between : IsOneLine " is not after the document date " := by decide
    simp only [isOneLine_append]
    exact ⟨⟨⟨before, isOneLine_dateText expires⟩, between⟩, isOneLine_dateText date⟩
  split at is_problem
  · cases is_problem
    exact (isOneLine_between (by decide) (by decide)).2 (isOneLine_toString_int _)
  · cases is_problem

/-- The rule on expiry quotes an expiry that is no date. -/
theorem expiry_isOnLinesIff :
    expiry.IsOnLinesIff doc options (doc.front.expires = none →
      ∀ text ∈ doc.front.expiresText, IsOneLine text) := by
  cases given : doc.front.expires with
  | none =>
    cases written : doc.front.expiresText with
    | none =>
      have done : expiry doc options = .ok [Finding.single
          (.general "No expiration date was found")
          "The draft does not state when it expires"] := by
        rw [expiry, given, written]
      refine isOnLinesIff_of_eq done (List.forall_mem_singleton.2 (by decide)) (iff_of_true ?_ ?_)
      · exact List.forall_mem_singleton.2 (List.forall_mem_singleton.2 (by decide))
      · simp
    | some text =>
      have done : expiry doc options = .ok [Finding.single ⟨doc.front.expiresLine,
          "Expiration date '" ++ text ++ "' is not a recognizable date"⟩
          "The expiration date could not be understood"] := by
        rw [expiry, given, written]
      have summary : IsOneLine "The expiration date could not be understood" := by decide
      refine isOnLinesIff_of_eq done (List.forall_mem_singleton.2 summary) ?_
      rw [List.forall_mem_singleton, Finding.single, List.forall_mem_singleton,
        isOneLine_between (by decide) (by decide)]
      simp
  | some expires =>
    -- With a date for the expiry no text is kept for it, so nothing is quoted.
    cases dated : doc.front.date with
    | none =>
      have done : expiry doc options = .ok [] := by rw [expiry, given, dated]
      exact isOnLinesIff_of_eq done (by simp) (iff_of_true (by simp) fun absurd => by cases absurd)
    | some date =>
      have done : expiry doc options = .ok (Finding.ofNits
          ((expiryProblem? date expires).toList.map fun problem => ⟨doc.front.expiresLine, problem⟩)
          fun _ => "The expiration date is inconsistent with the document date") := by
        rw [expiry, given, dated]
      refine isOnLinesIff_ofNits done (fun _ => by decide)
        (iff_of_true ?_ fun absurd => by cases absurd)
      rw [List.forall_mem_map]
      exact fun problem mem => isOneLine_expiryProblem? (Option.mem_toList.1 mem)

/-- The rule on the vocabulary quotes the version, without white space around it. -/
theorem xmlVersion_isOnLinesIff :
    xmlVersion.IsOnLinesIff doc options (∀ version ∈ doc.front.xmlVersion,
      '\n' ∉ Text.trim version.toList) := by
  have summary : IsOneLine "The source is not marked as using the v3 vocabulary" := by decide
  cases declared : doc.front.xmlVersion with
  | none =>
    have done : xmlVersion doc options = .ok [Finding.single
        (.general "The <rfc> element has no version attribute")
        "The source is not marked as using the v3 vocabulary"] := by
      rw [xmlVersion, declared]
      rfl
    refine isOnLinesIff_of_eq done (List.forall_mem_singleton.2 summary) (iff_of_true ?_ ?_)
    · exact List.forall_mem_singleton.2 (List.forall_mem_singleton.2 (by decide))
    · simp
  | some version =>
    have done : xmlVersion doc options =
        .ok (if String.ofList (Text.trim version.toList) = "3" then []
          else [Finding.single (.general ("The <rfc> element declares version=\"" ++
              String.ofList (Text.trim version.toList) ++ "\" instead of \"3\""))
            "The source is not marked as using the v3 vocabulary"]) := by
      rw [xmlVersion, declared]
      rfl
    have quoted : (∀ v ∈ some version, '\n' ∉ Text.trim v.toList) ↔
        IsOneLine (String.ofList (Text.trim version.toList)) := by
      rw [IsOneLine, String.toList_ofList]
      simp
    rw [quoted]
    by_cases third : String.ofList (Text.trim version.toList) = "3"
    · rw [if_pos third] at done
      refine isOnLinesIff_of_eq done (by simp) (iff_of_true (by simp) ?_)
      rw [third]
      decide
    · rw [if_neg third] at done
      refine isOnLinesIff_of_eq done (List.forall_mem_singleton.2 summary) ?_
      rw [List.forall_mem_singleton, Finding.single, List.forall_mem_singleton]
      exact isOneLine_between (by decide) (by decide)

end Rules

/-! ## What a report quotes -/

/-- Whether no text of a document that a report in a mode quotes holds a line feed. -/
structure Document.QuotesOnLines (mode : Mode) (doc : Document) : Prop where
  /-- What could not be read is said in the words of its reader, without periods at their end. -/
  diagnostics : ∀ d ∈ doc.diagnostics, IsOneLine (Finding.withoutPeriods d.message)
  /-- The name of a draft, if it is malformed. -/
  draftName : doc.kind = .draft → ∀ name ∈ doc.front.draftName, IsOneLine name
  /-- The authors past the fifth. -/
  authors : mode ≠ .lenient → ∀ author ∈ doc.front.authors.drop 5, IsOneLine author.name
  /-- The citations without a reference. -/
  citations : ∀ c ∈ doc.citations, doc.hasReference c.anchor = false → IsOneLine c.anchor
  /-- The references that are not cited. -/
  references : ∀ r ∈ doc.references, (mode = .lenient → r.normative = true) →
    doc.cites r.anchor = false → IsOneLine r.anchor
  /-- The expiry of a draft in text, where it is no date. -/
  expiry : doc.format ≠ .xml → doc.kind = .draft → doc.front.expires = none →
    ∀ text ∈ doc.front.expiresText, IsOneLine text
  /-- The version of the XML vocabulary, without white space around it. -/
  version : doc.format = .xml → ∀ version ∈ doc.front.xmlVersion, '\n' ∉ Text.trim version.toList

namespace RuleSet

variable {set : RuleSet} {doc : Document} {options : Options} {report : Report}

/-- What holds of the findings of a report holds of what could not be read, and of what each rule
that is meant for the document finds. -/
theorem forall_bucket_iff {p : Finding → Prop} (done : set.check doc options = .ok report) :
    (∀ severity, ∀ finding ∈ report.bucket severity, p finding) ↔
      (∀ finding ∈ doc.openingFindings, p finding) ∧
        ∀ rule ∈ set.meantFor doc, ∀ check, rule.check = some check →
          ∀ findings, check doc options = .ok findings → ∀ finding ∈ findings, p finding := by
  obtain ⟨keeps, holds⟩ := check_eq_ok_iff.1 done
  constructor
  · intro all
    refine ⟨fun finding mem => all .error finding ?_, ?_⟩
    · rw [holds, if_pos rfl]
      exact List.mem_append_left _ mem
    · intro rule meant check is_check findings found finding mem
      apply all rule.severity finding
      have reported : rule.reported doc options = findings := by
        rw [Rule.reported, is_check]
        dsimp only
        rw [found]
      rw [holds, reportedWith]
      refine List.mem_append_right _ (List.mem_flatMap.2 ⟨rule, ?_, reported ▸ mem⟩)
      exact List.mem_filter.2 ⟨meant, by simp⟩
  · rintro ⟨opening, by_rules⟩ severity finding mem
    rw [holds] at mem
    rcases List.mem_append.1 mem with unread | reported
    · split at unread
      · exact opening finding unread
      · cases unread
    · obtain ⟨rule, among, found⟩ := List.mem_flatMap.1 reported
      have meant := List.mem_of_mem_filter among
      obtain ⟨check, findings, is_check, done, -⟩ := keeps rule meant
      have reported : rule.reported doc options = findings := by
        rw [Rule.reported, is_check]
        dsimp only
        rw [done]
      exact by_rules rule meant check is_check findings done finding (reported ▸ found)

/-- The summaries of the standard rules are on lines. -/
theorem isOneLine_summary_standard (done : standard.check doc options = .ok report) :
    ∀ severity, ∀ finding ∈ report.bucket severity, IsOneLine finding.summary := by
  rw [forall_bucket_iff done, forall_meantFor_standard_iff (p := fun _ check =>
    ∀ findings, check doc options = .ok findings → ∀ finding ∈ findings, IsOneLine finding.summary)]
  constructor
  · unfold Document.openingFindings
    split
    · exact fun finding mem => by cases mem
    · refine List.forall_mem_singleton.2 ?_
      exact (isOneLine_between (by decide) (by decide)).2 (isOneLine_countOf _ (by decide))
  · exact ⟨Rules.title_isOnLinesIff.summaries, fun _ => Rules.draftName_isOnLinesIff.summaries,
      fun _ => Rules.category_isOnLinesIff.summaries, Rules.authors_isOnLinesIff.summaries,
      Rules.abstract_isOnLinesIff.summaries, fun _ => Rules.boilerplate_isOnLinesIff.summaries,
      fun _ => Rules.lineLengths_isOnLinesIff.summaries,
      fun _ => Rules.pageLengths_isOnLinesIff.summaries,
      fun _ => Rules.pagination_isOnLinesIff.summaries,
      Rules.undefinedCitations_isOnLinesIff.summaries,
      Rules.unusedReferences_isOnLinesIff.summaries,
      fun _ _ => Rules.expiry_isOnLinesIff.summaries,
      fun _ => Rules.xmlVersion_isOnLinesIff.summaries,
      fun _ => Rules.characters_isOnLinesIff.summaries⟩

/-- The messages for what could not be read are on lines if its readers' words are. -/
theorem isOneLine_openingFindings_iff :
    (∀ finding ∈ doc.openingFindings, ∀ nit ∈ finding.nits, IsOneLine nit.message) ↔
      ∀ d ∈ doc.diagnostics, IsOneLine (Finding.withoutPeriods d.message) := by
  unfold Document.openingFindings
  by_cases read : doc.diagnostics = []
  · rw [if_pos read, read]
    simp
  · rw [if_neg read, List.forall_mem_singleton, List.forall_mem_map]

/-- A report of the standard rules is on lines exactly if the texts that it quotes are. -/
theorem isOnLines_standard_iff (done : standard.check doc options = .ok report) :
    report.IsOnLines ↔ doc.QuotesOnLines options.mode := by
  have split : report.IsOnLines ↔
      ∀ severity, ∀ finding ∈ report.bucket severity, ∀ nit ∈ finding.nits,
        IsOneLine nit.message :=
    ⟨fun on_lines severity finding mem => (on_lines severity finding mem).messages,
      fun messages severity finding mem =>
        ⟨isOneLine_summary_standard done severity finding mem, messages severity finding mem⟩⟩
  rw [split, forall_bucket_iff done, isOneLine_openingFindings_iff,
    forall_meantFor_standard_iff (p := fun _ check => ∀ findings,
      check doc options = .ok findings → ∀ finding ∈ findings, ∀ nit ∈ finding.nits,
        IsOneLine nit.message)]
  simp only [Rules.title_isOnLinesIff.messages, Rules.draftName_isOnLinesIff.messages,
    Rules.category_isOnLinesIff.messages, Rules.authors_isOnLinesIff.messages,
    Rules.abstract_isOnLinesIff.messages, Rules.boilerplate_isOnLinesIff.messages,
    Rules.lineLengths_isOnLinesIff.messages, Rules.pageLengths_isOnLinesIff.messages,
    Rules.pagination_isOnLinesIff.messages, Rules.undefinedCitations_isOnLinesIff.messages,
    Rules.unusedReferences_isOnLinesIff.messages, Rules.expiry_isOnLinesIff.messages,
    Rules.xmlVersion_isOnLinesIff.messages, Rules.characters_isOnLinesIff.messages]
  -- The rules that quote nothing hold in any case; the others are the fields one by one.
  constructor
  · rintro ⟨diagnostics, -, draft_name, -, authors, -, -, -, -, -, citations, references, expiry,
      version, -⟩
    exact ⟨diagnostics, draft_name, authors, citations, references, expiry, version⟩
  · intro quotes
    simp only [implies_true, true_and, and_true]
    exact ⟨quotes.diagnostics, quotes.draftName, quotes.authors, quotes.citations,
      quotes.references, quotes.expiry, quotes.version⟩

end RuleSet

end DraftNits
