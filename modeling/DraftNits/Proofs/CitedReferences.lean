import DraftNits.Proofs.CitationScan
import DraftNits.Proofs.LenientMode

/-! # References that are cited

A reference and a citation are told by different characters: the anchor of an entry is any text
without white space and closing brackets, that of a citation is made of ASCII letters, digits and a
few marks, and a letter or digit comes first. A reference that is written between spaces on a scanned
line is cited if its anchor can be that of a citation; any other reference is never cited, and it is
reported as unused however often the text names it.

* `PlainText.mem_citedAnchors_of_space` — a citation behind a space is recorded, whatever stands in
  front of the space.
* `PlainText.isAnchor_of_mem_citations` — the citations of a text document, and their anchors.
* `Document.ReportsUnused`, `Document.reportsUnused_iff` — when a reference is reported.
* `PlainText.spares_cited_iff` — of the references that are written between spaces, those that are
  never reported. -/

namespace DraftNits

/-! ## Small letters -/

/-- The small letter of a capital letter is one. -/
theorem Text.isAsciiLower_asciiLower {c : Char} (upper : isAsciiUpper c = true) :
    isAsciiLower (asciiLower c) = true :=
  of_isAsciiUpper (p := fun c => isAsciiLower (asciiLower c) = true) (by decide) upper

/-- A letter or digit is one in small letters. -/
theorem Text.isAsciiAlnum_asciiLower (c : Char) : isAsciiAlnum (asciiLower c) = isAsciiAlnum c := by
  by_cases upper : isAsciiUpper c = true
  · simp [isAsciiAlnum, isAsciiLower_asciiLower upper, upper]
  · rw [asciiLower, if_neg upper]

namespace PlainText

/-- A character of an anchor is one in small letters. -/
theorem isAnchorChar_asciiLower (c : Char) : isAnchorChar (Text.asciiLower c) = isAnchorChar c := by
  by_cases upper : Text.isAsciiUpper c = true
  · have alnum : Text.isAsciiAlnum c = true := by simp [Text.isAsciiAlnum, upper]
    simp [isAnchorChar, Text.isAsciiAlnum_asciiLower, alnum]
  · rw [Text.asciiLower, if_neg upper]

/-- An anchor is one in small letters. -/
theorem isAnchor_map_asciiLower {anchor : List Char} :
    IsAnchor (anchor.map Text.asciiLower) ↔ IsAnchor anchor := by
  cases anchor with
  | nil => simp [IsAnchor]
  | cons c cs => simp [IsAnchor, Text.isAsciiAlnum_asciiLower, isAnchorChar_asciiLower]

/-- Of two texts that are the same but for ASCII case both are anchors of citations, or neither. -/
theorem isAnchor_congr {a b : String} (same : SameName a b) :
    IsAnchor a.toList ↔ IsAnchor b.toList := by
  rw [← isAnchor_map_asciiLower, same, isAnchor_map_asciiLower]

/-! ## Lines -/

/-- A citation is recorded if it does not start where another one ends. -/
theorem mem_recorded {citations : List (Nat × List Char)} {citation : Nat × List Char}
    (mem : citation ∈ citations) (apart : ∀ other ∈ citations, endOf other ≠ citation.1)
    {ended : Option Nat} (free : ended ≠ some citation.1) : citation ∈ recorded ended citations := by
  induction citations generalizing ended with
  | nil => cases mem
  | cons first later ih =>
    obtain ⟨first_apart, later_apart⟩ := List.forall_mem_cons.1 apart
    rw [recorded]
    rcases List.mem_cons.1 mem with rfl | in_later
    · rw [if_neg free]
      exact List.mem_cons_self
    · split
      · exact ih in_later later_apart (by simp)
      · exact List.mem_cons_of_mem _ (ih in_later later_apart (by simpa using first_apart))

/-- What stands in brackets behind a space is cited, if it is the anchor of a citation. -/
theorem mem_citedAnchors_of_space {line anchor : List Char} (is_anchor : IsAnchor anchor)
    (stands : ' ' :: bracketed anchor <:+: line) : anchor ∈ citedAnchors line := by
  obtain ⟨before, after, is_line⟩ := stands
  have split : line = (before ++ [' ']) ++ bracketed anchor ++ after := by simp [← is_line]
  have cites : CitesAt line (before ++ [' ']).length anchor := by
    refine ⟨is_anchor, before ++ [' '], after, split, rfl, ?_⟩
    rw [List.getLast?_concat]
    rintro _ ⟨⟩
    decide +kernel
  -- A citation ends with a bracket, and a space stands in front of this one.
  have apart : ∀ other ∈ occurrences line, endOf other ≠ (before ++ [' ']).length := by
    rintro ⟨place, other⟩ mem meet
    obtain ⟨-, front, behind, also_line, rfl, -⟩ := mem_occurrences_iff.1 mem
    have same_length : (front ++ bracketed other).length = (before ++ [' ']).length := by
      rw [List.length_append, length_bracketed]
      exact meet
    rw [split, List.append_assoc (before ++ [' '])] at also_line
    obtain ⟨same, -⟩ := List.append_inj also_line same_length.symm
    have ends : front ++ bracketed other = (front ++ '[' :: other) ++ [']'] := by simp [bracketed]
    have last := congrArg List.getLast? (same.trans ends)
    rw [List.getLast?_concat, List.getLast?_concat] at last
    cases last
  rw [citedAnchors_eq_recorded]
  have cited : ((before ++ [' ']).length, anchor) ∈ recorded none (occurrences line) :=
    mem_recorded (mem_occurrences_iff.2 cites) apart (by simp)
  exact List.mem_map_of_mem cited

/-- What is cited is the anchor of a citation. -/
theorem isAnchor_of_mem_citedAnchors {line anchor : List Char} (mem : anchor ∈ citedAnchors line) :
    IsAnchor anchor := by
  rw [citedAnchors_eq_recorded] at mem
  obtain ⟨⟨place, cited⟩, recorded_here, rfl⟩ := List.mem_map.1 mem
  exact (mem_occurrences_iff.1 ((recorded_sublist _ _).mem recorded_here)).isAnchor

/-- A text that starts with a space is found behind the form feeds of a line. -/
theorem isInfix_dropFormFeeds {line cs : List Char} (stands : ' ' :: cs <:+: line) :
    ' ' :: cs <:+: dropFormFeeds line := by
  induction line with
  | nil => simp at stands
  | cons c line ih =>
    by_cases feed : c = '\x0c'
    · subst feed
      refine ih ((List.infix_cons_iff.1 stands).resolve_left fun starts => ?_)
      exact absurd (List.cons_prefix_cons.1 starts).1 (by decide)
    · rwa [dropFormFeeds, List.dropWhile_cons, if_neg (by simpa using feed)]

/-! ## Documents -/

/-- A line adds no citation whose anchor is none. -/
theorem Body.isAnchor_readLine {body : Body} {number : Nat} {raw : List Char}
    (all : ∀ c ∈ body.citations, IsAnchor c.anchor.toList) (rest : List (List Char)) :
    ∀ c ∈ (body.readLine number raw rest).citations, IsAnchor c.anchor.toList := by
  unfold Body.readLine
  cases BodyLine.ofLine raw with
  | furniture => exact all
  | heading heading => exact all
  | ordinary line =>
    rw [citations_readOrdinary]
    intro c mem
    rcases List.mem_append.1 mem with new | old
    · split at new
      · cases new
      · obtain ⟨anchor, cited, rfl⟩ := List.mem_map.1 (List.mem_reverse.1 new)
        rw [String.toList_ofList]
        exact isAnchor_of_mem_citedAnchors cited
    · exact all c old

/-- The anchors of all citations of a text document are anchors of citations. -/
theorem isAnchor_of_mem_citations (path : String) (format : SourceFormat)
    (lines : List (List Char)) :
    ∀ c ∈ (readDocument path format lines).citations, IsAnchor c.anchor.toList := by
  intro c mem
  have in_body := List.mem_reverse.1 mem
  exact Body.ofLines_induction
    (motive := fun _ body => ∀ c ∈ body.citations, IsAnchor c.anchor.toList)
    (List.forall_mem_nil _) (fun _ _ kept => Body.isAnchor_readLine kept _) c in_body

end PlainText

/-- Whether the rule on references reports an anchor as not cited. -/
def Document.ReportsUnused (doc : Document) (options : Options) (anchor : String) : Prop :=
  ∃ nit ∈ Rules.unusedReferences.nits doc options,
    nit.message = "Reference [" ++ anchor ++ "] is not cited in the text"

/-- An anchor is reported exactly if it is not cited and some reference has it, in lenient mode a
normative one. -/
theorem Document.reportsUnused_iff {doc : Document} {options : Options} {anchor : String} :
    doc.ReportsUnused options anchor ↔ doc.cites anchor = false ∧
      ∃ r ∈ doc.references, r.anchor = anchor ∧
        (options.mode = .lenient → r.normative = true) := by
  constructor
  · rintro ⟨_, mem, message⟩
    obtain ⟨r, listed, counts, uncited, rfl⟩ := Rules.mem_nits_unusedReferences_iff.1 mem
    obtain rfl : r.anchor = anchor := by simpa [Nit.onLine] using message
    exact ⟨uncited, r, listed, rfl, counts⟩
  · rintro ⟨uncited, r, listed, rfl, counts⟩
    exact ⟨_, Rules.mem_nits_unusedReferences_iff.2 ⟨r, listed, counts, uncited, rfl⟩, rfl⟩

namespace PlainText

/-- A reference that is written in brackets and between spaces on a line of the body that is no page
furniture, no heading and in no references section is reported as not cited exactly if its anchor
cannot be that of a citation; in lenient mode, if there is a normative reference of that anchor too.
So the references that no mode reports are those with the anchor of a citation. -/
theorem spares_cited_iff (path : String) (format : SourceFormat) {lines : List (List Char)}
    {i : Nat} {raw : List Char} {r : Reference} (at_line : lines[i]? = some raw)
    (in_body : (FrontPage.ofLines lines).bodyStart ≤ i)
    (no_furniture : isFurniture (dropFormFeeds raw) = false)
    (no_heading : Heading.ofLine? (dropFormFeeds raw) = none)
    (outside : ∀ s, (readDocument path format lines).sectionBefore? (i + 1) = some s →
      ¬ s.Mentions "references")
    (listed : r ∈ (readDocument path format lines).references)
    (written : ' ' :: (bracketed r.anchor.toList ++ [' ']) <:+: raw) :
    (∀ options, (readDocument path format lines).ReportsUnused options r.anchor ↔
      ¬ IsAnchor r.anchor.toList ∧ ∃ s ∈ (readDocument path format lines).references,
        s.anchor = r.anchor ∧ (options.mode = .lenient → s.normative = true)) ∧
    ((∀ options, ¬ (readDocument path format lines).ReportsUnused options r.anchor) ↔
      IsAnchor r.anchor.toList) := by
  have cited_iff : (readDocument path format lines).cites r.anchor = true ↔
      IsAnchor r.anchor.toList := by
    rw [Document.cites_iff]
    constructor
    · rintro ⟨c, cited, same⟩
      exact (isAnchor_congr same).1 (isAnchor_of_mem_citations path format lines c cited)
    · intro is_anchor
      have stands : ' ' :: bracketed r.anchor.toList <:+: dropFormFeeds raw :=
        isInfix_dropFormFeeds ((List.prefix_append _ [' ']).isInfix.trans written)
      have scanned :=
        anchorsOn_readDocument path format at_line in_body no_furniture no_heading outside
      have found := List.mem_map_of_mem (f := String.ofList)
        (mem_citedAnchors_of_space is_anchor stands)
      rw [← scanned, String.ofList_toList] at found
      obtain ⟨c, on_line, is_anchor⟩ := List.mem_map.1 found
      exact ⟨c, List.mem_of_mem_filter on_line, by rw [SameName, is_anchor]⟩
  have reported_iff : ∀ options,
      (readDocument path format lines).ReportsUnused options r.anchor ↔
        ¬ IsAnchor r.anchor.toList ∧ ∃ s ∈ (readDocument path format lines).references,
          s.anchor = r.anchor ∧ (options.mode = .lenient → s.normative = true) := by
    intro options
    rw [Document.reportsUnused_iff, ← cited_iff, Bool.not_eq_true]
  refine ⟨reported_iff, fun spared => ?_, fun is_anchor options reported => ?_⟩
  · by_contra no_anchor
    have in_normal_mode : Options.mode (.ofMode .normal) = .lenient → r.normative = true :=
      fun lenient => by cases lenient
    exact spared (.ofMode .normal) ((reported_iff _).2 ⟨no_anchor, r, listed, rfl, in_normal_mode⟩)
  · exact ((reported_iff options).1 reported).1 is_anchor

/-- A text with two references that it cites, of which one has an anchor that no citation has. -/
def citingText : List (List Char) :=
  ["1. Introduction".toList, [], "Read [RFC2119] and [A&B] first.".toList, "2. References".toList,
    "   [RFC2119]  Key words".toList, "   [A&B]  Notes".toList]

/-- The references of that text, and that they are not cited among the references. -/
theorem references_citingText :
    (readDocument "draft.txt" .paginated citingText).references =
        [⟨"RFC2119", none, false, 5⟩, ⟨"A&B", none, false, 6⟩] ∧
      ∀ s, (readDocument "draft.txt" .paginated citingText).sectionBefore? 3 = some s →
        ¬ s.Mentions "references" := by
  refine ⟨by decide +kernel, fun s latest => ?_⟩
  have heading : (readDocument "draft.txt" .paginated citingText).sectionBefore? 3 =
      some ⟨some "1", "Introduction", 1⟩ := by decide +kernel
  rw [heading] at latest
  cases latest
  rw [Section.Mentions, ← Text.contains_iff]
  decide +kernel

/-- Both references are written between spaces on the third line. The first one is never reported, the
other one is reported in normal mode. -/
theorem spares_cited_iff_ampersand :
    (readDocument "draft.txt" .paginated citingText).references.map Reference.anchor =
        ["RFC2119", "A&B"] ∧
      (∀ options,
        ¬ (readDocument "draft.txt" .paginated citingText).ReportsUnused options "RFC2119") ∧
      (readDocument "draft.txt" .paginated citingText).ReportsUnused (.ofMode .normal) "A&B" := by
  obtain ⟨references, outside⟩ := references_citingText
  have at_line : citingText[2]? = some "Read [RFC2119] and [A&B] first.".toList := rfl
  have in_body : (FrontPage.ofLines citingText).bodyStart ≤ 2 := by decide +kernel
  have judged := fun r : Reference => spares_cited_iff "draft.txt" .paginated (r := r) at_line in_body
    (by decide +kernel) (by decide +kernel) outside
  rw [references] at judged
  have first := judged ⟨"RFC2119", none, false, 5⟩ List.mem_cons_self
    (Text.contains_iff.1 (by decide +kernel))
  have second := judged ⟨"A&B", none, false, 6⟩ (List.mem_cons_of_mem _ List.mem_cons_self)
    (Text.contains_iff.1 (by decide +kernel))
  refine ⟨by rw [references]; rfl, ?_, ?_⟩
  · exact first.2.2 ⟨'R', "FC2119".toList, rfl, by decide, List.all_eq_true.1 (by decide)⟩
  · refine (second.1 _).2 ⟨?_, ?_⟩
    · rintro ⟨c, cs, is_text, -, others⟩
      obtain ⟨-, rfl⟩ := List.cons.inj is_text
      exact absurd (others '&' (by decide)) (by decide)
    · exact ⟨⟨"A&B", none, false, 6⟩, by simp, rfl, nofun⟩

/-- Not every reference that is written between spaces on a scanned line is spared. -/
theorem not_spares_cited :
    ¬ ∀ (path : String) (format : SourceFormat) (lines : List (List Char)) (i : Nat)
      (raw : List Char) (r : Reference), lines[i]? = some raw →
      (FrontPage.ofLines lines).bodyStart ≤ i → isFurniture (dropFormFeeds raw) = false →
      Heading.ofLine? (dropFormFeeds raw) = none →
      (∀ s, (readDocument path format lines).sectionBefore? (i + 1) = some s →
        ¬ s.Mentions "references") →
      r ∈ (readDocument path format lines).references →
      ' ' :: (bracketed r.anchor.toList ++ [' ']) <:+: raw →
      ∀ options, ¬ (readDocument path format lines).ReportsUnused options r.anchor := by
  intro spared
  obtain ⟨references, outside⟩ := references_citingText
  refine spared "draft.txt" .paginated citingText 2 _ ⟨"A&B", none, false, 6⟩ rfl
    (by decide +kernel) (by decide +kernel) (by decide +kernel) outside (by simp [references])
    (Text.contains_iff.1 (by decide +kernel)) (.ofMode .normal) ?_
  refine Document.reportsUnused_iff.2 ⟨by decide +kernel, ⟨"A&B", none, false, 6⟩, ?_, rfl, nofun⟩
  simp [references]

end PlainText

end DraftNits
