import DraftNits.Proofs.Conformance
import DraftNits.Proofs.Provenance

/-! # The current section of a text document

The walk over a body keeps in two flags whether the current section lists references and whether
these are normative. What it takes for references and for citations agrees with the headings that it
has met: the last heading before a line decides what the line may hold.

* `Document.sectionBefore?` — the last section whose heading stands before a line.
* `Document.TracksSections` — references stand under a heading that mentions them, citations do not,
  and there is an abstract exactly if a heading says so.
* `PlainText.Body.TracksSections.readLine` — one line of a body; the run over all lines follows by
  induction.
* `PlainText.tracksSections_readDocument` — the documents of all texts. -/

namespace DraftNits

/-! ## Documents -/

/-- Whether the title of a section holds a text in small letters, when it is lowered itself. -/
def Section.Mentions (s : Section) (lowered : String) : Prop :=
  lowered.toList <:+: Text.lowercase s.title.toList

/-- The last section whose heading stands before a line. -/
def Document.sectionBefore? (doc : Document) (number : Nat) : Option Section :=
  (doc.sections.filter fun s => s.line < number).getLast?

/-- Whether the references and citations of a document are those that its headings allow. -/
structure Document.TracksSections (doc : Document) : Prop where
  /-- The sections are in the order of their lines, and no two are on one line. -/
  ordered : (doc.sections.map Section.line).Pairwise (· < ·)
  /-- A reference stands under a heading that mentions references, and is normative exactly if the
  heading says so. -/
  references : ∀ r ∈ doc.references, ∃ s, doc.sectionBefore? r.line = some s ∧
    s.Mentions "references" ∧ (r.normative = true ↔ s.Mentions "normative")
  /-- A citation stands under no heading, or under one that does not mention references. -/
  citations : ∀ c ∈ doc.citations, ∀ s, doc.sectionBefore? c.line = some s →
    ¬ s.Mentions "references"
  /-- There is an abstract exactly if some title begins so. -/
  hasAbstract : doc.front.hasAbstract = true ↔ doc.HasSectionLike "abstract"
  /-- There is an abstract exactly if a search for the section finds one. -/
  findAbstract : doc.front.hasAbstract = (doc.findSection? "Abstract").isSome

namespace PlainText

namespace Body

/-! ## What an ordinary line changes -/

variable (body : Body) (number : Nat) (line raw : List Char) (rest : List (List Char))

/-- An ordinary line leaves the sections and what they say as they are. -/
theorem fields_readOrdinary :
    (body.readOrdinary number line raw rest).sections = body.sections ∧
      (body.readOrdinary number line raw rest).inReferences = body.inReferences ∧
      (body.readOrdinary number line raw rest).normative = body.normative ∧
      (body.readOrdinary number line raw rest).hasAbstract = body.hasAbstract := by
  dsimp only [readOrdinary]
  split
  · split <;> exact ⟨rfl, rfl, rfl, rfl⟩
  · exact ⟨rfl, rfl, rfl, rfl⟩

/-- Under references a line may add one. -/
theorem references_readOrdinary : (body.readOrdinary number line raw rest).references =
    (if body.inReferences then (reference? body.normative number line raw rest).toList else []) ++
      body.references := by
  dsimp only [readOrdinary]
  split
  · split
    next found => simp [found]
    next not_found => simp [not_found]
  · rfl

/-- Elsewhere a line adds its citations. -/
theorem citations_readOrdinary : (body.readOrdinary number line raw rest).citations =
    (if body.inReferences then [] else
      ((citedAnchors line).map fun anchor => ⟨String.ofList anchor, number⟩).reverse) ++
      body.citations := by
  dsimp only [readOrdinary]
  split
  · split <;> rfl
  · rfl

/-! ## The heading before a line -/

variable {body number}

/-- The last section whose heading stands before a line, as far as the body has been read. -/
def sectionBefore? (body : Body) (number : Nat) : Option Section :=
  body.sections.find? fun s => s.line < number

/-- Before a line that has not been read stands the latest heading. -/
theorem sectionBefore?_next (earlier : ∀ s ∈ body.sections, s.line < number) :
    body.sectionBefore? number = body.sections.head? := by
  rw [sectionBefore?]
  cases sections : body.sections with
  | nil => rfl
  | cons s others =>
    have before := earlier s (sections ▸ List.mem_cons_self)
    rw [List.find?_cons_of_pos (by simpa using before)]
    rfl

/-- A heading does not stand before the lines up to its own. -/
theorem sectionBefore?_readHeading (heading : Heading) {n : Nat} (upto : n ≤ number) :
    (body.readHeading number heading).sectionBefore? n = body.sectionBefore? n := by
  refine List.find?_cons_of_neg ?_
  rw [decide_eq_true_eq]
  exact Nat.not_lt.2 upto

/-- Where the sections are the same, the headings before a line are. -/
theorem sectionBefore?_congr {other : Body} (same : other.sections = body.sections) (n : Nat) :
    other.sectionBefore? n = body.sectionBefore? n := by
  rw [sectionBefore?, same, sectionBefore?]

/-- Whether what a body holds, after the lines before `next`, agrees with its headings. -/
structure TracksSections (next : Nat) (body : Body) : Prop where
  /-- The headings have been read. -/
  earlier : ∀ s ∈ body.sections, s.line < next
  /-- Their lines are in order. -/
  ordered : (body.sections.map Section.line).Pairwise (· > ·)
  /-- References follow exactly if the latest heading mentions them. -/
  inReferences : body.inReferences = true ↔
    ∃ s, body.sections.head? = some s ∧ s.Mentions "references"
  /-- They are normative exactly if it says so. -/
  normative : body.normative = true ↔
    ∃ s, body.sections.head? = some s ∧ s.Mentions "normative"
  /-- A reference stands under a heading that mentions references. -/
  references : ∀ r ∈ body.references, r.line < next ∧ ∃ s, body.sectionBefore? r.line = some s ∧
    s.Mentions "references" ∧ (r.normative = true ↔ s.Mentions "normative")
  /-- A citation does not. -/
  citations : ∀ c ∈ body.citations, c.line < next ∧ ∀ s, body.sectionBefore? c.line = some s →
    ¬ s.Mentions "references"
  /-- There is an abstract exactly if some title begins so. -/
  hasAbstract : body.hasAbstract = true ↔
    ∃ s ∈ body.sections, "abstract".toList <+: Text.lowercase s.title.toList

namespace TracksSections

/-- A line that adds nothing changes nothing. -/
theorem pass (tracks : body.TracksSections number) : body.TracksSections (number + 1) where
  earlier s mem := Nat.lt_succ_of_lt (tracks.earlier s mem)
  ordered := tracks.ordered
  inReferences := tracks.inReferences
  normative := tracks.normative
  references r mem := (tracks.references r mem).imp_left Nat.lt_succ_of_lt
  citations c mem := (tracks.citations c mem).imp_left Nat.lt_succ_of_lt
  hasAbstract := tracks.hasAbstract

/-- A heading decides about the lines after it, not about those before. -/
theorem readHeading (tracks : body.TracksSections number) (heading : Heading) :
    (body.readHeading number heading).TracksSections (number + 1) where
  earlier := List.forall_mem_cons.2 ⟨Nat.lt_succ_self number, tracks.pass.earlier⟩
  ordered := by
    refine List.pairwise_cons.2 ⟨fun n mem => ?_, tracks.ordered⟩
    obtain ⟨s, listed, rfl⟩ := List.mem_map.1 mem
    exact tracks.earlier s listed
  inReferences := by
    simp [Body.readHeading, Heading.toSection, Section.Mentions, Text.contains_iff]
  normative := by
    simp [Body.readHeading, Heading.toSection, Section.Mentions, Text.contains_iff]
  references := by
    intro r mem
    obtain ⟨before, under⟩ := tracks.references r mem
    rw [sectionBefore?_readHeading heading (Nat.le_of_lt before)]
    exact ⟨Nat.lt_succ_of_lt before, under⟩
  citations := by
    intro c mem
    obtain ⟨before, under⟩ := tracks.citations c mem
    rw [sectionBefore?_readHeading heading (Nat.le_of_lt before)]
    exact ⟨Nat.lt_succ_of_lt before, under⟩
  hasAbstract := by
    simp [Body.readHeading, Heading.toSection, tracks.hasAbstract, or_comm]

/-- An ordinary line is judged by the latest heading. -/
theorem readOrdinary (tracks : body.TracksSections number) :
    (body.readOrdinary number line raw rest).TracksSections (number + 1) := by
  obtain ⟨sections, in_references, normative, has_abstract⟩ :=
    body.fields_readOrdinary number line raw rest
  have same := sectionBefore?_congr sections
  have current := sectionBefore?_next tracks.earlier
  refine ⟨?_, ?_, ?_, ?_, fun r mem => ?_, fun c mem => ?_, ?_⟩
  · rw [sections]
    exact tracks.pass.earlier
  · rw [sections]
    exact tracks.ordered
  · rw [sections, in_references]
    exact tracks.inReferences
  · rw [sections, normative]
    exact tracks.normative
  · rw [same]
    rw [references_readOrdinary, List.mem_append] at mem
    rcases mem with new | old
    · split at new
      next listed =>
        obtain ⟨anchor, -, is_reference⟩ :=
          Option.map_eq_some_iff.1 (Option.mem_toList.1 new)
        obtain ⟨s, latest, mentions⟩ := tracks.inReferences.1 listed
        rw [← is_reference]
        refine ⟨Nat.lt_succ_self number, s, current.trans latest, mentions, ?_⟩
        rw [tracks.normative, latest]
        simp
      next => cases new
    · exact tracks.pass.references r old
  · rw [same]
    rw [citations_readOrdinary, List.mem_append] at mem
    rcases mem with new | old
    · split at new
      next => cases new
      next unlisted =>
        obtain ⟨anchor, -, is_citation⟩ := List.mem_map.1 (List.mem_reverse.1 new)
        rw [← is_citation]
        refine ⟨Nat.lt_succ_self number, fun s latest mentions => unlisted ?_⟩
        exact tracks.inReferences.2 ⟨s, current.symm.trans latest, mentions⟩
    · exact tracks.pass.citations c old
  · rw [sections, has_abstract]
    exact tracks.hasAbstract

/-- A line of any kind. -/
theorem readLine (tracks : body.TracksSections number) :
    (body.readLine number raw rest).TracksSections (number + 1) := by
  unfold Body.readLine
  cases BodyLine.ofLine raw with
  | furniture => exact tracks.pass
  | heading heading => exact tracks.readHeading heading
  | ordinary line => exact tracks.readOrdinary line raw rest

/-- Before the first line there is nothing to agree with. -/
theorem start (expiry : Expiry) (number : Nat) :
    (Body.start expiry).TracksSections number := by
  constructor <;> simp [Body.start]

/-- All lines of a body. -/
theorem ofLines (expiry : Expiry) (start : Nat) (lines : List (List Char)) :
    ∃ next, (Body.ofLines expiry start lines).TracksSections next := by
  exact ⟨_, ofLines_induction (.start expiry (start + 1)) fun _ _ tracks => tracks.readLine _ _⟩

end TracksSections

end Body

/-! ## Documents from lines -/

/-- The headings of a document are those of its body, in the order of the text. -/
theorem sectionBefore?_readDocument (path : String) (format : SourceFormat)
    (lines : List (List Char)) (number : Nat) :
    (readDocument path format lines).sectionBefore? number =
      (Body.ofLines (FrontPage.ofLines lines).header.expiry (FrontPage.ofLines lines).bodyStart
        lines).sectionBefore? number := by
  rw [Document.sectionBefore?, readDocument, List.filter_reverse, List.getLast?_reverse,
    List.head?_filter]
  rfl

/-- In every document that is read from plain text the headings say what the lines after them hold.
The last heading before a reference mentions references, and the reference is normative exactly if
that heading says so; the last heading before a citation, if there is one, does not mention
references; and there is an abstract exactly if some heading begins with that word, which is when a
search for the section succeeds. -/
theorem tracksSections_readDocument (path : String) (format : SourceFormat)
    (lines : List (List Char)) : (readDocument path format lines).TracksSections := by
  obtain ⟨next, tracks⟩ := Body.TracksSections.ofLines (FrontPage.ofLines lines).header.expiry
    (FrontPage.ofLines lines).bodyStart lines
  have has_abstract : (readDocument path format lines).front.hasAbstract = true ↔
      (readDocument path format lines).HasSectionLike "abstract" := by
    simpa only [readDocument, frontMatter, Document.HasSectionLike, List.mem_reverse] using
      tracks.hasAbstract
  refine ⟨?_, fun r mem => ?_, fun c mem => ?_, has_abstract, ?_⟩
  · rw [readDocument, List.map_reverse, List.pairwise_reverse]
    exact tracks.ordered
  · rw [sectionBefore?_readDocument]
    exact (tracks.references r (List.mem_reverse.1 mem)).2
  · rw [sectionBefore?_readDocument]
    exact (tracks.citations c (List.mem_reverse.1 mem)).2
  · have found : ((readDocument path format lines).findSection? "Abstract").isSome = true ↔
        (readDocument path format lines).HasSectionLike "abstract" :=
      Document.isSome_findSection?_iff "Abstract" (by decide +kernel)
    exact Bool.eq_iff_iff.2 (has_abstract.trans found.symm)

end PlainText

end DraftNits
