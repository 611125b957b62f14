import DraftNits.Proofs.Excerpts
import DraftNits.Proofs.TextDocumentLines

/-! # Where the elements of a document come from

A document that was read from lines, by the reader of plain text or by the search of a malformed XML
text, holds nothing that does not stand on the line that it names, and its elements are in the order
of the lines.

* `Document.Traced` — every element stands on its line, and the lines are in order.
* `Document.OneKindPerLine` — a line gives a document elements of one kind only.
* `Gathered.append` — what a line adds to a list that was read from the lines before it.
* `PlainText.Body.gathered_readLine`, `RfcXml.Recovered.gathered_readLine` — one line of a body, and
  one of a malformed text; the runs over all lines follow by induction.
* `PlainText.Body.ofLines_induction` — from one line of a body to all of them.
* `traced_of_lines` — both readers give documents that are traced, and the lines of a text document
  are of one kind. -/

namespace DraftNits

/-! ## Traced documents -/

/-- Whether a text is a part of the line of a number. -/
def Document.Shows (doc : Document) (number : Nat) (text : List Char) : Prop :=
  ∃ line, doc.lineAt? number = some line ∧ text <:+: line.toList

/-- Whether every element of a document stands on the line that it names, an anchor as `written`
says, and the elements are in the order of their lines. -/
structure Document.Traced (written : String → List Char) (doc : Document) : Prop where
  /-- The draft name has a line, and only with a name is there one. -/
  hasDraftName : doc.front.draftName.isSome = doc.front.draftNameLine.isSome
  /-- The draft name. -/
  draftName : ∀ name ∈ doc.front.draftName, ∀ n ∈ doc.front.draftNameLine, doc.Shows n name.toList
  /-- The authors. -/
  authors : ∀ author ∈ doc.front.authors, ∃ n, author.line = some n ∧ doc.Shows n author.name.toList
  /-- The numbers of sections. -/
  numbers : ∀ s ∈ doc.sections, ∀ number ∈ s.number, doc.Shows s.line number.toList
  /-- The titles of sections. -/
  titles : ∀ s ∈ doc.sections, doc.Shows s.line s.title.toList
  /-- The references. -/
  references : ∀ r ∈ doc.references, doc.Shows r.line (written r.anchor)
  /-- The citations. -/
  citations : ∀ c ∈ doc.citations, doc.Shows c.line (written c.anchor)
  /-- No two authors are on one line. -/
  authorLines : (doc.front.authors.filterMap Author.line).Pairwise (· < ·)
  /-- No two sections are on one line. -/
  sectionLines : (doc.sections.map Section.line).Pairwise (· < ·)
  /-- A line may hold several references. -/
  referenceLines : (doc.references.map Reference.line).Pairwise (· ≤ ·)
  /-- A line may hold several citations. -/
  citationLines : (doc.citations.map Citation.line).Pairwise (· ≤ ·)

/-- Whether no line of a document is that of two references, nor that of two of sections, references
and citations. -/
structure Document.OneKindPerLine (doc : Document) : Prop where
  /-- No two references are on one line. -/
  referenceLines : (doc.references.map Reference.line).Nodup
  /-- A heading is no reference. -/
  sections_references : List.Disjoint (doc.sections.map Section.line)
    (doc.references.map Reference.line)
  /-- A heading has no citation. -/
  sections_citations : List.Disjoint (doc.sections.map Section.line)
    (doc.citations.map Citation.line)
  /-- A line with a reference has no citation. -/
  references_citations : List.Disjoint (doc.references.map Reference.line)
    (doc.citations.map Citation.line)

/-! ## Lines with their numbers -/

section Gathering

variable {α : Type} {stands : Nat → List Char → Prop} {lineOf : α → Nat} {shown : α → Prop}
  {order : Nat → Nat → Prop} {next : Nat} {items new : List α}

/-- Whether lines that are numbered from `number` on stand at their numbers. -/
def StandFrom (stands : Nat → List Char → Prop) (number : Nat) (lines : List (List Char)) : Prop :=
  ∀ i line, lines[i]? = some line → stands (number + i) line

/-- The first line stands at its number, and the lines after it at theirs. -/
theorem standFrom_cons {number : Nat} {line : List Char} {rest : List (List Char)} :
    StandFrom stands number (line :: rest) ↔
      stands number line ∧ StandFrom stands (number + 1) rest := by
  constructor
  · intro all
    refine ⟨all 0 line rfl, fun i later at_line => ?_⟩
    have place := all (i + 1) later at_line
    rwa [← Nat.add_assoc, Nat.add_right_comm] at place
  · rintro ⟨first, later⟩ i found at_line
    cases i with
    | zero =>
      obtain rfl : line = found := Option.some.inj at_line
      exact first
    | succ i =>
      have place := later i found at_line
      rwa [Nat.add_right_comm] at place

/-- A run of lines after the first ones stands where the text has it. -/
theorem StandFrom.part {number start : Nat} {lines part : List (List Char)}
    (stand : StandFrom stands number lines) (is_part : part <+: lines.drop start) :
    StandFrom stands (number + start) part := by
  intro i line at_line
  have in_lines := PlainText.getElem?_of_prefix is_part at_line
  rw [List.getElem?_drop] at in_lines
  rw [Nat.add_assoc]
  exact stand _ line in_lines

/-- Whether a text is a part of a line that stands at a number. -/
def ShownAt (stands : Nat → List Char → Prop) (number : Nat) (text : List Char) : Prop :=
  ∃ line, stands number line ∧ text <:+: line

/-! ## Lists that are read line by line -/

/-- Whether the items of a list were read from the lines before `next`: each is shown where it says,
and their lines are in order. -/
structure Gathered (lineOf : α → Nat) (order : Nat → Nat → Prop) (shown : α → Prop) (next : Nat)
    (items : List α) : Prop where
  /-- The lines have been read. -/
  earlier : ∀ item ∈ items, lineOf item < next
  /-- The items stand there. -/
  shown : ∀ item ∈ items, shown item
  /-- The lines are in order. -/
  ordered : (items.map lineOf).Pairwise order

/-- Before the first item nothing has been read. -/
theorem Gathered.nil : Gathered lineOf order shown next [] :=
  ⟨by simp, by simp, by simp⟩

/-- A line that gives no item leaves the list as it is. -/
theorem Gathered.pass (gathered : Gathered lineOf order shown next items) :
    Gathered lineOf order shown (next + 1) items :=
  ⟨fun item mem => Nat.lt_succ_of_lt (gathered.earlier item mem), gathered.shown,
    gathered.ordered⟩

/-- The items of the next line come after all others. Two of them need an order in which a line may
stand twice. -/
theorem Gathered.append (gathered : Gathered lineOf order shown next items)
    (later : ∀ {m n}, m < n → order m n) (here : ∀ item ∈ new, lineOf item = next ∧ shown item)
    (few : new.length ≤ 1 ∨ order next next) :
    Gathered lineOf order shown (next + 1) (items ++ new) := by
  -- The new items are all on one line, so two of them compare as that line does with itself.
  have all_here : new.map lineOf = List.replicate new.length next :=
    List.map_eq_replicate_iff.2 fun item mem => (here item mem).1
  refine ⟨?_, ?_, ?_⟩
  · refine List.forall_mem_append.2 ⟨gathered.pass.earlier, fun item mem => ?_⟩
    have place := (here item mem).1
    omega
  · exact List.forall_mem_append.2 ⟨gathered.shown, fun item mem => (here item mem).2⟩
  · rw [List.map_append, List.pairwise_append, all_here, List.pairwise_replicate]
    refine ⟨gathered.ordered, few, fun m before n at_next => ?_⟩
    obtain ⟨item, mem, rfl⟩ := List.mem_map.1 before
    rw [List.eq_of_mem_replicate at_next]
    exact later (gathered.earlier item mem)

/-- No item is on the next line. -/
theorem Gathered.next_notMem (gathered : Gathered lineOf order shown next items) :
    next ∉ items.map lineOf := by
  intro mem
  obtain ⟨item, listed, on_next⟩ := List.mem_map.1 mem
  exact absurd on_next (Nat.ne_of_lt (gathered.earlier item listed))

/-- Items of a line that another list does not know leave the two lists apart. -/
theorem disjoint_map_append {lines : List Nat} (apart : List.Disjoint (items.map lineOf) lines)
    (here : ∀ item ∈ new, lineOf item = next) (unread : next ∉ lines) :
    List.Disjoint ((items ++ new).map lineOf) lines := by
  rw [List.map_append, List.disjoint_append_left]
  refine ⟨apart, fun n mem among => ?_⟩
  obtain ⟨item, listed, rfl⟩ := List.mem_map.1 mem
  exact unread (here item listed ▸ among)

end Gathering

/-! ## Authors -/

/-- Whether authors were read from the lines before `next`, each from a line with the name, and no
two of them from the same. The organization plays no part. -/
def AuthorsGathered (stands : Nat → List Char → Prop) (next : Nat) (authors : List Author) : Prop :=
  ∃ marks : List (Nat × String),
    (authors.map fun author => (author.line, author.name)) =
      (marks.map fun mark => (some mark.1, mark.2)) ∧
    Gathered Prod.fst (· < ·) (fun mark => ShownAt stands mark.1 mark.2.toList) next marks

namespace AuthorsGathered

variable {stands : Nat → List Char → Prop} {next : Nat} {authors : List Author}

/-- Without authors there is nothing to show. -/
theorem nil : AuthorsGathered stands next [] := ⟨[], rfl, Gathered.nil⟩

/-- A line without an author leaves the authors as they are. -/
theorem pass (gathered : AuthorsGathered stands next authors) :
    AuthorsGathered stands (next + 1) authors := by
  obtain ⟨marks, same, marked⟩ := gathered
  exact ⟨marks, same, marked.pass⟩

/-- A line may add an author whose name it holds. -/
theorem append (gathered : AuthorsGathered stands next authors) {line : List Char}
    (here : stands next line) {names : List (List Char)} (parts : ∀ name ∈ names, name <:+: line)
    (few : names.length ≤ 1) :
    AuthorsGathered stands (next + 1)
      (authors ++ names.map fun name => ⟨String.ofList name, none, some next⟩) := by
  obtain ⟨marks, same, marked⟩ := gathered
  refine ⟨marks ++ names.map fun name => (next, String.ofList name), ?_, ?_⟩
  · rw [List.map_append, List.map_append, same, List.map_map, List.map_map]
    rfl
  · refine marked.append id (fun mark mem => ?_) (.inl (by rwa [List.length_map]))
    obtain ⟨name, listed, rfl⟩ := List.mem_map.1 mem
    exact ⟨rfl, line, here, by simpa using parts name listed⟩

/-- What is known of the authors does not depend on their organizations. -/
theorem congr (gathered : AuthorsGathered stands next authors) {others : List Author}
    (same : (others.map fun author => (author.line, author.name)) =
      authors.map fun author => (author.line, author.name)) :
    AuthorsGathered stands next others := by
  obtain ⟨marks, same_marks, marked⟩ := gathered
  exact ⟨marks, same.trans same_marks, marked⟩

/-- Every author has a line and is shown there. -/
theorem shown (gathered : AuthorsGathered stands next authors) :
    ∀ author ∈ authors, ∃ n, author.line = some n ∧ ShownAt stands n author.name.toList := by
  obtain ⟨marks, same, marked⟩ := gathered
  intro author mem
  have listed : (author.line, author.name) ∈ marks.map fun mark => (some mark.1, mark.2) :=
    same ▸ List.mem_map_of_mem mem
  obtain ⟨mark, among, is_author⟩ := List.mem_map.1 listed
  obtain ⟨is_line, is_name⟩ := Prod.mk.inj is_author
  exact ⟨mark.1, is_line.symm, is_name ▸ marked.shown mark among⟩

/-- The lines of the authors increase. -/
theorem ordered (gathered : AuthorsGathered stands next authors) :
    (authors.filterMap Author.line).Pairwise (· < ·) := by
  obtain ⟨marks, same, marked⟩ := gathered
  -- Every author has a line, so leaving out authors without one leaves out none.
  have lines : authors.filterMap Author.line = marks.map Prod.fst := by
    calc authors.filterMap Author.line
        = (authors.map fun author => (author.line, author.name)).filterMap Prod.fst := by
          rw [List.filterMap_map]; rfl
      _ = (marks.map fun mark => (some mark.1, mark.2)).filterMap Prod.fst := by rw [same]
      _ = marks.map Prod.fst := by
          rw [List.filterMap_map]; exact congrFun List.filterMap_eq_map marks
  rw [lines]
  exact marked.ordered

end AuthorsGathered

namespace PlainText

variable {stands : Nat → List Char → Prop}

/-! ## The first page -/

/-- An organization leaves the names and lines of the authors as they are. -/
theorem Header.map_addOrganization (organization : String) (authors : List Author) :
    ((Header.addOrganization organization authors).map fun author => (author.line, author.name)) =
      authors.map fun author => (author.line, author.name) := by
  induction authors with
  | nil => rfl
  | cons author authors ih =>
    cases authors with
    | nil => rfl
    | cons next rest =>
      rw [Header.addOrganization, List.map_cons, ih]
      · rfl
      · exact List.cons_ne_nil next rest

/-- A left column says nothing of the authors. -/
theorem Header.authors_readLeft (header : Header) (number : Nat) (left : List Char) :
    (header.readLeft number left).authors = header.authors := by
  unfold Header.readLeft
  split
  · rfl
  split
  · rfl
  split
  · rfl
  · rfl

/-- A right column gives an author, an organization or a date. -/
theorem Header.gathered_readRight {header : Header} {number : Nat} {line right : List Char}
    (gathered : AuthorsGathered stands number header.authors) (here : stands number line)
    (is_part : right <:+: line) :
    AuthorsGathered stands (number + 1) (header.readRight number right).authors := by
  unfold Header.readRight
  split
  · exact gathered.pass
  split
  · have parts : ∀ name ∈ [right], name <:+: line := by simpa using is_part
    exact gathered.append here parts (Nat.le_refl 1)
  · exact gathered.pass.congr (Header.map_addOrganization _ _)

/-- The authors after a line of the header. -/
theorem Header.gathered_readLine {header : Header} {number : Nat} {line : List Char}
    (gathered : AuthorsGathered stands number header.authors) (here : stands number line) :
    AuthorsGathered stands (number + 1) (header.readLine number line).authors := by
  have from_left : ∀ left, AuthorsGathered stands number (header.readLeft number left).authors :=
    fun left => (Header.authors_readLeft header number left).symm ▸ gathered
  dsimp only [Header.readLine]
  cases is_right : (Columns.ofLine line).right with
  | none =>
    cases (Columns.ofLine line).left with
    | none => exact gathered.pass
    | some left => exact (from_left left).pass
  | some right =>
    have is_part := (Columns.isInfix_ofLine line).2 right is_right
    cases (Columns.ofLine line).left with
    | none => exact Header.gathered_readRight gathered here is_part
    | some left => exact Header.gathered_readRight (from_left left) here is_part

/-- The authors after the lines of the header. -/
theorem Header.gathered_readLines {header : Header} {number : Nat} {block : List (List Char)}
    (gathered : AuthorsGathered stands number header.authors)
    (stand : StandFrom stands number block) :
    ∃ next, AuthorsGathered stands next (header.readLines number block).authors := by
  induction block generalizing header number with
  | nil => exact ⟨number, gathered⟩
  | cons line rest ih =>
    obtain ⟨here, later⟩ := standFrom_cons.1 stand
    rw [Header.readLines]
    exact ih (Header.gathered_readLine gathered here) later

/-- The authors of the first page. -/
theorem FrontPage.gathered_ofLines {lines : List (List Char)} (stand : StandFrom stands 1 lines) :
    ∃ next, AuthorsGathered stands next (FrontPage.ofLines lines).header.authors := by
  rcases FrontPage.header_ofLines lines with nothing | ⟨start, from_block⟩
  · rw [nothing]
    exact ⟨1, AuthorsGathered.nil⟩
  · have nothing : AuthorsGathered stands (1 + start) Header.empty.authors := AuthorsGathered.nil
    rw [from_block, Nat.add_comm]
    exact Header.gathered_readLines nothing (stand.part (List.takeWhile_prefix _))

/-- The draft name of the first page stands on its line. -/
theorem FrontPage.draftName_shown {lines : List (List Char)} (stand : StandFrom stands 1 lines) :
    ∀ found ∈ (FrontPage.ofLines lines).draftName, ShownAt stands found.2 found.1 := by
  intro found is_found
  obtain ⟨i, line, at_line, is_name, place⟩ := FrontPage.exists_line_of_draftName is_found
  refine ⟨line, ?_, ?_⟩
  · rw [place, Nat.add_comm]
    exact stand i line at_line
  · rcases is_name with trimmed | whole
    · exact (DraftName.find?_isInfix trimmed).trans (Text.trim_isInfix line)
    · exact DraftName.find?_isInfix whole

/-! ## The body -/

/-- Whether sections, references and citations were read from the lines before `next`, and every
line gave elements of one kind. -/
structure ElementsGathered (stands : Nat → List Char → Prop) (next : Nat)
    (sections : List Section) (references : List Reference) (citations : List Citation) : Prop where
  /-- The sections. -/
  ofSections : Gathered Section.line (· < ·)
    (fun s => (∀ number ∈ s.number, ShownAt stands s.line number.toList) ∧
      ShownAt stands s.line s.title.toList) next sections
  /-- The references. -/
  ofReferences : Gathered Reference.line (· < ·)
    (fun r => ShownAt stands r.line (bracketed r.anchor.toList)) next references
  /-- The citations. -/
  ofCitations : Gathered Citation.line (· ≤ ·)
    (fun c => ShownAt stands c.line (bracketed c.anchor.toList)) next citations
  /-- A heading is no reference. -/
  sections_references : List.Disjoint (sections.map Section.line) (references.map Reference.line)
  /-- A heading has no citation. -/
  sections_citations : List.Disjoint (sections.map Section.line) (citations.map Citation.line)
  /-- A line with a reference has no citation. -/
  references_citations : List.Disjoint (references.map Reference.line)
    (citations.map Citation.line)

namespace ElementsGathered

variable {number : Nat} {line : List Char} {sections : List Section} {references : List Reference}
  {citations : List Citation}

/-- Nothing has been read before the first line. -/
theorem nil : ElementsGathered stands number [] [] [] :=
  ⟨Gathered.nil, Gathered.nil, Gathered.nil, by simp, by simp, by simp⟩

/-- A line may be a heading. -/
theorem addSection (gathered : ElementsGathered stands number sections references citations)
    (here : stands number line) {heading : Heading} (within : heading.Within line) :
    ElementsGathered stands (number + 1) (sections ++ [heading.toSection number]) references
      citations := by
  have on_line : ∀ s ∈ [heading.toSection number], s.line = number := by simp [Heading.toSection]
  refine ⟨gathered.ofSections.append id (fun s mem => ⟨on_line s mem, ?_⟩) (.inl (Nat.le_refl 1)),
    gathered.ofReferences.pass, gathered.ofCitations.pass,
    disjoint_map_append gathered.sections_references on_line gathered.ofReferences.next_notMem,
    disjoint_map_append gathered.sections_citations on_line gathered.ofCitations.next_notMem,
    gathered.references_citations⟩
  obtain rfl := List.mem_singleton.1 mem
  refine ⟨fun text is_number => ?_, line, here, ?_⟩
  · obtain ⟨digits, is_digits, rfl⟩ := Option.map_eq_some_iff.1 is_number
    exact ⟨line, here, by simpa using within.number digits is_digits⟩
  · simpa [Heading.toSection] using within.title

/-- A line may be the first one of a reference. -/
theorem addReference (gathered : ElementsGathered stands number sections references citations)
    (here : stands number line) {reference : Reference} (on_line : reference.line = number)
    (is_part : bracketed reference.anchor.toList <:+: line) :
    ElementsGathered stands (number + 1) sections (references ++ [reference]) citations := by
  have all_here : ∀ r ∈ [reference], r.line = number := by simpa using on_line
  refine ⟨gathered.ofSections.pass,
    gathered.ofReferences.append id (fun r mem => ⟨all_here r mem, ?_⟩) (.inl (Nat.le_refl 1)),
    gathered.ofCitations.pass,
    List.disjoint_symm (disjoint_map_append (List.disjoint_symm gathered.sections_references)
      all_here gathered.ofSections.next_notMem),
    gathered.sections_citations,
    disjoint_map_append gathered.references_citations all_here gathered.ofCitations.next_notMem⟩
  obtain rfl := List.mem_singleton.1 mem
  exact ⟨line, on_line ▸ here, is_part⟩

/-- A line may have citations, or nothing at all. -/
theorem addCitations (gathered : ElementsGathered stands number sections references citations)
    (here : stands number line) {cited : List Citation}
    (on_line : ∀ c ∈ cited, c.line = number)
    (parts : ∀ c ∈ cited, bracketed c.anchor.toList <:+: line) :
    ElementsGathered stands (number + 1) sections references (citations ++ cited) := by
  refine ⟨gathered.ofSections.pass, gathered.ofReferences.pass,
    gathered.ofCitations.append Nat.le_of_lt (fun c mem => ⟨on_line c mem, line, ?_, parts c mem⟩)
      (.inr (Nat.le_refl number)),
    gathered.sections_references,
    List.disjoint_symm (disjoint_map_append (List.disjoint_symm gathered.sections_citations)
      on_line gathered.ofSections.next_notMem),
    List.disjoint_symm (disjoint_map_append (List.disjoint_symm gathered.references_citations)
      on_line gathered.ofReferences.next_notMem)⟩
  rw [on_line c mem]
  exact here

end ElementsGathered

namespace Body

/-- The sections, references and citations of a body in the order of the text. -/
def elements (body : Body) : List Section × List Reference × List Citation :=
  (body.sections.reverse, body.references.reverse, body.citations.reverse)

/-- What a line adds to a body: a heading within it, the reference of an entry on it, or the
citations on it, of which there may be none. -/
theorem elements_readLine (body : Body) (number : Nat) (raw : List Char)
    (rest : List (List Char)) :
    (∃ heading : Heading, heading.Within raw ∧
      (body.readLine number raw rest).elements =
        (body.sections.reverse ++ [heading.toSection number], body.references.reverse,
          body.citations.reverse)) ∨
    (∃ reference : Reference, reference.line = number ∧
      bracketed reference.anchor.toList <:+: raw ∧
      (body.readLine number raw rest).elements =
        (body.sections.reverse, body.references.reverse ++ [reference],
          body.citations.reverse)) ∨
    ∃ cited : List Citation, (∀ c ∈ cited, c.line = number) ∧
      (∀ c ∈ cited, bracketed c.anchor.toList <:+: raw) ∧
      (body.readLine number raw rest).elements =
        (body.sections.reverse, body.references.reverse, body.citations.reverse ++ cited) := by
  have trimmed := (dropFormFeeds_isSuffix raw).isInfix
  unfold readLine
  cases kind : BodyLine.ofLine raw with
  | furniture => exact .inr (.inr ⟨[], by simp, by simp, by simp [elements]⟩)
  | heading heading =>
    exact .inl ⟨heading, (Heading.within_of_ofLine? (BodyLine.heading_eq kind)).mono trimmed,
      by simp [elements, readHeading]⟩
  | ordinary line =>
    rw [← BodyLine.ordinary_eq kind]
    -- In a section of references a line may be one; elsewhere it may have citations.
    dsimp only [readOrdinary]
    split
    · split
      next reference is_reference =>
        obtain ⟨anchor, is_anchor, is_entry⟩ := Option.map_eq_some_iff.1 is_reference
        refine .inr (.inl ⟨reference, by rw [← is_entry], ?_, by simp [elements]⟩)
        rw [← is_entry, String.toList_ofList]
        exact (entryAnchor?_isInfix is_anchor).trans trimmed
      next => exact .inr (.inr ⟨[], by simp, by simp, by simp [elements]⟩)
    · refine .inr (.inr ⟨(citedAnchors (dropFormFeeds raw)).map fun anchor =>
        ⟨String.ofList anchor, number⟩, by simp, ?_, by simp [elements]⟩)
      rw [List.forall_mem_map]
      intro anchor cited
      rw [String.toList_ofList]
      exact (citedAnchors_isInfix anchor cited).trans trimmed

/-- Whether what a body holds was read from the lines before `next`. -/
def IsGathered (stands : Nat → List Char → Prop) (next : Nat) (body : Body) : Prop :=
  ElementsGathered stands next body.sections.reverse body.references.reverse
    body.citations.reverse

/-- What a body holds after a line. -/
theorem gathered_readLine {body : Body} {number : Nat} {raw : List Char}
    (gathered : body.IsGathered stands number) (here : stands number raw)
    (rest : List (List Char)) :
    (body.readLine number raw rest).IsGathered stands (number + 1) := by
  rcases body.elements_readLine number raw rest with
    ⟨heading, within, after⟩ | ⟨reference, on_line, is_part, after⟩ |
      ⟨cited, on_line, parts, after⟩
  all_goals
    obtain ⟨sections, others⟩ := Prod.mk.inj after
    obtain ⟨references, citations⟩ := Prod.mk.inj others
    rw [IsGathered, sections, references, citations]
  · exact gathered.addSection here within
  · exact gathered.addReference here on_line is_part
  · exact gathered.addCitations here on_line parts

/-- What holds of a body of which nothing has been read, and is kept by each line of the text, holds
of the body of the document. A line is read with the lines that follow it in the text. -/
theorem ofLines_induction {motive : Nat → Body → Prop} {expiry : Expiry} {start : Nat}
    {lines : List (List Char)} (before : motive (start + 1) (Body.start expiry))
    (step : ∀ {body : Body} {i : Nat} {raw : List Char}, start ≤ i → lines[i]? = some raw →
      motive (i + 1) body → motive (i + 2) (body.readLine (i + 1) raw (lines.drop (i + 1)))) :
    motive (start + 1 + (lines.drop start).length) (Body.ofLines expiry start lines) := by
  -- By induction on the lines that are left, for every body that is met in front of them.
  have run : ∀ (left : List (List Char)) (i : Nat) (body : Body), start ≤ i → lines.drop i = left →
      motive (i + 1) body → motive (i + 1 + left.length) (body.readLines (i + 1) left) := by
    intro left
    induction left with
    | nil => exact fun _ _ _ _ kept => kept
    | cons raw rest ih =>
      intro i body after is_left kept
      have here : lines[i]? = some raw := by
        rw [← List.head?_drop, is_left]
        rfl
      have is_rest : lines.drop (i + 1) = rest := by
        rw [← List.tail_drop, is_left]
        rfl
      have read := step after here kept
      rw [is_rest] at read
      have all := ih (i + 1) _ (Nat.le_succ_of_le after) is_rest read
      rw [Nat.add_right_comm] at all
      exact all
  exact run _ start _ (Nat.le_refl start) rfl before

/-- What the body of a document holds, from wherever it starts. -/
theorem gathered_ofLines {lines : List (List Char)} (stand : StandFrom stands 1 lines)
    (expiry : Expiry) (start : Nat) :
    ∃ next, (Body.ofLines expiry start lines).IsGathered stands next := by
  refine ⟨_, ofLines_induction (motive := IsGathered stands) .nil fun _ at_line gathered => ?_⟩
  exact gathered_readLine gathered (Nat.add_comm 1 _ ▸ stand _ _ at_line) _

end Body

end PlainText

namespace RfcXml

variable {stands : Nat → List Char → Prop}

/-! ## Malformed documents -/

namespace Recovered

/-- Whether what has been saved was read from the lines before `next`. -/
structure IsGathered (stands : Nat → List Char → Prop) (next : Nat) (saved : Recovered) :
    Prop where
  /-- The draft name has a line, and only with a name is there one. -/
  hasDraftName : saved.front.draftName.isSome = saved.front.draftNameLine.isSome
  /-- The draft name. -/
  draftName : ∀ name ∈ saved.front.draftName, ∀ n ∈ saved.front.draftNameLine,
    ShownAt stands n name.toList
  /-- The authors. -/
  authors : AuthorsGathered stands next saved.front.authors
  /-- The references. -/
  references : Gathered Reference.line (· ≤ ·)
    (fun r => ShownAt stands r.line r.anchor.toList) next saved.references
  /-- The citations. -/
  citations : Gathered Citation.line (· ≤ ·)
    (fun c => ShownAt stands c.line c.anchor.toList) next saved.citations

/-- Nothing has been saved before the first line. -/
theorem gathered_empty {number : Nat} : empty.IsGathered stands number :=
  ⟨rfl, by simp [empty, FrontMatter.empty], AuthorsGathered.nil, Gathered.nil, Gathered.nil⟩

/-- The draft name and its line after a line are those of before, or they are of this line. -/
theorem draftName_readFront (front : FrontMatter) (number : Nat) (line : List Char) :
    ((readFront front number line).draftName = front.draftName ∧
      (readFront front number line).draftNameLine = front.draftNameLine) ∨
    ∃ name, firstAttribute? "docName" line = some name ∧
      (readFront front number line).draftName = some (String.ofList name) ∧
      (readFront front number line).draftNameLine = some number := by
  obtain ⟨name, name_line, -⟩ := fields_readRoot front number line
  dsimp only [readFront]
  split
  · rw [name, name_line]
    cases firstAttribute? "docName" line with
    | none => exact .inl ⟨rfl, rfl⟩
    | some found => exact .inr ⟨found, rfl, rfl, rfl⟩
  · exact .inl ⟨rfl, rfl⟩

/-- The authors after a line: of those on the line the first is added. -/
theorem authors_readFront (front : FrontMatter) (number : Nat) (line : List Char) :
    (readFront front number line).authors = front.authors ++
      ((tagAttributes "author" "fullname" line).take 1).map fun name =>
        ⟨String.ofList name, none, some number⟩ := by
  obtain ⟨-, -, same_authors, -⟩ := fields_readRoot front number line
  dsimp only [readFront]
  split
  · rw [same_authors]
  · rfl

/-- What has been saved after a line. -/
theorem gathered_readLine {saved : Recovered} {number : Nat} {line : List Char}
    (gathered : saved.IsGathered stands number) (here : stands number line) :
    (saved.readLine number line).IsGathered stands (number + 1) where
  hasDraftName := by
    rcases draftName_readFront saved.front number line with
      ⟨same, same_line⟩ | ⟨name, -, new, at_line⟩
    · simpa only [readLine, same, same_line] using gathered.hasDraftName
    · simp [readLine, new, at_line]
  draftName := by
    rcases draftName_readFront saved.front number line with
      ⟨same, same_line⟩ | ⟨name, found, new, at_line⟩
    · simpa only [readLine, same, same_line] using gathered.draftName
    · simp only [readLine, new, at_line, Option.mem_some_iff, forall_eq']
      rw [String.toList_ofList]
      exact ⟨line, here, firstAttribute?_isInfix found⟩
  authors := by
    rw [readLine, authors_readFront]
    refine gathered.authors.append here (fun name mem => ?_) (List.length_take_le 1 _)
    exact tagAttributes_isInfix name (List.mem_of_mem_take mem)
  references := by
    refine gathered.references.append Nat.le_of_lt ?_ (.inr (Nat.le_refl number))
    rw [List.forall_mem_map]
    intro anchor mem
    exact ⟨rfl, line, here, by simpa using tagAttributes_isInfix anchor mem⟩
  citations := by
    refine gathered.citations.append Nat.le_of_lt ?_ (.inr (Nat.le_refl number))
    rw [List.forall_mem_map]
    intro anchor mem
    exact ⟨rfl, line, here, by simpa using tagAttributes_isInfix anchor mem⟩

/-- What has been saved after lines. -/
theorem gathered_readLines {saved : Recovered} {number : Nat} {text : List (List Char)}
    (gathered : saved.IsGathered stands number) (stand : StandFrom stands number text) :
    ∃ next, (saved.readLines number text).IsGathered stands next := by
  induction text generalizing saved number with
  | nil => exact ⟨number, gathered⟩
  | cons line rest ih =>
    obtain ⟨here, later⟩ := standFrom_cons.1 stand
    rw [readLines]
    exact ih (gathered_readLine gathered here) later

end Recovered

end RfcXml

/-! ## Documents -/

namespace Document

variable {doc : Document} {lines : List (List Char)} {number : Nat}

/-- Whether a document has a line at a number. -/
def Stands (doc : Document) (number : Nat) (line : List Char) : Prop :=
  doc.lineAt? number = some (String.ofList line)

/-- The lines that a document was made from stand at their numbers. -/
theorem standFrom_lines (same : doc.lines = lines.map String.ofList) :
    StandFrom doc.Stands 1 lines := by
  intro i line at_line
  rw [Stands, Nat.add_comm, lineAt?_succ, same, List.getElem?_map, at_line]
  rfl

/-- What is a part of a line that stands in a document is shown by it. -/
theorem Shows.of_shownAt {text : List Char} (shown : ShownAt doc.Stands number text) :
    doc.Shows number text := by
  obtain ⟨line, at_line, is_part⟩ := shown
  exact ⟨String.ofList line, at_line, by rwa [String.toList_ofList]⟩

end Document

/-- The elements of a text document come from the lines that they name. -/
theorem PlainText.traced_readDocument (path : String) (format : SourceFormat)
    (lines : List (List Char)) :
    (readDocument path format lines).Traced (fun anchor => bracketed anchor.toList) ∧
      (readDocument path format lines).OneKindPerLine := by
  have stand : StandFrom (readDocument path format lines).Stands 1 lines :=
    Document.standFrom_lines rfl
  obtain ⟨_, authors⟩ := FrontPage.gathered_ofLines stand
  have name := FrontPage.draftName_shown stand
  obtain ⟨_, elements⟩ := Body.gathered_ofLines stand (FrontPage.ofLines lines).header.expiry
    (FrontPage.ofLines lines).bodyStart
  have references_increase : ((readDocument path format lines).references.map
      Reference.line).Pairwise (· < ·) := elements.ofReferences.ordered
  constructor
  · exact {
      hasDraftName := by simp [readDocument, frontMatter]
      draftName := by
        -- The name and its line were found together.
        intro text is_text n is_line
        obtain ⟨found, is_found, rfl⟩ := Option.map_eq_some_iff.1 is_text
        obtain ⟨other, is_other, rfl⟩ := Option.map_eq_some_iff.1 is_line
        obtain rfl : found = other := Option.some.inj (is_found.symm.trans is_other)
        rw [String.toList_ofList]
        exact .of_shownAt (name found is_found)
      authors := by
        intro author mem
        obtain ⟨n, is_line, shown⟩ := authors.shown author mem
        exact ⟨n, is_line, .of_shownAt shown⟩
      numbers := fun s mem number is_number =>
        .of_shownAt ((elements.ofSections.shown s mem).1 number is_number)
      titles := fun s mem => .of_shownAt (elements.ofSections.shown s mem).2
      references := fun r mem => .of_shownAt (elements.ofReferences.shown r mem)
      citations := fun c mem => .of_shownAt (elements.ofCitations.shown c mem)
      authorLines := authors.ordered
      sectionLines := elements.ofSections.ordered
      referenceLines := references_increase.imp Nat.le_of_lt
      citationLines := elements.ofCitations.ordered }
  · exact {
      referenceLines := references_increase.imp Nat.ne_of_lt
      sections_references := elements.sections_references
      sections_citations := elements.sections_citations
      references_citations := elements.references_citations }

/-- What is saved of a malformed text comes from the lines that it names. -/
theorem RfcXml.traced_recover (path : String) (lines : List (List Char)) (diagnostic : Diagnostic) :
    (recover path lines diagnostic).Traced String.toList := by
  have stand : StandFrom (recover path lines diagnostic).Stands 1 lines :=
    Document.standFrom_lines rfl
  obtain ⟨_, saved⟩ := Recovered.gathered_readLines Recovered.gathered_empty stand
  exact {
    hasDraftName := saved.hasDraftName
    draftName := fun name is_name n is_line => .of_shownAt (saved.draftName name is_name n is_line)
    authors := by
      intro author mem
      obtain ⟨n, is_line, shown⟩ := saved.authors.shown author mem
      exact ⟨n, is_line, .of_shownAt shown⟩
    numbers := by simp [recover]
    titles := by simp [recover]
    references := fun r mem => .of_shownAt (saved.references.shown r mem)
    citations := fun c mem => .of_shownAt (saved.citations.shown c mem)
    authorLines := saved.authors.ordered
    sectionLines := by simp [recover]
    referenceLines := saved.references.ordered
    citationLines := saved.citations.ordered }

/-- Whatever is read from lines comes from the lines that it names. In a text document, where an
anchor stands in brackets, a line gives elements of one kind only and at most one reference. -/
theorem traced_of_lines (path : String) (format : SourceFormat) (lines : List (List Char))
    (diagnostic : Diagnostic) :
    (PlainText.readDocument path format lines).Traced
        (fun anchor => PlainText.bracketed anchor.toList) ∧
      (PlainText.readDocument path format lines).OneKindPerLine ∧
      (RfcXml.recover path lines diagnostic).Traced String.toList := by
  obtain ⟨text, one_kind⟩ := PlainText.traced_readDocument path format lines
  exact ⟨text, one_kind, RfcXml.traced_recover path lines diagnostic⟩

example :
    let doc := PlainText.readDocument "a.txt" .paginated
      ["Draft        A. Bee".toList, "             C. Dee".toList, [], " draft-bee-a-00".toList,
        "1.  Start".toList, "See [X] and [Y].".toList, "2.  References".toList,
        "   [X]  Ex, [Y]".toList]
    doc.front.draftNameLine = some 4 ∧ doc.front.authors.filterMap Author.line = [1, 2] ∧
      doc.sections.map Section.line = [5, 7] ∧ doc.references.map Reference.line = [8] ∧
      doc.citations.map Citation.line = [6, 6] := by
  decide +kernel

end DraftNits
