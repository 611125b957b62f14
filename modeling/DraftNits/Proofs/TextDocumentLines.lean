import DraftNits.Proofs.XmlDocumentLines
import DraftNits.Intake

/-! # Lines in text documents

The line numbers of a document that was read from plain text are those under which its lines were
read: on the first page, in the title block, and in the body from where it starts. Together with
documents in XML, whatever is taken in is located.

* `PlainText.FrontPage.exists_line_of_draftName` — the draft name of a first page is found on a line
  of the document, wherever the page looks for it.
* `PlainText.located_readDocument` — a document that was read from lines is located.
* `readText_cases` — a document is taken in by the reader of XML or by that of plain text.
* `located_readText` — so is every document of a text, whatever its format. -/

namespace DraftNits

namespace PlainText

variable {p : Nat → Prop}

/-! ## The header -/

/-- Whether the lines of a header have a property. -/
structure Header.LinesIn (p : Nat → Prop) (header : Header) : Prop where
  /-- The line of the expiry. -/
  expiry : ∀ n ∈ header.expiry.line, p n
  /-- The lines of the authors. -/
  authors : ∀ author ∈ header.authors, ∀ n ∈ author.line, p n
  /-- The line of the date. -/
  date : ∀ found ∈ header.date, p found.1

/-- A header that says nothing has no lines. -/
theorem Header.linesIn_empty : Header.empty.LinesIn p :=
  ⟨by simp [Header.empty, Expiry.unknown], by simp [Header.empty], by simp [Header.empty]⟩

/-- The expiry is read with its line. -/
theorem Expiry.line_readField {expiry : Expiry} {number : Nat} {value : List Char} :
    (expiry.readField number value).line = some number := by
  unfold Expiry.readField
  split <;> rfl

/-- A left column is read with its line. -/
theorem Header.LinesIn.readLeft {header : Header} (lines : header.LinesIn p) {number : Nat}
    (inside : p number) (left : List Char) : (header.readLeft number left).LinesIn p := by
  unfold Header.readLeft
  split
  · exact ⟨lines.expiry, lines.authors, lines.date⟩
  split
  · exact ⟨lines.expiry, lines.authors, lines.date⟩
  split
  · refine ⟨fun n is_line => ?_, lines.authors, lines.date⟩
    rw [Expiry.line_readField] at is_line
    cases is_line
    exact inside
  · exact lines

/-- An organization leaves the authors on their lines. -/
theorem Header.line_addOrganization {organization : String} {authors : List Author}
    (lines : ∀ author ∈ authors, ∀ n ∈ author.line, p n) :
    ∀ author ∈ Header.addOrganization organization authors, ∀ n ∈ author.line, p n := by
  induction authors with
  | nil => simp [Header.addOrganization]
  | cons author authors ih =>
    rw [List.forall_mem_cons] at lines
    cases authors with
    | nil => simpa [Header.addOrganization] using lines.1
    | cons next rest =>
      rw [Header.addOrganization, List.forall_mem_cons]
      · exact ⟨lines.1, ih lines.2⟩
      · simp

/-- A right column is read with its line. -/
theorem Header.LinesIn.readRight {header : Header} (lines : header.LinesIn p) {number : Nat}
    (inside : p number) (right : List Char) : (header.readRight number right).LinesIn p := by
  unfold Header.readRight
  split
  · exact ⟨lines.expiry, lines.authors, by simpa using inside⟩
  split
  · refine ⟨lines.expiry, List.forall_mem_append.2 ⟨lines.authors, ?_⟩, lines.date⟩
    simpa using inside
  · exact ⟨lines.expiry, Header.line_addOrganization lines.authors, lines.date⟩

/-- A line of the header is read with its number. -/
theorem Header.LinesIn.readLine {header : Header} (lines : header.LinesIn p) {number : Nat}
    (inside : p number) (cs : List Char) : (header.readLine number cs).LinesIn p := by
  dsimp only [Header.readLine]
  cases (Columns.ofLine cs).left with
  | none =>
    cases (Columns.ofLine cs).right with
    | none => exact lines
    | some right => exact lines.readRight inside right
  | some left =>
    have from_left := lines.readLeft inside left
    cases (Columns.ofLine cs).right with
    | none => exact from_left
    | some right => exact from_left.readRight inside right

/-- The lines of the header are read with their numbers. -/
theorem Header.LinesIn.readLines {header : Header} (lines : header.LinesIn p) {number : Nat}
    {block : List (List Char)} (inside : HoldsOnLines p number block) :
    (header.readLines number block).LinesIn p := by
  induction block generalizing header number with
  | nil => exact lines
  | cons cs rest ih =>
    obtain ⟨here, later⟩ := holdsOnLines_cons.1 inside
    rw [Header.readLines]
    exact ih (lines.readLine here cs) later

/-! ## The first page -/

/-- The draft name of a title block is the one of a line, with its number. -/
theorem TitleBlock.exists_line {number : Nat} {block : List (List Char)}
    {found : List Char × Nat} (is_name : (TitleBlock.ofLines number block).draftName = some found) :
    ∃ i line, block[i]? = some line ∧ DraftName.find? (Text.trim line) = some found.1 ∧
      found.2 = number + i := by
  induction block generalizing number with
  | nil => cases is_name
  | cons cs rest ih =>
    -- A line after this one is a line of the block, one further on.
    have later : (TitleBlock.ofLines (number + 1) rest).draftName = some found →
        ∃ i line, (cs :: rest)[i]? = some line ∧
          DraftName.find? (Text.trim line) = some found.1 ∧ found.2 = number + i := by
      intro on_later_line
      obtain ⟨i, line, at_line, is_found, place⟩ := ih on_later_line
      exact ⟨i + 1, line, at_line, is_found, by omega⟩
    rw [TitleBlock.ofLines] at is_name
    split at is_name
    next name on_line =>
      -- A name on a later line comes before the one on this line.
      rcases Option.or_eq_some_iff.1 is_name with on_later_line | ⟨-, is_here⟩
      · exact later on_later_line
      · obtain rfl : (name, number) = found := Option.some.inj is_here
        exact ⟨0, cs, rfl, on_line, rfl⟩
    next => exact later is_name

/-- A draft name that is searched for is the one of a line, with its number. -/
theorem FrontPage.exists_line_of_search {number : Nat} {lines : List (List Char)}
    {found : List Char × Nat} (is_name : FrontPage.searchDraftName? number lines = some found) :
    ∃ i line, lines[i]? = some line ∧ DraftName.find? line = some found.1 ∧
      found.2 = number + i := by
  induction lines generalizing number with
  | nil => cases is_name
  | cons cs rest ih =>
    rw [FrontPage.searchDraftName?] at is_name
    split at is_name
    next name on_line =>
      obtain rfl : (name, number) = found := Option.some.inj is_name
      exact ⟨0, cs, rfl, on_line, rfl⟩
    next =>
      obtain ⟨i, line, at_line, is_found, place⟩ := ih is_name
      exact ⟨i + 1, line, at_line, is_found, by omega⟩

/-- The lines of a part from the start are lines of the whole. -/
theorem getElem?_of_prefix {part lines : List (List Char)} (is_part : part <+: lines) {i : Nat}
    {line : List Char} (at_line : part[i]? = some line) : lines[i]? = some line := by
  obtain ⟨rest, rfl⟩ := is_part
  have below := (List.getElem?_eq_some_iff.1 at_line).1
  rwa [List.getElem?_append_left below]

/-- The header of a first page is empty or read from a run of lines. -/
theorem FrontPage.header_ofLines (lines : List (List Char)) :
    (FrontPage.ofLines lines).header = Header.empty ∨
      ∃ start, (FrontPage.ofLines lines).header =
        Header.ofBlock (start + 1) (FrontPage.block (lines.drop start)) := by
  unfold FrontPage.ofLines
  dsimp only
  split
  · exact .inl rfl
  · dsimp only
    split
    · exact .inr ⟨_, rfl⟩
    · exact .inl rfl

/-- The draft name of a first page is the one of a line, perhaps trimmed, with its number. -/
theorem FrontPage.exists_line_of_draftName {lines : List (List Char)} {found : List Char × Nat}
    (is_name : (FrontPage.ofLines lines).draftName = some found) :
    ∃ i line, lines[i]? = some line ∧
      (DraftName.find? (Text.trim line) = some found.1 ∨ DraftName.find? line = some found.1) ∧
      found.2 = i + 1 := by
  unfold FrontPage.ofLines at is_name
  dsimp only at is_name
  split at is_name
  · cases is_name
  · -- The title block is asked first, and the search only where it has no name.
    rcases Option.or_eq_some_iff.1 is_name with in_title | ⟨-, in_search⟩
    · obtain ⟨i, line, at_line, is_found, place⟩ := TitleBlock.exists_line in_title
      have on_page := getElem?_of_prefix (List.takeWhile_prefix isTitleLine) at_line
      rw [List.getElem?_drop] at on_page
      exact ⟨_, line, on_page, .inl is_found, by omega⟩
    · obtain ⟨i, line, at_line, is_found, place⟩ := FrontPage.exists_line_of_search in_search
      have on_page := getElem?_of_prefix (List.take_prefix _ lines) at_line
      exact ⟨i, line, on_page, .inr is_found, by omega⟩

/-- Whether the lines of a first page have a property. -/
structure FrontPage.LinesIn (p : Nat → Prop) (page : FrontPage) : Prop where
  /-- The header. -/
  header : page.header.LinesIn p
  /-- The line of the draft name. -/
  draftName : ∀ found ∈ page.draftName, p found.2
  /-- The lines of what is missing. -/
  diagnostics : ∀ d ∈ page.diagnostics, ∀ n ∈ d.line, p n

/-- What is missing in a header is moved into the text. -/
theorem FrontPage.line_headerDiagnostics {line lineCount : Nat} {found : Bool} {header : Header} :
    ∀ d ∈ FrontPage.headerDiagnostics line lineCount found header, ∀ n ∈ d.line,
      1 ≤ n ∧ n ≤ lineCount := by
  have near : ∀ message, ∀ d ∈ [Diagnostic.near line lineCount message], ∀ n ∈ d.line,
      1 ≤ n ∧ n ≤ lineCount := by
    intro message d mem n is_line
    rw [List.mem_singleton.1 mem] at is_line
    exact Diagnostic.near_line is_line
  unfold FrontPage.headerDiagnostics
  split
  · exact near _
  split
  · exact near _
  · simp

/-- The first page of a document is read from its lines. -/
theorem FrontPage.linesIn_ofLines (lines : List (List Char)) :
    (FrontPage.ofLines lines).LinesIn fun n => 1 ≤ n ∧ n ≤ lines.length := by
  refine ⟨?_, fun found is_found => ?_, ?_⟩
  · rcases FrontPage.header_ofLines lines with nothing | ⟨start, from_block⟩
    · rw [nothing]
      exact Header.linesIn_empty
    · have short := (List.takeWhile_prefix (l := lines.drop start)
        fun cs => !Text.isAllBlank cs).length_le
      rw [List.length_drop] at short
      rw [from_block]
      refine Header.linesIn_empty.readLines fun n from_start below => ?_
      rw [FrontPage.block] at below
      omega
  · obtain ⟨i, line, at_line, -, place⟩ := FrontPage.exists_line_of_draftName is_found
    have below := (List.getElem?_eq_some_iff.1 at_line).1
    omega
  · unfold FrontPage.ofLines
    dsimp only
    split
    · simp
    · exact FrontPage.line_headerDiagnostics

/-! ## The body -/

/-- Whether the lines of a body have a property. -/
structure Body.LinesIn (p : Nat → Prop) (body : Body) : Prop where
  /-- The sections. -/
  sections : ∀ s ∈ body.sections, p s.line
  /-- The references. -/
  references : ∀ r ∈ body.references, p r.line
  /-- The citations. -/
  citations : ∀ c ∈ body.citations, p c.line
  /-- The line of the expiry. -/
  expiry : ∀ n ∈ body.expiry.line, p n

/-- The expiry in the text is read with its line. -/
theorem Expiry.line_readText {expiry : Expiry} (lines : ∀ n ∈ expiry.line, p n) {number : Nat}
    (inside : p number) (line : List Char) : ∀ n ∈ (expiry.readText number line).line, p n := by
  unfold Expiry.readText
  split
  · exact lines
  split
  · simpa using inside
  · exact lines

/-- A line of the body is read with its number. -/
theorem Body.LinesIn.readLine {body : Body} (lines : body.LinesIn p) {number : Nat}
    (inside : p number) (raw : List Char) (rest : List (List Char)) :
    (body.readLine number raw rest).LinesIn p := by
  unfold Body.readLine
  cases BodyLine.ofLine raw with
  | furniture => exact lines
  | heading heading =>
    exact ⟨List.forall_mem_cons.2 ⟨inside, lines.sections⟩, lines.references, lines.citations,
      lines.expiry⟩
  | ordinary line =>
    have expiry := Expiry.line_readText lines.expiry inside line
    dsimp only [Body.readOrdinary]
    -- In a section of references a line may be one; elsewhere it may have citations.
    split
    · split
      next reference is_reference =>
        obtain ⟨anchor, -, rfl⟩ := Option.map_eq_some_iff.1 is_reference
        exact ⟨lines.sections, List.forall_mem_cons.2 ⟨inside, lines.references⟩, lines.citations,
          expiry⟩
      next => exact ⟨lines.sections, lines.references, lines.citations, expiry⟩
    · refine ⟨lines.sections, lines.references, ?_, expiry⟩
      refine List.forall_mem_append.2 ⟨fun c mem => ?_, lines.citations⟩
      obtain ⟨anchor, -, rfl⟩ := List.mem_map.1 (List.mem_reverse.1 mem)
      exact inside

/-- The lines of the body are read with their numbers. -/
theorem Body.LinesIn.readLines {body : Body} (lines : body.LinesIn p) {number : Nat}
    {text : List (List Char)} (inside : HoldsOnLines p number text) :
    (body.readLines number text).LinesIn p := by
  induction text generalizing body number with
  | nil => exact lines
  | cons raw rest ih =>
    obtain ⟨here, later⟩ := holdsOnLines_cons.1 inside
    rw [Body.readLines]
    exact ih (lines.readLine here raw rest) later

/-! ## Documents -/

/-- A document that is read from lines is located. -/
theorem located_readDocument (path : String) (format : SourceFormat) (lines : List (List Char)) :
    (readDocument path format lines).Located := by
  have same : (readDocument path format lines).lines = lines.map String.ofList := rfl
  have page := FrontPage.linesIn_ofLines lines
  have nothing : (Body.start (FrontPage.ofLines lines).header.expiry).LinesIn
      fun n => 1 ≤ n ∧ n ≤ lines.length :=
    ⟨by simp [Body.start], by simp [Body.start], by simp [Body.start], page.header.expiry⟩
  have body : (Body.ofLines (FrontPage.ofLines lines).header.expiry
      (FrontPage.ofLines lines).bodyStart lines).LinesIn fun n => 1 ≤ n ∧ n ≤ lines.length := by
    refine nothing.readLines fun n from_start below => ?_
    rw [List.length_drop] at below
    omega
  refine ⟨?_, ?_, ?_, ?_, ?_⟩ <;> rw [Document.hasLine_eq same]
  · refine ⟨?_, page.header.authors, ?_, body.expiry⟩
    · intro n is_line
      obtain ⟨found, is_found, rfl⟩ := Option.map_eq_some_iff.1 is_line
      exact page.draftName found is_found
    · intro n is_line
      obtain ⟨found, is_found, rfl⟩ := Option.map_eq_some_iff.1 is_line
      exact page.header.date found is_found
  · exact fun s mem => body.sections s (List.mem_reverse.1 mem)
  · exact fun r mem => body.references r (List.mem_reverse.1 mem)
  · exact fun c mem => body.citations c (List.mem_reverse.1 mem)
  · exact page.diagnostics

end PlainText

/-- A document is taken in by the reader of its format: an XML text from its tree or its lines, any
other text from its lines. -/
theorem readText_cases {path : String} {mode : Mode} {text : List Char} {doc : Document}
    (done : readText path mode text = .ok doc) :
    detectFormat mode (dropMark text) = .xml ∧
        RfcXml.readDocument path (dropMark text) (Text.splitLines (dropMark text)) = .ok doc ∨
      detectFormat mode (dropMark text) ≠ .xml ∧
        doc = PlainText.readDocument path (detectFormat mode (dropMark text))
          (Text.splitLines (dropMark text)) := by
  unfold readText at done
  dsimp only at done
  split at done
  · cases done
  split at done
  · cases done
  split at done
  next is_xml =>
    cases read : RfcXml.readDocument path (dropMark text) (Text.splitLines (dropMark text)) with
    | error name =>
      rw [read] at done
      cases done
    | ok found =>
      rw [read] at done
      obtain rfl : found = doc := by simpa [Except.mapError] using done
      exact .inl ⟨is_xml, rfl⟩
  next is_text =>
    cases done
    exact .inr ⟨is_text, rfl⟩

/-- Every document that is taken in is located. -/
theorem located_readText {path : String} {mode : Mode} {text : List Char} {doc : Document}
    (done : readText path mode text = .ok doc) : doc.Located := by
  rcases readText_cases done with ⟨-, read⟩ | ⟨-, rfl⟩
  · exact RfcXml.located_readDocument read
  · exact PlainText.located_readDocument path _ _

end DraftNits
