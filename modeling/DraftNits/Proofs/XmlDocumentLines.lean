import DraftNits.Proofs.CrossReferences
import DraftNits.Proofs.RuleRuns
import DraftNits.Proofs.XmlTree

/-! # Lines in XML documents

The line numbers of a document that was read from XML: those of the elements of its tree, or those
under which the lines of a malformed text were searched.

* `Document.Located` — every line number that a document holds is that of one of its lines.
* `RfcXml.located_ofRoot` — a document that was read from its tree is located.
* `RfcXml.located_recover` — what is saved of a malformed text is located.
* `RfcXml.located_readDocument` — so every document that is read from an XML text is located. -/

namespace DraftNits

/-! ## Located documents -/

/-- Whether the line numbers of a front matter have a property. -/
structure FrontMatter.LinesIn (p : Nat → Prop) (front : FrontMatter) : Prop where
  /-- The line of the draft name. -/
  draftName : ∀ n ∈ front.draftNameLine, p n
  /-- The lines of the authors. -/
  authors : ∀ author ∈ front.authors, ∀ n ∈ author.line, p n
  /-- The line of the date. -/
  date : ∀ n ∈ front.dateLine, p n
  /-- The line that says when a draft expires. -/
  expires : ∀ n ∈ front.expiresLine, p n

/-- Whether every line number that a document holds is that of one of its lines. -/
structure Document.Located (doc : Document) : Prop where
  /-- The front matter. -/
  front : doc.front.LinesIn doc.HasLine
  /-- The sections. -/
  sections : ∀ s ∈ doc.sections, doc.HasLine s.line
  /-- The references. -/
  references : ∀ r ∈ doc.references, doc.HasLine r.line
  /-- The citations. -/
  citations : ∀ c ∈ doc.citations, doc.HasLine c.line
  /-- The diagnostics that have a place. -/
  diagnostics : ∀ d ∈ doc.diagnostics, ∀ n ∈ d.line, doc.HasLine n

/-- Whether the numbers of some lines that are numbered from `number` on have a property. -/
def HoldsOnLines (p : Nat → Prop) (number : Nat) (lines : List (List Char)) : Prop :=
  ∀ n, number ≤ n → n < number + lines.length → p n

/-- The numbers of some lines are that of the first one and those of the lines after it. -/
theorem holdsOnLines_cons {p : Nat → Prop} {number : Nat} {line : List Char}
    {rest : List (List Char)} :
    HoldsOnLines p number (line :: rest) ↔ p number ∧ HoldsOnLines p (number + 1) rest := by
  unfold HoldsOnLines
  rw [List.length_cons]
  constructor
  · intro all
    refine ⟨all number (Nat.le_refl number) (by omega), fun n from_next below => ?_⟩
    exact all n (by omega) (by omega)
  · rintro ⟨first, later⟩ n from_first below
    rcases Nat.eq_or_lt_of_le from_first with rfl | from_next
    · exact first
    · exact later n from_next (by omega)

/-- A document that was made from the lines of a text has as many. -/
theorem Document.hasLine_eq {doc : Document} {lines : List (List Char)}
    (same : doc.lines = lines.map String.ofList) :
    doc.HasLine = fun number => 1 ≤ number ∧ number ≤ lines.length := by
  funext number
  rw [HasLine, lineCount, same, List.length_map]

/-- Front matter that says nothing has no lines. -/
theorem FrontMatter.linesIn_empty {p : Nat → Prop} : FrontMatter.empty.LinesIn p :=
  ⟨by simp [empty], by simp [empty], by simp [empty], by simp [empty]⟩

namespace RfcXml

variable {d : Xml.Demand}

/-! ## The front element -/

/-- A child that is found by its name is an element of the tree. -/
theorem meets_of_child? {node child : Xml.Node} {name : String} (meets : node.Meets d)
    (found : node.child? name = some child) : child.Meets d ∧ d.line child.line := by
  have child_lines := meets.children child (List.mem_of_find?_eq_some found)
  have is_element := Xml.Node.isElement_of_hasName (List.find?_some found)
  exact ⟨child_lines, child_lines.line is_element⟩

/-- An author was read from an element in the front of the document. -/
theorem exists_of_mem_authors {root : Xml.Node} {author : Author}
    (mem : author ∈ (frontMatter root).authors) :
    ∃ front node, root.child? "front" = some front ∧ node ∈ front.childrenNamed "author" ∧
      RfcXml.author node = author := by
  cases found : root.child? "front" with
  | none => simp [frontMatter, found] at mem
  | some front =>
    have listed : author ∈ (front.childrenNamed "author").map RfcXml.author := by
      simpa [frontMatter, found] using mem
    obtain ⟨node, among, is_author⟩ := List.mem_map.1 listed
    exact ⟨front, node, rfl, among, is_author⟩

/-- The lines of the front matter are lines of elements. -/
theorem frontMatter_linesIn {root : Xml.Node} (meets : root.Meets d)
    (is_element : root.isElement = true) : (frontMatter root).LinesIn d.line where
  draftName := by
    intro n mem
    obtain ⟨name, -, rfl⟩ := Option.map_eq_some_iff.1 mem
    exact meets.line is_element
  authors := by
    intro author mem n is_line
    obtain ⟨front, node, found, among, rfl⟩ := exists_of_mem_authors mem
    obtain ⟨child, has_name⟩ := List.mem_filter.1 among
    obtain rfl : node.line = n := by simpa [RfcXml.author] using is_line
    exact ((meets_of_child? meets found).1.children node child).line
      (Xml.Node.isElement_of_hasName has_name)
  date := by
    intro n mem
    obtain ⟨node, found, rfl⟩ := Option.map_eq_some_iff.1 mem
    obtain ⟨front, is_front, is_date⟩ := Option.bind_eq_some_iff.1 found
    exact (meets_of_child? (meets_of_child? meets is_front).1 is_date).2
  expires := by simp [frontMatter]

/-- Diagnostics of the front matter are moved into the text. -/
theorem frontDiagnostics_line {lineCount : Nat} {root : Xml.Node} :
    ∀ d ∈ frontDiagnostics lineCount root, ∀ n ∈ d.line, 1 ≤ n ∧ n ≤ lineCount := by
  -- Each diagnostic is placed by the same function, which moves it into the text.
  have near : ∀ {d : Diagnostic} {node : Xml.Node} {message : String},
      d ∈ [diagnosticAt lineCount node message] → ∀ n ∈ d.line, 1 ≤ n ∧ n ≤ lineCount := by
    intro d node message mem n is_line
    rw [List.mem_singleton.1 mem] at is_line
    exact Diagnostic.near_line is_line
  have of_number : ∀ d ∈ numberDiagnostics lineCount root, ∀ n ∈ d.line,
      1 ≤ n ∧ n ≤ lineCount := by
    unfold numberDiagnostics
    split
    · simp
    · split
      · simp
      · exact fun d mem => near mem
  have of_date : ∀ node, ∀ d ∈ dateDiagnostics lineCount node, ∀ n ∈ d.line,
      1 ≤ n ∧ n ≤ lineCount := by
    intro node
    unfold dateDiagnostics
    split
    · simp
    · split
      · simp
      · exact fun d mem => near mem
  intro d mem
  rcases List.mem_append.1 mem with mem | mem
  · exact of_number d mem
  · split at mem
    · exact near mem
    · split at mem
      · simp at mem
      · exact of_date _ d mem

/-! ## Sections -/

mutual

/-- The sections inside a node stand on lines of elements. -/
theorem sectionsIn_line (start : String) : (node : Xml.Node) → node.Meets d →
    ∀ s ∈ sectionsIn start node, d.line s.line
  | .text _, _ => by simp [sectionsIn]
  | .element name attributes line children, meets => by
    rw [sectionsIn]
    rw [Xml.Node.Meets] at meets
    exact sectionsAmong_line start 0 children meets.2.2

/-- The sections among nodes stand on lines of elements. -/
theorem sectionsAmong_line (start : String) (count : Nat) : (nodes : List Xml.Node) →
    Xml.Node.AllMeet d nodes → ∀ s ∈ sectionsAmong start count nodes, d.line s.line
  | [], _ => by simp [sectionsAmong]
  | node :: rest, meets => by
    rw [Xml.Node.AllMeet] at meets
    rw [sectionsAmong]
    split
    next has_name =>
      -- A section stands on its own line; what is inside it comes before the nodes after it.
      have own := meets.1.line (Xml.Node.isElement_of_hasName has_name)
      split
      · simp only [List.cons_append, List.forall_mem_cons, List.forall_mem_append]
        exact ⟨own, sectionsIn_line _ node meets.1, sectionsAmong_line _ _ rest meets.2⟩
      · rw [List.forall_mem_cons]
        exact ⟨own, sectionsAmong_line _ _ rest meets.2⟩
    next => exact sectionsAmong_line _ _ rest meets.2

end

/-- The sections of a document stand on lines of elements. -/
theorem sections_line {root : Xml.Node} (meets : root.Meets d) :
    ∀ s ∈ sections root, d.line s.line := by
  rw [sections, List.forall_mem_append]
  constructor
  · cases found : root.child? "middle" with
    | none => simp
    | some middle => exact sectionsIn_line "" middle (meets_of_child? meets found).1
  · cases found : root.child? "back" with
    | none => simp
    | some back =>
      intro s mem
      obtain ⟨node, named, is_section⟩ := List.mem_filterMap.1 mem
      obtain ⟨title, -, rfl⟩ := Option.map_eq_some_iff.1 is_section
      obtain ⟨below, has_name⟩ := List.mem_filter.1 named
      have met := (Xml.Node.meets_iff back).1 (meets_of_child? meets found).1 node below
      exact (met (Xml.Node.isElement_of_hasName has_name)).1

/-! ## References and citations -/

/-- A reference of a document was read from one of its elements, with the anchor of that one and its
line. -/
theorem exists_of_mem_references {root : Xml.Node} {r : Reference} (mem : r ∈ references root) :
    ∃ n ∈ root.descendants, n.isElement = true ∧ n.attribute? "anchor" = some r.anchor ∧
      n.line = r.line := by
  have listed : key r ∈ root.descendants.filterMap referenceKey? := by
    rw [← map_key_referencesIn false]
    exact List.mem_map_of_mem mem
  obtain ⟨n, below, is_key⟩ := List.mem_filterMap.1 listed
  obtain ⟨has_name, anchored⟩ := Option.ite_none_right_eq_some.1 is_key
  obtain ⟨anchor, found, same⟩ := Option.map_eq_some_iff.1 anchored
  obtain ⟨rfl, on_line⟩ : anchor = r.anchor ∧ n.line = r.line := by simpa [key] using same
  exact ⟨n, below, Xml.Node.isElement_of_hasName has_name, found, on_line⟩

/-- A citation of a document was read from one of its elements, with the target of that one and its
line. -/
theorem exists_of_mem_citations {root : Xml.Node} {c : Citation} (mem : c ∈ citations root) :
    ∃ n ∈ root.descendants, n.isElement = true ∧ n.attribute? "target" = some c.anchor ∧
      n.line = c.line := by
  rw [citations_eq_filterMap] at mem
  obtain ⟨n, below, is_citation⟩ := List.mem_filterMap.1 mem
  obtain ⟨-, pointed⟩ := Option.ite_none_right_eq_some.1 is_citation
  obtain ⟨target, found, not_local⟩ := Option.bind_eq_some_iff.1 pointed
  obtain ⟨-, same⟩ := Option.ite_none_left_eq_some.1 not_local
  cases same
  exact ⟨n, below, isElement_of_attribute? found, found, rfl⟩

/-- The references and citations of a document stand on lines of elements. -/
theorem line_of_mem_crossReferences {root : Xml.Node} (meets : root.Meets d) :
    (∀ r ∈ references root, d.line r.line) ∧ ∀ c ∈ citations root, d.line c.line := by
  have on_line := (Xml.Node.meets_iff root).1 meets
  constructor
  · intro r mem
    obtain ⟨n, below, is_element, -, same⟩ := exists_of_mem_references mem
    exact same ▸ (on_line n below is_element).1
  · intro c mem
    obtain ⟨n, below, is_element, -, same⟩ := exists_of_mem_citations mem
    exact same ▸ (on_line n below is_element).1

/-- A document that is read from a tree on its lines is located. -/
theorem located_ofRoot {path : String} {lines : List (List Char)} {root : Xml.Node}
    (inside : root.Meets (.onLines lines.length)) (is_element : root.isElement = true) :
    (ofRoot path lines root).Located := by
  have same : (ofRoot path lines root).lines = lines.map String.ofList := rfl
  refine ⟨?_, ?_, ?_, ?_, ?_⟩ <;> rw [Document.hasLine_eq same]
  · exact frontMatter_linesIn inside is_element
  · exact sections_line inside
  · exact (line_of_mem_crossReferences inside).1
  · exact (line_of_mem_crossReferences inside).2
  · exact frontDiagnostics_line

/-! ## Malformed documents -/

variable {p : Nat → Prop}

/-- Whether the lines of what has been saved have a property. -/
structure Recovered.LinesIn (p : Nat → Prop) (saved : Recovered) : Prop where
  /-- The front matter. -/
  front : saved.front.LinesIn p
  /-- The references. -/
  references : ∀ r ∈ saved.references, p r.line
  /-- The citations. -/
  citations : ∀ c ∈ saved.citations, p c.line

/-- The tag of the root may name the draft, on its line; of the other lines and the authors it says
nothing. -/
theorem Recovered.fields_readRoot (front : FrontMatter) (number : Nat) (line : List Char) :
    (readRoot front number line).draftName =
        ((firstAttribute? "docName" line).map String.ofList).or front.draftName ∧
      (readRoot front number line).draftNameLine =
        ((firstAttribute? "docName" line).map fun _ => number).or front.draftNameLine ∧
      (readRoot front number line).authors = front.authors ∧
      (readRoot front number line).dateLine = front.dateLine ∧
      (readRoot front number line).expiresLine = front.expiresLine := by
  unfold readRoot
  cases firstAttribute? "docName" line <;> cases firstNumber? "number" line <;>
    cases firstAttribute? "version" line <;> exact ⟨rfl, rfl, rfl, rfl, rfl⟩

/-- The tag of the root is read with its line. -/
theorem readRoot_linesIn {front : FrontMatter} {number : Nat} {line : List Char}
    (lines : front.LinesIn p) (inside : p number) :
    (Recovered.readRoot front number line).LinesIn p := by
  obtain ⟨-, name_line, same_authors, same_date, same_expires⟩ :=
    Recovered.fields_readRoot front number line
  refine ⟨?_, same_authors ▸ lines.authors, same_date ▸ lines.date, same_expires ▸ lines.expires⟩
  intro n is_line
  rw [name_line, Option.mem_def, Option.or_eq_some_iff] at is_line
  rcases is_line with here | ⟨-, before⟩
  · obtain ⟨name, -, rfl⟩ := Option.map_eq_some_iff.1 here
    exact inside
  · exact lines.draftName n before

/-- What a line says is saved with its line. -/
theorem Recovered.LinesIn.readLine {saved : Recovered} (lines : saved.LinesIn p) {number : Nat}
    (inside : p number) (line : List Char) : (saved.readLine number line).LinesIn p := by
  refine ⟨?_, ?_, ?_⟩
  · have root : FrontMatter.LinesIn p
        (if hasTag "rfc" line then Recovered.readRoot saved.front number line
          else saved.front) := by
      split
      · exact readRoot_linesIn lines.front inside
      · exact lines.front
    refine ⟨root.draftName, ?_, root.date, root.expires⟩
    refine List.forall_mem_append.2 ⟨root.authors, fun author mem n is_line => ?_⟩
    obtain ⟨name, -, rfl⟩ := List.mem_map.1 mem
    cases is_line
    exact inside
  · refine List.forall_mem_append.2 ⟨lines.references, fun r mem => ?_⟩
    obtain ⟨anchor, -, rfl⟩ := List.mem_map.1 mem
    exact inside
  · refine List.forall_mem_append.2 ⟨lines.citations, fun c mem => ?_⟩
    obtain ⟨anchor, -, rfl⟩ := List.mem_map.1 mem
    exact inside

/-- What lines say is saved with their numbers. -/
theorem Recovered.LinesIn.readLines {saved : Recovered} (lines : saved.LinesIn p) {number : Nat}
    {text : List (List Char)} (inside : HoldsOnLines p number text) :
    (saved.readLines number text).LinesIn p := by
  induction text generalizing saved number with
  | nil => exact lines
  | cons line rest ih =>
    obtain ⟨here, later⟩ := holdsOnLines_cons.1 inside
    rw [Recovered.readLines]
    exact ih (lines.readLine here line) later

/-- What is saved of a malformed text is located if its diagnostic is. -/
theorem located_recover {path : String} {lines : List (List Char)} {diagnostic : Diagnostic}
    (placed : ∀ n ∈ diagnostic.line, 1 ≤ n ∧ n ≤ lines.length) :
    (recover path lines diagnostic).Located := by
  have same : (recover path lines diagnostic).lines = lines.map String.ofList := rfl
  have nothing : Recovered.empty.LinesIn fun line => 1 ≤ line ∧ line ≤ lines.length :=
    ⟨FrontMatter.linesIn_empty, by simp [Recovered.empty], by simp [Recovered.empty]⟩
  have saved : (Recovered.empty.readLines 1 lines).LinesIn
      fun line => 1 ≤ line ∧ line ≤ lines.length :=
    nothing.readLines fun n from_one below => ⟨from_one, by omega⟩
  refine ⟨?_, ?_, ?_, ?_, ?_⟩ <;> rw [Document.hasLine_eq same]
  · exact saved.front
  · simp [recover]
  · exact saved.references
  · exact saved.citations
  · simpa [recover] using placed

/-- A document that is read from an XML text and its lines is located. -/
theorem located_readDocument {path : String} {text : List Char} {doc : Document}
    (done : readDocument path text (Text.splitLines text) = .ok doc) : doc.Located := by
  have recovered : ∀ error, (recover path (Text.splitLines text)
      (syntaxDiagnostic (Text.splitLines text).length error)).Located := fun error =>
    located_recover fun n is_line => Diagnostic.near_line is_line
  unfold readDocument at done
  split at done
  · cases done
    exact recovered _
  next nodes parsed =>
    split at done
    · cases done
      exact recovered _
    next root is_root =>
      split at done
      · -- The root is among the nodes outside of all others, so its lines are those of the text.
        cases done
        have inside := Xml.parse_linesIn parsed root (List.mem_of_find?_eq_some is_root)
        exact located_ofRoot inside (List.find?_some is_root)
      · cases done

/-- A document that is read from an XML text is one in XML. -/
theorem format_readDocument {path : String} {text : List Char} {lines : List (List Char)}
    {doc : Document} (done : readDocument path text lines = .ok doc) : doc.format = .xml := by
  unfold readDocument at done
  repeat' split at done
  all_goals cases done
  all_goals rfl

end RfcXml

end DraftNits
