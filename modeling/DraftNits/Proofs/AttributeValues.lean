import DraftNits.Proofs.Excerpts
import DraftNits.Proofs.QuotedTexts
import DraftNits.Proofs.XmlDocumentLines

/-! # Line feeds in attribute values

A line feed that is written into the value of an attribute is read as a space, and so is one that
an entity brings in. That leaves a character reference to a line feed: without one in the text
(`Xml.HasBreakReference`) no attribute has a line feed in its value, and a report quotes none from
the document.

* `Xml.notMem_valueFrom` — one value, with the entities that it refers to; over all levels of
  entities in `Xml.notMem_attributeValue`.
* `Xml.supplies_oneLine` — a text without such a reference supplies values on one line.
* `RfcXml.quotesOnLines_ofRoot` — a report quotes attributes and fixed texts only. -/

namespace DraftNits

namespace Xml

/-! ## References to a line feed -/

/-- Whether a part of a text is read as a character reference to a line feed. -/
def HasBreakReference (text : List Char) : Prop :=
  ∃ cs place next, '&' :: cs <:+: text ∧
    Cursor.reference? ⟨place, '&' :: cs⟩ = some (.char '\n', next)

/-- A text without any reference has none to a line feed. -/
theorem not_hasBreakReference_of_notMem {text : List Char} (no_mark : '&' ∉ text) :
    ¬ HasBreakReference text := by
  rintro ⟨cs, -, -, part, -⟩
  exact no_mark (part.subset List.mem_cons_self)

namespace Cursor

variable {text : List Char} {cursor next : Cursor} {reference : Reference}

/-- What a cursor sees is a part of the text in which it stands. -/
theorem StandsIn.isInfix (stands : cursor.StandsIn text) : cursor.rest <:+: text := by
  obtain ⟨before, after, split, -⟩ := stands
  exact ⟨before, after, by rw [split, List.append_assoc]⟩

/-- A cursor that moves over a reference stays in the text. -/
theorem StandsIn.reference? (stands : cursor.StandsIn text)
    (found : cursor.reference? = some (reference, next)) : next.StandsIn text := by
  unfold Cursor.reference? at found
  split at found
  · cases found
  · split at found
    · cases found
      exact stands.advance _
    · cases found

/-- A cursor does not see a reference to a line feed in a text that has none. -/
theorem StandsIn.char_ne (stands : cursor.StandsIn text) (no_break : ¬ HasBreakReference text)
    {cs : List Char} (mark : cursor.rest = '&' :: cs) {c : Char}
    (found : cursor.reference? = some (.char c, next)) : c ≠ '\n' := by
  rintro rfl
  refine no_break ⟨cs, cursor.position, next, mark ▸ stands.isInfix, ?_⟩
  rw [← mark]
  exact found

end Cursor

/-! ## Values -/

/-- No character is read as a line feed where line ends become spaces. -/
theorem spaceForBreak_ne (c : Char) : spaceForBreak c ≠ '\n' := by
  unfold spaceForBreak
  split
  · decide
  next not_break => exact fun newline => not_break (.inr (.inl newline))

variable {text : List Char} {entities : List Entity}

/-- Whether a way to follow the entities of a text gives values without line feeds. -/
def FollowsOnLine (text : List Char)
    (follow : Position → Cursor → Nat → Except SyntaxError (List Char × Nat)) : Prop :=
  ∀ place value expansions found after, Cursor.StandsIn text value →
    follow place value expansions = .ok (found, after) → '\n' ∉ found

/-- A value has no line feed if what has been read of it has none and the entities have none. -/
theorem notMem_valueFrom (no_break : ¬ HasBreakReference text)
    (stand : ∀ entity ∈ entities, entity.value.StandsIn text) {inside : Bool}
    {follow : Position → Cursor → Nat → Except SyntaxError (List Char × Nat)}
    (follows : FollowsOnLine text follow) {steps expansions after : Nat} {read value : List Char}
    {cursor : Cursor} (stands : cursor.StandsIn text) (before : '\n' ∉ read)
    (done : valueFrom entities inside follow steps expansions read cursor = .ok (value, after)) :
    '\n' ∉ value := by
  induction steps generalizing expansions read cursor with
  | zero =>
    cases done
    rwa [List.mem_reverse]
  | succ steps ih =>
    have goes_on : ∀ c, c ≠ '\n' → '\n' ∉ c :: read := fun c other =>
      List.not_mem_cons_of_ne_of_not_mem other.symm before
    rw [valueFrom] at done
    split at done
    · cases done
      rwa [List.mem_reverse]
    next cs mark =>
      split at done
      · cases done
      next c next found =>
        -- Outside of entities a character stands for itself, so it must be no line feed.
        have next_stands := stands.reference? found
        split at done
        · split at done
          · cases done
          · exact ih next_stands (goes_on _ (spaceForBreak_ne c)) done
        · exact ih next_stands (goes_on c (stands.char_ne no_break mark found)) done
      next name next found =>
        split at done
        · cases done
        next entity is_entity =>
          split at done
          · cases done
          next inner _ followed =>
            have inner_on_line := follows _ entity _ inner _
              (standsIn_of_entityValue? stand is_entity) followed
            refine ih (stands.reference? found) ?_ done
            rw [List.mem_append, List.mem_reverse, not_or]
            exact ⟨inner_on_line, before⟩
    · exact ih (stands.advance 1) before done
    next c _ _ _ _ => exact ih (stands.advance 1) (goes_on _ (spaceForBreak_ne c)) done

/-- The value of an attribute has no line feed, at any depth of entities. The induction is on the
levels of entities that are left. -/
theorem notMem_attributeValue (no_break : ¬ HasBreakReference text)
    (stand : ∀ entity ∈ entities, entity.value.StandsIn text)
    {levels expansions after : Nat} {cursor : Cursor} {value : List Char}
    (stands : cursor.StandsIn text)
    (done : attributeValue entities levels expansions cursor = .ok (value, after)) :
    '\n' ∉ value := by
  induction levels generalizing expansions cursor value after with
  | zero =>
    have follows : FollowsOnLine text fun place _ _ => .error (.referenceLoop place) :=
      fun _ _ _ _ _ _ followed => nomatch followed
    exact notMem_valueFrom no_break stand follows stands List.not_mem_nil done
  | succ levels ih =>
    rw [attributeValue] at done
    refine notMem_valueFrom no_break stand ?_ stands List.not_mem_nil done
    intro place entity expansions found after entity_stands followed
    beta_reduce at followed
    split at followed
    · cases followed
    split at followed
    · cases followed
    next inner _ read =>
      cases followed
      exact ih entity_stands read

/-- The demand for values on one line. -/
def Demand.valuesOnLine : Demand := ⟨fun _ => True, IsOneLine⟩

/-- A text without a reference to a line feed supplies values on one line. -/
theorem supplies_oneLine (no_break : ¬ HasBreakReference text) :
    Supplies text .valuesOnLine where
  line _ _ _ := trivial
  value stand _ _ _ _ value stands done := by
    have on_line := notMem_attributeValue no_break stand stands done
    change '\n' ∉ (String.ofList value).toList
    rwa [String.toList_ofList]

/-- A value that is found under a name is that of one of the attributes. -/
theorem Node.value_of_attribute? {p : String → Prop} {node : Node}
    (values : ∀ a ∈ node.attributes, p a.value) {name value : String}
    (found : node.attribute? name = some value) : p value := by
  obtain ⟨a, is_first, rfl⟩ := Option.map_eq_some_iff.1 found
  exact values a (List.mem_of_find?_eq_some is_first)

/-- A value that is found under a name meets what is asked of the tree. -/
theorem Node.Meets.attribute? {d : Demand} {node : Node} (meets : node.Meets d) {name value : String}
    (found : node.attribute? name = some value) : d.value value :=
  Node.value_of_attribute? meets.attributes found

end Xml

/-! ## Documents -/

/-- Part of a text on one line is on one line. -/
theorem IsOneLine.of_subset {text part : String} (on_line : IsOneLine text)
    (subset : part.toList ⊆ text.toList) : IsOneLine part :=
  fun mem => on_line (subset mem)

/-- A message on one line stays so without the periods at its end. -/
theorem IsOneLine.withoutPeriods {message : String} (on_line : IsOneLine message) :
    IsOneLine (Finding.withoutPeriods message) := by
  refine on_line.of_subset ?_
  rw [Finding.withoutPeriods, String.toList_ofList]
  obtain ⟨periods, split, -⟩ :=
    Text.exists_dropEndWhile_append (· == '.') (Text.trimEnd message.toList)
  have is_start : Text.dropEndWhile (· == '.') (Text.trimEnd message.toList) <+:
      Text.trimEnd message.toList := ⟨periods, split.symm⟩
  exact (is_start.trans (Text.trimEnd_isPrefix message.toList)).subset

/-- A diagnostic is moved into the text with its message. -/
theorem Diagnostic.message_near (line lineCount : Nat) (message : String) :
    (Diagnostic.near line lineCount message).message = message := by
  unfold Diagnostic.near
  split <;> rfl

namespace RfcXml

variable {root : Xml.Node}

/-- The name of an author is on one line if the values of attributes are. -/
theorem isOneLine_authorName {node : Xml.Node} (meets : node.Meets .valuesOnLine) :
    IsOneLine (authorName node) := by
  unfold authorName
  cases fullname : node.attribute? "fullname" with
  | some name => exact meets.attribute? fullname
  | none =>
    cases is_surname : node.attribute? "surname" with
    | none =>
      show IsOneLine ""
      decide
    | some surname =>
      have surname_on_line : IsOneLine surname := meets.attribute? is_surname
      cases is_initials : node.attribute? "initials" with
      | none => exact surname_on_line
      | some initials =>
        have initials_on_line : IsOneLine initials := meets.attribute? is_initials
        show IsOneLine (initials ++ " " ++ surname)
        rw [isOneLine_append, isOneLine_append]
        exact ⟨⟨initials_on_line, by decide⟩, surname_on_line⟩

/-- The authors of the front matter have names on one line if the values of attributes are. -/
theorem isOneLine_of_mem_authors (meets : root.Meets .valuesOnLine) :
    ∀ author ∈ (frontMatter root).authors, IsOneLine author.name := by
  intro author mem
  obtain ⟨front, node, found, among, rfl⟩ := exists_of_mem_authors mem
  have child := (List.mem_filter.1 among).1
  exact isOneLine_authorName ((meets_of_child? meets found).1.children node child)

/-- The diagnostics of the front matter quote no more than the number of the RFC. -/
theorem isOneLine_of_mem_frontDiagnostics (meets : root.Meets .valuesOnLine) {lineCount : Nat} :
    ∀ d ∈ frontDiagnostics lineCount root, IsOneLine d.message := by
  intro d mem
  rcases List.mem_append.1 mem with of_number | of_front
  · unfold numberDiagnostics at of_number
    split at of_number
    · cases of_number
    next number found =>
      split at of_number
      · cases of_number
      · have number_on_line : IsOneLine number := meets.attribute? found
        rw [List.mem_singleton.1 of_number, diagnosticAt, Diagnostic.message_near]
        exact (isOneLine_between (by decide) (by decide)).2 number_on_line
  · split at of_front
    · rw [List.mem_singleton.1 of_front, diagnosticAt, Diagnostic.message_near]
      decide
    split at of_front
    · cases of_front
    · unfold dateDiagnostics at of_front
      split at of_front
      · cases of_front
      split at of_front
      · cases of_front
      · rw [List.mem_singleton.1 of_front, diagnosticAt, Diagnostic.message_near]
        decide

/-- References and citations are on one line if the values of attributes are. -/
theorem isOneLine_of_mem_crossReferences (meets : root.Meets .valuesOnLine) :
    (∀ r ∈ references root, IsOneLine r.anchor) ∧ ∀ c ∈ citations root, IsOneLine c.anchor := by
  have on_line : ∀ n ∈ root.descendants, n.isElement = true →
      ∀ a ∈ n.attributes, IsOneLine a.value :=
    fun n below is_element => ((Xml.Node.meets_iff root).1 meets n below is_element).2
  constructor
  · intro r mem
    obtain ⟨n, below, is_element, found, -⟩ := exists_of_mem_references mem
    exact Xml.Node.value_of_attribute? (on_line n below is_element) found
  · intro c mem
    obtain ⟨n, below, is_element, found, -⟩ := exists_of_mem_citations mem
    exact Xml.Node.value_of_attribute? (on_line n below is_element) found

/-- Of a document that is read from its tree, a report quotes attributes and fixed texts only: it
quotes them on lines if the values of attributes are. -/
theorem quotesOnLines_ofRoot (path : String) (lines : List (List Char))
    (meets : root.Meets .valuesOnLine) (mode : Mode) :
    (ofRoot path lines root).QuotesOnLines mode where
  diagnostics d mem := (isOneLine_of_mem_frontDiagnostics meets d mem).withoutPeriods
  draftName _ name found := meets.attribute? found
  authors _ author mem := isOneLine_of_mem_authors meets author (List.mem_of_mem_drop mem)
  citations c mem _ := (isOneLine_of_mem_crossReferences meets).2 c mem
  references r mem _ _ := (isOneLine_of_mem_crossReferences meets).1 r mem
  expiry not_xml := absurd rfl not_xml
  version _ version found := by
    have version_on_line : IsOneLine version := meets.attribute? found
    exact fun mem => version_on_line ((Text.trim_isInfix version.toList).subset mem)

end RfcXml

end DraftNits
