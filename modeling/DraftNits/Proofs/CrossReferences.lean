import DraftNits.Proofs.Conformance
import DraftNits.RfcXml.Document
import DraftNits.Text.Lines

/-! # Cross-references of XML documents

What the rules on references say about an XML document, said of its tree. A pointer (`xref` or
`relref`) that has a target should name something: another element, by its exact anchor, or a
reference, up to ASCII case. A reference should be cited: some pointer should name it, up to ASCII
case, with a target that is not the exact anchor of another element. The three traversals of the
tree, for references, for other anchors and for pointers, and the two ways to compare names meet in
these two conditions, `RfcXml.IsDangling` and `RfcXml.IsUncited`.

* `RfcXml.map_key_referencesIn` — the references are those of the elements in document order.
* `RfcXml.undefinedCitations_ofRoot` — one rule reports exactly the dangling pointers.
* `RfcXml.unusedReferences_ofRoot` — the other one exactly the references that are not cited.
* `RfcXml.crossReferences_judged` — so they do for every text that is XML with the root `rfc`. -/

namespace DraftNits

instance (a b : String) : Decidable (SameName a b) := inferInstanceAs (Decidable (_ = _))

namespace RfcXml

/-! ## Names in a tree -/

/-- Whether a text is the anchor of an element that is no reference. -/
def IsLocalAnchor (root : Xml.Node) (anchor : String) : Prop :=
  ∃ node ∈ root.descendants, node.isElement = true ∧ node.hasName "reference" = false ∧
    node.attribute? "anchor" = some anchor

/-- Whether a text names a reference: it is the anchor of one, up to ASCII case. -/
def NamesReference (root : Xml.Node) (name : String) : Prop :=
  ∃ node ∈ root.descendants, node.hasName "reference" = true ∧
    ∃ anchor ∈ node.attribute? "anchor", SameName anchor name

/-- Whether an element is a pointer that names nothing. -/
def IsDangling (root node : Xml.Node) : Prop :=
  (node.hasName "xref" = true ∨ node.hasName "relref" = true) ∧
    ∃ target ∈ node.attribute? "target", ¬ IsLocalAnchor root target ∧ ¬ NamesReference root target

/-- Whether some pointer names the reference of an anchor and no other element. -/
def IsCited (root : Xml.Node) (anchor : String) : Prop :=
  ∃ node ∈ root.descendants, (node.hasName "xref" = true ∨ node.hasName "relref" = true) ∧
    ∃ target ∈ node.attribute? "target", SameName target anchor ∧ ¬ IsLocalAnchor root target

/-- Whether an element is a reference that is not cited. -/
def IsUncited (root node : Xml.Node) : Prop :=
  node.hasName "reference" = true ∧ ∃ anchor ∈ node.attribute? "anchor", ¬ IsCited root anchor

/-- The nit for a pointer that names nothing: its target, on its line. -/
def danglingNit (node : Xml.Node) : Nit :=
  Nit.onLine node.line
    ("Citation [" ++ (node.attribute? "target").getD "" ++ "] has no matching reference")

/-- The nit for a reference that is not cited: its anchor, on its line. -/
def uncitedNit (node : Xml.Node) : Nit :=
  Nit.onLine node.line
    ("Reference [" ++ (node.attribute? "anchor").getD "" ++ "] is not cited in the text")

instance (root : Xml.Node) (anchor : String) : Decidable (IsLocalAnchor root anchor) :=
  inferInstanceAs (Decidable (∃ node ∈ root.descendants, _ ∧ _ ∧ _))

instance (root : Xml.Node) (name : String) : Decidable (NamesReference root name) :=
  inferInstanceAs (Decidable (∃ node ∈ root.descendants, _ ∧ ∃ anchor ∈ node.attribute? _, _))

instance (root node : Xml.Node) : Decidable (IsDangling root node) :=
  inferInstanceAs (Decidable (_ ∧ ∃ target ∈ node.attribute? _, _))

instance (root : Xml.Node) (anchor : String) : Decidable (IsCited root anchor) :=
  inferInstanceAs (Decidable (∃ node ∈ root.descendants, _ ∧ ∃ target ∈ node.attribute? _, _))

instance (root node : Xml.Node) : Decidable (IsUncited root node) :=
  inferInstanceAs (Decidable (_ ∧ ∃ anchor ∈ node.attribute? _, _))

variable {root : Xml.Node}

/-! ## References in document order -/

/-- The anchor and the line of a reference element, if it has an anchor. -/
def referenceKey? (node : Xml.Node) : Option (String × Nat) :=
  if node.hasName "reference" then
    (node.attribute? "anchor").map fun anchor => (anchor, node.line)
  else none

/-- The anchor and the line of a reference. -/
def key (reference : Reference) : String × Nat := (reference.anchor, reference.line)

/-- An element is a reference with its anchor and its line, in whatever list it stands. -/
theorem map_key_reference? (normative : Bool) (node : Xml.Node) :
    (reference? normative node).map key = referenceKey? node := by
  unfold reference? referenceKey?
  split
  · rw [Option.map_map]
    rfl
  · rfl

mutual

/-- The references of a node are the reference elements in document order. -/
theorem map_key_referencesIn (normative : Bool) : (node : Xml.Node) →
    (referencesIn normative node).map key = node.descendants.filterMap referenceKey?
  | .text content => by simp [referencesIn, referenceKey?, Xml.Node.hasName]
  | .element name attributes line children => by
    rw [referencesIn, Xml.Node.descendants, List.map_append, map_key_referencesAmong,
      List.filterMap_cons, ← map_key_reference? normative]
    cases reference? normative (.element name attributes line children) <;> rfl

/-- The references of some nodes are the reference elements in document order. -/
theorem map_key_referencesAmong (normative : Bool) : (nodes : List Xml.Node) →
    (referencesAmong normative nodes).map key =
      (Xml.Node.descendantsOfAll nodes).filterMap referenceKey?
  | [] => by simp [referencesAmong, Xml.Node.descendantsOfAll]
  | node :: rest => by
    rw [referencesAmong, Xml.Node.descendantsOfAll, List.map_append, List.filterMap_append,
      map_key_referencesIn normative node, map_key_referencesAmong normative rest]

end

/-! ## Names -/

/-- An element without a name of its own has no attributes. -/
theorem isElement_of_attribute? {node : Xml.Node} {name value : String}
    (found : node.attribute? name = some value) : node.isElement = true := by
  cases node with
  | text _ => cases found
  | element _ _ _ _ => rfl

/-- The anchors that are looked up are those of elements that are no references. -/
theorem contains_localAnchors_iff {anchor : String} :
    (localAnchors root).contains anchor = true ↔ IsLocalAnchor root anchor := by
  rw [List.contains_iff_mem, localAnchors, List.mem_filterMap]
  constructor
  · rintro ⟨node, other, found⟩
    obtain ⟨below, no_reference⟩ := List.mem_filter.1 other
    exact ⟨node, below, isElement_of_attribute? found, by simpa using no_reference, found⟩
  · rintro ⟨node, below, -, no_reference, found⟩
    exact ⟨node, List.mem_filter.2 ⟨below, by simp [no_reference]⟩, found⟩

/-- The name of a reference is that of a reference element. -/
theorem hasReference_ofRoot_iff (path : String) (lines : List (List Char)) {name : String} :
    (ofRoot path lines root).hasReference name = true ↔ NamesReference root name := by
  have by_key : (ofRoot path lines root).hasReference name = true ↔
      ∃ entry ∈ (references root).map key, SameName entry.1 name := by
    simp only [Document.hasReference, List.any_eq_true, sameName_iff]
    constructor
    · rintro ⟨r, mem, same⟩
      exact ⟨key r, List.mem_map_of_mem mem, same⟩
    · rintro ⟨entry, mem, same⟩
      obtain ⟨r, listed, rfl⟩ := List.mem_map.1 mem
      exact ⟨r, listed, same⟩
  rw [by_key, references, map_key_referencesIn]
  constructor
  · rintro ⟨entry, mem, same⟩
    obtain ⟨node, below, is_entry⟩ := List.mem_filterMap.1 mem
    obtain ⟨is_reference, has_anchor⟩ := Option.ite_none_right_eq_some.1 is_entry
    obtain ⟨anchor, found, rfl⟩ := Option.map_eq_some_iff.1 has_anchor
    exact ⟨node, below, is_reference, anchor, found, same⟩
  · rintro ⟨node, below, is_reference, anchor, found, same⟩
    refine ⟨(anchor, node.line), List.mem_filterMap.2 ⟨node, below, ?_⟩, same⟩
    rw [referenceKey?, if_pos is_reference, Option.mem_def.1 found]
    rfl

/-- The citation that a node is, if it is one. -/
def citation? (root node : Xml.Node) : Option Citation :=
  if node.hasName "xref" = true ∨ node.hasName "relref" = true then
    (node.attribute? "target").bind fun target =>
      if IsLocalAnchor root target then none else some ⟨target, node.line⟩
  else none

/-- The citations are those of the nodes in document order. -/
theorem citations_eq_filterMap : citations root = root.descendants.filterMap (citation? root) := by
  rw [citations, List.filterMap_filter]
  refine List.filterMap_congr fun node _ => ?_
  rw [citation?, isPointer]
  refine if_congr Bool.or_eq_true_iff ?_ rfl
  cases node.attribute? "target" with
  | none => rfl
  | some target => exact if_congr contains_localAnchors_iff rfl rfl

/-- A name is cited if some pointer cites it. -/
theorem cites_ofRoot_iff (path : String) (lines : List (List Char)) {anchor : String} :
    (ofRoot path lines root).cites anchor = true ↔ IsCited root anchor := by
  have by_citation : (ofRoot path lines root).cites anchor = true ↔
      ∃ c ∈ citations root, SameName c.anchor anchor := Document.cites_iff
  rw [by_citation, citations_eq_filterMap]
  constructor
  · rintro ⟨c, mem, same⟩
    obtain ⟨node, below, is_citation⟩ := List.mem_filterMap.1 mem
    obtain ⟨is_pointer, has_target⟩ := Option.ite_none_right_eq_some.1 is_citation
    obtain ⟨target, found, cited⟩ := Option.bind_eq_some_iff.1 has_target
    obtain ⟨other, is_c⟩ := Option.ite_none_left_eq_some.1 cited
    obtain rfl := Option.some.inj is_c
    exact ⟨node, below, is_pointer, target, found, same, other⟩
  · rintro ⟨node, below, is_pointer, target, found, same, other⟩
    refine ⟨⟨target, node.line⟩, List.mem_filterMap.2 ⟨node, below, ?_⟩, same⟩
    rw [citation?, if_pos is_pointer, Option.mem_def.1 found, Option.bind_some, if_neg other]

/-! ## The rules -/

variable {path : String} {lines : List (List Char)} {options : Options}

/-- Picking something from each item, or nothing, is to pick the items and then to write them. -/
theorem filterMap_eq_map_filter {α β : Type} {l : List α} {pick : α → Option β} {p : α → Prop}
    [DecidablePred p] {write : α → β}
    (same : ∀ x ∈ l, pick x = if p x then some (write x) else none) :
    l.filterMap pick = (l.filter p).map write := by
  rw [List.filterMap_congr same, ← List.filterMap_eq_map, List.filterMap_filter]
  simp only [decide_eq_true_eq, Function.comp_apply]

/-- The rule on citations reports the pointers that name nothing, in document order, each on its
line. -/
theorem undefinedCitations_ofRoot :
    ∃ findings, Rules.undefinedCitations (ofRoot path lines root) options = .ok findings ∧
      findings.flatMap Finding.nits =
        (root.descendants.filter fun node => IsDangling root node).map danglingNit := by
  refine ⟨_, rfl, ?_⟩
  have listed : (ofRoot path lines root).citations = root.descendants.filterMap (citation? root) :=
    citations_eq_filterMap
  rw [Finding.flatMap_nits_ofNits, listed, List.filter_filterMap, List.map_filterMap]
  refine filterMap_eq_map_filter fun node _ => ?_
  by_cases is_pointer : node.hasName "xref" = true ∨ node.hasName "relref" = true
  · rw [citation?, if_pos is_pointer]
    cases found : node.attribute? "target" with
    | none =>
      have fine : ¬ IsDangling root node := by simp [IsDangling, found]
      rw [if_neg fine]
      rfl
    | some target =>
      have dangling : IsDangling root node ↔
          ¬ IsLocalAnchor root target ∧ ¬ NamesReference root target := by
        simp [IsDangling, is_pointer, found]
      rw [← hasReference_ofRoot_iff path lines] at dangling
      by_cases other : IsLocalAnchor root target
      · rw [if_neg fun is_dangling => (dangling.1 is_dangling).1 other, Option.bind_some,
          if_pos other]
        rfl
      · by_cases named : (ofRoot path lines root).hasReference target = true
        · rw [if_neg fun is_dangling => (dangling.1 is_dangling).2 named, Option.bind_some,
            if_neg other]
          simp [named]
        · rw [if_pos (dangling.2 ⟨other, named⟩), Option.bind_some, if_neg other]
          simp [named, danglingNit, found]
  · have fine : ¬ IsDangling root node := fun is_dangling => is_pointer is_dangling.1
    rw [citation?, if_neg is_pointer, if_neg fine]
    rfl

/-- The rule on references reports, unless the mode is lenient, the references that are not cited,
in document order, each on its line. -/
theorem unusedReferences_ofRoot (not_lenient : options.mode ≠ .lenient) :
    ∃ findings, Rules.unusedReferences (ofRoot path lines root) options = .ok findings ∧
      findings.flatMap Finding.nits =
        (root.descendants.filter fun node => IsUncited root node).map uncitedNit := by
  refine ⟨_, rfl, ?_⟩
  have strict : options.mode.isLenient = false := by
    rw [← Bool.not_eq_true, Mode.isLenient_iff]
    exact not_lenient
  -- Only the anchor and the line of a reference count, so the elements can stand for them.
  have by_key : ∀ refs : List Reference,
      (refs.filter fun r => (r.normative || !options.mode.isLenient) &&
          !(ofRoot path lines root).cites r.anchor).map (fun r =>
        Nit.onLine r.line ("Reference [" ++ r.anchor ++ "] is not cited in the text")) =
      ((refs.map key).filter fun entry => !(ofRoot path lines root).cites entry.1).map fun entry =>
        Nit.onLine entry.2 ("Reference [" ++ entry.1 ++ "] is not cited in the text") := by
    intro refs
    simp only [strict, Bool.not_false, Bool.or_true, Bool.true_and, List.filter_map, List.map_map]
    rfl
  have listed : ((ofRoot path lines root).references.map key) =
      root.descendants.filterMap referenceKey? := map_key_referencesIn false root
  rw [Finding.flatMap_nits_ofNits, by_key, listed, List.filter_filterMap, List.map_filterMap]
  refine filterMap_eq_map_filter fun node _ => ?_
  by_cases is_reference : node.hasName "reference" = true
  · rw [referenceKey?, if_pos is_reference]
    cases found : node.attribute? "anchor" with
    | none =>
      have fine : ¬ IsUncited root node := by simp [IsUncited, found]
      rw [if_neg fine]
      rfl
    | some anchor =>
      have uncited : IsUncited root node ↔ ¬ IsCited root anchor := by
        simp [IsUncited, is_reference, found]
      rw [← cites_ofRoot_iff path lines] at uncited
      by_cases cited : (ofRoot path lines root).cites anchor = true
      · rw [if_neg fun is_uncited => uncited.1 is_uncited cited]
        simp [cited]
      · rw [if_pos (uncited.2 cited)]
        simp [cited, uncitedNit, found]
  · have fine : ¬ IsUncited root node := fun is_uncited => is_reference is_uncited.1
    rw [referenceKey?, if_neg is_reference, if_neg fine]
    rfl

/-! ## Documents -/

/-- The rules on references judge a text that is XML with the root `rfc` by its tree. The rule on
citations reports the pointers whose target is neither the anchor of another element nor, up to
ASCII case, that of a reference. The rule on references reports, unless the mode is lenient, the
references that no pointer names, up to ASCII case, by a target that is not the anchor of another
element. Both report one nit for each element, in document order and on its line. -/
theorem crossReferences_judged {text : List Char} {nodes : List Xml.Node}
    (parsed : Xml.parse text = .ok nodes) (is_root : Xml.root? nodes = some root)
    (is_rfc : root.hasName "rfc" = true) (path : String) (lines : List (List Char))
    (options : Options) :
    ∃ doc, readDocument path text lines = .ok doc ∧
      (∃ findings, Rules.undefinedCitations doc options = .ok findings ∧
        findings.flatMap Finding.nits =
          (root.descendants.filter fun node => IsDangling root node).map danglingNit) ∧
      (options.mode ≠ .lenient →
        ∃ findings, Rules.unusedReferences doc options = .ok findings ∧
          findings.flatMap Finding.nits =
            (root.descendants.filter fun node => IsUncited root node).map uncitedNit) := by
  refine ⟨ofRoot path lines root, ?_, undefinedCitations_ofRoot, unusedReferences_ofRoot⟩
  simp only [readDocument, parsed, is_root, is_rfc, if_true]

/-- A text with anchors in capital letters and pointers in small ones. -/
def mixedCaseText : List Char :=
  ("<rfc><t anchor='S'/>\n<xref target='S'/><xref target='s'/><relref target='a'/>\n" ++
    "<reference anchor='A'/><reference anchor='B'/></rfc>").toList

/-- Of three pointers one names an element, one misses its anchor by the case of a letter, and one
names a reference in another case; the other reference is not cited. -/
theorem crossReferences_judged_mixedCase :
    ∃ doc, readDocument "a.xml" mixedCaseText (Text.splitLines mixedCaseText) = .ok doc ∧
      (∃ findings, Rules.undefinedCitations doc (.ofMode .normal) = .ok findings ∧
        findings.flatMap Finding.nits =
          [Nit.onLine 2 "Citation [s] has no matching reference"]) ∧
      ∃ findings, Rules.unusedReferences doc (.ofMode .normal) = .ok findings ∧
        findings.flatMap Finding.nits =
          [Nit.onLine 3 "Reference [B] is not cited in the text"] := by
  have tree : ((Xml.parse mixedCaseText).toOption.bind Xml.root?).map (fun root =>
        (root.hasName "rfc",
          (root.descendants.filter fun node => IsDangling root node).map danglingNit,
          (root.descendants.filter fun node => IsUncited root node).map uncitedNit)) =
      some (true, [Nit.onLine 2 "Citation [s] has no matching reference"],
        [Nit.onLine 3 "Reference [B] is not cited in the text"]) := by decide +kernel
  obtain ⟨root, found, facts⟩ := Option.map_eq_some_iff.1 tree
  obtain ⟨is_rfc, dangling, uncited⟩ : _ ∧ _ ∧ _ := by simpa only [Prod.mk.injEq] using facts
  cases parsed : Xml.parse mixedCaseText with
  | error error =>
    rw [parsed] at found
    cases found
  | ok nodes =>
    rw [parsed] at found
    have judged := crossReferences_judged parsed found is_rfc "a.xml"
      (Text.splitLines mixedCaseText) (.ofMode .normal)
    rw [dangling, uncited] at judged
    obtain ⟨doc, read, undefined, unused⟩ := judged
    exact ⟨doc, read, undefined, unused nofun⟩

end RfcXml

end DraftNits
