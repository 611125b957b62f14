import DraftNits.Proofs.Recognition
import DraftNits.Proofs.SectionNumbers

/-! # Sections inside sections without a number

The walk over the sections of the `middle` element goes into a section only if that has a number.
What it lists are therefore the sections that can be reached through sections, each of them once,
except those with a section around them that does not count. These are hidden, at any depth and
whether they count themselves or not.

* `RfcXml.IsSectionAt` — the sections that are reached through sections.
* `RfcXml.IsHidden` — the places with a section around them that does not count.
* `RfcXml.ListsReached`, `RfcXml.listsReached_placedIn` — what is listed among what is reached.
* `RfcXml.listed_all_iff` — everything is listed exactly if nothing stands inside a section that
  does not count.
* `RfcXml.sections_complete_iff` — the documents of all texts with the root `rfc`. -/

namespace DraftNits.RfcXml

/-! ## Sections that are reached -/

/-- Whether a node stands at a place below another one and is a section that is reached through
sections. -/
inductive IsSectionAt : Xml.Node → List Nat → Xml.Node → Prop
  /-- A child that is a section. -/
  | child {node child : Xml.Node} {i : Nat} (found : node.children[i]? = some child)
      (is_section : child.hasName "section" = true) : IsSectionAt node [i] child
  /-- A section that is reached from a child that is one. -/
  | deeper {node child inner : Xml.Node} {i : Nat} {place : List Nat}
      (found : node.children[i]? = some child) (is_section : child.hasName "section" = true)
      (inside : IsSectionAt child place inner) : IsSectionAt node (i :: place) inner

/-- Whether some section around a place does not count. -/
def IsHidden (top : Xml.Node) (place : List Nat) : Prop :=
  ∃ around behind outer, place = around ++ behind ∧ behind ≠ [] ∧ IsSectionAt top around outer ∧
    isNumbered outer = false

variable {start : String} {i : Nat} {place around behind : List Nat} {s : Section}
  {top node child inner outer : Xml.Node}

/-- The top itself is not reached. -/
theorem IsSectionAt.ne_nil (reached : IsSectionAt top place node) : place ≠ [] := by
  cases reached with
  | child => exact List.cons_ne_nil _ _
  | deeper => exact List.cons_ne_nil _ _

/-- What is reached is a section. -/
theorem IsSectionAt.hasName (reached : IsSectionAt top place node) :
    node.hasName "section" = true := by
  induction reached with
  | child _ is_section => exact is_section
  | deeper _ _ _ ih => exact ih

/-- Where a section is reached, some child is one. -/
theorem IsSectionAt.exists_child (reached : IsSectionAt top place node) :
    ∃ child ∈ top.children, child.hasName "section" = true := by
  cases reached with
  | child found is_section => exact ⟨_, List.mem_of_getElem? found, is_section⟩
  | deeper found is_section _ => exact ⟨_, List.mem_of_getElem? found, is_section⟩

/-- A place inside a child that is a section is reached from the child. -/
theorem isSectionAt_cons_iff (found : top.children[i]? = some child) (inside : place ≠ []) :
    IsSectionAt top (i :: place) node ↔
      child.hasName "section" = true ∧ IsSectionAt child place node := by
  constructor
  · intro reached
    cases reached with
    | child => exact absurd rfl inside
    | deeper found' is_section reached =>
      obtain rfl := Option.some.inj (found.symm.trans found')
      exact ⟨is_section, reached⟩
  · rintro ⟨is_section, reached⟩
    exact .deeper found is_section reached

/-- A section that is a child of one that is reached is reached. -/
theorem IsSectionAt.snoc (reached : IsSectionAt top place node)
    (found : node.children[i]? = some child) (is_section : child.hasName "section" = true) :
    IsSectionAt top (place ++ [i]) child := by
  induction reached with
  | child found_outer outer_section =>
    exact .deeper found_outer outer_section (.child found is_section)
  | deeper found_outer outer_section _ ih => exact .deeper found_outer outer_section (ih found)

/-- What is reached behind a section that is reached is reached from there. -/
theorem IsSectionAt.drop (reached : IsSectionAt top around outer)
    (further : IsSectionAt top (around ++ behind) node) (inside : behind ≠ []) :
    IsSectionAt outer behind node := by
  induction reached with
  | child found _ => exact ((isSectionAt_cons_iff found inside).1 further).2
  | deeper found _ _ ih =>
    refine ih ((isSectionAt_cons_iff found ?_).1 further).2
    exact List.append_ne_nil_of_right_ne_nil _ inside

/-- A child of a section that is reached is hidden if that section does not count, or if it is
hidden itself. -/
theorem isHidden_cons_iff (found : top.children[i]? = some child)
    (is_section : child.hasName "section" = true) (inside : place ≠ []) :
    IsHidden top (i :: place) ↔ isNumbered child = false ∨ IsHidden child place := by
  constructor
  · rintro ⟨around, behind, outer, same, some_behind, reached, unnumbered⟩
    cases reached with
    | child found' _ =>
      obtain ⟨rfl, -⟩ := List.cons.inj same
      obtain rfl := Option.some.inj (found.symm.trans found')
      exact .inl unnumbered
    | deeper found' _ reached =>
      obtain ⟨rfl, rfl⟩ := List.cons.inj same
      obtain rfl := Option.some.inj (found.symm.trans found')
      exact .inr ⟨_, behind, outer, rfl, some_behind, reached, unnumbered⟩
  · rintro (unnumbered | ⟨around, behind, outer, rfl, some_behind, reached, unnumbered⟩)
    · exact ⟨[i], place, child, rfl, inside, .child found is_section, unnumbered⟩
    · exact ⟨i :: around, behind, outer, rfl, some_behind, .deeper found is_section reached,
        unnumbered⟩

/-- Nothing stands around a child of the top. -/
theorem not_isHidden_singleton : ¬ IsHidden top [i] := by
  rintro ⟨around, behind, outer, same, some_behind, reached, -⟩
  rcases List.singleton_eq_append_iff.1 same with ⟨rfl, -⟩ | ⟨-, rfl⟩
  · exact reached.ne_nil rfl
  · exact some_behind rfl

/-! ## What is listed -/

/-- Whether the entries, sections with their places, list the sections that are reached from the
top and not hidden, each of them once. -/
structure ListsReached (top : Xml.Node) (entries : List (List Nat × Section)) : Prop where
  /-- No place is listed twice. -/
  once : (entries.map Prod.fst).Nodup
  /-- What is listed is the section at a place that is reached. -/
  reached : ∀ place s, (place, s) ∈ entries →
    ∃ node number, IsSectionAt top place node ∧ s = toSection number node
  /-- Of what is reached exactly what is hidden is not listed. -/
  listed_iff : ∀ place node, IsSectionAt top place node →
    (place ∈ entries.map Prod.fst ↔ ¬ IsHidden top place)

/-- What is listed is reached. -/
theorem isSectionAt_of_mem_placedIn (mem : (place, s) ∈ placedIn start top) :
    ∃ node number, IsSectionAt top place node ∧ s = toSection number node := by
  induction place generalizing start top with
  | nil => exact absurd rfl (ne_nil_of_mem_placedIn mem)
  | cons i place ih =>
    obtain ⟨child, found, is_section⟩ := exists_of_cons_mem_placedIn mem
    rcases ((cons_mem_placedIn found).1 mem).2 with ⟨rfl, own⟩ | ⟨-, inside⟩
    · exact ⟨child, _, .child found is_section, own⟩
    · obtain ⟨node, number, reached, own⟩ := ih inside
      exact ⟨node, number, .deeper found is_section reached, own⟩

/-- What is reached is listed exactly if it is not hidden. -/
theorem exists_mem_placedIn_iff (start : String) (reached : IsSectionAt top place node) :
    (∃ s, (place, s) ∈ placedIn start top) ↔ ¬ IsHidden top place := by
  induction reached generalizing start with
  | child found is_section =>
    refine iff_of_true ⟨_, (cons_mem_placedIn found).2 ⟨is_section, .inl ⟨rfl, rfl⟩⟩⟩ ?_
    exact not_isHidden_singleton
  | deeper found is_section reached ih =>
    simp only [cons_mem_placedIn found, is_section, reached.ne_nil, true_and, false_and, false_or,
      exists_and_left, ih, isHidden_cons_iff found is_section reached.ne_nil, not_or,
      Bool.not_eq_false]

/-- The walk lists what is reached and not hidden, each section once. -/
theorem listsReached_placedIn (start : String) (top : Xml.Node) :
    ListsReached top (placedIn start top) where
  once := by
    refine (List.pairwise_map.2 (pairwise_placedIn start top)).imp ?_
    rintro place _ less rfl
    exact List.lt_irrefl place less
  reached _ _ mem := isSectionAt_of_mem_placedIn mem
  listed_iff place node reached := by
    rw [← exists_mem_placedIn_iff start reached]
    simp

/-- Everything that is reached is listed exactly if no section that does not count has a section
inside it. -/
theorem listed_all_iff {entries : List (List Nat × Section)} (lists : ListsReached top entries) :
    (∀ place node, IsSectionAt top place node → place ∈ entries.map Prod.fst) ↔
      ∀ place node, IsSectionAt top place node → isNumbered node = false →
        ∀ child ∈ node.children, child.hasName "section" = false := by
  constructor
  · intro all_listed place node reached unnumbered child mem
    by_contra is_section
    rw [Bool.not_eq_false] at is_section
    obtain ⟨i, found⟩ := List.getElem?_of_mem mem
    have inside := reached.snoc found is_section
    refine (lists.listed_iff _ child inside).1 (all_listed _ child inside) ?_
    exact ⟨place, [i], node, rfl, List.cons_ne_nil _ _, reached, unnumbered⟩
  · intro bare place node reached
    rw [lists.listed_iff place node reached]
    rintro ⟨around, behind, outer, rfl, inside, around_reached, unnumbered⟩
    obtain ⟨child, mem, is_section⟩ := (around_reached.drop reached inside).exists_child
    have no_section := bare around outer around_reached unnumbered child mem
    rw [is_section] at no_section
    cases no_section

/-! ## Documents -/

/-- In a document with the root `rfc` the sections of the first `middle` element are listed once
each, as far as they are reached through sections and have no section around them that does not
count; the sections of the `back` element follow. So every section that is reached is listed exactly
if no section that does not count has a section inside it. -/
theorem sections_complete_iff (path : String) {text : List Char} {root middle : Xml.Node}
    (is_root : Xml.IsRootOf text root) (is_rfc : root.hasName "rfc" = true)
    (has_middle : root.child? "middle" = some middle) :
    ∃ doc entries, readDocument path text (Text.splitLines text) = .ok doc ∧
      doc.sections = entries.map Prod.snd ++ ((root.child? "back").map backSections).getD [] ∧
      ListsReached middle entries ∧
      ((∀ place node, IsSectionAt middle place node → place ∈ entries.map Prod.fst) ↔
        ∀ place node, IsSectionAt middle place node → isNumbered node = false →
          ∀ child ∈ node.children, child.hasName "section" = false) := by
  have lists := listsReached_placedIn "" middle
  refine ⟨ofRoot path (Text.splitLines text) root, placedIn "" middle, ?_, ?_, lists, ?_⟩
  · exact readDocument_of_isRootOf path is_root is_rfc _
  · rw [map_snd_placedIn]
    show sections root = _
    rw [sections, has_middle]
    rfl
  · exact listed_all_iff lists

/-- A section without a number and a section inside it. -/
def nestedText : List Char :=
  ("<rfc><middle><section numbered='false' title='A'>\n" ++
    "<section title='B'/></section></middle></rfc>\n").toList

/-- Both sections are reached, and the outer one does not count. -/
theorem exists_root_nestedText : ∃ root middle outer inner, Xml.IsRootOf nestedText root ∧
    root.hasName "rfc" = true ∧ root.child? "middle" = some middle ∧
    (IsSectionAt middle [0] outer ∧ isNumbered outer = false) ∧
    (IsSectionAt middle [0, 1] inner ∧ inner ∈ outer.children ∧ title? inner = some "B") ∧
    sections root = [⟨none, "A", 1⟩] := by
  have read : ((Xml.parse nestedText).toOption.bind Xml.root?).bind (fun root =>
      (root.child? "middle").bind fun middle => (middle.children[0]?).bind fun outer =>
        (outer.children[1]?).map fun inner => ((root.hasName "rfc", sections root),
          (outer.hasName "section", isNumbered outer), inner.hasName "section", title? inner)) =
      some ((true, [⟨none, "A", 1⟩]), (true, false), true, some "B") := by decide +kernel
  obtain ⟨root, is_root, read⟩ := Option.bind_eq_some_iff.1 read
  obtain ⟨middle, has_middle, read⟩ := Option.bind_eq_some_iff.1 read
  obtain ⟨outer, found, read⟩ := Option.bind_eq_some_iff.1 read
  obtain ⟨inner, found_inner, read⟩ := Option.map_eq_some_iff.1 read
  simp only [Prod.mk.injEq] at read
  obtain ⟨⟨is_rfc, is_listed⟩, ⟨outer_section, unnumbered⟩, inner_section, is_title⟩ := read
  have reached : IsSectionAt middle [0] outer := .child found outer_section
  refine ⟨root, middle, outer, inner, Xml.isRootOf_of_bind is_root, is_rfc, has_middle,
    ⟨reached, unnumbered⟩, ⟨?_, List.mem_of_getElem? found_inner, is_title⟩, is_listed⟩
  exact reached.snoc found_inner inner_section

/-- The inner one is not in the document, whatever number it might have. -/
theorem not_sections_complete : ¬ ∀ (path : String) (text : List Char) (root middle : Xml.Node)
    (doc : Document), Xml.IsRootOf text root → root.hasName "rfc" = true →
      root.child? "middle" = some middle →
      readDocument path text (Text.splitLines text) = .ok doc →
      ∀ place node, IsSectionAt middle place node →
        ∃ number, toSection number node ∈ doc.sections := by
  intro complete
  obtain ⟨root, middle, outer, inner, is_root, is_rfc, has_middle, -, ⟨reached, -, is_title⟩,
    is_listed⟩ := exists_root_nestedText
  obtain ⟨number, mem⟩ := complete "draft.xml" nestedText root middle _ is_root is_rfc has_middle
    (readDocument_of_isRootOf "draft.xml" is_root is_rfc _) [0, 1] inner reached
  have mem : toSection number inner ∈ sections root := mem
  rw [is_listed, List.mem_singleton, toSection, is_title] at mem
  have same_title : "B" = "A" := congrArg Section.title mem
  exact absurd same_title (by decide)

/-- Of that document only the outer section is listed, which is not all that is reached. -/
theorem sections_complete_iff_nested : ∃ root middle doc entries,
    Xml.IsRootOf nestedText root ∧ root.hasName "rfc" = true ∧
      root.child? "middle" = some middle ∧
      readDocument "draft.xml" nestedText (Text.splitLines nestedText) = .ok doc ∧
      doc.sections = [⟨none, "A", 1⟩] ∧ ListsReached middle entries ∧
      ¬ ∀ place node, IsSectionAt middle place node → place ∈ entries.map Prod.fst := by
  obtain ⟨root, middle, outer, inner, is_root, is_rfc, has_middle, ⟨reached, unnumbered⟩,
    ⟨inner_reached, is_inner, -⟩, is_listed⟩ := exists_root_nestedText
  obtain ⟨doc, entries, read, -, lists, complete_iff⟩ :=
    sections_complete_iff "draft.xml" is_root is_rfc has_middle
  refine ⟨root, middle, doc, entries, is_root, is_rfc, has_middle, read, ?_, lists, ?_⟩
  · rw [readDocument_of_isRootOf "draft.xml" is_root is_rfc] at read
    rw [← Except.ok.inj read]
    exact is_listed
  · intro all_listed
    have no_section := complete_iff.1 all_listed [0] outer reached unnumbered inner is_inner
    rw [inner_reached.hasName] at no_section
    cases no_section

end DraftNits.RfcXml
