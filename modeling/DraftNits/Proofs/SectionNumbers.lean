import DraftNits.Proofs.ReportLines
import DraftNits.RfcXml.Sections

/-! # Numbers of the sections of a tree

The sections of the `middle` element are listed with their numbers by a walk that hands down what
the numbers start with. Here the sections are listed together with their places in the tree. What a
section is called then depends on its place alone: on the number of the section around it and on the
sections beside it that count. No number is given twice, since its parts between the dots lead back
to the place.

* `Xml.Node.at?` — the node at a place in a tree.
* `RfcXml.placedIn`, `RfcXml.map_snd_placedIn` — the sections with their places.
* `RfcXml.mem_placedIn` — one step of the walk: a section below a node is a child or below a child.
* `RfcXml.NumbersSections` — how sections are listed and numbered, from the top of a tree down.
* `RfcXml.IsHeadedBy`, `RfcXml.nodup_numbers_sectionsIn` — the first part of a number, and that no
  number occurs twice.
* `RfcXml.numbersSections_sections` — the sections of every document. -/

namespace DraftNits

/-! ## Places -/

/-- The node at a place in a tree. A place says, level by level, which child to go to. -/
def Xml.Node.at? : Xml.Node → List Nat → Option Xml.Node
  | node, [] => some node
  | node, i :: place => node.children[i]?.bind fun child => child.at? place

namespace RfcXml

/-- How many of some nodes are sections that count. -/
def countNumbered (nodes : List Xml.Node) : Nat :=
  nodes.countP fun node => node.hasName "section" && isNumbered node

/-- How many of the children of a node, up to the one at `index`, are sections that count. -/
def ordinalAt (node : Xml.Node) (index : Nat) : Nat :=
  countNumbered (node.children.take (index + 1))

/-- The number of a section that is the `ordinal`-th to count, if it counts. -/
def sectionNumber? (start : String) (ordinal : Nat) (node : Xml.Node) : Option String :=
  if isNumbered node then some (start ++ toString ordinal) else none

mutual

/-- The sections inside a node with their places. -/
def placedIn (start : String) : Xml.Node → List (List Nat × Section)
  | .text _ => []
  | .element _ _ _ children => placedAmong start 0 0 children

/-- The sections among nodes of one parent with their places. In front of the nodes stand `index`
others, of which `count` are sections that count. -/
def placedAmong (start : String) (index count : Nat) : List Xml.Node → List (List Nat × Section)
  | [] => []
  | node :: rest =>
    let ordinal := count + countNumbered [node]
    (if node.hasName "section" then
      ([index], toSection (sectionNumber? start ordinal node) node) ::
        if isNumbered node then
          (placedIn (start ++ toString ordinal ++ ".") node).map (Prod.map (List.cons index) id)
        else []
    else []) ++ placedAmong start (index + 1) ordinal rest

end

/-- Of some nodes the first one counts or not, and the others count as they do. -/
theorem countNumbered_cons (node : Xml.Node) (nodes : List Xml.Node) :
    countNumbered (node :: nodes) = countNumbered [node] + countNumbered nodes := by
  rw [countNumbered, countNumbered, countNumbered, ← List.countP_append, List.singleton_append]

mutual

/-- Without the places these are the sections that are listed. -/
theorem map_snd_placedIn (start : String) : (node : Xml.Node) →
    (placedIn start node).map Prod.snd = sectionsIn start node
  | .text _ => rfl
  | .element _ _ _ children => by
    rw [placedIn, sectionsIn, map_snd_placedAmong start 0 0 children]

/-- So they are among the nodes of one parent. -/
theorem map_snd_placedAmong (start : String) (index count : Nat) : (nodes : List Xml.Node) →
    (placedAmong start index count nodes).map Prod.snd = sectionsAmong start count nodes
  | [] => rfl
  | node :: rest => by
    have inside := fun ordinal : Nat => map_snd_placedIn (start ++ toString ordinal ++ ".") node
    have others := fun ordinal => map_snd_placedAmong start (index + 1) ordinal rest
    rw [placedAmong, sectionsAmong, List.map_append, others]
    by_cases is_section : node.hasName "section" = true
    · by_cases numbered : isNumbered node = true
      · simp only [is_section, numbered, countNumbered, sectionNumber?, List.countP_singleton,
          Bool.and_self, if_true, List.map_cons, List.map_map, List.cons_append]
        exact congrArg (toSection _ node :: · ++ _) (inside (count + 1))
      · simp [is_section, numbered, countNumbered, sectionNumber?]
    · simp [is_section, countNumbered]

end

variable {start own : String} {index count ordinal i : Nat} {place : List Nat} {s : Section}
  {node child top : Xml.Node} {nodes : List Xml.Node}

/-! ## One step of the walk -/

/-- Whether a section is the child of a node at `index`, the `ordinal`-th child that counts, or is
listed below that child. -/
def IsListedAt (start : String) (index ordinal : Nat) (child : Xml.Node) (place : List Nat)
    (s : Section) : Prop :=
  (place = [index] ∧ s = toSection (sectionNumber? start ordinal child) child) ∨
    isNumbered child = true ∧ ∃ below,
      (below, s) ∈ placedIn (start ++ toString ordinal ++ ".") child ∧ place = index :: below

/-- What is listed at a child has a place that goes to the child first. -/
theorem IsListedAt.exists_cons (listed : IsListedAt start index ordinal child place s) :
    ∃ below, place = index :: below := by
  rcases listed with ⟨rfl, -⟩ | ⟨-, below, -, rfl⟩
  · exact ⟨[], rfl⟩
  · exact ⟨below, rfl⟩

/-- A node lists nothing unless it is a section. -/
theorem mem_placedAmong_singleton : (place, s) ∈ placedAmong start index count [node] ↔
    node.hasName "section" = true ∧
      IsListedAt start index (count + countNumbered [node]) node place s := by
  rw [placedAmong, placedAmong, List.append_nil, IsListedAt]
  by_cases is_section : node.hasName "section" = true
  · by_cases numbered : isNumbered node = true
    · simp [is_section, numbered, Prod.ext_iff, eq_comm]
    · simp [is_section, numbered]
  · simp [is_section]

/-- What a node lists stands in front of what the nodes behind it list. -/
theorem placedAmong_cons : placedAmong start index count (node :: nodes) =
    placedAmong start index count [node] ++
      placedAmong start (index + 1) (count + countNumbered [node]) nodes := by
  simp only [placedAmong, List.append_nil]

/-- The sections among some nodes are those nodes that are sections and what is listed below
them. -/
theorem mem_placedAmong : (place, s) ∈ placedAmong start index count nodes ↔
    ∃ i child, nodes[i]? = some child ∧ child.hasName "section" = true ∧
      IsListedAt start (index + i) (count + countNumbered (nodes.take (i + 1))) child place s := by
  induction nodes generalizing index count with
  | nil => simp [placedAmong]
  | cons node rest ih =>
    have total : ∀ i, countNumbered ((node :: rest).take (i + 1 + 1)) =
        countNumbered [node] + countNumbered (rest.take (i + 1)) :=
      fun i => countNumbered_cons node _
    rw [← Nat.or_exists_add_one, placedAmong_cons, List.mem_append, ih, mem_placedAmong_singleton]
    apply or_congr
    · simp
    · simp only [List.getElem?_cons_succ, total]
      simp only [Nat.add_assoc, Nat.add_comm 1]

/-- The sections inside a node are its children that are sections and what is listed below them. -/
theorem mem_placedIn : (place, s) ∈ placedIn start node ↔
    ∃ i child, node.children[i]? = some child ∧ child.hasName "section" = true ∧
      IsListedAt start i (ordinalAt node i) child place s := by
  cases node with
  | text content => simp [placedIn, Xml.Node.children]
  | element name attributes line children =>
    rw [placedIn, mem_placedAmong]
    simp only [Nat.zero_add, Xml.Node.children, ordinalAt]

/-- A place that is listed goes to a child first, and that is a section. -/
theorem exists_of_cons_mem_placedIn (mem : (i :: place, s) ∈ placedIn start node) :
    ∃ child, node.children[i]? = some child ∧ child.hasName "section" = true := by
  obtain ⟨j, child, found, is_section, listed⟩ := mem_placedIn.1 mem
  obtain ⟨below, same⟩ := listed.exists_cons
  obtain ⟨rfl, -⟩ := List.cons.inj same
  exact ⟨child, found, is_section⟩

/-- A place that goes to a child first is the place of that child, or of a section that is listed
inside it. -/
theorem cons_mem_placedIn (found : node.children[i]? = some child) :
    (i :: place, s) ∈ placedIn start node ↔ child.hasName "section" = true ∧
      ((place = [] ∧ s = toSection (sectionNumber? start (ordinalAt node i) child) child) ∨
        isNumbered child = true ∧
          (place, s) ∈ placedIn (start ++ toString (ordinalAt node i) ++ ".") child) := by
  rw [mem_placedIn]
  constructor
  · rintro ⟨j, other, found', is_section, listed⟩
    obtain ⟨below, same⟩ := listed.exists_cons
    obtain ⟨rfl, -⟩ := List.cons.inj same
    obtain rfl := Option.some.inj (found.symm.trans found')
    simpa [IsListedAt, is_section] using listed
  · rintro ⟨is_section, listed⟩
    refine ⟨i, child, found, is_section, ?_⟩
    simpa [IsListedAt] using listed

/-- No section is listed at the top. -/
theorem ne_nil_of_mem_placedIn (mem : (place, s) ∈ placedIn start node) : place ≠ [] := by
  obtain ⟨i, child, -, -, listed⟩ := mem_placedIn.1 mem
  obtain ⟨below, rfl⟩ := listed.exists_cons
  exact List.cons_ne_nil i below

/-! ## The order of the document -/

/-- A section stands in front of what is listed inside it. -/
theorem pairwise_placedAmong_singleton
    (inside : ∀ start, (placedIn start node).Pairwise fun a b => a.1 < b.1) :
    (placedAmong start index count [node]).Pairwise fun a b => a.1 < b.1 := by
  rw [placedAmong, placedAmong, List.append_nil]
  by_cases is_section : node.hasName "section" = true
  · by_cases numbered : isNumbered node = true
    · rw [if_pos is_section, if_pos numbered]
      refine List.pairwise_cons.2 ⟨fun entry below => ?_, ?_⟩
      · obtain ⟨listed, mem, rfl⟩ := List.mem_map.1 below
        obtain ⟨i, later, further⟩ := List.exists_cons_of_ne_nil (ne_nil_of_mem_placedIn mem)
        apply List.cons_lt_cons_iff.2 (.inr ⟨rfl, ?_⟩)
        show [] < listed.1
        rw [further]
        exact List.nil_lt_cons i later
      · refine List.pairwise_map.2 ((inside _).imp fun less => ?_)
        exact List.cons_lt_cons_iff.2 (.inr ⟨rfl, less⟩)
    · simp [is_section, numbered]
  · simp [is_section]

mutual

/-- The sections inside a node are in the order of their places. -/
theorem pairwise_placedIn (start : String) : (node : Xml.Node) →
    (placedIn start node).Pairwise fun a b => a.1 < b.1
  | .text _ => .nil
  | .element _ _ _ children => by
    rw [placedIn]
    exact pairwise_placedAmong start 0 0 children

/-- So are those among the nodes of one parent. -/
theorem pairwise_placedAmong (start : String) (index count : Nat) : (nodes : List Xml.Node) →
    (placedAmong start index count nodes).Pairwise fun a b => a.1 < b.1
  | [] => .nil
  | node :: rest => by
    rw [placedAmong_cons, List.pairwise_append]
    refine ⟨?_, pairwise_placedAmong start _ _ rest, fun a here b behind => ?_⟩
    · exact pairwise_placedAmong_singleton fun start => pairwise_placedIn start node
    · -- The places of the two go to different children.
      obtain ⟨-, listed⟩ := mem_placedAmong_singleton.1 here
      obtain ⟨i, child, -, -, listed_behind⟩ := mem_placedAmong.1 behind
      obtain ⟨below, own⟩ := listed.exists_cons
      obtain ⟨below', other⟩ := listed_behind.exists_cons
      rw [own, other]
      exact List.cons_lt_cons_iff.2 (.inl (by omega))

end

/-! ## Numbers from the top of the tree -/

/-- Whether the numbers of the children at a place start with `own`: what they start with at the top
or, further down, the number of the section there and a dot. -/
def Begins (start : String) (entries : List (List Nat × Section)) (place : List Nat)
    (own : String) : Prop :=
  (place = [] ∧ own = start) ∨
    ∃ s number, (place, s) ∈ entries ∧ s.number = some number ∧ own = number ++ "."

/-- Whether entries list the sections of a tree, with their places, as they are numbered. -/
structure NumbersSections (start : String) (top : Xml.Node)
    (entries : List (List Nat × Section)) : Prop where
  /-- The sections are in the order of the document: a section stands in front of what is inside it,
  and that in front of what is behind it. -/
  ordered : entries.Pairwise fun a b => a.1 < b.1
  /-- Listed are the children of the top and of the sections with numbers. Among the children of one
  node those that count are numbered one after the other; a child that does not count has no
  number. -/
  listed : ∀ place s, (place, s) ∈ entries ↔ ∃ parent i node child own,
    place = parent ++ [i] ∧ top.at? parent = some node ∧ node.children[i]? = some child ∧
      child.hasName "section" = true ∧ Begins start entries parent own ∧
      s = toSection (sectionNumber? own (ordinalAt node i) child) child

/-- Inside a child of the top, numbers start as the number of the child says. -/
theorem begins_cons (found : top.children[i]? = some child)
    (is_section : child.hasName "section" = true) :
    Begins start (placedIn start top) (i :: place) own ↔ isNumbered child = true ∧
      Begins (start ++ toString (ordinalAt top i) ++ ".")
        (placedIn (start ++ toString (ordinalAt top i) ++ ".") child) place own := by
  simp only [Begins, cons_mem_placedIn found, is_section, true_and, List.cons_ne_nil, false_and,
    false_or]
  constructor
  · rintro ⟨s, number, ⟨rfl, rfl⟩ | ⟨numbered, listed⟩, has_number, rfl⟩
    · simp only [toSection, sectionNumber?] at has_number
      split at has_number
      next numbered =>
        rw [← Option.some.inj has_number]
        exact ⟨numbered, .inl ⟨rfl, rfl⟩⟩
      next => cases has_number
    · exact ⟨numbered, .inr ⟨s, number, listed, has_number, rfl⟩⟩
  · rintro ⟨numbered, ⟨rfl, rfl⟩ | ⟨s, number, listed, has_number, rfl⟩⟩
    · exact ⟨_, _, .inl ⟨rfl, rfl⟩, if_pos numbered, rfl⟩
    · exact ⟨s, number, .inr ⟨numbered, listed⟩, has_number, rfl⟩

/-- A section that is listed is a child of the top or of a section with a number. -/
theorem exists_of_mem_placedIn (mem : (place, s) ∈ placedIn start top) :
    ∃ parent i node child own, place = parent ++ [i] ∧ top.at? parent = some node ∧
      node.children[i]? = some child ∧ child.hasName "section" = true ∧
      Begins start (placedIn start top) parent own ∧
      s = toSection (sectionNumber? own (ordinalAt node i) child) child := by
  induction place generalizing start top with
  | nil => exact absurd rfl (ne_nil_of_mem_placedIn mem)
  | cons i place ih =>
    obtain ⟨child, found, is_section⟩ := exists_of_cons_mem_placedIn mem
    rcases ((cons_mem_placedIn found).1 mem).2 with ⟨rfl, own⟩ | ⟨numbered, inside⟩
    · exact ⟨[], i, top, child, start, rfl, rfl, found, is_section, .inl ⟨rfl, rfl⟩, own⟩
    · obtain ⟨parent, j, node, inner, own, rfl, at_parent, found_inner, inner_section, begins,
        is_own⟩ := ih inside
      refine ⟨i :: parent, j, node, inner, own, rfl, ?_, found_inner, inner_section, ?_, is_own⟩
      · rw [Xml.Node.at?, found]
        exact at_parent
      · exact (begins_cons found is_section).2 ⟨numbered, begins⟩

/-- A section that is a child of the top or of a section with a number is listed. -/
theorem mem_placedIn_of_begins {parent : List Nat} (at_parent : top.at? parent = some node)
    (found : node.children[i]? = some child) (is_section : child.hasName "section" = true)
    (begins : Begins start (placedIn start top) parent own) :
    (parent ++ [i], toSection (sectionNumber? own (ordinalAt node i) child) child) ∈
      placedIn start top := by
  induction parent generalizing start top with
  | nil =>
    obtain rfl := Option.some.inj at_parent
    rcases begins with ⟨-, rfl⟩ | ⟨s, number, listed, -⟩
    · exact (cons_mem_placedIn found).2 ⟨is_section, .inl ⟨rfl, rfl⟩⟩
    · exact absurd rfl (ne_nil_of_mem_placedIn listed)
  | cons j parent ih =>
    obtain ⟨outer, found_outer, at_parent⟩ := Option.bind_eq_some_iff.1 at_parent
    -- The section around it is listed, hence a section.
    have outer_section : outer.hasName "section" = true := by
      rcases begins with ⟨nothing, -⟩ | ⟨s, number, listed, -⟩
      · cases nothing
      · exact ((cons_mem_placedIn found_outer).1 listed).1
    obtain ⟨numbered, begins⟩ := (begins_cons found_outer outer_section).1 begins
    exact (cons_mem_placedIn found_outer).2
      ⟨outer_section, .inr ⟨numbered, ih at_parent begins⟩⟩

/-- The walk lists the sections inside a node as they are numbered. -/
theorem numbersSections_placedIn (start : String) (top : Xml.Node) :
    NumbersSections start top (placedIn start top) where
  ordered := pairwise_placedIn start top
  listed place s := by
    refine ⟨exists_of_mem_placedIn, ?_⟩
    rintro ⟨parent, i, node, child, own, rfl, at_parent, found, is_section, begins, rfl⟩
    exact mem_placedIn_of_begins at_parent found is_section begins

/-! ## No number twice -/

/-- Whether a number is the `ordinal`-th one after `start`, or one below it. -/
def IsHeadedBy (start : String) (ordinal : Nat) (number : String) : Prop :=
  ∃ tail, number ++ "." = start ++ toString ordinal ++ "." ++ tail

/-- A number heads itself. -/
theorem isHeadedBy_self (start : String) (ordinal : Nat) :
    IsHeadedBy start ordinal (start ++ toString ordinal) := ⟨"", by simp⟩

/-- Digits end at a dot, so a number has one first part. -/
theorem IsHeadedBy.unique {number : String} {m n : Nat} (first : IsHeadedBy start m number)
    (second : IsHeadedBy start n number) : m = n := by
  obtain ⟨tail, is_first⟩ := first
  obtain ⟨tail', is_second⟩ := second
  have same : Nat.toDigits 10 m ++ '.' :: tail.toList =
      Nat.toDigits 10 n ++ '.' :: tail'.toList := by
    simpa [String.append_assoc] using congrArg String.toList (is_first.symm.trans is_second)
  obtain ⟨digits, -⟩ := append_cons_inj_of_first (notMem_toDigits (by decide) m)
    (notMem_toDigits (by decide) n) same
  exact toDigits_injective digits

/-- A number is not below itself. -/
theorem not_isHeadedBy_below {number : String} : ¬ IsHeadedBy (number ++ ".") ordinal number := by
  rintro ⟨tail, same⟩
  have too_long := congrArg String.length same
  have dot : ".".length = 1 := rfl
  simp only [String.length_append, dot] at too_long
  omega

/-- What is below the `ordinal`-th number is headed by it. -/
theorem IsHeadedBy.of_below {number : String} {n : Nat}
    (below : IsHeadedBy (start ++ toString ordinal ++ ".") n number) :
    IsHeadedBy start ordinal number := by
  obtain ⟨tail, is_below⟩ := below
  exact ⟨toString n ++ "." ++ tail, by rw [is_below]; simp [String.append_assoc]⟩

/-- A node that counts gives its number, the numbers inside it and those of the nodes behind it. Any
other node gives no number. -/
theorem numbers_sectionsAmong_cons (start : String) (count : Nat) (node : Xml.Node)
    (rest : List Xml.Node) :
    (sectionsAmong start count (node :: rest)).filterMap Section.number =
      if node.hasName "section" && isNumbered node then
        (start ++ toString (count + 1)) ::
          ((sectionsIn (start ++ toString (count + 1) ++ ".") node).filterMap Section.number ++
            (sectionsAmong start (count + 1) rest).filterMap Section.number)
      else (sectionsAmong start count rest).filterMap Section.number := by
  rw [sectionsAmong]
  by_cases is_section : node.hasName "section" = true
  · by_cases numbered : isNumbered node = true
    · simp [is_section, numbered, toSection]
    · simp [is_section, numbered, toSection]
  · simp [is_section]

mutual

/-- The numbers inside a node are headed by the numbers from 1 on. -/
theorem isHeadedBy_sectionsIn (start : String) : (node : Xml.Node) →
    ∀ number ∈ (sectionsIn start node).filterMap Section.number,
      ∃ ordinal, IsHeadedBy start ordinal number
  | .text _ => by simp [sectionsIn]
  | .element _ _ _ children => by
    intro number mem
    rw [sectionsIn] at mem
    obtain ⟨ordinal, -, headed⟩ := isHeadedBy_sectionsAmong start 0 children number mem
    exact ⟨ordinal, headed⟩

/-- Those among the nodes of one parent are headed by the numbers after `count`. -/
theorem isHeadedBy_sectionsAmong (start : String) (count : Nat) : (nodes : List Xml.Node) →
    ∀ number ∈ (sectionsAmong start count nodes).filterMap Section.number,
      ∃ ordinal, count < ordinal ∧ IsHeadedBy start ordinal number
  | [] => by simp [sectionsAmong]
  | node :: rest => by
    intro number mem
    rw [numbers_sectionsAmong_cons] at mem
    split at mem
    · rw [List.mem_cons, List.mem_append] at mem
      rcases mem with rfl | below | behind
      · exact ⟨count + 1, Nat.lt_succ_self count, isHeadedBy_self start _⟩
      · obtain ⟨ordinal, headed⟩ := isHeadedBy_sectionsIn _ node number below
        exact ⟨count + 1, Nat.lt_succ_self count, headed.of_below⟩
      · obtain ⟨ordinal, after, headed⟩ :=
          isHeadedBy_sectionsAmong start (count + 1) rest number behind
        exact ⟨ordinal, Nat.lt_of_succ_lt after, headed⟩
    · exact isHeadedBy_sectionsAmong start count rest number mem

end

mutual

/-- No number occurs twice inside a node. -/
theorem nodup_numbers_sectionsIn (start : String) : (node : Xml.Node) →
    ((sectionsIn start node).filterMap Section.number).Nodup
  | .text _ => .nil
  | .element _ _ _ children => by
    rw [sectionsIn]
    exact nodup_numbers_sectionsAmong start 0 children

/-- Nor among the nodes of one parent. -/
theorem nodup_numbers_sectionsAmong (start : String) (count : Nat) : (nodes : List Xml.Node) →
    ((sectionsAmong start count nodes).filterMap Section.number).Nodup
  | [] => .nil
  | node :: rest => by
    have others := fun count => nodup_numbers_sectionsAmong start count rest
    rw [numbers_sectionsAmong_cons]
    split
    · -- The number itself, the numbers below it, and those of the nodes behind.
      have inside := nodup_numbers_sectionsIn (start ++ toString (count + 1) ++ ".") node
      have behind := isHeadedBy_sectionsAmong start (count + 1) rest
      rw [List.nodup_cons, List.mem_append, not_or, List.nodup_append]
      refine ⟨⟨fun below => ?_, fun again => ?_⟩, inside, others _, fun a below b again => ?_⟩
      · obtain ⟨ordinal, headed⟩ := isHeadedBy_sectionsIn _ node _ below
        exact not_isHeadedBy_below headed
      · obtain ⟨ordinal, after, headed⟩ := behind _ again
        exact absurd (headed.unique (isHeadedBy_self start _)) (Nat.ne_of_gt after)
      · obtain ⟨_, headed⟩ := isHeadedBy_sectionsIn _ node a below
        obtain ⟨ordinal, after, headed'⟩ := behind b again
        rintro rfl
        exact absurd (headed'.unique headed.of_below) (Nat.ne_of_gt after)
    · exact others count

end

/-! ## Documents -/

/-- The sections of the back have no numbers. -/
theorem number_backSections (back : Xml.Node) : ∀ s ∈ backSections back, s.number = none := by
  intro s mem
  obtain ⟨node, -, is_section⟩ := List.mem_filterMap.1 mem
  obtain ⟨title, -, rfl⟩ := Option.map_eq_some_iff.1 is_section
  rfl

/-- The sections of a `middle` element are listed in the order of the document and numbered by the
rules: the `k`-th child that counts has the number of the section around it, a dot and `k`, or `k`
alone at the top, and a section that does not count has no number and leaves the count as it is. In
a whole document, the sections of its `back` element included, no number is given twice. -/
theorem numbersSections_sections :
    (∀ middle : Xml.Node, ∃ entries, entries.map Prod.snd = sectionsIn "" middle ∧
      NumbersSections "" middle entries) ∧
    ∀ root : Xml.Node, ((sections root).filterMap Section.number).Nodup := by
  refine ⟨fun middle => ?_, fun root => ?_⟩
  · exact ⟨placedIn "" middle, map_snd_placedIn "" middle, numbersSections_placedIn "" middle⟩
  · have in_back :
        (((root.child? "back").map backSections).getD []).filterMap Section.number = [] := by
      refine List.filterMap_eq_nil_iff.2 fun s mem => ?_
      cases found : root.child? "back" with
      | none => simp [found] at mem
      | some back => exact number_backSections back s (by simpa [found] using mem)
    rw [sections, List.filterMap_append, in_back, List.append_nil]
    cases root.child? "middle" with
    | none => exact .nil
    | some middle => exact nodup_numbers_sectionsIn "" middle

example : (sectionsIn "" (.element "middle" [] 1
    [.element "section" [] 2 [.element "section" [] 3 []],
      .element "section" [⟨none, "numbered", "false"⟩] 5 [], .element "section" [] 6 []])).map
    Section.number = [some "1", some "1.1", none, some "2"] := by decide +kernel

end RfcXml

end DraftNits
