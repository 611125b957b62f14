import DraftNits.Proofs.XmlCursors
import DraftNits.Xml.Content

/-! # Elements stand on lines of the text

Every element of the tree of a text starts on a line that the text has, also the elements that come
out of entities, and the values of its attributes are those that references in the text make. What
the readers preserve is said of the tree as far as it has been built (`Builder.Meets`); the value of
an entity is read where it is declared, so that its elements are found inside the text as well.

* `Node.meets_iff` — a tree meets a demand if the elements among its descendants do.
* `content_meets` — content preserves the invariant, at any depth of entities.
* `parse_meets` — the elements of a whole document meet what all places and all values do.
* `parse_linesIn` — they stand on the lines of the text. -/

namespace DraftNits.Xml

/-! ## Trees -/

/-- What may be asked of the elements of a tree. -/
structure Demand where
  /-- Of the line on which an element starts. -/
  line : Nat → Prop
  /-- Of the value of an attribute. -/
  value : String → Prop

namespace Node

mutual

/-- Whether the elements of a tree meet a demand. -/
def Meets (d : Demand) : Node → Prop
  | text _ => True
  | element _ attributes line children =>
    d.line line ∧ (∀ a ∈ attributes, d.value a.value) ∧ AllMeet d children

/-- Whether the elements of some trees meet a demand. -/
def AllMeet (d : Demand) : List Node → Prop
  | [] => True
  | node :: nodes => Meets d node ∧ AllMeet d nodes

end

variable {d : Demand}

/-- Some trees meet a demand if each of them does. -/
theorem allMeet_iff {nodes : List Node} : AllMeet d nodes ↔ ∀ node ∈ nodes, node.Meets d := by
  induction nodes with
  | nil => simp [AllMeet]
  | cons node nodes ih => simp [AllMeet, ih]

/-- An element has its own line and attributes, and those of its children. -/
theorem meets_element {name : String} {attributes : List Attribute} {line : Nat}
    {children : List Node} :
    Meets d (element name attributes line children) ↔
      d.line line ∧ (∀ a ∈ attributes, d.value a.value) ∧ ∀ child ∈ children, child.Meets d := by
  rw [Meets, allMeet_iff]

/-- Text has no lines and no attributes. -/
theorem meets_text (content : List Char) : Meets d (text content) := by
  rw [Meets]
  trivial

mutual

/-- A tree meets a demand if the elements among its descendants do. -/
theorem meets_iff : (node : Node) →
    (node.Meets d ↔ ∀ n ∈ node.descendants, n.isElement = true →
      d.line n.line ∧ ∀ a ∈ n.attributes, d.value a.value)
  | text content => by simp [Meets, descendants, isElement]
  | element name attributes line children => by
    rw [Meets, descendants, List.forall_mem_cons, allMeet_iff_descendants children]
    simp [isElement, Node.line, Node.attributes, and_assoc]

/-- Some trees meet a demand if the elements among their descendants do. -/
theorem allMeet_iff_descendants : (nodes : List Node) →
    (AllMeet d nodes ↔ ∀ n ∈ descendantsOfAll nodes, n.isElement = true →
      d.line n.line ∧ ∀ a ∈ n.attributes, d.value a.value)
  | [] => by simp [AllMeet, descendantsOfAll]
  | node :: nodes => by
    rw [AllMeet, descendantsOfAll, meets_iff node, allMeet_iff_descendants nodes,
      List.forall_mem_append]

end

/-- A node with a name is an element. -/
theorem isElement_of_hasName {node : Node} {name : String} (h : node.hasName name = true) :
    node.isElement = true := by
  cases node with
  | text _ => cases h
  | element _ _ _ _ => rfl

/-- The line of an element has what the lines of its tree have. -/
theorem Meets.line {node : Node} (meets : node.Meets d) (is_element : node.isElement = true) :
    d.line node.line :=
  ((meets_iff node).1 meets node node.mem_descendants_self is_element).1

/-- The attributes of a node have what those of its tree have. -/
theorem Meets.attributes {node : Node} (meets : node.Meets d) :
    ∀ a ∈ node.attributes, d.value a.value := by
  cases node with
  | text _ => simp [Node.attributes]
  | element _ _ _ _ => exact (meets_element.1 meets).2.1

/-- The children of a node have what the tree has. -/
theorem Meets.children {node : Node} (meets : node.Meets d) :
    ∀ child ∈ node.children, child.Meets d := by
  cases node with
  | text _ => simp [Node.children]
  | element _ _ _ _ => exact (meets_element.1 meets).2.2

end Node

/-! ## Trees that are being built -/

namespace Builder

/-- Whether all elements of a tree as far as it has been built meet a demand, the open elements
included, and the attributes of the start tag that is being read. -/
structure Meets (d : Demand) (builder : Builder) : Prop where
  /-- The nodes outside of all open elements. -/
  finished : ∀ node ∈ builder.finished, node.Meets d
  /-- The open elements and their children. -/
  opened : ∀ element ∈ builder.opened, d.line element.line ∧
    (∀ a ∈ element.attributes, d.value a.value) ∧ ∀ child ∈ element.children, child.Meets d
  /-- The attributes that have been read. -/
  attributes : ∀ raw ∈ builder.attributes, d.value raw.value

variable {d : Demand} {builder : Builder}

/-- A tree of which nothing has been built meets every demand. -/
theorem meets_empty : empty.Meets d := ⟨by simp [empty], by simp [empty], by simp [empty]⟩

/-- Two trees with the same nodes and attributes meet the same demands. -/
theorem Meets.congr (meets : builder.Meets d) {other : Builder}
    (finished : other.finished = builder.finished) (opened : other.opened = builder.opened)
    (attributes : other.attributes = builder.attributes) : other.Meets d :=
  ⟨finished ▸ meets.finished, opened ▸ meets.opened, attributes ▸ meets.attributes⟩

/-- The attributes that have been read may be forgotten. -/
theorem Meets.cleared (meets : builder.Meets d) :
    Meets d { builder with attributes := [], bindings := [] } :=
  ⟨meets.finished, meets.opened, by simp⟩

/-- A node is added with what it has. -/
theorem Meets.addNode (meets : builder.Meets d) {node : Node} (h : node.Meets d) :
    (builder.addNode node).Meets d := by
  unfold Builder.addNode
  split
  next none_open =>
    exact ⟨List.forall_mem_cons.2 ⟨h, meets.finished⟩, meets.opened, meets.attributes⟩
  next inner outer some_open =>
    have opened := meets.opened
    rw [some_open, List.forall_mem_cons] at opened
    refine ⟨meets.finished, List.forall_mem_cons.2 ⟨⟨opened.1.1, opened.1.2.1, ?_⟩, opened.2⟩,
      meets.attributes⟩
    exact List.forall_mem_cons.2 ⟨h, opened.1.2.2⟩

/-- Text adds no element. -/
theorem Meets.addText (meets : builder.Meets d) (content : List Char) :
    (builder.addText content).Meets d := by
  unfold Builder.addText
  split
  · exact meets
  · exact meets.addNode (Node.meets_text content)

/-- The declaration of a prefix leaves the nodes as they are. -/
theorem declarePrefix_nodes {qualifier uri : String} {place : Position} {after : Builder}
    (done : builder.declarePrefix qualifier uri place = .ok after) :
    after.finished = builder.finished ∧ after.opened = builder.opened ∧
      after.attributes = builder.attributes := by
  unfold declarePrefix at done
  repeat' split at done
  all_goals cases done
  all_goals exact ⟨rfl, rfl, rfl⟩

/-- The declaration of the default name space leaves the nodes as they are. -/
theorem declareDefault_nodes {uri : String} {place : Position} {after : Builder}
    (done : builder.declareDefault uri place = .ok after) :
    after.finished = builder.finished ∧ after.opened = builder.opened ∧
      after.attributes = builder.attributes := by
  unfold declareDefault at done
  repeat' split at done
  all_goals cases done
  exact ⟨rfl, rfl, rfl⟩

/-- An attribute is added with its value. -/
theorem Meets.addAttribute (meets : builder.Meets d) {raw : RawAttribute} (value : d.value raw.value)
    {after : Builder} (done : builder.addAttribute raw = .ok after) : after.Meets d := by
  unfold Builder.addAttribute at done
  split at done
  · obtain ⟨finished, opened, attributes⟩ := declarePrefix_nodes done
    exact meets.congr finished opened attributes
  split at done
  · obtain ⟨finished, opened, attributes⟩ := declareDefault_nodes done
    exact meets.congr finished opened attributes
  · cases done
    refine ⟨meets.finished, meets.opened, List.forall_mem_append.2 ⟨meets.attributes, ?_⟩⟩
    exact List.forall_mem_singleton.2 value

/-- The attributes of an element have the values that were read. -/
theorem value_of_resolveAttributes {p : String → Prop} {scope : List Binding}
    {before found : List Attribute} {raws : List RawAttribute}
    (values_before : ∀ a ∈ before, p a.value) (values : ∀ raw ∈ raws, p raw.value)
    (done : resolveAttributes scope before raws = .ok found) : ∀ a ∈ found, p a.value := by
  induction raws generalizing before with
  | nil =>
    cases done
    exact values_before
  | cons raw raws ih =>
    rw [List.forall_mem_cons] at values
    rw [resolveAttributes] at done
    split at done
    · cases done
    split at done
    · cases done
    · refine ih (List.forall_mem_append.2 ⟨values_before, ?_⟩) values.2 done
      exact List.forall_mem_singleton.2 values.1

/-- A start tag adds its line and its attributes. -/
theorem Meets.endStartTag (meets : builder.Meets d) {name : QName} {tag nameAt : Position}
    {closed : Bool} {after : Builder} (inside : d.line tag.line)
    (done : builder.endStartTag name tag nameAt closed = .ok after) : after.Meets d := by
  unfold Builder.endStartTag at done
  split at done
  · cases done
  next attributes resolved =>
    have values := value_of_resolveAttributes (by simp) meets.attributes resolved
    split at done
    · cases done
    split at done
    · cases done
      exact meets.cleared.addNode (Node.meets_element.2 ⟨inside, values, by simp⟩)
    · cases done
      exact ⟨meets.finished, List.forall_mem_cons.2 ⟨⟨inside, values, by simp⟩, meets.opened⟩,
        by simp⟩

/-- An end tag closes an element with what it has. -/
theorem Meets.endTag (meets : builder.Meets d) {name : QName} {place : Position}
    {after : Builder} (done : builder.endTag name place = .ok after) : after.Meets d := by
  unfold Builder.endTag at done
  split at done
  · cases done
  split at done
  · cases done
  split at done
  · cases done
  next inner outer some_open =>
    split at done
    · cases done
      have opened := meets.opened
      rw [some_open, List.forall_mem_cons] at opened
      obtain ⟨⟨own, attributes, children⟩, others⟩ := opened
      -- The innermost element is taken off and added, finished, to the one around it.
      have outside : Meets d { builder with opened := outer, attributes := [], bindings := [] } :=
        ⟨meets.finished, others, by simp⟩
      refine outside.addNode (Node.meets_element.2 ⟨own, attributes, ?_⟩)
      exact fun child mem => children child (List.mem_reverse.1 mem)
    · cases done

/-- The finished tree has what was built. -/
theorem Meets.finish (meets : builder.Meets d) {nodes : List Node}
    (done : builder.finish = .ok nodes) : ∀ node ∈ nodes, node.Meets d := by
  unfold Builder.finish at done
  split at done
  · split at done
    · cases done
      exact fun node mem => meets.finished node (List.mem_reverse.1 mem)
    · cases done
  · cases done

end Builder

/-! ## Elements -/

/-- Whether whatever an element of a text can get from it meets a demand: its line at the places at
which a character is seen, and the values that attributes are given. -/
structure Supplies (text : List Char) (d : Demand) : Prop where
  /-- The places. -/
  line : ∀ cursor : Cursor, cursor.StandsIn text → cursor.rest ≠ [] → d.line cursor.position.line
  /-- The values. -/
  value : ∀ {entities : List Entity}, (∀ entity ∈ entities, entity.value.StandsIn text) →
    ∀ {levels expansions after : Nat} {cursor : Cursor} {value : List Char}, cursor.StandsIn text →
      attributeValue entities levels expansions cursor = .ok (value, after) →
        d.value (String.ofList value)

/-- Whether a way to follow the entities of a text preserves what a tree meets. -/
def FollowsInto (text : List Char) (d : Demand)
    (follow : Position → Cursor → Builder → Except SyntaxError Builder) : Prop :=
  ∀ place value builder after, Cursor.StandsIn text value → builder.Meets d →
    follow place value builder = .ok after → after.Meets d

/-- The value of an entity stands where those of all entities do. -/
theorem standsIn_of_entityValue? {text : List Char} {entities : List Entity}
    (stand : ∀ entity ∈ entities, entity.value.StandsIn text) {name : List Char} {value : Cursor}
    (found : entityValue? entities name = some value) : value.StandsIn text := by
  obtain ⟨entity, is_first, rfl⟩ := Option.map_eq_some_iff.1 found
  exact stand entity (List.mem_of_find?_eq_some is_first)

namespace Scan

variable {text : List Char} {d : Demand} {entities : List Entity} {levels : Nat}
  {follow : Position → Cursor → Builder → Except SyntaxError Builder} {builder : Builder}

/-- A computation gives its result. -/
theorem gives_lift {α : Type} {result : Except SyntaxError α} {q : α → Prop}
    (h : ∀ value, result = .ok value → q value) : Gives text (lift result) q := by
  cases result with
  | error error => exact gives_fail
  | ok value => exact gives_pure (h value rfl)

/-- A run of characters stands where it is read. -/
theorem gives_run_bind {β : Type} {class_ : Char → Bool} {f : Position → List Char → Scan β}
    {q : β → Prop}
    (then_ : ∀ start run, Cursor.StandsIn text ⟨start, run⟩ → Gives text (f start run) q) :
    Gives text (position >>= fun start => run class_ >>= f start) q := by
  intro cursor stands value next done
  obtain ⟨start, between, looked, done⟩ := bind_eq_ok_iff.1 done
  rw [position_eq_ok] at looked
  cases looked
  obtain ⟨found, after, taken, done⟩ := bind_eq_ok_iff.1 done
  obtain ⟨moved, split, -, is_found⟩ := runFrom_eq_ok taken
  have found_stands : Cursor.StandsIn text ⟨cursor.position, found⟩ :=
    stands.prefix ⟨after.rest, by rw [is_found, split]; rfl⟩
  exact then_ cursor.position found found_stands after
    (run_stays class_ cursor stands found after taken).2 value next done

/-- An attribute is added with a value that the text supplies. -/
theorem oneAttribute_gives (supplies : Supplies text d)
    (stand : ∀ entity ∈ entities, entity.value.StandsIn text) (meets : builder.Meets d) :
    Gives text (oneAttribute entities levels builder) (Builder.Meets d) := by
  refine position_stays.bind fun start => qname_stays.bind fun name =>
    skipSpaces_stays.bind fun _ => (expect_stays _).bind fun _ => skipSpaces_stays.bind fun _ =>
    quote_stays.bind fun mark => gives_run_bind fun place raw raw_stands =>
    (expect_stays _).bind fun _ => ?_
  have value_supplied : Gives text
      (lift (attributeValue entities levels builder.expansions ⟨place, raw⟩))
      fun found => d.value (String.ofList found.1) :=
    gives_lift fun found done => supplies.value stand raw_stands done
  refine value_supplied.bind fun found supplied => gives_lift fun after done => ?_
  have counted : Builder.Meets d { builder with expansions := found.2 } := meets.congr rfl rfl rfl
  exact counted.addAttribute supplied done

/-- The rest of a start tag preserves what a tree meets if its own line does. -/
theorem tagRest_gives (supplies : Supplies text d)
    (stand : ∀ entity ∈ entities, entity.value.StandsIn text) {name : QName}
    {tag nameAt : Position} (inside : d.line tag.line) (steps : Nat) (meets : builder.Meets d) :
    Gives text (tagRest entities levels name tag nameAt steps builder) fun out =>
      out.1.Meets d := by
  induction steps generalizing builder with
  | zero => exact gives_pure meets
  | succ steps ih =>
    have ends : ∀ closed, Gives text (lift (builder.endStartTag name tag nameAt closed))
        (Builder.Meets d) := fun closed => gives_lift fun _ done => meets.endStartTag inside done
    rw [tagRest]
    refine get_gives.bind fun cursor _ => ?_
    cases cursor.rest with
    | nil => exact gives_pure meets
    | cons first _ =>
      refine skipSpaces_stays.bind fun _ => peek_stays.bind fun c => gives_ite ?_ (gives_ite ?_ ?_)
      · exact (skip_stays 1).bind fun _ => (expect_stays _).bind fun _ =>
          (ends true).bind fun _ holds => gives_pure holds
      · exact (skip_stays 1).bind fun _ => (ends false).bind fun _ holds => gives_pure holds
      · exact gives_ite (failAt_gives (p := fun _ => False) |>.bind fun _ absurd => absurd.elim)
          ((oneAttribute_gives supplies stand meets).bind fun _ holds => ih holds)

/-- A start tag that stands at a character preserves what a tree meets. -/
theorem startTag_ensures (supplies : Supplies text d)
    (stand : ∀ entity ∈ entities, entity.value.StandsIn text) (meets : builder.Meets d) :
    Ensures (fun cursor => cursor.StandsIn text ∧ cursor.rest ≠ [])
      (startTag entities levels builder) fun out next => out.1.Meets d ∧ next.StandsIn text := by
  rintro cursor ⟨stands, sees⟩ out next done
  obtain ⟨tag, between, looked, done⟩ := bind_eq_ok_iff.1 done
  rw [position_eq_ok] at looked
  cases looked
  -- The tag's line is the one at which it is looked at, before anything is read.
  have on_line := supplies.line cursor stands sees
  refine ((skip_stays 1).bind (q := fun out => Builder.Meets d out.1) fun _ =>
    position_stays.bind fun nameAt => qname_stays.bind fun name =>
      gives_ite gives_fail_bind ?_) cursor stands out next done
  exact rest_stays.bind fun _ => tagRest_gives supplies stand on_line _ (meets.congr rfl rfl rfl)

theorem endTag_gives (meets : builder.Meets d) :
    Gives text (endTag builder) (Builder.Meets d) :=
  position_stays.bind fun _ => (skip_stays 2).bind fun _ => qname_stays.bind fun _ =>
    skipSpaces_stays.bind fun _ => (expect_stays _).bind fun _ =>
      gives_lift fun _ done => meets.endTag done

theorem cdata_gives (meets : builder.Meets d) :
    Gives text (cdata builder) (Builder.Meets d) :=
  (skip_stays 9).bind fun _ => (untilText_stays _).bind fun content =>
    (expectText_stays _).bind fun _ => gives_pure (meets.addText content)

/-! ## Content -/

/-- Text with references preserves what a tree meets if the entities do. -/
theorem textFrom_meets (stand : ∀ entity ∈ entities, entity.value.StandsIn text)
    (follows : FollowsInto text d follow) {steps : Nat} {read : List Char} {cursor : Cursor}
    (meets : builder.Meets d) {after : Builder}
    (done : textFrom entities follow steps read cursor builder = .ok after) : after.Meets d := by
  induction steps generalizing read cursor builder with
  | zero =>
    cases done
    exact meets.addText _
  | succ steps ih =>
    rw [textFrom] at done
    split at done
    · cases done
      exact meets.addText _
    · split at done
      · cases done
      · exact ih meets done
      · split at done
        · cases done
        next value found =>
          -- The value of an entity is read before the text after the reference to it.
          split at done
          · cases done
          next inner followed =>
            have inner_meets := follows _ value _ inner (standsIn_of_entityValue? stand found)
              (meets.addText _) followed
            exact ih inner_meets done
    · exact ih meets done

theorem text_gives (stand : ∀ entity ∈ entities, entity.value.StandsIn text)
    (follows : FollowsInto text d follow) (meets : builder.Meets d) :
    Gives text (Scan.text entities follow builder) (Builder.Meets d) :=
  position_stays.bind fun _ => (run_stays _).bind fun _ =>
    gives_ite (position_stays.bind fun _ => gives_fail_bind)
      (gives_lift fun _ done => textFrom_meets stand follows meets done)

/-- The items of content preserve what a tree meets. The induction is on the number of items; elements
that were opened among them are closed or stay open with what they have. -/
theorem items_gives (supplies : Supplies text d)
    (stand : ∀ entity ∈ entities, entity.value.StandsIn text)
    (follows : FollowsInto text d follow) (steps depth : Nat) (meets : builder.Meets d) :
    Gives text (items entities levels follow steps depth builder) (Builder.Meets d) := by
  induction steps generalizing depth builder with
  | zero => exact gives_pure meets
  | succ steps ih =>
    intro cursor stands value next done
    rw [items] at done
    obtain ⟨seen, between, looked, done⟩ := bind_eq_ok_iff.1 done
    rw [rest_eq_ok] at looked
    cases looked
    -- One case for each kind of item; what is left after it is content again.
    cases item : Item.ofText cursor.rest with
    | ending =>
      rw [item] at done
      exact gives_pure meets cursor stands value next done
    | unknown =>
      rw [item] at done
      exact (position_stays.bind fun _ => gives_fail) cursor stands value next done
    | comment =>
      rw [item] at done
      exact (comment_stays.bind fun _ => ih depth meets) cursor stands value next done
    | cdata =>
      rw [item] at done
      exact ((cdata_gives meets).bind fun _ holds => ih depth holds) cursor stands value next done
    | instruction =>
      rw [item] at done
      exact (instruction_stays.bind fun _ => ih depth meets) cursor stands value next done
    | text =>
      rw [item] at done
      exact ((text_gives stand follows meets).bind fun _ holds => ih depth holds) cursor stands
        value next done
    | startTag =>
      rw [item] at done
      -- Nothing at all is no start tag, so the tag has a place of its own.
      have sees : cursor.rest ≠ [] := by
        intro none_left
        rw [none_left] at item
        cases item
      exact ((startTag_ensures supplies stand meets).bind fun out between holds =>
        ih _ holds.1 between holds.2) cursor ⟨stands, sees⟩ value next done
    | endTag =>
      rw [item] at done
      refine ((endTag_gives meets).bind fun after holds => ?_) cursor stands value next done
      cases depth with
      | zero =>
        -- The element around this content is closed, and with it the content.
        exact gives_pure holds
      | succ depth => exact ih depth holds

end Scan

/-- Content preserves what a tree meets, and its cursor stays in the text. The induction is on the
levels of entities that are left: the value of an entity is content one level down. -/
theorem content_meets {text : List Char} {d : Demand} {entities : List Entity}
    (supplies : Supplies text d) (stand : ∀ entity ∈ entities, entity.value.StandsIn text)
    {levels : Nat} {cursor next : Cursor} {builder after : Builder}
    (stands : cursor.StandsIn text) (meets : builder.Meets d)
    (done : content entities levels cursor builder = .ok (after, next)) :
    after.Meets d ∧ next.StandsIn text := by
  induction levels generalizing cursor next builder after with
  | zero =>
    -- With no levels left, every entity is refused.
    have follows : FollowsInto text d fun place _ _ => .error (.referenceLoop place) :=
      fun _ _ _ _ _ _ followed => nomatch followed
    exact Scan.items_gives supplies stand follows _ _ meets cursor stands after next done
  | succ levels ih =>
    rw [content] at done
    refine Scan.items_gives supplies stand ?_ _ _ meets cursor stands after next done
    intro place value builder after value_stands meets followed
    beta_reduce at followed
    split at followed
    · cases followed
    split at followed
    · cases followed
    next inner _ read =>
      -- Around the value only the counts of expansions and tags change, and no nodes.
      cases followed
      have inner_meets : inner.Meets d := by
        refine (ih value_stands ?_ read).1
        exact meets.congr rfl rfl rfl
      exact inner_meets.congr rfl rfl rfl

/-! ## Documents -/

namespace Scan

variable {text : List Char} {d : Demand} {entities : List Entity}

/-- An element that stands at a character preserves what a tree meets. -/
theorem element_ensures (supplies : Supplies text d)
    (stand : ∀ entity ∈ entities, entity.value.StandsIn text)
    {builder : Builder} (meets : builder.Meets d) :
    Ensures (fun cursor => cursor.StandsIn text ∧ cursor.rest ≠ []) (element entities builder)
      fun after next => after.Meets d ∧ next.StandsIn text := by
  refine (startTag_ensures supplies stand meets).bind fun ⟨started, tagEnd⟩ => ?_
  rintro cursor ⟨started_meets, stands⟩ after next done
  by_cases opened : tagEnd = .opened
  · simp only [if_pos opened] at done
    exact content_meets supplies stand stands started_meets done
  · simp only [if_neg opened] at done
    exact gives_pure started_meets cursor stands after next done

/-- The elements of a document meet what the text supplies. -/
theorem document_gives (supplies : Supplies text d) :
    Gives text document fun nodes => ∀ node ∈ nodes, node.Meets d := by
  -- What comes after the element, whichever way it was read.
  have ending : ∀ builder : Builder, builder.Meets d → Gives text
      (do misc ((← rest).length + 1)
          if !(← atEnd) then fail (.unknownToken (← position))
          lift builder.finish) fun nodes => ∀ node ∈ nodes, node.Meets d :=
    fun builder meets => rest_stays.bind fun _ => (misc_stays _).bind fun _ =>
      atEnd_stays.bind fun _ => gives_ite (position_stays.bind fun _ => gives_fail_bind)
        (gives_lift fun _ done => meets.finish done)
  -- The element and what comes after it, with the entities of a document type or without any.
  have tree : ∀ entities : List Entity, (∀ entity ∈ entities, entity.value.StandsIn text) →
      Gives text
        (do skipSpaces
            let mut builder := Builder.empty
            if ← startsWith "<" then builder ← element entities builder
            misc ((← rest).length + 1)
            if !(← atEnd) then fail (.unknownToken (← position))
            lift builder.finish) fun nodes => ∀ node ∈ nodes, node.Meets d := by
    intro entities stand
    refine skipSpaces_stays.bind fun _ => ?_
    intro cursor stands nodes next done
    obtain ⟨found, between, looked, done⟩ := bind_eq_ok_iff.1 done
    rw [startsWith_eq_ok] at looked
    cases looked
    by_cases starts : "<".toList.isPrefixOf cursor.rest = true
    · rw [starts] at done
      have sees : cursor.rest ≠ [] := by
        intro none_left
        rw [none_left] at starts
        cases starts
      exact ((element_ensures supplies stand Builder.meets_empty).bind fun builder between holds =>
        ending builder holds.1 between holds.2) cursor ⟨stands, sees⟩ nodes next done
    · rw [Bool.not_eq_true] at starts
      rw [starts] at done
      exact ending Builder.empty Builder.meets_empty cursor stands nodes next done
  refine (startsWith_stays _).bind fun _ =>
    gives_orSkip (fun after => (skip_stays 1).bind fun _ => after) ?_
  refine (startsWith_stays _).bind fun _ =>
    gives_orSkip (fun after => declaration_stays.bind fun _ => after) ?_
  refine rest_stays.bind fun _ => (misc_stays _).bind fun _ => skipSpaces_stays.bind fun _ => ?_
  refine (startsWith_stays _).bind fun _ => gives_ite ?_ (tree [] (by simp))
  exact documentType_gives.bind fun entities stand => rest_stays.bind fun _ =>
    (misc_stays _).bind fun _ => tree entities stand

end Scan

/-- The elements of a document meet what its text supplies. -/
theorem parse_meets {text : List Char} {d : Demand} (supplies : Supplies text d)
    {nodes : List Node} (done : parse text = .ok nodes) : ∀ node ∈ nodes, node.Meets d := by
  unfold parse at done
  cases read : Scan.document (Cursor.ofText text) with
  | error error =>
    rw [read] at done
    cases done
  | ok found =>
    rw [read] at done
    obtain rfl : found.1 = nodes := by simpa [Except.map] using done
    exact (Scan.document_gives supplies _ (Cursor.standsIn_ofText text) found.1 found.2 read).1

/-- The demand to stand on the lines of a text. -/
def Demand.onLines (lineCount : Nat) : Demand :=
  ⟨fun line => 1 ≤ line ∧ line ≤ lineCount, fun _ => True⟩

/-- The elements of a document stand on lines that its text has. -/
theorem parse_linesIn {text : List Char} {nodes : List Node} (done : parse text = .ok nodes) :
    ∀ node ∈ nodes, node.Meets (.onLines (Text.splitLines text).length) :=
  parse_meets ⟨fun _ stands sees => stands.line_le sees, by intros; trivial⟩ done

end DraftNits.Xml
