import DraftNits.Proofs.Provenance
import DraftNits.Proofs.RootAttributes
import DraftNits.Proofs.TagAttributes
import Mathlib.Data.List.Forall2
import Mathlib.Data.List.ReduceOption

/-! # The lists of a malformed document

A malformed text has no tree, so a start tag is what is written like one on a line: a name,
attributes with values between quotation marks, and a `>`. Of such tags the authors, references and
citations of the document are taken. Each tag gives its own attribute if that is spelled last in it;
an attribute that is empty is not found, and what looks like the attribute further behind in the
tag, such as one with a prefix, takes its place. References and citations are complete wherever the
tags read so. Of the authors of a line only the first is taken.

* `RfcXml.WritesTag`, `RfcXml.OwnValue` — the start tags of a text and their own attributes.
* `RfcXml.tagAttributes_eq_of_readsOwn`, `RfcXml.readsOwn_of_tagAttributes_eq` — when the values of
  a line are those of its tags.
* `RfcXml.recovered_lists` — when the lists of a malformed document are those of its tags. -/

namespace DraftNits.RfcXml

variable {behind text value : List Char} {attributes : List (List Char × List Char)}

/-! ## Written tags -/

/-- Texts of attributes in a start tag on one line, with their names and values. No value has a
quotation mark of either kind or a mark that bounds tags in it. -/
inductive WritesAttributes : List Char → List (List Char × List Char) → Prop
  | nil : WritesAttributes [] []
  | cons {gap name before after value rest : List Char} {mark : Char}
      {attributes : List (List Char × List Char)} (some_gap : gap ≠ [])
      (gap_spaces : ∀ c ∈ gap, Xml.isSpace c = true) (some_name : name ≠ [])
      (name_chars : ∀ c ∈ name, Xml.isNameChar c = true)
      (before_spaces : ∀ c ∈ before, Xml.isSpace c = true)
      (after_spaces : ∀ c ∈ after, Xml.isSpace c = true) (is_mark : isQuoteMark mark = true)
      (value_chars : ∀ c ∈ value, isValueChar c = true) (no_start : '<' ∉ value)
      (no_end : '>' ∉ value) (writes : WritesAttributes rest attributes) :
      WritesAttributes
        (gap ++ (name ++ (before ++ '=' :: (after ++ mark :: (value ++ mark :: rest)))))
        ((name, value) :: attributes)

/-- Whether a start tag with the given attributes is written in a text, of which the part behind its
name is given. -/
def WritesTag (behind : List Char) (attributes : List (List Char × List Char)) : Prop :=
  ∃ text space slash after, behind = text ++ (space ++ (slash ++ '>' :: after)) ∧
    WritesAttributes text attributes ∧ (∀ c ∈ space, Xml.isSpace c = true) ∧
      (slash = [] ∨ slash = ['/'])

/-- The value of an attribute in the tag that is written in a text, if one is written there and has
the attribute. -/
def OwnValue (name : String) (behind : List Char) (own : Option (List Char)) : Prop :=
  (∃ attributes, WritesTag behind attributes ∧ own = attributes.lookup name.toList) ∨
    (∀ attributes, ¬ WritesTag behind attributes) ∧ own = none

/-- No mark that bounds tags stands in attributes. -/
theorem WritesAttributes.notMem (writes : WritesAttributes text attributes) {c : Char}
    (bounds : c = '<' ∨ c = '>') : c ∉ text := by
  have foreign : Xml.isSpace c = false ∧ Xml.isNameChar c = false ∧ isQuoteMark c = false ∧
      c ≠ '=' := by
    rcases bounds with rfl | rfl <;> decide +kernel
  obtain ⟨no_space, no_name, no_mark, no_sign⟩ := foreign
  have not_in : ∀ {p : Char → Bool} {cs : List Char}, p c = false → (∀ d ∈ cs, p d = true) →
      c ∉ cs := by
    intro p cs not_in_class all mem
    rw [all c mem] at not_in_class
    cases not_in_class
  induction writes with
  | nil => exact List.not_mem_nil
  | @cons _ _ _ _ value _ mark _ _ gap_spaces _ name_chars before_spaces after_spaces is_mark _
      no_start no_end _ ih =>
    have other_mark : c ≠ mark := by
      rintro rfl
      rw [is_mark] at no_mark
      cases no_mark
    have no_bound : c ∉ value := by
      rcases bounds with rfl | rfl
      · exact no_start
      · exact no_end
    simp [not_in no_space gap_spaces, not_in no_name name_chars, not_in no_space before_spaces,
      not_in no_space after_spaces, other_mark, no_bound, no_sign, ih]

/-- What stands in a written tag are its attributes and perhaps white space and a slash. -/
theorem WritesTag.inside_eq (writes : WritesTag behind attributes) :
    ∃ text ending, WritesAttributes text attributes ∧ inside behind = text ++ ending ∧
      '<' ∉ inside behind := by
  obtain ⟨text, space, slash, after, rfl, writes, spaces, is_slash⟩ := writes
  have not_in : ∀ {c : Char}, c = '<' ∨ c = '>' → c ∉ text ++ (space ++ slash) := by
    intro c bounds
    have no_space : c ∉ space := by
      intro mem
      rcases bounds with rfl | rfl
      · exact absurd (spaces _ mem) (by decide)
      · exact absurd (spaces _ mem) (by decide)
    have no_slash : c ∉ slash := by
      rcases bounds with rfl | rfl <;> rcases is_slash with rfl | rfl <;> decide
    simp [writes.notMem bounds, no_space, no_slash]
  have is_inside : inside (text ++ (space ++ (slash ++ '>' :: after))) =
      text ++ (space ++ slash) := by
    have all : ∀ c ∈ text ++ (space ++ slash), (c != '>') = true := by
      intro c mem
      refine bne_iff_ne.2 ?_
      rintro rfl
      exact not_in (.inr rfl) mem
    have whole : text ++ (space ++ (slash ++ '>' :: after)) =
        text ++ (space ++ slash) ++ '>' :: after := by simp
    rw [inside, whole]
    refine Json.takeWhile_append all ?_
    rintro _ ⟨⟩
    rfl
  rw [is_inside]
  exact ⟨text, space ++ slash, writes, rfl, not_in (.inl rfl)⟩

/-- An attribute that is found by its name is written behind white space. -/
theorem WritesAttributes.exists_of_lookup {name : List Char}
    (writes : WritesAttributes text attributes) (found : attributes.lookup name = some value) :
    ∃ front before after mark rest last,
      text = front ++ (name ++ (before ++ '=' :: (after ++ mark :: (value ++ mark :: rest)))) ∧
        front.getLast? = some last ∧ Xml.isSpace last = true ∧
        (∀ c ∈ before, Xml.isSpace c = true) ∧ (∀ c ∈ after, Xml.isSpace c = true) ∧
        isQuoteMark mark = true ∧ (∀ c ∈ value, isValueChar c = true) ∧ '>' ∉ value := by
  induction writes with
  | nil => cases found
  | @cons gap first before after first_value rest mark _ some_gap gap_spaces _ _ before_spaces
      after_spaces is_mark value_chars _ no_end _ ih =>
    rw [List.lookup_cons] at found
    split at found
    next same =>
      obtain rfl := eq_of_beq same
      obtain rfl := Option.some.inj found
      refine ⟨gap, before, after, mark, rest, gap.getLast some_gap, rfl,
        List.getLast?_eq_getLast_of_ne_nil some_gap, gap_spaces _ (List.getLast_mem some_gap),
        before_spaces, after_spaces, is_mark, value_chars, no_end⟩
    next =>
      obtain ⟨front, others⟩ := ih found
      obtain ⟨own_before, own_after, own_mark, own_rest, last, rfl, is_last, written⟩ := others
      refine ⟨gap ++
          (first ++ (before ++ '=' :: (after ++ mark :: (first_value ++ mark :: front)))),
        own_before, own_after, own_mark, own_rest, last, by simp, ?_, written⟩
      have some_front : front ≠ [] := by
        rintro rfl
        cases is_last
      simp [List.getLast?_append, List.getLast?_cons, is_last]

namespace OwnValue

variable {name : String}

/-- A tag with an attribute holds the start of no other one, and the value has no end of one. -/
theorem plain (own : OwnValue name behind (some value)) : '<' ∉ inside behind ∧ '>' ∉ value := by
  rcases own with ⟨attributes, writes, found⟩ | ⟨-, nothing⟩
  · obtain ⟨text, -, written, -, no_start⟩ := writes.inside_eq
    obtain ⟨_, _, _, _, _, _, -, -, -, -, -, -, -, no_end⟩ := written.exists_of_lookup found.symm
    exact ⟨no_start, no_end⟩
  · cases nothing

/-- The own attribute of a tag is spelled in it, unless it is empty. -/
theorem exists_spellsInside (own : OwnValue name behind (some value)) (some_value : value ≠ []) :
    ∃ place, SpellsInside name.toList true behind place value := by
  rcases own with ⟨attributes, writes, found⟩ | ⟨-, nothing⟩
  · obtain ⟨text, ending, written, is_inside, -⟩ := writes.inside_eq
    obtain ⟨front, before, after, mark, rest, last, rfl, is_last, space, before_spaces,
      after_spaces, is_mark, value_chars, -⟩ := written.exists_of_lookup found.symm
    have is_behind : behind = front ++ (name.toList ++ (before ++ '=' :: (after ++
        mark :: (value ++ mark :: (rest ++ (ending ++ behind.dropWhile (· != '>'))))))) := by
      conv_lhs => rw [← List.takeWhile_append_dropWhile (p := (· != '>')) (l := behind)]
      rw [← inside, is_inside]
      simp
    refine ⟨front.length, ?_, front, _, is_behind, rfl, ?_, before, after, mark, mark,
      rest ++ (ending ++ behind.dropWhile (· != '>')), rfl,
      fun c mem => isBlank_of_isSpace (before_spaces c mem),
      fun c mem => isBlank_of_isSpace (after_spaces c mem), is_mark, is_mark, some_value,
      value_chars⟩
    · rw [is_inside]
      simp only [List.length_append, List.length_cons]
      omega
    · rw [is_last]
      exact isWord_of_isSpace space
  · cases nothing

end OwnValue

/-! ## Lines -/

/-- Two lists of values of which the first has a value wherever the second has one are the same if
they have the same values in the same order. -/
theorem eq_of_reduceOption_eq {α : Type} {taken owns : List (Option α)}
    (covers : List.Forall₂ (fun a b => b.isSome = true → a.isSome = true) taken owns)
    (same : taken.reduceOption = owns.reduceOption) : taken = owns := by
  have length_le : ∀ {taken owns : List (Option α)},
      List.Forall₂ (fun a b => b.isSome = true → a.isSome = true) taken owns →
        owns.reduceOption.length ≤ taken.reduceOption.length := by
    intro taken owns covers
    induction covers with
    | nil => exact Nat.le_refl _
    | @cons a b taken owns here _ ih =>
      cases a with
      | some a =>
        cases b with
        | some b => exact Nat.succ_le_succ ih
        | none => exact Nat.le_succ_of_le ih
      | none =>
        cases b with
        | some b => cases here rfl
        | none => exact ih
  induction covers with
  | nil => rfl
  | @cons a b taken owns here later ih =>
    cases a with
    | some a =>
      cases b with
      | some b =>
        rw [List.reduceOption_cons_of_some, List.reduceOption_cons_of_some] at same
        obtain ⟨rfl, same_later⟩ := List.cons.inj same
        rw [ih same_later]
      | none =>
        have shorter := congrArg List.length same
        rw [List.reduceOption_cons_of_some, List.reduceOption_cons_of_none,
          List.length_cons] at shorter
        have longer := length_le later
        omega
    | none =>
      cases b with
      | some b => cases here rfl
      | none => rw [ih same]

section Line

variable {tag name : String} {line : List Char} {owns : List (Option (List Char))}

/-- The own values of an attribute in the tags of a line, from left to right. -/
def OwnValues (tag name : String) (line : List Char) (owns : List (Option (List Char))) : Prop :=
  List.Forall₂ (OwnValue name) (tagStarts tag line) owns

/-- Whether each tag of a line reads as one of some values, from left to right. -/
def ReadsOwn (tag name : String) (line : List Char) (owns : List (Option (List Char))) : Prop :=
  List.Forall₂ (ReadsAs name) (tagStarts tag line) owns

instance : Decidable (ReadsOwn tag name line owns) :=
  inferInstanceAs (Decidable (List.Forall₂ _ _ _))

/-- The tags read as what is taken in them. -/
theorem readsOwn_iff : ReadsOwn tag name line owns ↔
    (tagStarts tag line).map (valueIn? name) = owns := by
  have each : ReadsAs name = fun behind own => valueIn? name behind = own := by
    funext behind own
    exact propext valueIn?_eq_iff.symm
  rw [ReadsOwn, each, ← List.forall₂_eq_eq_eq, List.forall₂_map_left_iff]

/-- Where every tag reads as its own attribute, the values that are taken on a line are those of the
tags. -/
theorem tagAttributes_eq_of_readsOwn (tag_plain : '<' ∉ tag.toList) (name_plain : '>' ∉ name.toList)
    (is_own : OwnValues tag name line owns) (reads : ReadsOwn tag name line owns) :
    tagAttributes tag name line = owns.reduceOption := by
  obtain rfl := readsOwn_iff.1 reads
  rw [OwnValues, List.forall₂_map_right_iff, List.forall₂_same] at is_own
  have plain : ∀ behind ∈ tagStarts tag line, ∀ value, valueIn? name behind = some value →
      '<' ∉ inside behind ∧ '>' ∉ value := by
    intro behind starts value taken
    have own := is_own behind starts
    rw [taken] at own
    exact own.plain
  rw [List.reduceOption, List.filterMap_map]
  refine tagAttributes_eq_filterMap tag_plain name_plain
    (fun behind starts value taken => (plain behind starts value taken).1) ?_
  intro value mem
  obtain ⟨behind, starts, taken⟩ := exists_start_of_mem mem
  exact (plain behind starts value taken).2

/-- Nothing that is taken is empty. -/
theorem value_ne_nil_of_mem {skip : Nat} (mem : value ∈ tagAttributesFrom tag name skip line) :
    value ≠ [] := by
  obtain ⟨behind, -, taken⟩ := exists_start_of_mem mem
  obtain ⟨place, ⟨-, spells⟩, -⟩ := valueIn?_eq_iff.1 taken
  exact spells.value_ne_nil

/-- In a tag with an own attribute that is not empty, something is taken. -/
theorem OwnValue.isSome_valueIn? (own : OwnValue name behind (some value))
    (some_value : value ≠ []) : (valueIn? name behind).isSome = true := by
  obtain ⟨place, spells⟩ := own.exists_spellsInside some_value
  cases taken : valueIn? name behind with
  | some found => rfl
  | none => exact absurd spells (valueIn?_eq_iff.1 taken place value)

/-- A value of a line is the own value of some tag. -/
theorem exists_ownValue {starts : List (List Char)}
    (is_own : List.Forall₂ (OwnValue name) starts owns) (mem : some value ∈ owns) :
    ∃ behind, OwnValue name behind (some value) := by
  induction is_own with
  | nil => cases mem
  | cons here _ ih =>
    rcases List.mem_cons.1 mem with rfl | mem
    · exact ⟨_, here⟩
    · exact ih mem

/-- In every tag with an own value something is taken, if none of these values is empty. -/
theorem covers_of_ownValues {starts : List (List Char)}
    (is_own : List.Forall₂ (OwnValue name) starts owns)
    (filled : ∀ value, some value ∈ owns → value ≠ []) :
    List.Forall₂ (fun behind own => own.isSome = true → (valueIn? name behind).isSome = true)
      starts owns := by
  induction is_own with
  | nil => exact .nil
  | @cons behind own _ _ here _ ih =>
    refine .cons ?_ (ih fun value mem => filled value (List.mem_cons_of_mem _ mem))
    intro some_own
    obtain ⟨value, rfl⟩ := Option.isSome_iff_exists.1 some_own
    exact here.isSome_valueIn? (filled value List.mem_cons_self)

/-- Where no tag stands in another one, the values that are taken on a line are those of the tags
only if every tag reads as its own attribute. -/
theorem readsOwn_of_tagAttributes_eq (tag_plain : '<' ∉ tag.toList) (name_plain : '>' ∉ name.toList)
    (flat : ∀ behind ∈ tagStarts tag line, '<' ∉ inside behind)
    (is_own : OwnValues tag name line owns)
    (same : tagAttributes tag name line = owns.reduceOption) : ReadsOwn tag name line owns := by
  have mem_iff : ∀ value, value ∈ tagAttributes tag name line ↔ some value ∈ owns := by
    intro value
    rw [same]
    exact List.reduceOption_mem_iff
  have apart : tagAttributes tag name line =
      ((tagStarts tag line).map (valueIn? name)).reduceOption := by
    rw [List.reduceOption, List.filterMap_map]
    refine tagAttributes_eq_filterMap tag_plain name_plain
      (fun behind starts _ _ => flat behind starts) ?_
    intro value mem
    obtain ⟨behind, own⟩ := exists_ownValue is_own ((mem_iff value).1 mem)
    exact own.plain.2
  rw [readsOwn_iff]
  refine eq_of_reduceOption_eq ?_ (apart.symm.trans same)
  rw [List.forall₂_map_left_iff]
  exact covers_of_ownValues is_own fun value mem => value_ne_nil_of_mem ((mem_iff value).2 mem)

end Line

/-! ## Documents -/

/-- What stands on lines, with the numbers of the lines from a first one on. -/
def numbered {α : Type} (number : Nat) : List (List α) → List (Nat × α)
  | [] => []
  | items :: rest => items.map (fun item => (number, item)) ++ numbered (number + 1) rest

/-- What stands on later lines has later numbers. -/
theorem le_of_mem_numbered {α : Type} {number : Nat} {lines : List (List α)} {item : Nat × α}
    (mem : item ∈ numbered number lines) : number ≤ item.1 := by
  induction lines generalizing number with
  | nil => cases mem
  | cons items rest ih =>
    rcases List.mem_append.1 mem with here | later
    · obtain ⟨_, -, rfl⟩ := List.mem_map.1 here
      exact Nat.le_refl number
    · exact Nat.le_of_succ_le (ih later)

/-- Lines of which the same stands on the same numbers have the same on each. -/
theorem numbered_inj {α : Type} {number : Nat} {lines others : List (List α)}
    (same_length : lines.length = others.length) :
    numbered number lines = numbered number others ↔ lines = others := by
  constructor
  · intro same
    induction lines generalizing number others with
    | nil => exact (List.length_eq_zero_iff.1 same_length.symm).symm
    | cons items rest ih =>
      obtain ⟨other, others, rfl⟩ := List.exists_cons_of_length_eq_add_one same_length.symm
      -- The first line is what has its number, and the numbers behind it are higher.
      have first : ∀ (items : List α) rest,
          (numbered number (items :: rest)).takeWhile (fun item => item.1 == number) =
            items.map fun item => (number, item) := by
        intro items rest
        refine Json.takeWhile_append ?_ ?_
        · intro item mem
          obtain ⟨_, -, rfl⟩ := List.mem_map.1 mem
          exact beq_self_eq_true number
        · intro item is_first
          have higher := le_of_mem_numbered (List.mem_of_mem_head? is_first)
          exact beq_false_of_ne (Nat.ne_of_gt higher)
      have same_items : items = other := by
        have same_first := congrArg (List.takeWhile fun item => item.1 == number) same
        rw [first, first] at same_first
        exact List.map_injective_iff.2 (fun _ _ pair => (Prod.mk.inj pair).2) same_first
      subst same_items
      rw [numbered, numbered] at same
      rw [ih (Nat.succ.inj same_length) (List.append_cancel_left same)]
  · rintro rfl
    rfl

/-- An author as it is saved, with the line and the name. -/
def savedAuthor (found : Nat × List Char) : Author := ⟨String.ofList found.2, none, some found.1⟩

/-- A reference as it is saved, with the line and the anchor. -/
def savedReference (found : Nat × List Char) : Reference :=
  ⟨String.ofList found.2, none, false, found.1⟩

/-- A citation as it is saved, with the line and the anchor. -/
def savedCitation (found : Nat × List Char) : Citation := ⟨String.ofList found.2, found.1⟩

theorem savedAuthor_injective : Function.Injective savedAuthor := by
  rintro ⟨line, name⟩ ⟨other_line, other⟩ same
  obtain ⟨same_name, -, same_line⟩ := Author.mk.inj same
  exact Prod.ext (Option.some.inj same_line) (String.ofList_injective same_name)

theorem savedReference_injective : Function.Injective savedReference := by
  rintro ⟨line, anchor⟩ ⟨other_line, other⟩ same
  obtain ⟨same_anchor, -, -, same_line⟩ := Reference.mk.inj same
  exact Prod.ext same_line (String.ofList_injective same_anchor)

theorem savedCitation_injective : Function.Injective savedCitation := by
  rintro ⟨line, anchor⟩ ⟨other_line, other⟩ same
  obtain ⟨same_anchor, same_line⟩ := Citation.mk.inj same
  exact Prod.ext same_line (String.ofList_injective same_anchor)

/-- A list to which every line adds what it has, holds it all after the lines, with their numbers.
-/
theorem Recovered.list_readLines {α : Type} (list : Recovered → List α)
    (found : List Char → List (List Char)) (save : Nat × List Char → α)
    (step : ∀ saved number line, list (Recovered.readLine saved number line) =
      list saved ++ (found line).map fun value => save (number, value))
    (saved : Recovered) (number : Nat) (lines : List (List Char)) :
    list (saved.readLines number lines) =
      list saved ++ (numbered number (lines.map found)).map save := by
  induction lines generalizing saved number with
  | nil => exact (List.append_nil _).symm
  | cons line rest ih =>
    rw [Recovered.readLines, ih, step, List.map_cons, numbered, List.map_append, List.map_map,
      List.append_assoc]
    rfl

/-- The own attributes of the tags on lines, as they are saved with the numbers of the lines. -/
def ownList {α : Type} (save : Nat × List Char → α) (owns : List (List (Option (List Char)))) :
    List α :=
  (numbered 1 (owns.map List.reduceOption)).map save

/-- What is found on lines and saved is their own attributes exactly if it is so on every line. -/
theorem map_numbered_eq_ownList_iff {α : Type} {save : Nat × List Char → α}
    (injective : Function.Injective save) (found : List Char → List (List Char))
    {lines : List (List Char)} {owns : List (List (Option (List Char)))}
    (same_length : lines.length = owns.length) :
    (numbered 1 (lines.map found)).map save = ownList save owns ↔
      List.Forall₂ (fun line own => found line = own.reduceOption) lines owns := by
  have lengths : (lines.map found).length = (owns.map List.reduceOption).length := by
    rw [List.length_map, List.length_map, same_length]
  rw [ownList, (List.map_injective_iff.2 injective).eq_iff, numbered_inj lengths,
    ← List.forall₂_map_right_iff, ← List.forall₂_map_left_iff, List.forall₂_eq_eq_eq]

/-- What is saved of a malformed text. -/
theorem recovered_readDocument (path : String) {text : List Char} {error : Xml.SyntaxError}
    (malformed : Xml.parse text = .error error) :
    ∃ doc, readDocument path text (Text.splitLines text) = .ok doc ∧
      doc.front.authors = (numbered 1 ((Text.splitLines text).map fun line =>
        (tagAttributes "author" "fullname" line).take 1)).map savedAuthor ∧
      doc.references = (numbered 1 ((Text.splitLines text).map
        (tagAttributes "reference" "anchor"))).map savedReference ∧
      doc.citations = (numbered 1 ((Text.splitLines text).map
        (tagAttributes "xref" "target"))).map savedCitation := by
  refine ⟨recover path (Text.splitLines text)
    (syntaxDiagnostic (Text.splitLines text).length error), by rw [readDocument, malformed],
    ?_, ?_, ?_⟩
  · exact Recovered.list_readLines (fun saved => saved.front.authors) _ savedAuthor
      (fun saved => Recovered.authors_readFront saved.front) Recovered.empty 1 _
  · exact Recovered.list_readLines Recovered.references _ savedReference (fun _ _ _ => rfl)
      Recovered.empty 1 _
  · exact Recovered.list_readLines Recovered.citations _ savedCitation (fun _ _ _ => rfl)
      Recovered.empty 1 _

/-- Whether no tag of a name starts inside another one on lines. -/
def IsFlat (tag : String) (lines : List (List Char)) : Prop :=
  ∀ line ∈ lines, ∀ behind ∈ tagStarts tag line, '<' ∉ inside behind

section Lines

variable {tag name : String} {lines : List (List Char)} {owns : List (List (Option (List Char)))}

/-- On lines whose tags read as their own attributes, these are what is found. -/
theorem forall₂_tagAttributes_eq (tag_plain : '<' ∉ tag.toList) (name_plain : '>' ∉ name.toList)
    (is_own : List.Forall₂ (OwnValues tag name) lines owns)
    (reads : List.Forall₂ (ReadsOwn tag name) lines owns) :
    List.Forall₂ (fun line own => tagAttributes tag name line = own.reduceOption) lines owns :=
  is_own.mp (fun _ _ => tagAttributes_eq_of_readsOwn tag_plain name_plain) reads

/-- On lines on which no tag starts inside another one, their own attributes are what is found only
if the tags read as them. -/
theorem forall₂_readsOwn (tag_plain : '<' ∉ tag.toList) (name_plain : '>' ∉ name.toList)
    (is_own : List.Forall₂ (OwnValues tag name) lines owns) (flat : IsFlat tag lines)
    (same : List.Forall₂ (fun line own => tagAttributes tag name line = own.reduceOption) lines
      owns) : List.Forall₂ (ReadsOwn tag name) lines owns := by
  refine List.Forall₂.mp ?_ ((List.forall₂_and_left lines owns).2 ⟨flat, is_own⟩) same
  intro line own here same_here
  exact readsOwn_of_tagAttributes_eq tag_plain name_plain here.1 here.2 same_here

/-- The first attributes of lines are all of them exactly if no line has more than one. -/
theorem forall₂_take_one_iff
    (same : List.Forall₂ (fun line own => tagAttributes tag name line = own.reduceOption) lines
      owns) :
    List.Forall₂ (fun line own => (tagAttributes tag name line).take 1 = own.reduceOption) lines
      owns ↔ ∀ own ∈ owns, own.reduceOption.length ≤ 1 := by
  induction same with
  | nil => exact iff_of_true .nil (List.forall_mem_nil _)
  | cons here _ ih =>
    rw [List.forall₂_cons, List.forall_mem_cons, ih, here, List.take_eq_self_iff]

end Lines

/-- The references and citations of a malformed document are, in the order of the text, the own
anchors of its `reference` tags and the own targets of its `xref` tags, however many of them share a
line, wherever each of these tags reads as its own attribute; and where no such tag stands inside
another one, only there. The authors are those of its `author` tags, where these read as their own
attributes, exactly if no two of them share a line. -/
theorem recovered_lists (path : String) {text : List Char} {error : Xml.SyntaxError}
    {authors references citations : List (List (Option (List Char)))}
    (malformed : Xml.parse text = .error error)
    (own_authors : List.Forall₂ (OwnValues "author" "fullname") (Text.splitLines text) authors)
    (own_references :
      List.Forall₂ (OwnValues "reference" "anchor") (Text.splitLines text) references)
    (own_citations : List.Forall₂ (OwnValues "xref" "target") (Text.splitLines text) citations) :
    ∃ doc, readDocument path text (Text.splitLines text) = .ok doc ∧
      (List.Forall₂ (ReadsOwn "reference" "anchor") (Text.splitLines text) references →
        doc.references = ownList savedReference references) ∧
      (List.Forall₂ (ReadsOwn "xref" "target") (Text.splitLines text) citations →
        doc.citations = ownList savedCitation citations) ∧
      (List.Forall₂ (ReadsOwn "author" "fullname") (Text.splitLines text) authors →
        (doc.front.authors = ownList savedAuthor authors ↔
          ∀ own ∈ authors, own.reduceOption.length ≤ 1)) ∧
      (IsFlat "reference" (Text.splitLines text) →
        doc.references = ownList savedReference references →
          List.Forall₂ (ReadsOwn "reference" "anchor") (Text.splitLines text) references) ∧
      (IsFlat "xref" (Text.splitLines text) → doc.citations = ownList savedCitation citations →
        List.Forall₂ (ReadsOwn "xref" "target") (Text.splitLines text) citations) := by
  obtain ⟨doc, is_doc, is_authors, is_references, is_citations⟩ :=
    recovered_readDocument path malformed
  have authors_iff := map_numbered_eq_ownList_iff savedAuthor_injective
    (fun line => (tagAttributes "author" "fullname" line).take 1) own_authors.length_eq
  have references_iff := map_numbered_eq_ownList_iff savedReference_injective
    (tagAttributes "reference" "anchor") own_references.length_eq
  have citations_iff := map_numbered_eq_ownList_iff savedCitation_injective
    (tagAttributes "xref" "target") own_citations.length_eq
  rw [← is_authors] at authors_iff
  rw [← is_references] at references_iff
  rw [← is_citations] at citations_iff
  refine ⟨doc, is_doc, fun reads => ?_, fun reads => ?_, fun reads => ?_, fun flat same => ?_,
    fun flat same => ?_⟩
  · exact references_iff.2 (forall₂_tagAttributes_eq (by decide) (by decide) own_references reads)
  · exact citations_iff.2 (forall₂_tagAttributes_eq (by decide) (by decide) own_citations reads)
  · exact authors_iff.trans (forall₂_take_one_iff
      (forall₂_tagAttributes_eq (by decide) (by decide) own_authors reads))
  · exact forall₂_readsOwn (by decide) (by decide) own_references flat (references_iff.1 same)
  · exact forall₂_readsOwn (by decide) (by decide) own_citations flat (citations_iff.1 same)

/-- What holds of the only line of a text holds of its lines. -/
theorem forall₂_splitLines {α : Type} {r : List Char → α → Prop} {text line : List Char} {a : α}
    (is_lines : Text.splitLines text = [line]) (here : r line a) :
    List.Forall₂ r (Text.splitLines text) [a] := by
  rw [is_lines]
  exact .cons here .nil

/-- What stands behind the name of a tag of an empty element with one attribute, and then a text. -/
def onlyAttribute (name : String) (value after : List Char) : List Char :=
  ' ' :: (name.toList ++ '=' :: '"' :: (value ++ '"' :: '/' :: '>' :: after))

/-- Such a tag has the value of its attribute. -/
theorem ownValue_onlyAttribute {name : String} {value : List Char} (some_name : name.toList ≠ [])
    (plain : name.toList.all Xml.isNameChar = true ∧ value.all isValueChar = true ∧ '<' ∉ value ∧
      '>' ∉ value) (after : List Char) :
    OwnValue name (onlyAttribute name value after) (some value) := by
  obtain ⟨name_chars, value_chars, no_start, no_end⟩ := plain
  have writes : WritesAttributes
      ([' '] ++ (name.toList ++ ([] ++ '=' :: ([] ++ '"' :: (value ++ '"' :: [])))))
      [(name.toList, value)] :=
    .cons (List.cons_ne_nil _ _) (List.all_eq_true.1 (by decide)) some_name
      (List.all_eq_true.1 name_chars) (List.forall_mem_nil _) (List.forall_mem_nil _) rfl
      (List.all_eq_true.1 value_chars) no_start no_end .nil
  refine .inl ⟨_, ⟨_, [], ['/'], after, ?_, writes, List.forall_mem_nil _, .inr rfl⟩, ?_⟩
  · simp [onlyAttribute]
  · rw [List.lookup_cons, beq_self_eq_true]

/-- A tag of an empty element with one attribute, and then a text. -/
def onlyTag (tag name : String) (value after : List Char) : List Char :=
  '<' :: (tag.toList ++ onlyAttribute name value after)

/-- A line with an author, two citations and two references. -/
def sharedLine : List Char :=
  onlyTag "author" "fullname" ['A'] (onlyTag "xref" "target" ['X'] (onlyTag "xref" "target" ['Y']
    (onlyTag "reference" "anchor" ['X'] (onlyTag "reference" "anchor" ['Y'] []))))

/-- Of a malformed text with that line everything is saved. -/
theorem recovered_lists_shared :
    ∃ doc, readDocument "draft.xml" sharedLine (Text.splitLines sharedLine) = .ok doc ∧
      doc.references = [⟨"X", none, false, 1⟩, ⟨"Y", none, false, 1⟩] ∧
      doc.citations = [⟨"X", 1⟩, ⟨"Y", 1⟩] ∧ doc.front.authors = [⟨"A", none, some 1⟩] := by
  obtain ⟨error, malformed⟩ : ∃ error, Xml.parse sharedLine = .error error :=
    exists_parse_eq_error (by decide +kernel)
  have is_lines : Text.splitLines sharedLine = [sharedLine] := by decide +kernel
  have author : tagStarts "author" sharedLine = [onlyAttribute "fullname" ['A']
      (onlyTag "xref" "target" ['X'] (onlyTag "xref" "target" ['Y']
        (onlyTag "reference" "anchor" ['X'] (onlyTag "reference" "anchor" ['Y'] []))))] := by
    decide +kernel
  have xrefs : tagStarts "xref" sharedLine = [onlyAttribute "target" ['X']
      (onlyTag "xref" "target" ['Y'] (onlyTag "reference" "anchor" ['X']
        (onlyTag "reference" "anchor" ['Y'] []))), onlyAttribute "target" ['Y']
      (onlyTag "reference" "anchor" ['X'] (onlyTag "reference" "anchor" ['Y'] []))] := by
    decide +kernel
  have anchors : tagStarts "reference" sharedLine = [onlyAttribute "anchor" ['X']
      (onlyTag "reference" "anchor" ['Y'] []), onlyAttribute "anchor" ['Y'] []] := by
    decide +kernel
  have authors : OwnValues "author" "fullname" sharedLine [some ['A']] := by
    rw [OwnValues, author]
    exact .cons (ownValue_onlyAttribute (by decide) (by decide +kernel) _) .nil
  have citations : OwnValues "xref" "target" sharedLine [some ['X'], some ['Y']] := by
    rw [OwnValues, xrefs]
    exact .cons (ownValue_onlyAttribute (by decide) (by decide +kernel) _)
      (.cons (ownValue_onlyAttribute (by decide) (by decide +kernel) _) .nil)
  have references : OwnValues "reference" "anchor" sharedLine [some ['X'], some ['Y']] := by
    rw [OwnValues, anchors]
    exact .cons (ownValue_onlyAttribute (by decide) (by decide +kernel) _)
      (.cons (ownValue_onlyAttribute (by decide) (by decide +kernel) _) .nil)
  have read_authors : ReadsOwn "author" "fullname" sharedLine [some ['A']] := by decide +kernel
  have read_citations : ReadsOwn "xref" "target" sharedLine [some ['X'], some ['Y']] := by
    decide +kernel
  have read_references : ReadsOwn "reference" "anchor" sharedLine [some ['X'], some ['Y']] := by
    decide +kernel
  obtain ⟨doc, is_doc, all_references, all_citations, all_authors, -⟩ :=
    recovered_lists "draft.xml" malformed (forall₂_splitLines is_lines authors)
      (forall₂_splitLines is_lines references) (forall₂_splitLines is_lines citations)
  exact ⟨doc, is_doc, all_references (forall₂_splitLines is_lines read_references),
    all_citations (forall₂_splitLines is_lines read_citations),
    (all_authors (forall₂_splitLines is_lines read_authors)).2 (by decide)⟩

/-- A malformed text with two authors on a line. -/
def crowdedText : List Char :=
  "<rfc>".toList ++
    onlyTag "author" "fullname" ['A'] (onlyTag "author" "fullname" ['B'] ['\n'])

/-- Of two authors on a line the second one is lost. -/
theorem not_recovered_lists :
    ¬ ∀ (path : String) (text : List Char) (error : Xml.SyntaxError)
        (authors references citations : List (List (Option (List Char)))),
      Xml.parse text = .error error →
      List.Forall₂ (OwnValues "author" "fullname") (Text.splitLines text) authors →
      List.Forall₂ (OwnValues "reference" "anchor") (Text.splitLines text) references →
      List.Forall₂ (OwnValues "xref" "target") (Text.splitLines text) citations →
        ∃ doc, readDocument path text (Text.splitLines text) = .ok doc ∧
          doc.front.authors = ownList savedAuthor authors ∧
          doc.references = ownList savedReference references ∧
          doc.citations = ownList savedCitation citations := by
  intro always
  obtain ⟨error, malformed⟩ : ∃ error, Xml.parse crowdedText = .error error :=
    exists_parse_eq_error (by decide +kernel)
  obtain ⟨line, is_lines, is_line⟩ : ∃ line, Text.splitLines crowdedText = [line] ∧
      line = "<rfc>".toList ++
        onlyTag "author" "fullname" ['A'] (onlyTag "author" "fullname" ['B'] []) :=
    ⟨_, by decide +kernel, rfl⟩
  have starts : tagStarts "author" line = [onlyAttribute "fullname" ['A']
      (onlyTag "author" "fullname" ['B'] []), onlyAttribute "fullname" ['B'] []] := by
    rw [is_line]
    decide +kernel
  have authors : OwnValues "author" "fullname" line [some ['A'], some ['B']] := by
    rw [OwnValues, starts]
    exact .cons (ownValue_onlyAttribute (by decide) (by decide +kernel) _)
      (.cons (ownValue_onlyAttribute (by decide) (by decide +kernel) _) .nil)
  have nothing : OwnValues "reference" "anchor" line [] ∧ OwnValues "xref" "target" line [] := by
    have no_tags : tagStarts "reference" line = [] ∧ tagStarts "xref" line = [] := by
      rw [is_line]
      decide +kernel
    rw [OwnValues, OwnValues, no_tags.1, no_tags.2]
    exact ⟨.nil, .nil⟩
  obtain ⟨doc, is_doc, all_authors, -⟩ := always "draft.xml" crowdedText error _ _ _ malformed
    (forall₂_splitLines is_lines authors) (forall₂_splitLines is_lines nothing.1)
    (forall₂_splitLines is_lines nothing.2)
  obtain ⟨same, is_same, saved_authors, -⟩ := recovered_readDocument "draft.xml" malformed
  obtain rfl : same = doc := Except.ok.inj (is_same.symm.trans is_doc)
  rw [saved_authors, is_lines, is_line] at all_authors
  exact absurd all_authors (by decide +kernel)

end DraftNits.RfcXml
