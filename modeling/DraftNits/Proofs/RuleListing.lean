import DraftNits.Rule.Basic
import Mathlib.Data.List.Basic
import Mathlib.Data.List.Forall2

/-! # Where a rule runs, read off the listing

The listing shows the scopes of a rule by their labels. A label can be read back: it names a value
if it is `any`, or if one of its parts between `/` is the label of that value (`LabelNames`). Read
so, it names the values that the scope takes in, as long as the labels of the values can be told
apart (`CanBeTold`). The labels `IDs` of a format and of a kind do not meet, since they are in
columns of their own.

* `Scope.includes_iff_labelNames` — a label names what its scope takes in.
* `Rule.appliesTo_iff_admits` — a rule runs on what both labels of its row name.
* `RuleSet.forall₂_listing` — the rows of a listing, with the places of their rules.
* `RuleSet.listing_tells_applicable` — where each listed rule runs. -/

namespace DraftNits

/-! ## Labels -/

/-- The parts of a label between its `/`. -/
def labelParts (label : String) : List String := (label.toList.splitOn '/').map String.ofList

/-- Whether a label names a value whose own label is the given one. -/
def LabelNames (label own : String) : Prop := label = "any" ∨ own ∈ labelParts label

instance (label own : String) : Decidable (LabelNames label own) :=
  inferInstanceAs (Decidable (_ ∨ _))

/-- Whether the labels of values can be told apart in the label of a scope. -/
structure CanBeTold {α : Type} (valueLabel : α → String) : Prop where
  /-- No two values have the same label. -/
  injective : Function.Injective valueLabel
  /-- A label is not cut in parts. -/
  no_slash : ∀ value, '/' ∉ (valueLabel value).toList
  /-- A label is not the one of a scope without values. -/
  ne_empty : ∀ value, valueLabel value ≠ ""
  /-- A label is not the one of every value. -/
  ne_any : ∀ value, valueLabel value ≠ "any"

/-- The labels of formats can be told apart. -/
theorem SourceFormat.canBeTold_label : CanBeTold label where
  injective := fun a b => by cases a <;> cases b <;> decide
  no_slash value := by cases value <;> decide
  ne_empty value := by cases value <;> decide
  ne_any value := by cases value <;> decide

/-- The labels of kinds can be told apart. -/
theorem DocumentKind.canBeTold_label : CanBeTold label where
  injective := fun a b => by cases a <;> cases b <;> decide
  no_slash value := by cases value <;> decide
  ne_empty value := by cases value <;> decide
  ne_any value := by cases value <;> decide

namespace Scope

variable {α : Type} {valueLabel : α → String}

/-- The parts of the labels of some values, joined by `/`, are these labels. -/
theorem labelParts_intercalate (told : CanBeTold valueLabel) {values : List α}
    (some_value : values ≠ []) :
    labelParts ("/".intercalate (values.map valueLabel)) = values.map valueLabel := by
  have whole : ∀ part ∈ (values.map valueLabel).map String.toList, '/' ∉ part := by
    intro part mem
    obtain ⟨label, is_label, rfl⟩ := List.mem_map.1 mem
    obtain ⟨value, -, rfl⟩ := List.mem_map.1 is_label
    exact told.no_slash value
  have cut := List.splitOn_intercalate '/' whole (by simpa using some_value)
  rw [labelParts, String.toList_intercalate, show "/".toList = ['/'] from rfl, cut, List.map_map]
  exact List.map_id'' (fun _ => String.ofList_toList) _

/-- The label of some values names these values. -/
theorem labelNames_intercalate_iff (told : CanBeTold valueLabel) (values : List α) (value : α) :
    LabelNames ("/".intercalate (values.map valueLabel)) (valueLabel value) ↔ value ∈ values := by
  cases values with
  | nil =>
    -- Without values the label is empty, and so is its only part.
    have no_part : valueLabel value ∉ labelParts "" := by
      rw [show labelParts "" = [""] from rfl, List.mem_singleton]
      exact told.ne_empty value
    constructor
    · rintro (is_any | part)
      · exact absurd (show "" = "any" from is_any) (by decide)
      · exact absurd part no_part
    · exact nofun
  | cons first rest =>
    have parts := labelParts_intercalate told (List.cons_ne_nil first rest)
    rw [LabelNames, parts, List.mem_map_of_injective told.injective]
    refine or_iff_right fun is_any => ?_
    -- The label `any` has one part, which would be the label of the first value.
    rw [is_any, show labelParts "any" = ["any"] from by decide +kernel] at parts
    exact told.ne_any first (List.cons.inj parts).1.symm

/-- The label of a scope names the values that the scope takes in. -/
theorem includes_iff_labelNames [DecidableEq α] (told : CanBeTold valueLabel) (scope : Scope α)
    (value : α) :
    scope.includes value = true ↔ LabelNames (scope.label valueLabel) (valueLabel value) := by
  cases scope with
  | any => simp [label, LabelNames]
  | only wanted =>
    have one := labelNames_intercalate_iff told [wanted] value
    rw [List.map_singleton, String.intercalate_singleton, List.mem_singleton] at one
    rw [label, one, includes, beq_iff_eq, eq_comm]
  | among values =>
    rw [label, labelNames_intercalate_iff told, includes, List.contains_iff_mem]

end Scope

/-! ## Rows -/

/-- Whether a row names documents of a format and a kind, by the labels in its two columns. -/
def ListingRow.Admits (row : ListingRow) (format : SourceFormat) (kind : DocumentKind) : Prop :=
  LabelNames row.formats format.label ∧ LabelNames row.kinds kind.label

instance (row : ListingRow) (format : SourceFormat) (kind : DocumentKind) :
    Decidable (row.Admits format kind) :=
  inferInstanceAs (Decidable (_ ∧ _))

/-- A rule whose check is written runs on the documents that its row names. -/
theorem Rule.appliesTo_iff_admits {rule : Rule} (written : rule.isPlaceholder = false)
    (format : SourceFormat) (kind : DocumentKind) :
    rule.appliesTo format kind = true ↔ rule.listingRow.Admits format kind := by
  rw [appliesTo, written, Bool.not_false, Bool.true_and, Bool.and_eq_true,
    Scope.includes_iff_labelNames SourceFormat.canBeTold_label,
    Scope.includes_iff_labelNames DocumentKind.canBeTold_label]
  rfl

namespace RuleSet

variable (set : RuleSet)

/-- The rules of a set whose check is written, with their places in it. -/
def written (set : RuleSet) : List (Rule × Nat) :=
  set.rules.zipIdx.filter fun entry => !entry.1.isPlaceholder

/-- A written rule stands at its place in the set. -/
theorem mem_written_iff {rule : Rule} {place : Nat} :
    (rule, place) ∈ set.written ↔ set.rules[place]? = some rule ∧ rule.isPlaceholder = false := by
  rw [written, List.mem_filter, List.mem_zipIdx_iff_getElem?, Bool.not_eq_true']

/-- The places of written rules go up. -/
theorem pairwise_written : (set.written.map Prod.snd).Pairwise (· < ·) := by
  have places := List.filter_sublist (p := fun entry : Rule × Nat => !entry.1.isPlaceholder)
    (l := set.rules.zipIdx)
  refine List.Pairwise.sublist (places.map Prod.snd) ?_
  rw [List.zipIdx_map_snd]
  exact List.pairwise_lt_range'

/-- The listing has a row for each written rule, in the order of their places. -/
theorem listing_eq_map_written : set.listing = set.written.map fun entry => entry.1.listingRow := by
  have rules : set.rules = set.rules.zipIdx.map Prod.fst := (List.zipIdx_map_fst 0 set.rules).symm
  rw [listing, written]
  conv_lhs => rw [rules, List.filter_map, List.map_map]
  rfl

/-- Each row of the listing is that of the rule at its place. -/
theorem forall₂_listing :
    List.Forall₂ (fun place row => ∃ rule, set.rules[place]? = some rule ∧
      rule.isPlaceholder = false ∧ row = rule.listingRow) (set.written.map Prod.snd)
      set.listing := by
  rw [listing_eq_map_written, List.forall₂_map_left_iff, List.forall₂_map_right_iff,
    List.forall₂_same]
  rintro ⟨rule, place⟩ mem
  obtain ⟨at_place, is_written⟩ := set.mem_written_iff.1 mem
  exact ⟨rule, at_place, is_written, rfl⟩

/-- The label of a scope names the values that the scope takes in, for formats as for kinds. The
rows of a listing are those of the rules whose check is written, each once and in the order of the
set; and a listed rule is among those that run on documents of a format and a kind exactly if the
labels in both columns of its row name them. -/
theorem listing_tells_applicable :
    (∀ (scope : Scope SourceFormat) (format : SourceFormat), scope.includes format = true ↔
      LabelNames (scope.label SourceFormat.label) format.label) ∧
    (∀ (scope : Scope DocumentKind) (kind : DocumentKind), scope.includes kind = true ↔
      LabelNames (scope.label DocumentKind.label) kind.label) ∧
    ∃ places : List Nat, places.Pairwise (· < ·) ∧
      (∀ place, place ∈ places ↔
        ∃ rule, set.rules[place]? = some rule ∧ rule.isPlaceholder = false) ∧
      List.Forall₂ (fun place row => ∃ rule, set.rules[place]? = some rule ∧
        row = ⟨rule.formats.label SourceFormat.label, rule.kinds.label DocumentKind.label,
          rule.description⟩ ∧
        ∀ format kind, rule ∈ set.applicable format kind ↔ row.Admits format kind)
        places set.listing := by
  refine ⟨Scope.includes_iff_labelNames SourceFormat.canBeTold_label,
    Scope.includes_iff_labelNames DocumentKind.canBeTold_label, set.written.map Prod.snd,
    set.pairwise_written, fun place => ?_, set.forall₂_listing.imp ?_⟩
  · simp only [List.mem_map, Prod.exists, exists_eq_right, mem_written_iff]
  · rintro place row ⟨rule, at_place, is_written, rfl⟩
    refine ⟨rule, at_place, rfl, fun format kind => ?_⟩
    rw [applicable, List.mem_filter, rule.appliesTo_iff_admits is_written]
    exact and_iff_right (List.mem_of_getElem? at_place)

end RuleSet

/-- The label `IDs` stands for a format in one column and for a kind in the other. -/
example : (⟨"TXT/IDs", "IDs", ""⟩ : ListingRow).Admits .submission .draft ∧
    ¬ (⟨"TXT/IDs", "IDs", ""⟩ : ListingRow).Admits .submission .rfc := by decide +kernel

end DraftNits
