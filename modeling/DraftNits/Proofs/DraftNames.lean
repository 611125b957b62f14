import DraftNits.DraftName
import Mathlib.Data.List.Basic

/-! # Well-formed draft names

What a draft name is, said from left to right and without cutting it at its hyphens
(`DraftName.IsName`).

* `DraftName.isWellFormed_iff_isName` — the well-formed texts are the draft names.
* `DraftName.isWellFormed_withoutExtension_iff` — a stated name may carry `.txt` after it. -/

namespace DraftNits

/-- The characters of joined texts are those of the separator and of the texts. -/
theorem Text.mem_intercalate {c : Char} {separator : List Char} {parts : List (List Char)}
    (mem : c ∈ separator.intercalate parts) : c ∈ separator ∨ ∃ part ∈ parts, c ∈ part := by
  induction parts with
  | nil => cases mem
  | cons first rest ih =>
    cases rest with
    | nil =>
      rw [List.intercalate_singleton] at mem
      exact .inr ⟨first, List.mem_cons_self, mem⟩
    | cons second rest =>
      rw [List.intercalate_cons_cons, List.mem_append, List.mem_append] at mem
      rcases mem with (in_first | between) | later
      · exact .inr ⟨first, List.mem_cons_self, in_first⟩
      · exact .inl between
      · rcases ih later with between | ⟨part, among, mem⟩
        · exact .inl between
        · exact .inr ⟨part, List.mem_cons_of_mem _ among, mem⟩

namespace DraftName

/-- A draft name, read from left to right: `draft`, components and two digits, with hyphens between
them. There are two components or more. -/
def IsName (cs : List Char) : Prop :=
  ∃ components a b, 2 ≤ List.length components ∧
    (∀ component ∈ components, component ≠ [] ∧ ∀ c ∈ component, isComponentChar c = true) ∧
    Text.isDecimalDigit a = true ∧ Text.isDecimalDigit b = true ∧
    cs = "draft-".toList ++ ['-'].intercalate components ++ ['-', a, b]

/-- A component is a text of component characters that is not empty. -/
theorem isComponent_iff {cs : List Char} :
    isComponent cs = true ↔ cs ≠ [] ∧ ∀ c ∈ cs, isComponentChar c = true := by
  simp [isComponent]

/-- A revision is two decimal digits. -/
theorem isRevision_iff {cs : List Char} :
    isRevision cs = true ↔
      ∃ a b, cs = [a, b] ∧ Text.isDecimalDigit a = true ∧ Text.isDecimalDigit b = true := by
  constructor
  · intro h
    simp only [isRevision, Bool.and_eq_true, beq_iff_eq, List.all_eq_true] at h
    obtain ⟨a, b, rfl⟩ := List.length_eq_two.1 h.1
    exact ⟨a, b, rfl, h.2 a (by simp), h.2 b (by simp)⟩
  · rintro ⟨a, b, rfl, ha, hb⟩
    simp [isRevision, ha, hb]

/-- A hyphen is no component character. -/
theorem hyphen_notMem_component {component : List Char}
    (h : ∀ c ∈ component, isComponentChar c = true) : '-' ∉ component := fun mem =>
  absurd (h '-' mem) (by decide)

/-- Texts joined by hyphens, a first and a last one named apart. -/
theorem intercalate_cons_concat (first last : List Char) {middle : List (List Char)}
    (h : middle ≠ []) :
    ['-'].intercalate (first :: (middle ++ [last])) =
      first ++ '-' :: (['-'].intercalate middle ++ '-' :: last) := by
  -- The last text is split off by induction on the texts before it.
  have join : ∀ (init : List (List Char)), init ≠ [] →
      ['-'].intercalate (init ++ [last]) = ['-'].intercalate init ++ '-' :: last := by
    intro init nonempty
    induction init with
    | nil => exact absurd rfl nonempty
    | cons head tail ih =>
      cases tail with
      | nil => simp [List.intercalate]
      | cons next tail =>
        have rest := ih (by simp)
        simp only [List.intercalate, List.cons_append, List.intersperse_cons_cons,
          List.flatten_cons, List.append_assoc] at rest ⊢
        rw [rest]
  cases middle with
  | nil => exact absurd rfl h
  | cons head tail =>
    rw [← join (head :: tail) (by simp)]
    simp [List.intercalate]

/-- The well-formed texts are the draft names. -/
theorem isWellFormed_iff_isName {cs : List Char} : isWellFormed cs = true ↔ IsName cs := by
  constructor
  · intro h
    unfold isWellFormed at h
    split at h
    · cases h
    next start parts split =>
      simp only [Bool.and_eq_true, beq_iff_eq, decide_eq_true_eq, List.all_eq_true] at h
      obtain ⟨⟨⟨rfl, many⟩, all⟩, ends⟩ := h
      have nonempty : parts ≠ [] := by rintro rfl; simp at many
      -- The last part is the revision, and those between it and `draft` are the components.
      rw [List.getLast?_eq_getLast_of_ne_nil nonempty, Option.any_some, isRevision_iff] at ends
      obtain ⟨a, b, last, ha, hb⟩ := ends
      have parts_eq : parts = parts.dropLast ++ [[a, b]] := by
        rw [← last, List.dropLast_append_getLast]
      have joined : ['-'].intercalate (cs.splitOn '-') = cs := List.intercalate_splitOn '-'
      have middle : parts.dropLast ≠ [] := by
        intro none
        rw [none] at parts_eq
        rw [parts_eq] at many
        simp at many
      -- Joining the parts again gives back the text that was cut.
      rw [split, parts_eq, intercalate_cons_concat _ _ middle] at joined
      refine ⟨parts.dropLast, a, b, by rw [List.length_dropLast]; omega,
        fun component mem => isComponent_iff.1 (all component mem), ha, hb, ?_⟩
      rw [← joined]
      simp
  · rintro ⟨components, a, b, many, all, ha, hb, rfl⟩
    have nonempty : components ≠ [] := by rintro rfl; simp at many
    have no_digit : ∀ {d}, Text.isDecimalDigit d = true → '-' ≠ d := by
      rintro d is_digit rfl
      exact absurd is_digit (by decide)
    -- No part has a hyphen in it, so cutting the joined parts gives back the parts.
    have cut : ∀ part ∈ "draft".toList :: (components ++ [[a, b]]), '-' ∉ part := by
      intro part mem
      rcases List.mem_cons.1 mem with rfl | mem
      · decide
      rcases List.mem_append.1 mem with mem | mem
      · exact hyphen_notMem_component (all part mem).2
      · rw [List.mem_singleton.1 mem]
        simp [no_digit ha, no_digit hb]
    have joined := List.splitOn_intercalate '-' cut (by simp)
    rw [intercalate_cons_concat _ _ nonempty] at joined
    have is_text : "draft-".toList ++ ['-'].intercalate components ++ ['-', a, b] =
        "draft".toList ++ '-' :: (['-'].intercalate components ++ '-' :: [a, b]) := by simp
    rw [isWellFormed, is_text, joined]
    have revision : isRevision [a, b] = true := isRevision_iff.2 ⟨a, b, rfl, ha, hb⟩
    have parts : ∀ component ∈ components, isComponent component = true := fun component mem =>
      isComponent_iff.2 (all component mem)
    simpa [revision] using ⟨by omega, parts⟩

/-- A stated name is well formed if it is a draft name, as it stands or before `.txt`. -/
theorem isWellFormed_withoutExtension_iff {stated : List Char} :
    isWellFormed (withoutExtension stated) = true ↔
      ∃ name, IsName name ∧ (stated = name ∨ stated = name ++ ".txt".toList) := by
  rw [isWellFormed_iff_isName, withoutExtension]
  constructor
  · intro h
    by_cases suffix : ".txt".toList.isSuffixOf stated
    · rw [if_pos suffix] at h
      obtain ⟨name, rfl⟩ := List.isSuffixOf_iff_suffix.1 suffix
      exact ⟨name, by simpa using h, .inr rfl⟩
    · rw [if_neg suffix] at h
      exact ⟨stated, h, .inl rfl⟩
  · rintro ⟨name, is_name, rfl | rfl⟩
    · -- A name ends in a digit, so nothing is taken from it.
      have no_suffix : ¬ ".txt".toList.isSuffixOf stated = true := by
        rw [List.isSuffixOf_iff_suffix]
        rintro ⟨front, rfl⟩
        obtain ⟨components, a, b, -, -, -, hb, same⟩ := is_name
        have last : 't' = b := by simpa using congrArg (fun cs => cs.reverse.head?) same
        exact absurd (last ▸ hb) (by decide)
      rwa [if_neg no_suffix]
    · rw [if_pos (by simp [List.isSuffixOf_iff_suffix])]
      simpa using is_name

end DraftName

end DraftNits
