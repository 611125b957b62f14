import DraftNits.Proofs.Conformance
import DraftNits.Proofs.TextWithoutCase

/-! # Search for a section

A section is searched by the beginning of its title, and both are put into lower case first. Since
the lower case of a beginning need not be a beginning in lower case, the search can miss a title
that begins with the text that is looked for: a text that ends in a capital sigma ends in `ς` on its
own, but a title where the word goes on has `σ` there. It can also stop too early, at a title with a
U+0130 where an `i` is looked for. Nothing else goes wrong.

* `Document.IsFirst` — the first section whose title begins with a text up to case.
* `Document.FindsFirst` — the search finds that one.
* `Document.IsFirst.findSection?_iff` — exactly when it is found.
* `Document.findsFirst_of_plain` — it is found if the text has no sigma and does not end in `i`.
* `Document.findsFirst_iff` — the search for the beginning of a title.
* `Rules.boilerplate_accepts_iff_begins` — the required sections are found by their titles. -/

namespace DraftNits

namespace Document

variable {doc : Document} {s first : Section} {before : List Section} {wanted title : String}
  {part rest : List Char}

/-- Whether a section is the first one whose title begins with a text up to case, and what stands in
front of it. -/
structure IsFirst (doc : Document) (wanted : String) (before : List Section) (first : Section) :
    Prop where
  /-- It is in the document, behind the others. -/
  listed : ∃ after, doc.sections = before ++ first :: after
  /-- Its title begins with the text. -/
  begins : Text.BeginsUpToCase first.title.toList wanted.toList
  /-- No title in front of it does. -/
  none_before : ∀ t ∈ before, ¬ Text.BeginsUpToCase t.title.toList wanted.toList

/-- Whether the search finds the first section whose title begins with a text up to case. -/
def FindsFirst (doc : Document) (wanted : String) : Prop :=
  ∃ before first, doc.IsFirst wanted before first ∧ doc.findSection? wanted = some first

/-- A title is taken exactly if it begins with the text up to case, or is cut in a U+0130, and the
sigmas are the same. -/
theorem titleStarts_iff :
    titleStarts (Text.lowercase wanted.toList) title = true ↔
      (Text.BeginsUpToCase title.toList wanted.toList ∨
        Text.CutsDotted title.toList wanted.toList) ∧
        ¬ Text.HasOtherSigmas title.toList wanted.toList := by
  rw [titleStarts, List.isPrefixOf_iff_prefix, Text.lowercase_isPrefix_iff]

open scoped Classical in
/-- The first section whose title begins with a text is what a search by that finds. -/
theorem exists_isFirst_iff : (∃ before, doc.IsFirst wanted before first) ↔
    doc.sections.find? (fun t => Text.BeginsUpToCase t.title.toList wanted.toList) =
      some first := by
  rw [List.find?_eq_some_iff_append]
  constructor
  · rintro ⟨before, ⟨after, sections⟩, begins, none_before⟩
    exact ⟨decide_eq_true begins, before, after, sections,
      fun t mem => by simpa using none_before t mem⟩
  · rintro ⟨begins, before, after, sections, none_before⟩
    exact ⟨before, ⟨after, sections⟩, of_decide_eq_true begins,
      fun t mem => by simpa using none_before t mem⟩

/-- Where some title begins with a text, one does so first. -/
theorem exists_isFirst (listed : s ∈ doc.sections)
    (begins : Text.BeginsUpToCase s.title.toList wanted.toList) :
    ∃ before first, doc.IsFirst wanted before first := by
  classical
  have some_found : (doc.sections.find? fun t =>
      Text.BeginsUpToCase t.title.toList wanted.toList).isSome = true :=
    List.find?_isSome.2 ⟨s, listed, decide_eq_true begins⟩
  obtain ⟨first, found⟩ := Option.isSome_iff_exists.1 some_found
  obtain ⟨before, is_first⟩ := exists_isFirst_iff.2 found
  exact ⟨before, first, is_first⟩

/-- Only one section is the first one. -/
theorem IsFirst.unique {before' : List Section} {first' : Section}
    (is_first : doc.IsFirst wanted before first) (is_first' : doc.IsFirst wanted before' first') :
    first' = first := by
  classical
  have found := exists_isFirst_iff.1 ⟨before, is_first⟩
  have found' := exists_isFirst_iff.1 ⟨before', is_first'⟩
  exact Option.some.inj (found'.symm.trans found)

/-- The first section whose title begins with a text is found exactly if the sigmas are the same
there and the search is not stopped before it. -/
theorem IsFirst.findSection?_iff (is_first : doc.IsFirst wanted before first) :
    doc.findSection? wanted = some first ↔
      ¬ Text.HasOtherSigmas first.title.toList wanted.toList ∧
        ∀ t ∈ before, Text.CutsDotted t.title.toList wanted.toList →
          Text.HasOtherSigmas t.title.toList wanted.toList := by
  obtain ⟨after, sections⟩ := is_first.listed
  -- In front of the first one only a title that is cut in a U+0130 can be taken.
  have not_taken : (∀ t ∈ before, titleStarts (Text.lowercase wanted.toList) t.title = false) ↔
      ∀ t ∈ before, Text.CutsDotted t.title.toList wanted.toList →
        Text.HasOtherSigmas t.title.toList wanted.toList := by
    refine forall₂_congr fun t mem => ?_
    rw [← Bool.not_eq_true, titleStarts_iff, or_iff_right (is_first.none_before t mem), not_and,
      not_not]
  have taken : titleStarts (Text.lowercase wanted.toList) first.title = true ↔
      ¬ Text.HasOtherSigmas first.title.toList wanted.toList := by
    rw [titleStarts_iff, and_iff_right (.inl is_first.begins)]
  rw [← not_taken, ← taken, findSection?, sections, List.find?_append]
  constructor
  · intro found
    cases early : before.find? fun t => titleStarts (Text.lowercase wanted.toList) t.title with
    | some t =>
      -- What is found early would be the first section itself, which does not stand there.
      rw [early, Option.some_or] at found
      obtain rfl := Option.some.inj found
      exact absurd is_first.begins (is_first.none_before t (List.mem_of_find?_eq_some early))
    | none =>
      rw [early, Option.none_or] at found
      have first_taken := List.find?_some found
      exact ⟨first_taken, fun t mem => Bool.not_eq_true _ ▸ List.find?_eq_none.1 early t mem⟩
  · rintro ⟨first_taken, none_taken⟩
    have none_early : before.find? (fun t => titleStarts (Text.lowercase wanted.toList) t.title) =
        none := List.find?_eq_none.2 fun t mem => by simp [none_taken t mem]
    rw [none_early, Option.none_or]
    exact List.find?_cons_of_pos first_taken

/-- Some title is taken for a text that has no sigma and does not end in `i` exactly if one begins
with it. -/
theorem isSome_findSection?_of_plain (plain : Text.IsPlain wanted.toList) :
    (doc.findSection? wanted).isSome = true ↔
      ∃ s ∈ doc.sections, Text.BeginsUpToCase s.title.toList wanted.toList := by
  simp only [findSection?, List.find?_isSome, titleStarts_iff]
  refine exists_congr fun s => and_congr_right fun _ => ?_
  rw [or_iff_left plain.not_cutsDotted, and_iff_left plain.not_hasOtherSigmas]

/-- Where some title begins with a text that has no sigma and does not end in `i`, the first one
that does is found. -/
theorem findsFirst_of_plain (plain : Text.IsPlain wanted.toList) (listed : s ∈ doc.sections)
    (begins : Text.BeginsUpToCase s.title.toList wanted.toList) : doc.FindsFirst wanted := by
  obtain ⟨before, first, is_first⟩ := exists_isFirst listed begins
  exact ⟨before, first, is_first, is_first.findSection?_iff.2
    ⟨plain.not_hasOtherSigmas, fun t _ cut => absurd cut plain.not_cutsDotted⟩⟩

/-- A text that differs from the beginning of a title in ASCII case begins it up to case. -/
theorem begins_of_same (same : wanted.toList.map Text.asciiLower = part.map Text.asciiLower) :
    Text.BeginsUpToCase (part ++ rest) wanted.toList :=
  ⟨part, List.prefix_append part rest,
    by rw [Text.caseless, Text.caseless, Text.lowercase_congr same]⟩

/-- Some section is the first whose title begins with a text that begins a title up to ASCII case.
It is found exactly if the text on its own has the same sigmas as there, and no title in front of it
is cut in a U+0130 with the same sigmas. The sigmas in the title are others exactly if the text cuts
a word; and a text without sigmas that does not end in i is always found. -/
theorem findsFirst_iff (listed : s ∈ doc.sections) (title : s.title.toList = part ++ rest)
    (same : wanted.toList.map Text.asciiLower = part.map Text.asciiLower) :
    (∃ before first, doc.IsFirst wanted before first ∧
      (doc.FindsFirst wanted ↔ ¬ Text.HasOtherSigmas first.title.toList wanted.toList ∧
        ∀ t ∈ before, Text.CutsDotted t.title.toList wanted.toList →
          Text.HasOtherSigmas t.title.toList wanted.toList)) ∧
    (Text.HasOtherSigmas s.title.toList wanted.toList ↔ Text.CutsWord part rest) ∧
    (Text.IsPlain part → doc.FindsFirst wanted) := by
  have begins : Text.BeginsUpToCase s.title.toList wanted.toList := title ▸ begins_of_same same
  obtain ⟨before, first, is_first⟩ := exists_isFirst listed begins
  refine ⟨⟨before, first, is_first, ?_⟩, ?_, fun plain => ?_⟩
  · rw [← is_first.findSection?_iff]
    constructor
    · rintro ⟨before', first', is_first', found⟩
      rw [found, is_first.unique is_first']
    · exact fun found => ⟨before, first, is_first, found⟩
  · rw [title, Text.HasOtherSigmas, Text.lowercase_congr same]
    exact Text.hasOtherSigmas_append_iff
  · refine findsFirst_of_plain ?_ listed begins
    rw [Text.IsPlain, Text.caseless, Text.lowercase_congr same]
    exact plain

/-- A document with one section, whose title is a word with a sigma in the middle. -/
def withWord : Document :=
  { path := "draft.txt", format := .paginated, kind := .draft, lines := [], front := .empty,
    sections := [⟨none, "ΟΔΟΣΗΜΑ", 1⟩], references := [], citations := [], diagnostics := [] }

/-- A word is not found if it is cut behind its sigma, but it is found if it is cut before. -/
theorem findsFirst_iff_word :
    ⟨none, "ΟΔΟΣΗΜΑ", 1⟩ ∈ withWord.sections ∧ Text.CutsWord "ΟΔΟΣ".toList "ΗΜΑ".toList ∧
      ¬ withWord.FindsFirst "ΟΔΟΣ" ∧ Text.IsPlain "ΟΔΟ".toList ∧ withWord.FindsFirst "ΟΔΟ" := by
  have listed : ⟨none, "ΟΔΟΣΗΜΑ", 1⟩ ∈ withWord.sections := List.mem_singleton.2 rfl
  have cuts : Text.CutsWord "ΟΔΟΣ".toList "ΗΜΑ".toList :=
    ⟨"ΟΔΟ".toList, [], rfl, by decide +kernel, List.forall_mem_nil _, by decide +kernel⟩
  have plain : Text.IsPlain "ΟΔΟ".toList := ⟨by decide +kernel, by decide +kernel⟩
  have behind : "ΟΔΟΣΗΜΑ".toList = "ΟΔΟΣ".toList ++ "ΗΜΑ".toList := by decide +kernel
  have in_front : "ΟΔΟΣΗΜΑ".toList = "ΟΔΟ".toList ++ "ΣΗΜΑ".toList := by decide +kernel
  obtain ⟨⟨before, first, is_first, found⟩, others, -⟩ :=
    @findsFirst_iff withWord _ "ΟΔΟΣ" "ΟΔΟΣ".toList "ΗΜΑ".toList listed behind rfl
  obtain ⟨-, -, always⟩ :=
    @findsFirst_iff withWord _ "ΟΔΟ" "ΟΔΟ".toList "ΣΗΜΑ".toList listed in_front rfl
  refine ⟨listed, cuts, fun finds => ?_, plain, always plain⟩
  -- The only section is the first one, and its sigma is another one.
  obtain ⟨after, sections⟩ := is_first.listed
  have is_listed : first ∈ withWord.sections := by
    rw [sections]
    exact List.mem_append_cons_self
  obtain rfl := List.mem_singleton.1 is_listed
  exact (found.1 finds).1 (others.2 cuts)

/-- The search by the beginning of a title can find nothing: the sigma of the title is not the one
that its beginning has on its own. -/
theorem not_findsFirst :
    ¬ ∀ (doc : Document) (s : Section) (part rest : List Char) (wanted : String),
      s ∈ doc.sections → s.title.toList = part ++ rest →
        wanted.toList.map Text.asciiLower = part.map Text.asciiLower → doc.FindsFirst wanted := by
  intro all_found
  obtain ⟨before, first, -, found⟩ := all_found withWord ⟨none, "ΟΔΟΣΗΜΑ", 1⟩ "ΟΔΟΣ".toList
    "ΗΜΑ".toList "ΟΔΟΣ" (List.mem_singleton.2 rfl) (by decide +kernel) rfl
  have nothing : withWord.findSection? "ΟΔΟΣ" = none := by decide +kernel
  rw [nothing] at found
  cases found

end Document

/-- The rule on the required sections accepts the documents with a section for each title, which
begins with it up to case. -/
theorem Rules.boilerplate_accepts_iff_begins {doc : Document} {options : Options} :
    boilerplate.Accepts doc options ↔ ∀ title ∈ boilerplateTitles,
      ∃ s ∈ doc.sections, Text.BeginsUpToCase s.title.toList title.toList := by
  have plain : ∀ title ∈ boilerplateTitles, Text.IsPlain title.toList := by
    decide +kernel
  simp only [Check.Accepts, boilerplate, Except.ok.injEq, Finding.ofNits_eq_nil_iff,
    List.map_eq_nil_iff, List.filter_eq_nil_iff, Option.isNone_iff_eq_none,
    ← Option.isSome_iff_ne_none]
  exact forall₂_congr fun title mem => Document.isSome_findSection?_of_plain (plain title mem)

end DraftNits
