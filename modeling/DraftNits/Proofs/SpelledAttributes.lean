import DraftNits.Proofs.Excerpts
import DraftNits.Proofs.JsonParts

/-! # The first spelling of an attribute

A malformed text is searched for attributes by what they look like: where a word starts, a name, an
equals sign and a value between quotation marks, with white space around the sign. Such a spelling
need not belong to any tag. The search of a line finds the first one, by its place on the line.

* `RfcXml.BeginsWith` — the texts that start with an attribute.
* `RfcXml.SpellsAt`, `RfcXml.FirstAt` — the places of a line at which an attribute is spelled, and the
  first of them.
* `RfcXml.firstAttributeFrom?_eq_some_iff`, `RfcXml.firstAttributeFrom?_eq_none_iff` — the search of a
  text finds the first spelling, if there is one. -/

namespace DraftNits.RfcXml

/-! ## Spellings -/

/-- Whether a text begins with an attribute: its name, an equals sign with white space around it, and
between quotation marks of any kind a value that is not empty and has all characters in a class. -/
def BeginsWith (name : List Char) (p : Char → Bool) (text value : List Char) : Prop :=
  ∃ before after mark ending rest,
    text = name ++ (before ++ '=' :: (after ++ mark :: (value ++ ending :: rest))) ∧
      (∀ c ∈ before, Text.isBlank c = true) ∧ (∀ c ∈ after, Text.isBlank c = true) ∧
      isQuoteMark mark = true ∧ isQuoteMark ending = true ∧ value ≠ [] ∧ ∀ c ∈ value, p c = true

/-- Whether an attribute is spelled behind the first `place` characters of a text; `inWord` says
whether the character before the text is a word character. -/
def SpellsFrom (name : List Char) (p : Char → Bool) (inWord : Bool) (text : List Char) (place : Nat)
    (value : List Char) : Prop :=
  ∃ before after, text = before ++ after ∧ before.length = place ∧
    (before.getLast?.map Text.isWord).getD inWord = false ∧ BeginsWith name p after value

/-- Whether an attribute is spelled behind the first `place` characters of a line, where a word may
start. -/
def SpellsAt (name : String) (p : Char → Bool) (line : List Char) (place : Nat)
    (value : List Char) : Prop :=
  SpellsFrom name.toList p false line place value

/-- Whether an attribute is spelled at a place of a line and nowhere in front of it. -/
def FirstAt (name : String) (p : Char → Bool) (line : List Char) (place : Nat)
    (value : List Char) : Prop :=
  SpellsAt name p line place value ∧ ∀ earlier < place, ∀ other, ¬ SpellsAt name p line earlier other

variable {name : List Char} {p : Char → Bool} {inWord : Bool} {text value : List Char} {place : Nat}

/-- There are two kinds of quotation marks. -/
theorem isQuoteMark_iff {c : Char} : isQuoteMark c = true ↔ c = '"' ∨ c = '\'' := by
  simp [isQuoteMark]

/-- A quotation mark is no white space. -/
theorem isBlank_of_isQuoteMark {c : Char} (is_mark : isQuoteMark c = true) :
    Text.isBlank c = false := by
  rcases isQuoteMark_iff.1 is_mark with rfl | rfl <;> decide

/-- No quotation mark stands in a value that is not restricted. -/
theorem isValueChar_of_isQuoteMark {c : Char} (is_mark : isQuoteMark c = true) :
    isValueChar c = false := by
  rw [isValueChar, is_mark]
  rfl

/-- No quotation mark is a digit. -/
theorem isDecimalDigit_of_isQuoteMark {c : Char} (is_mark : isQuoteMark c = true) :
    Text.isDecimalDigit c = false := by
  rcases isQuoteMark_iff.1 is_mark with rfl | rfl <;> decide +kernel

/-- A value in quotation marks is read as it is written. -/
theorem quoted?_eq_some_iff (stops : ∀ c, isQuoteMark c = true → p c = false)
    {cs rest : List Char} : quoted? p cs = some (value, rest) ↔
      ∃ mark ending, cs = mark :: (value ++ ending :: rest) ∧ isQuoteMark mark = true ∧
        isQuoteMark ending = true ∧ value ≠ [] ∧ ∀ c ∈ value, p c = true := by
  constructor
  · intro found
    cases cs with
    | nil => cases found
    | cons mark cs =>
      rw [quoted?] at found
      split at found
      next ending after is_rest =>
        split at found
        next marked =>
          obtain ⟨rfl, rfl⟩ := Prod.mk.inj (Option.some.inj found)
          simp only [Bool.and_eq_true, Bool.not_eq_true', List.isEmpty_eq_false_iff] at marked
          have split := List.take_append_drop (cs.takeWhile p).length cs
          rw [← List.prefix_iff_eq_take.1 (List.takeWhile_prefix p), is_rest] at split
          exact ⟨mark, ending, by rw [split], marked.1.1, marked.1.2, marked.2,
            List.all_eq_true.1 List.all_takeWhile⟩
        next => cases found
      next => cases found
  · rintro ⟨mark, ending, rfl, is_mark, is_ending, some_value, all⟩
    have taken : (value ++ ending :: rest).takeWhile p = value := by
      refine Json.takeWhile_append all ?_
      rintro c ⟨⟩
      exact stops ending is_ending
    simp [quoted?, taken, is_mark, is_ending, some_value]

/-- An attribute is read where a text begins with it, up to the mark that ends its value. -/
theorem attributeHere?_eq_some (stops : ∀ c, isQuoteMark c = true → p c = false)
    {cs rest : List Char} : attributeHere? name p cs = some (value, rest) ↔
      ∃ before after mark ending,
        cs = name ++ (before ++ '=' :: (after ++ mark :: (value ++ ending :: rest))) ∧
          (∀ c ∈ before, Text.isBlank c = true) ∧ (∀ c ∈ after, Text.isBlank c = true) ∧
          isQuoteMark mark = true ∧ isQuoteMark ending = true ∧ value ≠ [] ∧
            ∀ c ∈ value, p c = true := by
  constructor
  · intro is_here
    unfold attributeHere? at is_here
    split at is_here
    · cases is_here
    next behind start =>
      obtain rfl := Text.eq_append_of_afterStart? start
      split at is_here
      next tail trimmed =>
        obtain ⟨mark, ending, is_quoted, is_mark, is_ending, some_value, all⟩ :=
          (quoted?_eq_some_iff stops).1 is_here
        obtain ⟨before, is_behind, before_blank⟩ := Text.exists_trimStart behind
        obtain ⟨after, is_tail, after_blank⟩ := Text.exists_trimStart tail
        refine ⟨before, after, mark, ending, ?_, before_blank, after_blank, is_mark, is_ending,
          some_value, all⟩
        rw [← is_quoted, ← is_tail, ← trimmed, ← is_behind]
      next => cases is_here
  · rintro ⟨before, after, mark, ending, rfl, before_blank, after_blank, is_mark, is_ending,
      some_value, all⟩
    have quoted : quoted? p (mark :: (value ++ ending :: rest)) = some (value, rest) :=
      (quoted?_eq_some_iff stops).2 ⟨mark, ending, rfl, is_mark, is_ending, some_value, all⟩
    have no_blank : Text.isBlank '=' = false := by decide
    simp only [attributeHere?, Text.afterStart?_append, Text.trimStart_append before_blank no_blank,
      Text.trimStart_append after_blank (isBlank_of_isQuoteMark is_mark), quoted]

/-- The value is read that the attribute has with which a text begins. -/
theorem attributeHere?_eq_some_iff (stops : ∀ c, isQuoteMark c = true → p c = false)
    {cs : List Char} :
    (attributeHere? name p cs).map Prod.fst = some value ↔ BeginsWith name p cs value := by
  constructor
  · intro found
    obtain ⟨⟨_, rest⟩, is_here, rfl⟩ := Option.map_eq_some_iff.1 found
    obtain ⟨before, after, mark, ending, parts⟩ := (attributeHere?_eq_some stops).1 is_here
    exact ⟨before, after, mark, ending, rest, parts⟩
  · rintro ⟨before, after, mark, ending, rest, parts⟩
    rw [(attributeHere?_eq_some stops).2 ⟨before, after, mark, ending, parts⟩]
    rfl

/-! ## The first spelling -/

/-- An attribute is spelled at the start of a text if the text begins with it and no word goes on. -/
theorem spellsFrom_zero :
    SpellsFrom name p inWord text 0 value ↔ inWord = false ∧ BeginsWith name p text value := by
  constructor
  · rintro ⟨before, after, rfl, nothing, no_word, begins⟩
    obtain rfl := List.length_eq_zero_iff.1 nothing
    exact ⟨no_word, begins⟩
  · rintro ⟨no_word, begins⟩
    exact ⟨[], text, rfl, rfl, no_word, begins⟩

/-- Behind a character an attribute is spelled as in the rest of the text. -/
theorem spellsFrom_succ {c : Char} : SpellsFrom name p inWord (c :: text) (place + 1) value ↔
    SpellsFrom name p (Text.isWord c) text place value := by
  constructor
  · rintro ⟨before, after, split, is_place, no_word, begins⟩
    cases before with
    | nil => cases is_place
    | cons d before =>
      obtain ⟨rfl, rfl⟩ := List.cons.inj split
      refine ⟨before, after, rfl, Nat.succ.inj is_place, ?_, begins⟩
      simpa [List.getLast?_cons] using no_word
  · rintro ⟨before, after, rfl, rfl, no_word, begins⟩
    refine ⟨c :: before, after, rfl, rfl, ?_, begins⟩
    simpa [List.getLast?_cons] using no_word

/-- Nothing is spelled in a text without characters. -/
theorem not_spellsFrom_nil : ¬ SpellsFrom name p inWord [] place value := by
  rintro ⟨before, after, split, -, -, _, _, _, _, _, rfl, -⟩
  simp at split

/-- A value that is spelled is not empty. -/
theorem SpellsFrom.value_ne_nil (spells : SpellsFrom name p inWord text place value) :
    value ≠ [] := by
  obtain ⟨_, _, -, -, -, _, _, _, _, _, -, -, -, -, -, some_value, -⟩ := spells
  exact some_value

/-- What is read at the start of a text is what is spelled there. -/
theorem readHere_eq_some_iff (stops : ∀ c, isQuoteMark c = true → p c = false) :
    (if inWord then none else attributeHere? name p text).map Prod.fst = some value ↔
      SpellsFrom name p inWord text 0 value := by
  rw [spellsFrom_zero, ← attributeHere?_eq_some_iff stops]
  cases inWord <;> simp

/-- The search of a text finds the first spelling. -/
theorem firstAttributeFrom?_eq_some_iff (stops : ∀ c, isQuoteMark c = true → p c = false) :
    firstAttributeFrom? name p inWord text = some value ↔
      ∃ place, SpellsFrom name p inWord text place value ∧
        ∀ earlier < place, ∀ other, ¬ SpellsFrom name p inWord text earlier other := by
  induction text generalizing inWord with
  | nil => simp [firstAttributeFrom?, not_spellsFrom_nil]
  | cons c cs ih =>
    have here : ∀ v, (if inWord then none else attributeHere? name p (c :: cs)).map Prod.fst =
        some v ↔ SpellsFrom name p inWord (c :: cs) 0 v := fun v => readHere_eq_some_iff stops
    rw [firstAttributeFrom?]
    cases found : (if inWord then none else attributeHere? name p (c :: cs)) with
    | some first =>
      have is_here := (here first.1).1 (by rw [found]; rfl)
      constructor
      · rintro ⟨⟩
        exact ⟨0, is_here, fun _ before => absurd before (Nat.not_lt_zero _)⟩
      · rintro ⟨place, spells, none_before⟩
        cases place with
        | zero =>
          have same := (here value).2 spells
          rw [found] at same
          exact same
        | succ place => exact absurd is_here (none_before 0 (Nat.succ_pos place) first.1)
    | none =>
      have not_here : ∀ v, ¬ SpellsFrom name p inWord (c :: cs) 0 v := by
        intro v spells
        have read := (here v).2 spells
        rw [found] at read
        cases read
      refine ih.trans ⟨?_, ?_⟩
      · rintro ⟨place, spells, none_before⟩
        refine ⟨place + 1, spellsFrom_succ.2 spells, fun earlier before other => ?_⟩
        cases earlier with
        | zero => exact not_here other
        | succ earlier =>
          rw [spellsFrom_succ]
          exact none_before earlier (Nat.lt_of_succ_lt_succ before) other
      · rintro ⟨place, spells, none_before⟩
        cases place with
        | zero => exact absurd spells (not_here value)
        | succ place =>
          refine ⟨place, spellsFrom_succ.1 spells, fun earlier before other spells_other => ?_⟩
          exact none_before (earlier + 1) (Nat.succ_lt_succ before) other
            (spellsFrom_succ.2 spells_other)

/-- The search of a text finds nothing if nothing is spelled. -/
theorem firstAttributeFrom?_eq_none_iff (stops : ∀ c, isQuoteMark c = true → p c = false) :
    firstAttributeFrom? name p inWord text = none ↔
      ∀ place value, ¬ SpellsFrom name p inWord text place value := by
  constructor
  · intro nothing place
    -- A spelling without one in front of it would have been found.
    induction place using Nat.strongRecOn with
    | _ place ih =>
      intro value spells
      have found := (firstAttributeFrom?_eq_some_iff stops).2 ⟨place, spells, ih⟩
      rw [nothing] at found
      cases found
  · intro nothing
    cases found : firstAttributeFrom? name p inWord text with
    | none => rfl
    | some value =>
      obtain ⟨place, spells, -⟩ := (firstAttributeFrom?_eq_some_iff stops).1 found
      exact absurd spells (nothing place value)

/-! ## Lines -/

section Lines

variable {wanted : String} {line : List Char}

/-- The attribute that is found on a line is the first that is spelled. -/
theorem firstAttribute?_eq_some_iff :
    firstAttribute? wanted line = some value ↔
      ∃ place, FirstAt wanted isValueChar line place value :=
  firstAttributeFrom?_eq_some_iff fun _ => isValueChar_of_isQuoteMark

theorem firstAttribute?_eq_none_iff :
    firstAttribute? wanted line = none ↔
      ∀ place value, ¬ SpellsAt wanted isValueChar line place value :=
  firstAttributeFrom?_eq_none_iff fun _ => isValueChar_of_isQuoteMark

/-- The number that is found on a line is the first that is spelled. -/
theorem firstNumber?_eq_some_iff :
    firstNumber? wanted line = some value ↔
      ∃ place, FirstAt wanted Text.isDecimalDigit line place value :=
  firstAttributeFrom?_eq_some_iff fun _ => isDecimalDigit_of_isQuoteMark

/-- The first spelling is not behind another one. -/
theorem FirstAt.le {place other : Nat} {value' : List Char}
    (first : FirstAt wanted p line place value) (spells : SpellsAt wanted p line other value') :
    place ≤ other :=
  Nat.le_of_not_lt fun before => first.2 other before value' spells

end Lines

end DraftNits.RfcXml
