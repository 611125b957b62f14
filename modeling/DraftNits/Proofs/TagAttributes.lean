import DraftNits.Proofs.SpelledAttributes

/-! # Attributes in the tags of a malformed line

A line of a malformed text is searched for the tags of a name. In each of them the last text that
looks like the attribute is taken, as long as it starts in front of the first `>`, and the search
goes on behind it. What is taken may reach beyond the tag, and then the search misses the tags in
between; where nothing does, every tag is searched on its own.

* `RfcXml.tagStarts` — the tags of a name that start on a line, each as the text behind its name.
* `RfcXml.ReadsAs`, `RfcXml.valueIn?_eq_iff` — what is taken in a tag is what is spelled last in it.
* `RfcXml.tagAttributes_eq_filterMap` — the search of a line takes what it takes in each of its
  tags, if nothing that it takes reaches beyond a tag and no tag in which it takes something holds
  another. -/

namespace DraftNits.RfcXml

variable {name : List Char} {inWord : Bool} {behind value : List Char} {place : Nat}

/-! ## The last spelling in a tag -/

/-- What stands in a tag, of the text behind its name. -/
def inside (behind : List Char) : List Char := behind.takeWhile (· != '>')

/-- Whether an attribute is spelled in a tag, `place` characters behind its name; `inWord` says
whether the character in front is a word character. -/
def SpellsInside (name : List Char) (inWord : Bool) (behind : List Char) (place : Nat)
    (value : List Char) : Prop :=
  place < (inside behind).length ∧ SpellsFrom name isValueChar inWord behind place value

/-- Whether an attribute is spelled at a place in a tag and at no later place in it. -/
def LastInside (name : List Char) (inWord : Bool) (behind : List Char) (place : Nat)
    (value : List Char) : Prop :=
  SpellsInside name inWord behind place value ∧
    ∀ later, place < later → ∀ other, ¬ SpellsInside name inWord behind later other

/-- Up to the end of a tag, all characters stand in it. -/
theorem inside_cons {c : Char} (no_end : c ≠ '>') : inside (c :: behind) = c :: inside behind :=
  List.takeWhile_cons_of_pos (bne_iff_ne.2 no_end)

/-- Nothing is spelled in a tag that ends at once. -/
theorem not_spellsInside_end : ¬ SpellsInside name inWord ('>' :: behind) place value :=
  fun spells => absurd spells.1 (Nat.not_lt_zero place)

/-- At the start of a tag, everything is spelled in it. -/
theorem spellsInside_zero {c : Char} (no_end : c ≠ '>') :
    SpellsInside name inWord (c :: behind) 0 value ↔
      SpellsFrom name isValueChar inWord (c :: behind) 0 value := by
  rw [SpellsInside, inside_cons no_end]
  exact and_iff_right (Nat.succ_pos _)

/-- Behind a character, an attribute is spelled in a tag as in the rest of it. -/
theorem spellsInside_succ {c : Char} (no_end : c ≠ '>') :
    SpellsInside name inWord (c :: behind) (place + 1) value ↔
      SpellsInside name (Text.isWord c) behind place value := by
  rw [SpellsInside, inside_cons no_end, spellsFrom_succ, List.length_cons, Nat.succ_lt_succ_iff]
  rfl

/-- Behind a character, an attribute is spelled last in a tag as in the rest of it. -/
theorem lastInside_succ {c : Char} (no_end : c ≠ '>') :
    LastInside name inWord (c :: behind) (place + 1) value ↔
      LastInside name (Text.isWord c) behind place value := by
  rw [LastInside, LastInside, spellsInside_succ no_end]
  refine and_congr_right fun _ => ⟨?_, ?_⟩
  · intro none_later later behind_place other spells
    exact none_later (later + 1) (Nat.succ_lt_succ behind_place) other
      ((spellsInside_succ no_end).2 spells)
  · intro none_later later behind_place other spells
    cases later with
    | zero => exact absurd behind_place (Nat.not_lt_zero _)
    | succ later =>
      exact none_later later (Nat.lt_of_succ_lt_succ behind_place) other
        ((spellsInside_succ no_end).1 spells)

/-- What is spelled later in a tag is taken first. -/
theorem lastAttributeFrom?_cons {c : Char} (no_end : c ≠ '>') :
    lastAttributeFrom? name inWord (c :: behind) =
      (lastAttributeFrom? name (Text.isWord c) behind).or
        (if inWord then none else attributeHere? name isValueChar (c :: behind)) := by
  rw [lastAttributeFrom?, if_neg no_end]
  cases lastAttributeFrom? name (Text.isWord c) behind <;> rfl

/-- What is taken at the start of a tag is what is spelled there. -/
theorem readInside_eq_some_iff {c : Char} (no_end : c ≠ '>') :
    (if inWord then none else attributeHere? name isValueChar (c :: behind)).map Prod.fst =
      some value ↔ SpellsInside name inWord (c :: behind) 0 value := by
  rw [spellsInside_zero no_end]
  exact readHere_eq_some_iff fun _ => isValueChar_of_isQuoteMark

/-- Nothing is taken in a tag exactly if nothing is spelled in it. -/
theorem lastAttributeFrom?_eq_none_iff :
    lastAttributeFrom? name inWord behind = none ↔
      ∀ place value, ¬ SpellsInside name inWord behind place value := by
  induction behind generalizing inWord with
  | nil => exact iff_of_true rfl fun _ _ spells => absurd spells.1 (Nat.not_lt_zero _)
  | cons c behind ih =>
    by_cases no_end : c = '>'
    · subst no_end
      exact iff_of_true rfl fun _ _ => not_spellsInside_end
    · have here : (if inWord then none else attributeHere? name isValueChar (c :: behind)) = none ↔
          ∀ value, ¬ SpellsInside name inWord (c :: behind) 0 value := by
        rw [← Option.map_eq_none_iff (f := Prod.fst), Option.eq_none_iff_forall_ne_some]
        exact forall_congr' fun value => not_congr (readInside_eq_some_iff no_end)
      rw [lastAttributeFrom?_cons no_end, Option.or_eq_none_iff, ih, here]
      constructor
      · rintro ⟨none_later, none_here⟩ place value spells
        cases place with
        | zero => exact none_here value spells
        | succ place => exact none_later place value ((spellsInside_succ no_end).1 spells)
      · intro nothing
        refine ⟨?_, nothing 0⟩
        intro place value spells
        exact nothing (place + 1) value ((spellsInside_succ no_end).2 spells)

/-- What is taken in a tag is what is spelled last in it. -/
theorem lastAttributeFrom?_eq_some_iff :
    (lastAttributeFrom? name inWord behind).map Prod.fst = some value ↔
      ∃ place, LastInside name inWord behind place value := by
  induction behind generalizing inWord value with
  | nil =>
    refine iff_of_false (fun found => by cases found) ?_
    rintro ⟨place, spells, -⟩
    exact absurd spells.1 (Nat.not_lt_zero place)
  | cons c behind ih =>
    by_cases no_end : c = '>'
    · subst no_end
      refine iff_of_false (fun found => by cases found) ?_
      rintro ⟨place, spells, -⟩
      exact not_spellsInside_end spells
    · rw [lastAttributeFrom?_cons no_end]
      cases later : lastAttributeFrom? name (Text.isWord c) behind with
      | some found =>
        -- Something is spelled behind the first character, so nothing at it is spelled last.
        have some_later : ∃ place, LastInside name (Text.isWord c) behind place found.1 :=
          ih.1 (by rw [later]; rfl)
        rw [Option.some_or, ← later, ih]
        constructor
        · rintro ⟨place, last⟩
          exact ⟨place + 1, (lastInside_succ no_end).2 last⟩
        · rintro ⟨place, last⟩
          cases place with
          | zero =>
            obtain ⟨other, spells, -⟩ := some_later
            exact absurd ((spellsInside_succ no_end).2 spells)
              (last.2 (other + 1) (Nat.succ_pos other) found.1)
          | succ place => exact ⟨place, (lastInside_succ no_end).1 last⟩
      | none =>
        have none_later := lastAttributeFrom?_eq_none_iff.1 later
        rw [Option.none_or, readInside_eq_some_iff no_end]
        constructor
        · intro spells
          refine ⟨0, spells, ?_⟩
          intro later behind_first other spells_later
          obtain ⟨later, rfl⟩ := Nat.exists_eq_add_one_of_ne_zero (Nat.ne_of_gt behind_first)
          exact none_later later other ((spellsInside_succ no_end).1 spells_later)
        · rintro ⟨place, spells, -⟩
          cases place with
          | zero => exact spells
          | succ place =>
            exact absurd ((spellsInside_succ no_end).1 spells) (none_later place value)

/-- What is taken in a tag reaches up to a rest of the text. Nothing that it reaches over ends the
tag, unless that is in the value. -/
theorem exists_front_of_lastAttributeFrom? {rest : List Char} (no_end : '>' ∉ name)
    (found : lastAttributeFrom? name inWord behind = some (value, rest)) (within : '>' ∉ value) :
    ∃ front, behind = front ++ rest ∧ '>' ∉ front := by
  induction behind generalizing inWord with
  | nil => cases found
  | cons c behind ih =>
    by_cases ends : c = '>'
    · subst ends
      cases found
    · rw [lastAttributeFrom?_cons ends] at found
      cases later : lastAttributeFrom? name (Text.isWord c) behind with
      | some taken =>
        rw [later] at found
        obtain ⟨front, rfl, not_ended⟩ := ih (later.trans found)
        refine ⟨c :: front, rfl, ?_⟩
        rw [List.mem_cons, not_or]
        exact ⟨fun same => ends same.symm, not_ended⟩
      | none =>
        rw [later, Option.none_or] at found
        cases inWord with
        | true => cases found
        | false =>
          obtain ⟨before, after, mark, ending, is_text, before_blank, after_blank, is_mark,
            is_ending, -, -⟩ := (attributeHere?_eq_some fun _ => isValueChar_of_isQuoteMark).1 found
          refine ⟨name ++ (before ++ '=' :: (after ++ mark :: (value ++ [ending]))), ?_, ?_⟩
          · rw [is_text]
            simp
          · have no_blank : ∀ {blanks : List Char}, (∀ d ∈ blanks, Text.isBlank d = true) →
                '>' ∉ blanks := fun all_blank mem => absurd (all_blank '>' mem) (by decide)
            have no_mark : ∀ {d : Char}, isQuoteMark d = true → '>' ≠ d := by
              rintro _ is_mark rfl
              exact absurd is_mark (by decide)
            simp [no_end, no_blank before_blank, no_blank after_blank, no_mark is_mark, within,
              no_mark is_ending]

/-- What comes in front of an end of the tag stands in the tag. -/
theorem isPrefix_inside {front rest : List Char} (not_ended : '>' ∉ front) :
    front <+: inside (front ++ rest) := by
  have all : ∀ c ∈ front, (c != '>') = true := by
    intro c mem
    refine bne_iff_ne.2 ?_
    rintro rfl
    exact not_ended mem
  rw [inside, List.takeWhile_append_of_pos all]
  exact List.prefix_append _ _

/-! ## The tags of a line -/

/-- The tags of a name that start on a line, from left to right, each as the text behind its name. A
tag may start in another one. -/
def tagStarts (tag : String) : List Char → List (List Char)
  | [] => []
  | c :: cs => (afterTagName? tag (c :: cs)).toList ++ tagStarts tag cs

/-- The value of an attribute that is taken in a tag. -/
def valueIn? (name : String) (behind : List Char) : Option (List Char) :=
  (lastAttributeFrom? name.toList true behind).map Prod.fst

/-- Whether an attribute reads as a given one in a tag: it is spelled last with the value of that
one, or it is not spelled at all if there is none. A word goes on behind the name of the tag. -/
def ReadsAs (name : String) (behind : List Char) : Option (List Char) → Prop
  | some value => ∃ place, LastInside name.toList true behind place value
  | none => ∀ place value, ¬ SpellsInside name.toList true behind place value

/-- The value that is taken is the one that the attribute reads as. -/
theorem valueIn?_eq_iff {name : String} {own : Option (List Char)} :
    valueIn? name behind = own ↔ ReadsAs name behind own := by
  cases own with
  | some value => exact lastAttributeFrom?_eq_some_iff
  | none => exact Option.map_eq_none_iff.trans lastAttributeFrom?_eq_none_iff

instance {name : String} {own : Option (List Char)} : Decidable (ReadsAs name behind own) :=
  decidable_of_iff _ valueIn?_eq_iff

section Scan

variable {tag name : String} {c : Char} {cs line : List Char}

/-- A tag starts with its name, and no word goes on behind it. -/
theorem afterTagName?_eq_some_iff :
    afterTagName? tag cs = some behind ↔
      cs = '<' :: (tag.toList ++ behind) ∧ wordEnds behind = true := by
  unfold afterTagName?
  constructor
  · intro starts
    split at starts
    next rest found =>
      split at starts
      next ends =>
        obtain rfl := Option.some.inj starts
        exact ⟨Text.eq_append_of_afterStart? found, ends⟩
      next => cases starts
    next => cases starts
  · rintro ⟨rfl, ends⟩
    rw [← List.cons_append, Text.afterStart?_append]
    exact if_pos ends

/-- In a text without the character that starts tags, none starts. -/
theorem tagStarts_append {front : List Char} (no_start : '<' ∉ front) (rest : List Char) :
    tagStarts tag (front ++ rest) = tagStarts tag rest := by
  induction front with
  | nil => rfl
  | cons c front ih =>
    rw [List.mem_cons, not_or] at no_start
    have not_here : afterTagName? tag (c :: (front ++ rest)) = none := by
      cases starts : afterTagName? tag (c :: (front ++ rest)) with
      | none => rfl
      | some behind =>
        have is_start := (List.cons.inj (afterTagName?_eq_some_iff.1 starts).1).1
        exact absurd is_start.symm no_start.1
    rw [List.cons_append, tagStarts, not_here, ih no_start.2]
    rfl

/-- The characters that are skipped are not searched. -/
theorem tagAttributesFrom_append (front rest : List Char) :
    tagAttributesFrom tag name front.length (front ++ rest) =
      tagAttributesFrom tag name 0 rest := by
  induction front with
  | nil => rfl
  | cons c front ih =>
    rw [List.cons_append, List.length_cons, tagAttributesFrom]
    exact ih

/-- Where no tag starts, the search goes on. -/
theorem tagAttributes_of_not_starts (not_here : afterTagName? tag (c :: cs) = none) :
    tagAttributes tag name (c :: cs) = tagAttributes tag name cs := by
  rw [tagAttributes, tagAttributesFrom, tagAttribute?, not_here]
  rfl

/-- Where a tag starts in which nothing is taken, the search goes on. -/
theorem tagAttributes_of_none (starts : afterTagName? tag (c :: cs) = some behind)
    (nothing : lastAttributeFrom? name.toList true behind = none) :
    tagAttributes tag name (c :: cs) = tagAttributes tag name cs := by
  rw [tagAttributes, tagAttributesFrom, tagAttribute?, starts, Option.bind_some, nothing]
  rfl

/-- Where a tag starts in which something is taken, the search goes on behind that. -/
theorem tagAttributes_of_some {front rest : List Char}
    (starts : afterTagName? tag (c :: cs) = some (front ++ rest))
    (found : lastAttributeFrom? name.toList true (front ++ rest) = some (value, rest)) :
    tagAttributes tag name (c :: cs) = value :: tagAttributes tag name rest := by
  have is_text := (List.cons.inj (afterTagName?_eq_some_iff.1 starts).1).2
  have skipped : cs.length - rest.length = (tag.toList ++ front).length := by
    rw [is_text]
    simp only [List.length_append]
    omega
  rw [tagAttributes, tagAttributesFrom, tagAttribute?, starts, Option.bind_some, found]
  dsimp only
  rw [skipped, is_text, ← List.append_assoc, tagAttributesFrom_append]
  rfl

/-- What is taken in a tag that starts here is taken of the text. -/
theorem mem_tagAttributes {rest : List Char} (starts : afterTagName? tag (c :: cs) = some behind)
    (found : lastAttributeFrom? name.toList true behind = some (value, rest)) :
    value ∈ tagAttributes tag name (c :: cs) := by
  rw [tagAttributes, tagAttributesFrom, tagAttribute?, starts, Option.bind_some, found]
  exact List.mem_cons_self

/-- Everything that is taken is taken in a tag that starts on the line. -/
theorem exists_start_of_mem {skip : Nat} (mem : value ∈ tagAttributesFrom tag name skip line) :
    ∃ behind ∈ tagStarts tag line, valueIn? name behind = some value := by
  induction line generalizing skip with
  | nil => cases mem
  | cons c cs ih =>
    have later : ∀ {skip}, value ∈ tagAttributesFrom tag name skip cs →
        ∃ behind ∈ tagStarts tag (c :: cs), valueIn? name behind = some value := by
      intro skip mem
      obtain ⟨behind, starts, taken⟩ := ih mem
      exact ⟨behind, List.mem_append_right _ starts, taken⟩
    cases skip with
    | succ skip => exact later mem
    | zero =>
      rw [tagAttributesFrom] at mem
      split at mem
      next first rest found =>
        rcases List.mem_cons.1 mem with rfl | mem
        · obtain ⟨behind, starts, taken⟩ := Option.bind_eq_some_iff.1 found
          refine ⟨behind, List.mem_append_left _ ?_, ?_⟩
          · rw [starts]
            exact List.mem_singleton_self _
          · rw [valueIn?, taken]
            rfl
        · exact later mem
      next => exact later mem

/-- The search of a line takes in each tag what stands there, if nothing that is taken has an end of
a tag in it and no tag in which something is taken holds the start of another. -/
theorem tagAttributes_eq_filterMap (tag_plain : '<' ∉ tag.toList) (name_plain : '>' ∉ name.toList)
    (flat : ∀ behind ∈ tagStarts tag line, ∀ value, valueIn? name behind = some value →
      '<' ∉ inside behind)
    (within : ∀ value ∈ tagAttributes tag name line, '>' ∉ value) :
    tagAttributes tag name line = (tagStarts tag line).filterMap (valueIn? name) := by
  -- By induction on the length: behind what is taken in a tag, the search starts anew.
  induction size : line.length using Nat.strongRecOn generalizing line with
  | _ size ih =>
    subst size
    cases line with
    | nil => rfl
    | cons c cs =>
      have shorter : cs.length < (c :: cs).length := Nat.lt_succ_self _
      cases starts : afterTagName? tag (c :: cs) with
      | none =>
        rw [tagStarts, starts] at flat ⊢
        rw [tagAttributes_of_not_starts starts] at within ⊢
        exact ih _ shorter flat within rfl
      | some behind =>
        rw [tagStarts, starts] at flat ⊢
        obtain ⟨flat_here, flat_later⟩ := List.forall_mem_cons.1 flat
        cases found : lastAttributeFrom? name.toList true behind with
        | none =>
          have nothing : valueIn? name behind = none := by
            rw [valueIn?, found]
            rfl
          rw [tagAttributes_of_none starts found] at within ⊢
          rw [Option.toList_some, List.singleton_append, List.filterMap_cons_none nothing]
          exact ih _ shorter flat_later within rfl
        | some taken =>
          obtain ⟨value, rest⟩ := taken
          have is_value : valueIn? name behind = some value := by
            rw [valueIn?, found]
            rfl
          obtain ⟨front, rfl, not_ended⟩ := exists_front_of_lastAttributeFrom? name_plain found
            (within value (mem_tagAttributes starts found))
          -- What is passed over is a part of the tag, so no tag starts in it.
          have no_start : '<' ∉ tag.toList ++ front := by
            rw [List.mem_append, not_or]
            exact ⟨tag_plain, fun mem => flat_here value is_value
              ((isPrefix_inside not_ended).subset mem)⟩
          have is_text := (List.cons.inj (afterTagName?_eq_some_iff.1 starts).1).2
          have shorter : rest.length < (c :: cs).length := by
            rw [is_text]
            simp only [List.length_cons, List.length_append]
            omega
          have passed : tagStarts tag cs = tagStarts tag rest := by
            rw [is_text, ← List.append_assoc, tagStarts_append no_start]
          rw [tagAttributes_of_some starts found] at within ⊢
          rw [passed] at flat_later ⊢
          rw [Option.toList_some, List.singleton_append, List.filterMap_cons_some is_value]
          refine congrArg (value :: ·) (ih _ shorter flat_later ?_ rfl)
          exact fun other mem => within other (List.mem_cons_of_mem _ mem)

end Scan

end DraftNits.RfcXml
