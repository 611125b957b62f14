import DraftNits.PlainText.Body
import DraftNits.PlainText.FrontPage
import DraftNits.RfcXml.Recovery
import Mathlib.Data.List.Infix

/-! # What is read stands in the text

The readers of names, headings, anchors and attributes make nothing up: what they return is a part
of the line that they were given, and the anchor of a reference or of a citation stands there in its
brackets.

* `DraftName.find?_isInfix` — a draft name is a part of the line.
* `PlainText.Columns.isInfix_ofLine` — so are the columns of a header line.
* `PlainText.Heading.within_of_ofLine?` — so are the number and the title of a heading.
* `PlainText.entryAnchor?_isInfix`, `PlainText.citedAnchors_isInfix` — so are anchors in brackets.
* `RfcXml.firstAttribute?_isInfix`, `RfcXml.tagAttributes_isInfix` — so are the values of
  attributes. -/

namespace DraftNits

namespace Text

/-! ## Trimming -/

/-- A text without leading white space is its end. -/
theorem trimStart_isSuffix (cs : List Char) : trimStart cs <:+ cs := List.dropWhile_suffix _

/-- A text without trailing white space is its beginning. -/
theorem trimEnd_isPrefix (cs : List Char) : trimEnd cs <+: cs := by
  obtain ⟨tail, split, -⟩ := exists_dropEndWhile_append isBlank cs
  exact ⟨tail, split.symm⟩

/-- A trimmed text is a part of the text. -/
theorem trim_isInfix (cs : List Char) : trim cs <:+: cs :=
  (trimEnd_isPrefix _).isInfix.trans (trimStart_isSuffix cs).isInfix

/-- What follows a given beginning is the end of the text. -/
theorem isSuffix_of_afterStart? {start cs rest : List Char}
    (found : afterStart? start cs = some rest) : rest <:+ cs :=
  ⟨start, (eq_append_of_afterStart? found).symm⟩

/-- The characters of a class together with the one that ends them are the beginning of the text. -/
theorem takeWhile_concat_isPrefix {p : Char → Bool} {cs : List Char} {ending : Char}
    (ends : (cs.dropWhile p).head? = some ending) : cs.takeWhile p ++ [ending] <+: cs := by
  obtain ⟨rest, is_rest⟩ := List.head?_eq_some_iff.1 ends
  refine ⟨rest, ?_⟩
  calc cs.takeWhile p ++ [ending] ++ rest
      = cs.takeWhile p ++ cs.dropWhile p := by rw [is_rest, List.append_assoc]; rfl
    _ = cs := List.takeWhile_append_dropWhile

/-- A text occurs inside another exactly if it is a part of it. -/
theorem contains_iff {needle cs : List Char} : contains needle cs = true ↔ needle <:+: cs := by
  constructor
  · intro found
    obtain ⟨⟨before, after⟩, is_split⟩ := Option.isSome_iff_exists.1 found
    exact ⟨before, after, (eq_append_of_splitAt? is_split).symm⟩
  · intro is_part
    induction cs with
    | nil =>
      rw [List.infix_nil.1 is_part]
      rfl
    | cons c cs ih =>
      rw [contains, splitAt?]
      split
      next => rfl
      next not_here =>
        rcases List.infix_cons_iff.1 is_part with here | later
        · exact absurd (List.isPrefixOf_iff_prefix.2 here) not_here
        · rw [Option.isSome_map]
          exact ih later

end Text

namespace DraftName

/-! ## Draft names -/

/-- The longest name is the one that was found before, or it starts where the search started. -/
theorem longest_isPrefix {read cs name : List Char} {found : Option (List Char)}
    (is_longest : longest read found cs = some name) :
    found = some name ∨ name <+: read.reverse ++ cs := by
  induction cs generalizing read found with
  | nil => exact .inl is_longest
  | cons c cs ih =>
    rw [longest] at is_longest
    split at is_longest
    next =>
      rcases ih is_longest with before | later
      · exact .inl before
      · exact .inr (by simpa using later)
    next =>
    split at is_longest
    next hyphen =>
      obtain ⟨rfl, -⟩ := hyphen
      rcases ih is_longest with before | later
      · -- A name that ends here is the text read so far with a hyphen and two digits.
        split at before
        · obtain rfl := Option.some.inj before
          exact .inr (List.prefix_append_right_inj _ |>.2
            (List.cons_prefix_cons.2 ⟨rfl, List.take_prefix 2 cs⟩))
        · exact .inl before
      · exact .inr (by simpa using later)
    next => exact .inl is_longest

/-- A name that starts here is the beginning of the text. -/
theorem here?_isPrefix {cs name : List Char} (found : here? cs = some name) : name <+: cs := by
  unfold here? at found
  split at found
  · cases found
  next rest start =>
    rcases longest_isPrefix found with before | later
    · cases before
    · rwa [List.reverse_reverse, ← Text.eq_append_of_afterStart? start] at later

/-- The first name in a text is a part of it. -/
theorem findFrom?_isInfix {inWord : Bool} {cs name : List Char}
    (found : findFrom? inWord cs = some name) : name <:+: cs := by
  induction cs generalizing inWord with
  | nil => cases found
  | cons c cs ih =>
    rw [findFrom?] at found
    split at found
    next other is_here =>
      obtain rfl : other = name := Option.some.inj found
      split at is_here
      · cases is_here
      · exact (here?_isPrefix is_here).isInfix
    next => exact List.infix_cons (ih found)

/-- The first draft name in a line is a part of it. -/
theorem find?_isInfix {line name : List Char} (found : find? line = some name) : name <:+: line :=
  findFrom?_isInfix found

end DraftName

namespace PlainText

/-! ## Columns and form feeds -/

/-- The columns of a line are parts of it. -/
theorem Columns.isInfix_ofLine (line : List Char) :
    (∀ left ∈ (Columns.ofLine line).left, left <:+: line) ∧
      ∀ right ∈ (Columns.ofLine line).right, right <:+: line := by
  have trimmed := (Text.trimEnd_isPrefix line).isInfix
  unfold Columns.ofLine
  dsimp only
  split
  · simp
  split
  · simpa using (Text.trimStart_isSuffix _).isInfix.trans trimmed
  split
  · simpa using trimmed
  next left right split =>
    have whole := Text.eq_append_of_splitAt? split
    have before : left <:+: Text.trimEnd line :=
      ⟨[], [' ', ' '] ++ right, by rw [whole, List.nil_append, List.append_assoc]⟩
    have after : right <:+ Text.trimEnd line := ⟨left ++ [' ', ' '], whole.symm⟩
    simp only [Option.mem_some_iff, forall_eq']
    exact ⟨(Text.trim_isInfix left).trans (before.trans trimmed),
      (Text.trim_isInfix right).trans (after.isInfix.trans trimmed)⟩

/-- A line without the form feeds at its start is the end of it. -/
theorem dropFormFeeds_isSuffix (line : List Char) : dropFormFeeds line <:+ line :=
  List.dropWhile_suffix _

namespace Heading

/-! ## Headings -/

/-- Whether the number and the title of a heading are parts of a line. -/
structure Within (heading : Heading) (line : List Char) : Prop where
  /-- The number, if there is one. -/
  number : ∀ number ∈ heading.number, number <:+: line
  /-- The title. -/
  title : heading.title <:+: line

/-- A heading in a part of a line is one in the line. -/
theorem Within.mono {heading : Heading} {part line : List Char} (within : heading.Within part)
    (is_part : part <:+: line) : heading.Within line :=
  ⟨fun number is_number => (within.number number is_number).trans is_part,
    within.title.trans is_part⟩

/-- A number without its final dot is the beginning of it. -/
theorem dropFinalDot_isPrefix (cs : List Char) : dropFinalDot cs <+: cs := by
  unfold dropFinalDot
  split
  · exact List.dropLast_prefix cs
  · exact List.prefix_refl cs

/-- The title after a number is the end of the text. -/
theorem title?_isSuffix {first : Char → Bool} {cs title : List Char}
    (found : title? first cs = some title) : title <:+ cs := by
  unfold title? at found
  split at found
  · cases found
  next c rest trimmed =>
    split at found
    · obtain rfl := Option.some.inj found
      exact trimmed ▸ Text.trimStart_isSuffix cs
    · cases found

/-- A numbered heading is within its line. -/
theorem within_of_numbered? {line : List Char} {heading : Heading}
    (found : numbered? line = some heading) : heading.Within line := by
  unfold numbered? at found
  dsimp only at found
  split at found
  · obtain ⟨title, is_title, rfl⟩ := Option.map_eq_some_iff.1 found
    refine ⟨fun number is_number => ?_, ?_⟩
    · obtain rfl := Option.some.inj is_number
      exact ((dropFinalDot_isPrefix _).trans (List.takeWhile_prefix _)).isInfix
    · exact ((title?_isSuffix is_title).trans (List.dropWhile_suffix _)).isInfix
  · cases found

/-- The heading of an appendix is within the text after the word. -/
theorem within_of_lettered? {cs : List Char} {heading : Heading}
    (found : lettered? cs = some heading) : heading.Within cs := by
  cases cs with
  | nil => cases found
  | cons letter rest =>
    rw [lettered?] at found
    split at found
    · obtain ⟨title, is_title, rfl⟩ := Option.map_eq_some_iff.1 found
      refine ⟨fun number is_number => ?_, ?_⟩
      · obtain rfl := Option.some.inj is_number
        have groups := (dropFinalDot_isPrefix _).trans
          (List.takeWhile_prefix (l := rest) isNumberChar)
        exact (List.cons_prefix_cons.2 ⟨rfl, groups⟩).isInfix
      · exact List.infix_cons ((title?_isSuffix is_title).trans (List.dropWhile_suffix _)).isInfix
    · cases found

/-- The heading of an appendix is within its line. -/
theorem within_of_appendix? {line : List Char} {heading : Heading}
    (found : appendix? line = some heading) : heading.Within line := by
  unfold appendix? at found
  split at found
  · cases found
  next rest start =>
    split at found
    · have after := (Text.trimStart_isSuffix rest).trans (Text.isSuffix_of_afterStart? start)
      exact (within_of_lettered? found).mono after.isInfix
    · cases found

/-- A heading without a number is its line. -/
theorem within_of_fixed? {line : List Char} {heading : Heading}
    (found : fixed? line = some heading) : heading.Within line := by
  unfold fixed? at found
  split at found
  · obtain rfl := Option.some.inj found
    refine ⟨fun number is_number => ?_, List.infix_refl line⟩
    cases is_number
  · cases found

/-- The heading that a line is, is within it. -/
theorem within_of_ofLine? {line : List Char} {heading : Heading}
    (found : ofLine? line = some heading) : heading.Within line := by
  unfold ofLine? at found
  split at found
  · cases found
  · refine Within.mono ?_ (Text.trimEnd_isPrefix line).isInfix
    rcases Option.or_eq_some_iff.1 found with is_numbered | ⟨-, later⟩
    · exact within_of_numbered? is_numbered
    rcases Option.or_eq_some_iff.1 later with is_appendix | ⟨-, is_fixed⟩
    · exact within_of_appendix? is_appendix
    · exact within_of_fixed? is_fixed

end Heading

/-! ## Lines of the body -/

/-- The heading that a line of the body is. -/
theorem BodyLine.heading_eq {raw : List Char} {heading : Heading}
    (kind : BodyLine.ofLine raw = .heading heading) :
    Heading.ofLine? (dropFormFeeds raw) = some heading := by
  unfold BodyLine.ofLine at kind
  dsimp only at kind
  split at kind
  · cases kind
  split at kind
  · cases kind
    assumption
  · cases kind

/-- An ordinary line of the body is the line without its form feeds. -/
theorem BodyLine.ordinary_eq {raw line : List Char} (kind : BodyLine.ofLine raw = .ordinary line) :
    dropFormFeeds raw = line := by
  unfold BodyLine.ofLine at kind
  dsimp only at kind
  split at kind
  · cases kind
  split at kind
  · cases kind
  · cases kind
    rfl

/-! ## Anchors -/

/-- A text in brackets. -/
def bracketed (cs : List Char) : List Char := '[' :: (cs ++ [']'])

/-- An anchor and the bracket after it are the beginning of the text. -/
theorem anchor?_isPrefix {cs anchor : List Char} (found : anchor? cs = some anchor) :
    anchor ++ [']'] <+: cs := by
  cases cs with
  | nil => cases found
  | cons c cs =>
    rw [anchor?] at found
    split at found
    next is_anchor =>
      obtain rfl := Option.some.inj found
      rw [Bool.and_eq_true, beq_iff_eq] at is_anchor
      exact List.cons_prefix_cons.2 ⟨rfl, Text.takeWhile_concat_isPrefix is_anchor.2⟩
    next => cases found

/-- The citations of a text stand in it in their brackets. -/
theorem citationsFrom_isInfix {fresh : Bool} {skip : Nat} {cs : List Char} :
    ∀ anchor ∈ citationsFrom fresh skip cs, bracketed anchor <:+: cs := by
  induction cs generalizing fresh skip with
  | nil => simp [citationsFrom]
  | cons c cs ih =>
    have later : ∀ {fresh : Bool} {skip : Nat}, ∀ anchor ∈ citationsFrom fresh skip cs,
        bracketed anchor <:+: c :: cs := fun anchor mem => List.infix_cons (ih anchor mem)
    cases skip with
    | succ skip => exact later
    | zero =>
      rw [citationsFrom]
      split
      next opens =>
        obtain ⟨-, is_bracket⟩ := Bool.and_eq_true_iff.1 opens
        obtain rfl : c = '[' := eq_of_beq is_bracket
        split
        next anchor found =>
          have here : bracketed anchor <+: '[' :: cs :=
            List.cons_prefix_cons.2 ⟨rfl, anchor?_isPrefix found⟩
          exact List.forall_mem_cons.2 ⟨here.isInfix, later⟩
        next => exact later
      next => exact later

/-- The citations on a line stand in it in their brackets. -/
theorem citedAnchors_isInfix {line : List Char} :
    ∀ anchor ∈ citedAnchors line, bracketed anchor <:+: line := citationsFrom_isInfix

/-- The anchor of an entry stands on its line in its brackets. -/
theorem entryAnchor?_isInfix {line anchor : List Char} (found : entryAnchor? line = some anchor) :
    bracketed anchor <:+: line := by
  unfold entryAnchor? at found
  split at found
  · cases found
  split at found
  next rest trimmed =>
    split at found
    next is_anchor =>
      obtain rfl := Option.some.inj found
      have here : bracketed (rest.takeWhile isEntryAnchorChar) <+: Text.trimStart line := by
        rw [trimmed]
        exact List.cons_prefix_cons.2 ⟨rfl, Text.takeWhile_concat_isPrefix is_anchor.2⟩
      exact here.isInfix.trans (Text.trimStart_isSuffix line).isInfix
    next => cases found
  next => cases found

end PlainText

namespace RfcXml

/-! ## Attributes -/

/-- A value in quotation marks is a part of the text. -/
theorem quoted?_isInfix {p : Char → Bool} {cs : List Char} :
    ∀ found ∈ quoted? p cs, found.1 <:+: cs := by
  intro found is_found
  cases cs with
  | nil => cases is_found
  | cons mark cs =>
    rw [quoted?] at is_found
    split at is_found
    · split at is_found
      · obtain rfl := Option.some.inj is_found
        exact List.infix_cons (List.takeWhile_prefix p).isInfix
      · cases is_found
    · cases is_found

/-- The value of an attribute that starts here is a part of the text. -/
theorem attributeHere?_isInfix {name : List Char} {p : Char → Bool} {cs : List Char} :
    ∀ found ∈ attributeHere? name p cs, found.1 <:+: cs := by
  intro found is_found
  unfold attributeHere? at is_found
  split at is_found
  · cases is_found
  next rest start =>
    split at is_found
    next value trimmed =>
      -- The value is read after the name, the equals sign and the white space around it.
      have after_sign : value <:+ rest :=
        (List.suffix_cons '=' value).trans (trimmed ▸ Text.trimStart_isSuffix rest)
      have after_name := after_sign.trans (Text.isSuffix_of_afterStart? start)
      exact (quoted?_isInfix found is_found).trans
        ((Text.trimStart_isSuffix value).trans after_name).isInfix
    next => cases is_found

/-- The value of the first attribute in a text is a part of it. -/
theorem firstAttributeFrom?_isInfix {name : List Char} {p : Char → Bool} {inWord : Bool}
    {cs value : List Char} (found : firstAttributeFrom? name p inWord cs = some value) :
    value <:+: cs := by
  induction cs generalizing inWord with
  | nil => cases found
  | cons c cs ih =>
    rw [firstAttributeFrom?] at found
    split at found
    next other rest is_here =>
      obtain rfl : other = value := Option.some.inj found
      split at is_here
      · cases is_here
      · exact attributeHere?_isInfix _ is_here
    next => exact List.infix_cons (ih found)

/-- The value of the first attribute on a line is a part of it. -/
theorem firstAttribute?_isInfix {name : String} {line value : List Char}
    (found : firstAttribute? name line = some value) : value <:+: line :=
  firstAttributeFrom?_isInfix found

/-- The value of the last attribute in a tag is a part of the text. -/
theorem lastAttributeFrom?_isInfix {name : List Char} {inWord : Bool} {cs : List Char} :
    ∀ found ∈ lastAttributeFrom? name inWord cs, found.1 <:+: cs := by
  induction cs generalizing inWord with
  | nil => simp [lastAttributeFrom?]
  | cons c cs ih =>
    intro found is_found
    rw [lastAttributeFrom?] at is_found
    split at is_found
    · cases is_found
    split at is_found
    next other is_later =>
      obtain rfl : other = found := Option.some.inj is_found
      exact List.infix_cons (ih other is_later)
    next =>
      split at is_found
      · cases is_found
      · exact attributeHere?_isInfix found is_found

/-- The value of an attribute in the tag that starts here is a part of the text. -/
theorem tagAttribute?_isInfix {tag name : String} {cs : List Char} :
    ∀ found ∈ tagAttribute? tag name cs, found.1 <:+: cs := by
  intro found is_found
  obtain ⟨rest, is_rest, in_rest⟩ := Option.bind_eq_some_iff.1 is_found
  refine (lastAttributeFrom?_isInfix found in_rest).trans (List.IsSuffix.isInfix ?_)
  unfold afterTagName? at is_rest
  split at is_rest
  next after start =>
    split at is_rest
    · obtain rfl : after = rest := Option.some.inj is_rest
      exact Text.isSuffix_of_afterStart? start
    · cases is_rest
  next => cases is_rest

/-- The values of an attribute in the tags of a text are parts of it. -/
theorem tagAttributesFrom_isInfix {tag name : String} {skip : Nat} {cs : List Char} :
    ∀ value ∈ tagAttributesFrom tag name skip cs, value <:+: cs := by
  induction cs generalizing skip with
  | nil => simp [tagAttributesFrom]
  | cons c cs ih =>
    have later : ∀ {skip : Nat}, ∀ value ∈ tagAttributesFrom tag name skip cs,
        value <:+: c :: cs := fun value mem => List.infix_cons (ih value mem)
    cases skip with
    | succ skip => exact later
    | zero =>
      rw [tagAttributesFrom]
      split
      next value rest found =>
        exact List.forall_mem_cons.2 ⟨tagAttribute?_isInfix _ found, later⟩
      next => exact later

/-- The values of an attribute in the tags on a line are parts of it. -/
theorem tagAttributes_isInfix {tag name : String} {line : List Char} :
    ∀ value ∈ tagAttributes tag name line, value <:+: line := tagAttributesFrom_isInfix

end RfcXml

end DraftNits
