import DraftNits.PlainText.Document
import DraftNits.Proofs.CurrentSection
import DraftNits.Proofs.Numerals
import Mathlib.Data.List.TakeWhile
import Mathlib.Order.Monotone.Basic

/-! # Page furniture

What a page adds around the text is passed over by the walk over a body, wherever it stands: a blank
line or a form feed, a footer with the number of the page, and a running header, even where a form
feed is glued to it. Two bodies with the same text and different pages therefore say the same. Only
the lines on which they say it are others.

* `PlainText.IsPageFurniture`, `PlainText.BodyLine.ofLine_eq_furniture_iff` — the lines that are
  page furniture.
* `PlainText.Body.SameOutline` — what two bodies say is the same, on lines that have moved.
* `PlainText.Body.SameOutline.readLine`, `PlainText.Body.SameOutline.readLines` — one line of each
  body, and all of them.
* `PlainText.Paginates` — a text and a copy of it with page furniture put in.
* `PlainText.Body.sameOutline_of_furniture` — one line of furniture, and any number of them. -/

namespace DraftNits.PlainText

variable {line cs : List Char}

/-! ## Running headers -/

/-- Whether a text is two white-space characters or more. -/
def IsGap (gap : List Char) : Prop := 2 ≤ gap.length ∧ ∀ c ∈ gap, Text.isBlank c = true

/-- Whether a text is the label of a running header, `Internet-Draft` or `RFC` with a number. -/
def IsHeaderLabel (label : List Char) : Prop :=
  label = "Internet-Draft".toList ∨ ∃ digits, label = "RFC ".toList ++ digits ∧ digits ≠ [] ∧
    ∀ c ∈ digits, Text.isDecimalDigit c = true

/-- Whether a line is a running header: a label, a text on one line and another text, with gaps
between them. -/
def IsRunningHeaderLine (line : List Char) : Prop :=
  ∃ label gap c title gap' d rest, line = label ++ (gap ++ c :: (title ++ (gap' ++ d :: rest))) ∧
    IsHeaderLabel label ∧ IsGap gap ∧ Text.isBlank c = false ∧ '\n' ∉ title ∧ IsGap gap' ∧
    Text.isBlank d = false

/-- A text starts with a gap exactly if one stands in front of another character. -/
theorem startsGap_iff : startsGap cs = true ↔
    ∃ gap c rest, cs = gap ++ c :: rest ∧ IsGap gap ∧ Text.isBlank c = false := by
  simp only [startsGap, Bool.and_eq_true, decide_eq_true_eq, Bool.not_eq_true']
  constructor
  · rintro ⟨wide, not_all⟩
    cases rest_eq : cs.dropWhile Text.isBlank with
    | nil =>
      rw [List.dropWhile_eq_nil_iff, ← List.all_eq_true, ← Text.isAllBlank, not_all] at rest_eq
      cases rest_eq
    | cons c rest =>
      refine ⟨cs.takeWhile Text.isBlank, c, rest, ?_, ⟨wide, ?_⟩, ?_⟩
      · rw [← rest_eq, List.takeWhile_append_dropWhile]
      · exact List.all_eq_true.1 List.all_takeWhile
      · exact Text.isBlank_trimStart cs c (by rw [Text.trimStart, rest_eq]; rfl)
  · rintro ⟨gap, c, rest, rfl, ⟨wide, all_blank⟩, stop⟩
    rw [(takeWhile_dropWhile_append all_blank stop rest).1]
    exact ⟨wide, by simp [Text.isAllBlank, stop]⟩

/-- A gap stands in a text exactly if the text starts with one from some place of its first line
on. -/
theorem hasGap_iff : hasGap cs = true ↔
    ∃ title rest, cs = title ++ rest ∧ '\n' ∉ title ∧ startsGap rest = true := by
  induction cs with
  | nil =>
    refine iff_of_false (by simp [hasGap]) ?_
    rintro ⟨title, rest, nothing, -, starts⟩
    obtain ⟨rfl, rfl⟩ := List.append_eq_nil_iff.1 nothing.symm
    exact absurd starts (by decide)
  | cons c cs ih =>
    simp only [hasGap, Bool.or_eq_true, Bool.and_eq_true, bne_iff_ne, ne_eq, ih]
    constructor
    · rintro (starts | ⟨no_break, title, rest, rfl, one_line, starts⟩)
      · exact ⟨[], c :: cs, rfl, List.not_mem_nil, starts⟩
      · exact ⟨c :: title, rest, rfl, by simp [Ne.symm no_break, one_line], starts⟩
    · rintro ⟨title, rest, same, one_line, starts⟩
      cases title with
      | nil =>
        rw [same]
        exact .inl starts
      | cons d title =>
        obtain ⟨rfl, rfl⟩ := List.cons.inj same
        rw [List.mem_cons, not_or] at one_line
        exact .inr ⟨Ne.symm one_line.1, title, rest, rfl, one_line.2, starts⟩

/-- What stands behind a label that is found follows one. -/
theorem exists_label {rest : List Char} (found : afterHeaderLabel? line = some rest) :
    ∃ label, line = label ++ rest ∧ IsHeaderLabel label := by
  unfold afterHeaderLabel? at found
  split at found
  next behind is_draft =>
    obtain rfl := Option.some.inj found
    exact ⟨_, Text.eq_append_of_afterStart? is_draft, .inl rfl⟩
  next =>
    split at found
    next => cases found
    next behind is_rfc =>
      split at found
      next => cases found
      next some_digit =>
        obtain rfl := Option.some.inj found
        refine ⟨"RFC ".toList ++ behind.takeWhile Text.isDecimalDigit, ?_, .inr ⟨_, rfl, ?_, ?_⟩⟩
        · rw [List.append_assoc, List.takeWhile_append_dropWhile]
          exact Text.eq_append_of_afterStart? is_rfc
        · simpa using some_digit
        · exact List.all_eq_true.1 List.all_takeWhile

/-- A label is found in front of white space. -/
theorem afterHeaderLabel?_append {label rest : List Char} (is_label : IsHeaderLabel label)
    (starts_blank : Text.startsBlank rest = true) :
    afterHeaderLabel? (label ++ rest) = some rest := by
  rcases is_label with rfl | ⟨digits, rfl, some_digit, all_digits⟩
  · rw [afterHeaderLabel?, Text.afterStart?_append]
  · cases rest with
    | nil => cases starts_blank
    | cons c rest =>
      -- The number ends at the white space.
      have stop : Text.isDecimalDigit c = false := by
        by_contra digit
        rw [Bool.not_eq_false] at digit
        exact absurd starts_blank (by simp [Text.startsBlank, Text.isBlank_of_isDecimalDigit digit])
      have split_number := takeWhile_dropWhile_append all_digits stop rest
      have no_draft : Text.afterStart? "Internet-Draft".toList
          ("RFC ".toList ++ (digits ++ c :: rest)) = none := rfl
      rw [afterHeaderLabel?, List.append_assoc, no_draft, Text.afterStart?_append]
      simp only [split_number, List.isEmpty_iff, some_digit, if_false]

/-- The running headers are the lines that are written like one. -/
theorem isRunningHeader_iff : isRunningHeader line = true ↔ IsRunningHeaderLine line := by
  constructor
  · intro is_header
    unfold isRunningHeader at is_header
    split at is_header
    next => cases is_header
    next rest found =>
      obtain ⟨label, rfl, is_label⟩ := exists_label found
      rw [Bool.and_eq_true, startsGap_iff] at is_header
      obtain ⟨⟨gap, c, behind, rfl, is_gap, stop⟩, has_gap⟩ := is_header
      rw [Text.trimStart_append is_gap.2 stop, List.tail_cons, hasGap_iff] at has_gap
      obtain ⟨title, later, rfl, one_line, starts⟩ := has_gap
      obtain ⟨gap', d, rest, rfl, is_gap', stop'⟩ := startsGap_iff.1 starts
      exact ⟨label, gap, c, title, gap', d, rest, rfl, is_label, is_gap, stop, one_line, is_gap',
        stop'⟩
  · rintro ⟨label, gap, c, title, gap', d, rest, rfl, is_label, is_gap, stop, one_line, is_gap',
      stop'⟩
    have starts := startsGap_iff.2 ⟨gap, c, title ++ (gap' ++ d :: rest), rfl, is_gap, stop⟩
    have starts_later := startsGap_iff.2 ⟨gap', d, rest, rfl, is_gap', stop'⟩
    have starts_blank : Text.startsBlank (gap ++ c :: (title ++ (gap' ++ d :: rest))) = true := by
      obtain ⟨blank, others, rfl⟩ := List.exists_cons_of_length_pos
        (Nat.lt_of_lt_of_le Nat.two_pos is_gap.1)
      exact is_gap.2 blank List.mem_cons_self
    rw [isRunningHeader, afterHeaderLabel?_append is_label starts_blank]
    dsimp only
    rw [starts, Text.trimStart_append is_gap.2 stop, List.tail_cons]
    exact hasGap_iff.2 ⟨title, _, rfl, one_line, starts_later⟩

/-! ## Furniture -/

/-- Whether a line is what a page adds to the text. -/
inductive IsPageFurniture : List Char → Prop
  /-- A blank line; a form feed is white space, too. -/
  | blank {line : List Char} (all_blank : ∀ c ∈ line, Text.isBlank c = true) : IsPageFurniture line
  /-- The footer of a page. -/
  | footer {line : List Char} (is_footer : IsFooterLine line) : IsPageFurniture line
  /-- A running header. -/
  | runningHeader {line : List Char} (is_header : IsRunningHeaderLine line) : IsPageFurniture line
  /-- A form feed that is glued to one of these. -/
  | glued {line : List Char} (furniture : IsPageFurniture line) : IsPageFurniture ('\x0c' :: line)

/-- The three kinds of furniture are recognized. -/
theorem isFurniture_iff : isFurniture line = true ↔
    (∀ c ∈ line, Text.isBlank c = true) ∨ IsFooterLine line ∨ IsRunningHeaderLine line := by
  simp [isFurniture, Text.isAllBlank, isFooter_iff_isFooterLine, isRunningHeader_iff, or_assoc]

/-- A line that starts with another character has no form feeds to drop. -/
theorem dropFormFeeds_cons {c : Char} (other : c ≠ '\x0c') (line : List Char) :
    dropFormFeeds (c :: line) = c :: line := by
  rw [dropFormFeeds, List.dropWhile_cons, if_neg (by simpa using other)]

/-- Furniture is furniture without the form feeds in front of it. -/
theorem IsPageFurniture.isFurniture_dropFormFeeds (furniture : IsPageFurniture line) :
    isFurniture (dropFormFeeds line) = true := by
  induction furniture with
  | @blank line all_blank =>
    refine isFurniture_iff.2 (.inl fun c mem => all_blank c ?_)
    exact (List.dropWhile_suffix _).subset mem
  | footer is_footer =>
    obtain ⟨front, digits, blanks, rfl, rest⟩ := is_footer
    -- The label of the page number is no form feed, so all of it is left.
    refine isFurniture_iff.2 (.inr (.inl ⟨dropFormFeeds front, digits, blanks, ?_, rest⟩))
    induction front with
    | nil => rfl
    | cons c front ih =>
      by_cases feed : c = '\x0c'
      · subst feed
        exact ih
      · rw [dropFormFeeds_cons feed]
        exact dropFormFeeds_cons feed _
  | runningHeader is_header =>
    have kept : ∀ {label behind : List Char}, IsHeaderLabel label →
        dropFormFeeds (label ++ behind) = label ++ behind := by
      rintro label behind (rfl | ⟨digits, rfl, -⟩)
      · exact dropFormFeeds_cons (by decide) _
      · exact dropFormFeeds_cons (by decide) _
    refine isFurniture_iff.2 (.inr (.inr ?_))
    obtain ⟨label, gap, c, title, gap', d, rest, rfl, is_label, others⟩ := is_header
    rw [kept is_label]
    exact ⟨label, gap, c, title, gap', d, rest, rfl, is_label, others⟩
  | glued furniture ih => exact ih

/-- What is furniture without form feeds in front of it is furniture with them. -/
theorem isPageFurniture_of_isFurniture (furniture : isFurniture (dropFormFeeds line) = true) :
    IsPageFurniture line := by
  induction line with
  | nil => exact .blank (List.forall_mem_nil _)
  | cons c line ih =>
    by_cases feed : c = '\x0c'
    · subst feed
      exact .glued (ih furniture)
    · rw [dropFormFeeds_cons feed] at furniture
      rcases isFurniture_iff.1 furniture with all_blank | is_footer | is_header
      · exact .blank all_blank
      · exact .footer is_footer
      · exact .runningHeader is_header

/-- The walk over a body takes exactly the page furniture for furniture. -/
theorem BodyLine.ofLine_eq_furniture_iff :
    BodyLine.ofLine line = .furniture ↔ IsPageFurniture line := by
  have recognized : BodyLine.ofLine line = .furniture ↔
      isFurniture (dropFormFeeds line) = true := by
    unfold BodyLine.ofLine
    dsimp only
    split
    next furniture => exact iff_of_true rfl furniture
    next text =>
      refine iff_of_false ?_ text
      split <;> simp
  exact recognized.trans ⟨isPageFurniture_of_isFurniture, (·.isFurniture_dropFormFeeds)⟩

/-! ## Bodies on lines that have moved -/

namespace Body

/-- Whether what two bodies say is the same when the lines of the first one have moved. The
addresses of references and the line of the expiry are left aside. -/
structure SameOutline (move : Nat → Nat) (body other : Body) : Prop where
  /-- The same kind of section is being read. -/
  inReferences : other.inReferences = body.inReferences
  /-- Its references are as normative. -/
  normative : other.normative = body.normative
  /-- The sections have the same numbers and titles. -/
  sections : other.sections = body.sections.map fun s => { s with line := move s.line }
  /-- The references have the same names and are as normative. -/
  references : (other.references.map fun r => (r.anchor, r.normative, r.line)) =
    body.references.map fun r => (r.anchor, r.normative, move r.line)
  /-- The citations have the same names. -/
  citations : other.citations = body.citations.map fun c => { c with line := move c.line }
  /-- Both have an abstract or neither has. -/
  hasAbstract : other.hasAbstract = body.hasAbstract
  /-- Both name the documents on rights or neither does. -/
  hasIpr : other.hasIpr = body.hasIpr
  /-- The dates of expiry are the same. -/
  expires : other.expiry.date = body.expiry.date
  /-- So are the texts that are no dates. -/
  expiresText : other.expiry.text = body.expiry.text

/-- An ordinary line is asked about rights and about the expiry in any section. -/
theorem metadata_readOrdinary (body : Body) (number : Nat) (line raw : List Char)
    (rest : List (List Char)) :
    (body.readOrdinary number line raw rest).hasIpr =
        (body.hasIpr || Text.contains "BCP 78 and BCP 79".toList line) ∧
      (body.readOrdinary number line raw rest).expiry = body.expiry.readText number line := by
  dsimp only [readOrdinary]
  split
  · split <;> exact ⟨rfl, rfl⟩
  · exact ⟨rfl, rfl⟩

namespace SameOutline

variable {move : Nat → Nat} {body other : Body} {number number' : Nat}

/-- A body says what it says. -/
theorem refl (body : Body) : body.SameOutline id body := by
  constructor <;> simp

/-- Before the first line nothing has been said that could move. -/
theorem start (move : Nat → Nat) (expiry : Expiry) :
    SameOutline move (Body.start expiry) (Body.start expiry) := by
  constructor <;> simp [Body.start]

/-- Lines can move twice. -/
theorem trans {move' : Nat → Nat} {last : Body} (first : SameOutline move body other)
    (second : SameOutline move' other last) : SameOutline (move' ∘ move) body last where
  inReferences := second.inReferences.trans first.inReferences
  normative := second.normative.trans first.normative
  sections := by
    rw [second.sections, first.sections, List.map_map]
    rfl
  references := by
    have moved := congrArg (List.map (Prod.map id (Prod.map id move'))) first.references
    rw [List.map_map, List.map_map] at moved
    exact second.references.trans moved
  citations := by
    rw [second.citations, first.citations, List.map_map]
    rfl
  hasAbstract := second.hasAbstract.trans first.hasAbstract
  hasIpr := second.hasIpr.trans first.hasIpr
  expires := second.expires.trans first.expires
  expiresText := second.expiresText.trans first.expiresText

/-- A heading of both bodies opens the same section. -/
theorem readHeading (same : SameOutline move body other) (moved : move number = number')
    (heading : Heading) :
    SameOutline move (body.readHeading number heading) (other.readHeading number' heading) where
  inReferences := rfl
  normative := rfl
  sections := by
    simp only [Body.readHeading, Heading.toSection, List.map_cons, moved, same.sections]
  references := same.references
  citations := same.citations
  hasAbstract := by
    simp only [Body.readHeading, same.hasAbstract]
  hasIpr := same.hasIpr
  expires := same.expires
  expiresText := same.expiresText

/-- An ordinary line tells both bodies the same, whatever follows it. -/
theorem readOrdinary (same : SameOutline move body other) (moved : move number = number')
    (line raw : List Char) (rest rest' : List (List Char)) :
    SameOutline move (body.readOrdinary number line raw rest)
      (other.readOrdinary number' line raw rest') := by
  obtain ⟨sections, in_references, normative, has_abstract⟩ :=
    body.fields_readOrdinary number line raw rest
  obtain ⟨sections', in_references', normative', has_abstract'⟩ :=
    other.fields_readOrdinary number' line raw rest'
  obtain ⟨has_ipr, expiry⟩ := body.metadata_readOrdinary number line raw rest
  obtain ⟨has_ipr', expiry'⟩ := other.metadata_readOrdinary number' line raw rest'
  have same_expiry : (other.expiry.readText number' line).date =
        (body.expiry.readText number line).date ∧
      (other.expiry.readText number' line).text = (body.expiry.readText number line).text := by
    unfold Expiry.readText
    rw [same.expires]
    split
    · exact ⟨same.expires, same.expiresText⟩
    · split
      · exact ⟨rfl, rfl⟩
      · exact ⟨same.expires, same.expiresText⟩
  constructor
  · rw [in_references, in_references', same.inReferences]
  · rw [normative, normative', same.normative]
  · rw [sections, sections', same.sections]
  · rw [references_readOrdinary, references_readOrdinary, same.inReferences, same.normative,
      List.map_append, List.map_append, same.references]
    congr 1
    split
    next =>
      rw [← Option.toList_map, ← Option.toList_map]
      simp only [reference?, Option.map_map, Function.comp_def, moved]
    next => rfl
  · rw [citations_readOrdinary, citations_readOrdinary, same.inReferences, same.citations,
      List.map_append]
    congr 1
    split
    next => rfl
    next => simp only [List.map_reverse, List.map_map, Function.comp_def, moved]
  · rw [has_abstract, has_abstract', same.hasAbstract]
  · rw [has_ipr, has_ipr', same.hasIpr]
  · rw [expiry, expiry']
    exact same_expiry.1
  · rw [expiry, expiry']
    exact same_expiry.2

/-- A line of any kind, whatever follows it. -/
theorem readLine (same : SameOutline move body other) (moved : move number = number')
    (raw : List Char) (rest rest' : List (List Char)) :
    SameOutline move (body.readLine number raw rest) (other.readLine number' raw rest') := by
  unfold Body.readLine
  cases BodyLine.ofLine raw with
  | furniture => exact same
  | heading heading => exact same.readHeading moved heading
  | ordinary line => exact same.readOrdinary moved line raw rest rest'

/-- All lines, when each of them has moved as far as the first one. -/
theorem readLines (same : SameOutline move body other) {distance : Nat} (lines : List (List Char))
    (moved : ∀ k, number ≤ k → move k = k + distance) :
    SameOutline move (body.readLines number lines)
      (other.readLines (number + distance) lines) := by
  induction lines generalizing body other number with
  | nil => exact same
  | cons raw rest ih =>
    rw [Body.readLines, Body.readLines, Nat.add_right_comm]
    refine ih (same.readLine (moved number (Nat.le_refl number)) raw rest rest) fun k after => ?_
    exact moved k (Nat.le_of_succ_le after)

end SameOutline

/-! ## Furniture that is put in -/

/-- The number of a line after another one has been put in behind the first `position` ones. -/
def movedBy (position number : Nat) : Nat := if number ≤ position then number else number + 1

/-- The lines in front of the new one stay, and the others move. -/
theorem strictMono_movedBy (position : Nat) : StrictMono (movedBy position) := by
  intro n m less
  unfold movedBy
  split <;> split <;> omega

/-- A line of furniture among the lines that are being read moves those behind it. -/
theorem sameOutline_insertIdx {line : List Char} (furniture : IsPageFurniture line)
    (lines : List (List Char)) {place number : Nat} {body other : Body}
    (same : SameOutline (movedBy (number + place)) body other) :
    SameOutline (movedBy (number + place)) (body.readLines (number + 1) lines)
      (other.readLines (number + 1) (lines.insertIdx place line)) := by
  induction place generalizing lines number body other with
  | zero =>
    rw [List.insertIdx_zero, Body.readLines,
      readLine_furniture (BodyLine.ofLine_eq_furniture_iff.2 furniture)]
    -- From here on the lines are the same, each of them one further down.
    refine same.readLines lines fun k after => ?_
    exact if_neg (Nat.not_le.2 after)
  | succ place ih =>
    cases lines with
    | nil => exact same
    | cons raw rest =>
      rw [List.insertIdx_succ_cons, Body.readLines, Body.readLines]
      -- The first line stays. What follows it has changed, but only an address is looked for there.
      have stays : movedBy (number + (place + 1)) (number + 1) = number + 1 :=
        if_pos (by omega)
      have next := same.readLine stays raw rest (rest.insertIdx place line)
      rw [← Nat.succ_add_eq_add_succ] at next ⊢
      exact ih rest next

end Body

/-- Whether a copy of some lines has page furniture put in, behind the first `start` ones and as
often as one likes. -/
inductive Paginates (start : Nat) (lines : List (List Char)) : List (List Char) → Prop
  /-- The lines themselves. -/
  | same : Paginates start lines lines
  /-- One more line of furniture. -/
  | insert {copy : List (List Char)} {position : Nat} {line : List Char}
      (paginates : Paginates start lines copy) (behind : start ≤ position)
      (furniture : IsPageFurniture line) : Paginates start lines (copy.insertIdx position line)

namespace Body

/-- A line that is put in behind the first `start` ones is among the lines that are read. -/
theorem drop_insertIdx {line : List Char} {start place : Nat} {lines : List (List Char)}
    (inside : start ≤ lines.length) :
    (lines.insertIdx (start + place) line).drop start =
      (lines.drop start).insertIdx place line := by
  induction start generalizing lines with
  | zero => rw [Nat.zero_add, List.drop_zero, List.drop_zero]
  | succ start ih =>
    cases lines with
    | nil => cases inside
    | cons raw rest =>
      rw [Nat.add_right_comm, List.insertIdx_succ_cons, List.drop_succ_cons, List.drop_succ_cons]
      exact ih (Nat.le_of_succ_le_succ inside)

/-- One line of furniture in a body. -/
theorem sameOutline_ofLines_insertIdx {line : List Char} {start position : Nat}
    (furniture : IsPageFurniture line) (behind : start ≤ position) (expiry : Expiry)
    (lines : List (List Char)) :
    SameOutline (movedBy position) (ofLines expiry start lines)
      (ofLines expiry start (lines.insertIdx position line)) := by
  by_cases inside : start ≤ lines.length
  · obtain ⟨place, rfl⟩ := Nat.exists_eq_add_of_le behind
    rw [ofLines, ofLines, drop_insertIdx inside]
    exact sameOutline_insertIdx furniture _ (.start _ expiry)
  · -- There are no lines to be read, and none is put in.
    rw [Nat.not_le] at inside
    rw [List.insertIdx_of_length_lt (Nat.lt_of_lt_of_le inside behind), ofLines,
      List.drop_of_length_le (Nat.le_of_lt inside)]
    exact .start _ expiry

/-- Page furniture leaves what a body says as it is. A blank line, a form feed, a footer or a
running header, put in anywhere from the start of the body on, moves the lines behind it and does
nothing else. A copy of a text with any number of pages therefore says what the text says, on
lines that are in the same order. -/
theorem sameOutline_of_furniture (expiry : Expiry) (start : Nat) (lines : List (List Char)) :
    (∀ position line, start ≤ position → IsPageFurniture line →
      SameOutline (movedBy position) (ofLines expiry start lines)
        (ofLines expiry start (lines.insertIdx position line))) ∧
    ∀ copy, Paginates start lines copy → ∃ move, StrictMono move ∧
      SameOutline move (ofLines expiry start lines) (ofLines expiry start copy) := by
  refine ⟨fun position line behind furniture => ?_, fun copy paginates => ?_⟩
  · exact sameOutline_ofLines_insertIdx furniture behind expiry lines
  · induction paginates with
    | same => exact ⟨id, strictMono_id, .refl _⟩
    | @insert copy position line paginates behind furniture ih =>
      obtain ⟨move, in_order, same⟩ := ih
      refine ⟨movedBy position ∘ move, (strictMono_movedBy position).comp in_order, ?_⟩
      exact same.trans (sameOutline_ofLines_insertIdx furniture behind expiry copy)

/-- A footer, and a running header with a form feed glued to it, between two headings. -/
theorem sameOutline_of_furniture_page :
    let text := ["1.  Introduction".toList, "2.  Next".toList]
    let footer := "Smith           Expires September 2024           [Page 1]".toList
    let header := "\x0cInternet-Draft           Title           March 2024".toList
    let copy := ["1.  Introduction".toList, footer, header, "2.  Next".toList]
    (IsPageFurniture footer ∧ SameOutline (movedBy 1) (ofLines .unknown 0 text)
      (ofLines .unknown 0 (text.insertIdx 1 footer))) ∧
    (Paginates 0 text copy ∧ ∃ move, StrictMono move ∧
      SameOutline move (ofLines .unknown 0 text) (ofLines .unknown 0 copy)) ∧
    (ofLines .unknown 0 text).sections = [⟨some "2", "Next", 2⟩, ⟨some "1", "Introduction", 1⟩] ∧
    (ofLines .unknown 0 copy).sections =
      [⟨some "2", "Next", 4⟩, ⟨some "1", "Introduction", 1⟩] := by
  intro text footer header copy
  have is_footer : IsPageFurniture footer := isPageFurniture_of_isFurniture (by decide +kernel)
  have is_header : IsPageFurniture header := isPageFurniture_of_isFurniture (by decide +kernel)
  have one_line_more : Paginates 0 text (text.insertIdx 1 header) :=
    .insert .same (Nat.zero_le 1) is_header
  have paginates : Paginates 0 text ((text.insertIdx 1 header).insertIdx 1 footer) :=
    .insert one_line_more (Nat.zero_le 1) is_footer
  obtain ⟨one_line, any_pages⟩ := sameOutline_of_furniture .unknown 0 text
  refine ⟨⟨is_footer, one_line 1 footer (Nat.zero_le 1) is_footer⟩, ⟨paginates, ?_⟩, ?_, ?_⟩
  · exact any_pages copy paginates
  · decide +kernel
  · decide +kernel

end Body

end DraftNits.PlainText
