import DraftNits.Proofs.AuthorNames
import DraftNits.Proofs.RfcNumbers

/-! # Laid-out headers

The header of a first page is written in two columns. In the left one stand the number of an RFC,
the status and the expiry behind their labels, and in the right one the authors, each perhaps with
an organization, and the date. What is written so is read back: the columns come apart again on
every line, and what one column says does not depend on the other.

* `PlainText.LaidOut`, `PlainText.LaidOut.ofLine_eq` — the lines of two columns, and that they come
  apart again.
* `PlainText.Header.readLines_join` — the left columns and the right ones are read apart.
* `PlainText.States`, `PlainText.Lists` — what the two sides of a header say.
* `PlainText.header_of_laidOut` — a laid-out header is read back as it was written. -/

namespace DraftNits

/-! ## The first two spaces -/

/-- Two spaces are not looked for in a text without them, if the next character makes none at its
end. -/
theorem Text.splitAt?_append {before : List Char} {c : Char}
    (single : ¬ [' ', ' '] <:+: before ++ [c]) (behind : List Char) :
    splitAt? [' ', ' '] (before ++ c :: behind) =
      (splitAt? [' ', ' '] (c :: behind)).map fun (left, right) => (before ++ left, right) := by
  induction before with
  | nil => exact Option.map_id'.symm
  | cons d before ih =>
    have not_here : ¬ [' ', ' '].isPrefixOf (d :: (before ++ c :: behind)) = true := by
      rw [List.isPrefixOf_iff_prefix]
      intro starts
      have starts_behind : [' ', ' '] <+: (d :: before ++ [c]) ++ behind := by
        rwa [List.append_assoc]
      refine single (List.IsPrefix.isInfix ?_)
      exact List.prefix_of_prefix_length_le starts_behind (List.prefix_append _ _) (by simp)
    have single_behind : ¬ [' ', ' '] <:+: before ++ [c] :=
      fun inside => single (List.infix_cons inside)
    rw [List.cons_append, splitAt?, if_neg not_here, ih single_behind, Option.map_map]
    rfl

/-- Two spaces end the text in front of them, if there are no two in it and none at its end. -/
theorem Text.splitAt?_spaces {left : List Char} (single : ¬ [' ', ' '] <:+: left)
    (last : ∀ c ∈ left.getLast?, c ≠ ' ') (behind : List Char) :
    splitAt? [' ', ' '] (left ++ (' ' :: ' ' :: behind)) = some (left, behind) := by
  have single_space : ¬ [' ', ' '] <:+: left ++ [' '] := by
    rw [List.infix_concat_iff]
    rintro (at_end | inside)
    · obtain ⟨front, is_end⟩ := at_end
      have is_left : front ++ [' '] = left := by
        rw [← List.append_left_inj [' '], List.append_assoc]
        exact is_end
      exact last ' ' (by simp [← is_left]) rfl
    · exact single inside
  rw [splitAt?_append single_space]
  exact congrArg (fun kept => some (kept, behind)) (List.append_nil left)

namespace PlainText

/-! ## Lines in columns -/

/-- Whether a text can stand in a column: it is not empty and has no white space at its ends. -/
structure IsColumn (cs : List Char) : Prop where
  /-- There is something in it. -/
  ne_nil : cs ≠ []
  /-- It does not begin with white space. -/
  first : ∀ c ∈ cs.head?, Text.isBlank c = false
  /-- It does not end in white space. -/
  last : ∀ c ∈ cs.getLast?, Text.isBlank c = false

/-- The lines of a header and what stands in their columns. Two spaces or more stand between the
columns, and none of them in the left one; a right column alone is indented. White space may follow
at the end. -/
inductive LaidOut : List Char → Columns → Prop
  | both {left right trailing : List Char} {gap : Nat} (is_left : IsColumn left)
      (single : ¬ [' ', ' '] <:+: left) (wide : 2 ≤ gap) (is_right : IsColumn right)
      (all_blank : ∀ c ∈ trailing, Text.isBlank c = true) :
      LaidOut (left ++ (List.replicate gap ' ' ++ (right ++ trailing))) ⟨some left, some right⟩
  | left {left trailing : List Char} (is_left : IsColumn left)
      (single : ¬ [' ', ' '] <:+: left) (all_blank : ∀ c ∈ trailing, Text.isBlank c = true) :
      LaidOut (left ++ trailing) ⟨some left, none⟩
  | right {indent right trailing : List Char} (indented : indent ≠ [])
      (indent_blank : ∀ c ∈ indent, Text.isBlank c = true) (is_right : IsColumn right)
      (all_blank : ∀ c ∈ trailing, Text.isBlank c = true) :
      LaidOut (indent ++ (right ++ trailing)) ⟨none, some right⟩

/-- Spaces are white space. -/
theorem isBlank_of_mem_replicate (spaces : Nat) :
    ∀ c ∈ List.replicate spaces ' ', Text.isBlank c = true := by
  intro c mem
  rw [List.eq_of_mem_replicate mem]
  rfl

instance (cs : List Char) : Decidable (IsColumn cs) :=
  decidable_of_iff (cs ≠ [] ∧ (cs.head?.all fun c => Text.isBlank c == false) = true ∧
      (cs.getLast?.all fun c => Text.isBlank c == false) = true) <| by
    simp only [Option.all_eq_true, beq_iff_eq]
    exact ⟨fun ⟨ne_nil, first, last⟩ => ⟨ne_nil, first, last⟩,
      fun is_column => ⟨is_column.ne_nil, is_column.first, is_column.last⟩⟩

namespace IsColumn

variable {cs : List Char}

/-- A column begins with a character that is not white space. -/
theorem exists_cons (is_column : IsColumn cs) :
    ∃ c rest, cs = c :: rest ∧ Text.isBlank c = false := by
  obtain ⟨c, rest, rfl⟩ := List.exists_cons_of_ne_nil is_column.ne_nil
  exact ⟨c, rest, rfl, is_column.first c rfl⟩

/-- A column keeps all of it when white space is taken off. -/
theorem trim_eq (is_column : IsColumn cs) {blanks : List Char}
    (all_blank : ∀ c ∈ blanks, Text.isBlank c = true) : Text.trim (blanks ++ cs) = cs := by
  have trimmed := Text.trim_append all_blank (List.forall_mem_nil _) is_column.first is_column.last
  rwa [List.append_nil] at trimmed

/-- White space behind the last column is taken off. -/
theorem trimEnd_eq (is_column : IsColumn cs) (before : List Char) {trailing : List Char}
    (all_blank : ∀ c ∈ trailing, Text.isBlank c = true) :
    Text.trimEnd (before ++ (cs ++ trailing)) = before ++ cs := by
  rw [← List.append_assoc]
  refine Text.dropEndWhile_append all_blank ?_
  intro c is_last
  rw [List.getLast?_append_of_ne_nil _ is_column.ne_nil] at is_last
  exact is_column.last c is_last

/-- A line with a column in it is not blank. -/
theorem isAllBlank_eq (is_column : IsColumn cs) {line : List Char} (part : cs <:+: line) :
    Text.isAllBlank line = false := by
  obtain ⟨c, rest, rfl, not_blank⟩ := is_column.exists_cons
  refine List.all_eq_false.2 ⟨c, part.subset List.mem_cons_self, ?_⟩
  rw [not_blank]
  exact Bool.false_ne_true

end IsColumn

namespace LaidOut

variable {line : List Char} {columns : Columns}

/-- The columns of a line come apart again. -/
theorem ofLine_eq (laid_out : LaidOut line columns) : Columns.ofLine line = columns := by
  cases laid_out with
  | @both left right trailing gap is_left single wide is_right all_blank =>
    obtain ⟨more, rfl⟩ := Nat.exists_eq_add_of_le wide
    obtain ⟨c, rest, rfl, not_blank⟩ := is_left.exists_cons
    have no_space : ∀ d ∈ (c :: rest).getLast?, d ≠ ' ' := by
      rintro _ is_last rfl
      exact absurd (is_left.last ' ' is_last) (by decide)
    -- The line without what follows its columns, cut where the gap starts.
    have ended :
        Text.trimEnd (c :: rest ++ (List.replicate (2 + more) ' ' ++ (right ++ trailing))) =
          c :: rest ++ (' ' :: ' ' :: (List.replicate more ' ' ++ right)) := by
      rw [← List.append_assoc, is_right.trimEnd_eq _ all_blank, List.append_assoc, Nat.add_comm 2]
      rfl
    have at_ends : Text.trim (c :: rest) = c :: rest :=
      is_left.trim_eq (List.forall_mem_nil _)
    rw [Columns.ofLine, ended, if_neg (by simp), if_neg (by simp [Text.startsBlank, not_blank]),
      Text.splitAt?_spaces single no_space]
    dsimp only
    rw [at_ends, is_right.trim_eq (isBlank_of_mem_replicate more)]
  | @left left trailing is_left single all_blank =>
    obtain ⟨c, rest, rfl, not_blank⟩ := is_left.exists_cons
    have ended : Text.trimEnd (c :: rest ++ trailing) = c :: rest :=
      is_left.trimEnd_eq [] all_blank
    have no_gap : Text.splitAt? [' ', ' '] (c :: rest) = none := by
      cases found : Text.splitAt? [' ', ' '] (c :: rest) with
      | none => rfl
      | some sides => exact absurd ⟨_, _, (Text.eq_append_of_splitAt? found).symm⟩ single
    rw [Columns.ofLine, ended, if_neg (by simp), if_neg (by simp [Text.startsBlank, not_blank]),
      no_gap]
  | @right indent right trailing indented indent_blank is_right all_blank =>
    obtain ⟨d, more, rfl⟩ := List.exists_cons_of_ne_nil indented
    obtain ⟨c, rest, rfl, not_blank⟩ := is_right.exists_cons
    have starts : Text.startsBlank (d :: more ++ c :: rest) = true :=
      indent_blank d List.mem_cons_self
    rw [Columns.ofLine, is_right.trimEnd_eq _ all_blank, if_neg (by simp), if_pos starts,
      Text.trimStart_append indent_blank not_blank]

/-- A line with a column is not blank. -/
theorem isAllBlank_eq (laid_out : LaidOut line columns) : Text.isAllBlank line = false := by
  cases laid_out with
  | both is_left => exact is_left.isAllBlank_eq (List.prefix_append _ _).isInfix
  | left is_left => exact is_left.isAllBlank_eq (List.prefix_append _ _).isInfix
  | right _ _ is_right => exact is_right.isAllBlank_eq (List.infix_append' _ _ _)

end LaidOut

/-! ## The two sides of a header -/

/-- What stands on one side of the lines from a number on, with the numbers of the lines. -/
def side (column : Columns → Option (List Char)) (line : Nat) :
    List Columns → List (Nat × List Char)
  | [] => []
  | columns :: rest =>
    ((column columns).map fun cs => (line, cs)).toList ++ side column (line + 1) rest

namespace Header

/-- The header with the fields of the left column of one header and those of the right column of
another. -/
def join (labels people : Header) : Header :=
  ⟨labels.rfcNumber, labels.category, labels.expiry, people.authors, people.date⟩

/-- The header after left columns. -/
def readLefts (header : Header) (lefts : List (Nat × List Char)) : Header :=
  lefts.foldl (fun header left => header.readLeft left.1 left.2) header

/-- The header after right columns. -/
def readRights (header : Header) (rights : List (Nat × List Char)) : Header :=
  rights.foldl (fun header right => header.readRight right.1 right.2) header

/-- A left column is read into the fields of left columns. -/
theorem join_readLeft (labels people : Header) (line : Nat) (left : List Char) :
    (labels.join people).readLeft line left = (labels.readLeft line left).join people := by
  unfold readLeft
  cases rfcDigits? left with
  | some digits => rfl
  | none =>
    cases status? left with
    | some status => rfl
    | none => cases Text.afterStart? "Expires:".toList left <;> rfl

/-- A right column is read into the fields of right columns. -/
theorem join_readRight (labels people : Header) (line : Nat) (right : List Char) :
    (labels.join people).readRight line right = labels.join (people.readRight line right) := by
  unfold readRight
  cases Date.ofFrontMatter? right with
  | some d => rfl
  | none =>
    dsimp only
    split <;> rfl

/-- The left columns of lines and their right ones are read apart. -/
theorem readLines_join {block : List (List Char)} {columns : List Columns}
    (laid_out : List.Forall₂ LaidOut block columns) (labels people : Header) (line : Nat) :
    (labels.join people).readLines line block =
      (labels.readLefts (side Columns.left line columns)).join
        (people.readRights (side Columns.right line columns)) := by
  induction laid_out generalizing labels people line with
  | nil => rfl
  | @cons cs columns block others is_line _ ih =>
    obtain ⟨left, right⟩ := columns
    have here : (labels.join people).readLine line cs =
        (left.elim labels (labels.readLeft line)).join
          (right.elim people (people.readRight line)) := by
      rw [readLine_eq, is_line.ofLine_eq]
      cases left <;> cases right <;> simp [join_readLeft, join_readRight]
    rw [readLines, here, ih]
    cases left <;> cases right <;> rfl

end Header

/-! ## What the left columns say -/

/-- What the left columns of a header say. -/
structure Fields where
  /-- The number of an RFC. -/
  rfcNumber : Option Nat
  /-- The category or intended status. -/
  category : Option (List Char)
  /-- The date of the expiry, with its line. -/
  expiry : Option (Nat × Date)
  deriving DecidableEq

/-- Whether a left column has none of the labels that are read. The label of an RFC number counts
only in front of a digit. -/
structure IsUnlabelled (left : List Char) : Prop where
  /-- It is neither a status nor an expiry. -/
  no_field : ∀ label ∈ ["Intended status:", "Category:", "Expires:"], ¬ label.toList <+: left
  /-- It is no number. -/
  no_number : ∀ blanks digit rest, (∀ c ∈ blanks, Text.isBlank c = true) →
    Text.isDecimalDigit digit = true →
      left ≠ "Request for Comments:".toList ++ (blanks ++ digit :: rest)

/-- Left columns and what they say: a number in ASCII digits that fits 32 bits, a status, an expiry
with a date, and each of them at most once. -/
inductive States : List (Nat × List Char) → Fields → Prop
  | nil : States [] ⟨none, none, none⟩
  | other {line : Nat} {left : List Char} {lefts : List (Nat × List Char)} {fields : Fields}
      (unlabelled : IsUnlabelled left) (states : States lefts fields) :
      States ((line, left) :: lefts) fields
  | rfcNumber {line : Nat} {blanks digits behind : List Char} {lefts : List (Nat × List Char)}
      {category : Option (List Char)} {expiry : Option (Nat × Date)}
      (all_blank : ∀ c ∈ blanks, Text.isBlank c = true) (is_digits : Json.IsDigits digits)
      (fits : Text.digitsValue digits < 2 ^ 32)
      (stop : ∀ c ∈ behind.head?, Text.isDecimalDigit c = false)
      (states : States lefts ⟨none, category, expiry⟩) :
      States ((line, "Request for Comments:".toList ++ (blanks ++ (digits ++ behind))) :: lefts)
        ⟨some (Text.digitsValue digits), category, expiry⟩
  | category {line : Nat} {label : String} {blanks value : List Char}
      {lefts : List (Nat × List Char)} {number : Option Nat} {expiry : Option (Nat × Date)}
      (is_label : label = "Intended status:" ∨ label = "Category:")
      (all_blank : ∀ c ∈ blanks, Text.isBlank c = true)
      (first : ∀ c ∈ value.head?, Text.isBlank c = false)
      (last : ∀ c ∈ value.getLast?, Text.isBlank c = false)
      (states : States lefts ⟨number, none, expiry⟩) :
      States ((line, label.toList ++ (blanks ++ value)) :: lefts) ⟨number, some value, expiry⟩
  | expiry {line : Nat} {value : List Char} {lefts : List (Nat × List Char)} {d : Date}
      {number : Option Nat} {category : Option (List Char)}
      (is_date : Date.ofFrontMatter? value = some d)
      (states : States lefts ⟨number, category, none⟩) :
      States ((line, "Expires:".toList ++ value) :: lefts) ⟨number, category, some (line, d)⟩

namespace Header

/-- A column without a label says nothing. -/
theorem readLeft_of_isUnlabelled {left : List Char} (unlabelled : IsUnlabelled left)
    (header : Header) (line : Nat) : header.readLeft line left = header := by
  have no_label : ∀ label ∈ ["Intended status:", "Category:", "Expires:"],
      Text.afterStart? label.toList left = none := by
    intro label mem
    refine if_neg ?_
    rw [List.isPrefixOf_iff_prefix]
    exact unlabelled.no_field label mem
  have no_digits : rfcDigits? left = none := by
    cases read : rfcDigits? left with
    | none => rfl
    | some digits =>
      obtain ⟨blanks, behind, is_left, all_blank, some_digit, all_digits, -⟩ :=
        rfcDigits?_eq_some_iff.1 read
      obtain ⟨digit, digits, rfl⟩ := List.exists_cons_of_ne_nil some_digit
      exact absurd is_left (unlabelled.no_number blanks digit (digits ++ behind) all_blank
        (all_digits digit List.mem_cons_self))
  have no_status : status? left = none := by
    rw [status?, no_label "Intended status:" (by simp), no_label "Category:" (by simp)]
    rfl
  rw [readLeft, no_digits]
  dsimp only
  rw [no_status]
  dsimp only
  rw [no_label "Expires:" (by simp)]

/-- The status behind either of its labels is read. -/
theorem status?_append {label : String}
    (is_label : label = "Intended status:" ∨ label = "Category:") (value : List Char) :
    status? (label.toList ++ value) = some value := by
  rw [status?]
  rcases is_label with rfl | rfl
  · rw [Text.afterStart?_append]
    rfl
  · rw [Text.afterStart?_append]
    rfl

/-- A status is read with the white space around it taken off. -/
theorem readLeft_status {label : String}
    (is_label : label = "Intended status:" ∨ label = "Category:") (header : Header) (line : Nat)
    (behind : List Char) :
    header.readLeft line (label.toList ++ behind) =
      { header with category := some (String.ofList (Text.trim behind)) } := by
  have no_number : rfcDigits? (label.toList ++ behind) = none := by
    rcases is_label with rfl | rfl <;> rfl
  rw [readLeft, no_number]
  dsimp only
  rw [status?_append is_label]

/-- An expiry is read with everything behind its label. -/
theorem readLeft_expiry (header : Header) (line : Nat) (behind : List Char) :
    header.readLeft line ("Expires:".toList ++ behind) =
      { header with expiry := header.expiry.readField line behind } := by
  have no_number : rfcDigits? ("Expires:".toList ++ behind) = none := rfl
  have no_status : status? ("Expires:".toList ++ behind) = none := rfl
  rw [readLeft, no_number]
  dsimp only
  rw [no_status]
  dsimp only
  rw [Text.afterStart?_append]

/-- What left columns say is read of them. -/
theorem readLefts_eq {lefts : List (Nat × List Char)} {fields : Fields}
    (states : States lefts fields) (header : Header) :
    header.readLefts lefts =
      ⟨fields.rfcNumber.or header.rfcNumber,
        (fields.category.map String.ofList).or header.category,
        fields.expiry.elim header.expiry fun found => ⟨some found.2, some found.1,
          header.expiry.text⟩,
        header.authors, header.date⟩ := by
  induction states generalizing header with
  | nil => rfl
  | other unlabelled _ ih =>
    rw [readLefts, List.foldl_cons, readLeft_of_isUnlabelled unlabelled]
    exact ih header
  | @rfcNumber line blanks digits behind _ _ _ all_blank is_digits fits stop _ ih =>
    have read : rfcDigits? ("Request for Comments:".toList ++ (blanks ++ (digits ++ behind))) =
        some digits :=
      rfcDigits?_eq_some_iff.2 ⟨blanks, behind, rfl, all_blank, is_digits.1,
        fun c mem => Text.isDecimalDigit_of_isAsciiDigit (is_digits.2 c mem), stop⟩
    have number : Text.readUnsigned32? digits = some (Text.digitsValue digits) :=
      Text.readUnsigned32?_eq_some_iff.2 ⟨digits, .inl rfl, is_digits, rfl, fits⟩
    rw [readLefts, List.foldl_cons, readLeft, read]
    dsimp only
    rw [number]
    exact ih _
  | @category line label blanks value _ _ _ is_label all_blank first last _ ih =>
    have trimmed := Text.trim_append all_blank (List.forall_mem_nil _) first last
    rw [List.append_nil] at trimmed
    rw [readLefts, List.foldl_cons, readLeft_status is_label, trimmed]
    exact ih _
  | @expiry line value _ d _ _ is_date _ ih =>
    rw [readLefts, List.foldl_cons, readLeft_expiry, Expiry.readField, is_date]
    exact ih _

end Header

/-! ## What the right columns say -/

/-- Right columns and what they say: authors, each perhaps with an organization behind it that is
neither an author nor a date, and then a date. -/
inductive Lists : List (Nat × List Char) → List Author → Nat × Date → Prop
  | date {line : Nat} {right : List Char} {d : Date}
      (is_date : Date.ofFrontMatter? right = some d) : Lists [(line, right)] [] (line, d)
  | author {line : Nat} {name : List Char} {rights : List (Nat × List Char)}
      {authors : List Author} {date : Nat × Date} (is_author : IsAuthor name)
      (lists : Lists rights authors date) :
      Lists ((line, name) :: rights) (⟨String.ofList name, none, some line⟩ :: authors) date
  | affiliated {line below : Nat} {name organization : List Char}
      {rights : List (Nat × List Char)} {authors : List Author} {date : Nat × Date}
      (is_author : IsAuthor name) (no_author : ¬ IsAuthor organization)
      (no_date : Date.ofFrontMatter? organization = none) (lists : Lists rights authors date) :
      Lists ((line, name) :: (below, organization) :: rights)
        (⟨String.ofList name, some (String.ofList organization), some line⟩ :: authors) date

namespace Header

/-- An organization goes to the last author. -/
theorem addOrganization_append (organization : String) (authors : List Author) (author : Author) :
    addOrganization organization (authors ++ [author]) =
      authors ++ [{ author with
        organization := some (author.organization.getD organization) }] := by
  induction authors with
  | nil => rfl
  | cons first authors ih =>
    have some_author : authors ++ [author] ≠ [] := List.append_ne_nil_of_right_ne_nil _ (by simp)
    rw [List.cons_append, addOrganization, ih]
    · rfl
    · exact some_author

/-- An author is added to the list. -/
theorem readRight_of_isAuthor {name : List Char} (is_author : IsAuthor name) (header : Header)
    (line : Nat) :
    header.readRight line name =
      { header with authors := header.authors ++ [⟨String.ofList name, none, some line⟩] } := by
  rw [readRight, is_author.ofFrontMatter?_eq_none]
  exact if_pos (isAuthorName_iff_isAuthor.2 is_author)

/-- What right columns say is read of them. -/
theorem readRights_eq {rights : List (Nat × List Char)} {authors : List Author} {date : Nat × Date}
    (lists : Lists rights authors date) (header : Header) :
    header.readRights rights =
      { header with authors := header.authors ++ authors, date := some date } := by
  induction lists generalizing header with
  | date is_date =>
    rw [readRights, List.foldl_cons, readRight, is_date, List.append_nil]
    rfl
  | author is_author _ ih =>
    rw [readRights, List.foldl_cons, readRight_of_isAuthor is_author]
    refine (ih _).trans ?_
    rw [List.append_assoc]
    rfl
  | @affiliated line below name organization _ _ _ is_author no_author no_date _ ih =>
    have no_match : isAuthorName organization ≠ true :=
      fun matched => no_author (isAuthorName_iff_isAuthor.1 matched)
    have second : ∀ header : Header, header.readRight below organization =
        { header with authors := addOrganization (String.ofList organization) header.authors } := by
      intro header
      rw [readRight, no_date]
      exact if_neg no_match
    rw [readRights, List.foldl_cons, List.foldl_cons, readRight_of_isAuthor is_author, second,
      addOrganization_append]
    refine (ih _).trans ?_
    rw [List.append_assoc]
    rfl

end Header

/-- Right columns with a date have some column. -/
theorem Lists.ne_nil {rights : List (Nat × List Char)} {authors : List Author}
    {date : Nat × Date} (lists : Lists rights authors date) : rights ≠ [] := by
  cases lists <;> exact List.cons_ne_nil _ _

/-! ## Headers -/

/-- A side with something on it has a line with something there. -/
theorem exists_of_side_ne_nil {column : Columns → Option (List Char)} {line : Nat}
    {block : List (List Char)} {columns : List Columns}
    (laid_out : List.Forall₂ LaidOut block columns) (some_side : side column line columns ≠ []) :
    ∃ cs ∈ block, (column (Columns.ofLine cs)).isSome = true := by
  induction laid_out generalizing line with
  | nil => exact absurd rfl some_side
  | @cons cs here block others is_line _ ih =>
    cases is_column : column here with
    | some text =>
      refine ⟨cs, List.mem_cons_self, ?_⟩
      rw [is_line.ofLine_eq, is_column]
      rfl
    | none =>
      rw [side, is_column] at some_side
      obtain ⟨found, mem, is_some⟩ := ih some_side
      exact ⟨found, List.mem_cons_of_mem _ mem, is_some⟩

/-- None of the lines in columns is blank. -/
theorem filled_of_laidOut {block : List (List Char)} {columns : List Columns}
    (laid_out : List.Forall₂ LaidOut block columns) :
    ∀ cs ∈ block, Text.isAllBlank cs = false := by
  induction laid_out with
  | nil => exact List.forall_mem_nil _
  | cons is_line _ ih => exact List.forall_mem_cons.2 ⟨is_line.isAllBlank_eq, ih⟩

/-- Laid-out lines with a date on their right side are the header block of the text in which they
come first, behind blank lines only and up to a blank one. -/
theorem isHeaderBlock_of_laidOut {before block after : List (List Char)} {columns : List Columns}
    (before_blank : ∀ cs ∈ before, Text.isAllBlank cs = true)
    (after_blank : ∀ cs ∈ after.head?, Text.isAllBlank cs = true)
    (laid_out : List.Forall₂ LaidOut block columns) {line : Nat}
    (some_right : side Columns.right line columns ≠ []) :
    IsHeaderBlock (before ++ (block ++ after)) before.length block where
  before := by
    rw [List.take_left]
    exact before_blank
  follows := by
    rw [List.drop_left]
    exact List.prefix_append block after
  filled := filled_of_laidOut laid_out
  ends := by
    rw [List.drop_left, List.getElem?_append_right (Nat.le_refl _), Nat.sub_self,
      ← List.head?_eq_getElem?]
    exact after_blank
  columns := exists_of_side_ne_nil laid_out some_right

/-- A header that is laid out in two columns is read back as it was written. The number, the status
and the expiry are those of the left columns, the authors with their organizations and the date
those of the right ones, however the two are mixed on the lines, and nothing is reported. -/
theorem header_of_laidOut {before block after : List (List Char)} {columns : List Columns}
    {fields : Fields} {authors : List Author} {date : Nat × Date}
    (before_blank : ∀ cs ∈ before, Text.isAllBlank cs = true)
    (after_blank : ∀ cs ∈ after.head?, Text.isAllBlank cs = true)
    (laid_out : List.Forall₂ LaidOut block columns)
    (states : States (side Columns.left (before.length + 1) columns) fields)
    (lists : Lists (side Columns.right (before.length + 1) columns) authors date) :
    (FrontPage.ofLines (before ++ (block ++ after))).header =
        ⟨fields.rfcNumber, fields.category.map String.ofList,
          ⟨fields.expiry.map Prod.snd, fields.expiry.map Prod.fst, none⟩, authors, some date⟩ ∧
      (FrontPage.ofLines (before ++ (block ++ after))).diagnostics = [] := by
  have is_block := isHeaderBlock_of_laidOut before_blank after_blank laid_out lists.ne_nil
  have read : Header.ofBlock (before.length + 1) block =
      ⟨fields.rfcNumber, fields.category.map String.ofList,
        ⟨fields.expiry.map Prod.snd, fields.expiry.map Prod.fst, none⟩, authors, some date⟩ := by
    have apart := Header.readLines_join laid_out Header.empty Header.empty (before.length + 1)
    rw [Header.readLefts_eq states, Header.readRights_eq lists] at apart
    refine apart.trans ?_
    obtain ⟨number, category, expiry⟩ := fields
    cases number <;> cases category <;> cases expiry <;> rfl
  obtain ⟨is_header, is_diagnostics⟩ := is_block.page
  rw [read] at is_header is_diagnostics
  exact ⟨is_header, is_diagnostics⟩

/-- A header in which the labels of the left column stand beside the authors of the right one, with
a left and a right column alone between them. -/
def mixedHeader : List (List Char) :=
  ["Network Working Group".toList ++ (List.replicate 24 ' ' ++ ("J. Smith".toList ++ [])),
    "Request for Comments: 9999".toList ++ (List.replicate 16 ' ' ++ ("Example Inc".toList ++ [])),
    "Category: Informational".toList ++ [' '],
    List.replicate 38 ' ' ++ ("A.-B. Cole, Ed.".toList ++ []),
    "Expires: September 3, 2024".toList ++
      (List.replicate 14 ' ' ++ ("March 2, 2024".toList ++ []))]

/-- Behind a blank line, that header is read back. -/
theorem header_of_laidOut_mixed :
    (FrontPage.ofLines ([[]] ++ (mixedHeader ++ [[]]))).header =
        ⟨some 9999, some "Informational", ⟨some ⟨2024, 9, 3, by decide⟩, some 6, none⟩,
          [⟨"J. Smith", some "Example Inc", some 2⟩, ⟨"A.-B. Cole, Ed.", none, some 5⟩],
          some (6, ⟨2024, 3, 2, by decide⟩)⟩ ∧
      (FrontPage.ofLines ([[]] ++ (mixedHeader ++ [[]]))).diagnostics = [] := by
  have nothing : ∀ c ∈ ([] : List Char), Text.isBlank c = true := List.forall_mem_nil _
  have value : IsColumn "Informational".toList := by decide +kernel
  have laid_out : List.Forall₂ LaidOut mixedHeader
      [⟨some "Network Working Group".toList, some "J. Smith".toList⟩,
        ⟨some "Request for Comments: 9999".toList, some "Example Inc".toList⟩,
        ⟨some "Category: Informational".toList, none⟩, ⟨none, some "A.-B. Cole, Ed.".toList⟩,
        ⟨some "Expires: September 3, 2024".toList, some "March 2, 2024".toList⟩] :=
    .cons (.both (by decide +kernel) (by decide +kernel) (by decide) (by decide +kernel) nothing)
      (.cons (.both (by decide +kernel) (by decide +kernel) (by decide) (by decide +kernel)
          nothing)
        (.cons (.left (by decide +kernel) (by decide +kernel) (List.all_eq_true.1 (by decide)))
          (.cons (.right (by decide) (List.all_eq_true.1 (by decide)) (by decide +kernel) nothing)
            (.cons (.both (by decide +kernel) (by decide +kernel) (by decide) (by decide +kernel)
              nothing) .nil))))
  have states : States [(2, "Network Working Group".toList),
      (3, "Request for Comments:".toList ++ ([' '] ++ ("9999".toList ++ []))),
      (4, "Category:".toList ++ ([' '] ++ "Informational".toList)),
      (6, "Expires:".toList ++ " September 3, 2024".toList)]
        ⟨some 9999, some "Informational".toList, some (6, ⟨2024, 9, 3, by decide⟩)⟩ := by
    refine .other ⟨by decide +kernel, ?_⟩
      (.rfcNumber (List.all_eq_true.1 (by decide)) (by decide) (by decide) nofun
        (.category (.inr rfl) (List.all_eq_true.1 (by decide)) value.first value.last
          (.expiry (by decide +kernel) .nil)))
    intro blanks digit rest _ _ same
    cases same
  have lists : Lists [(2, "J. Smith".toList), (3, "Example Inc".toList),
      (5, "A.-B. Cole, Ed.".toList), (6, "March 2, 2024".toList)]
        [⟨String.ofList "J. Smith".toList, some (String.ofList "Example Inc".toList), some 2⟩,
          ⟨String.ofList "A.-B. Cole, Ed.".toList, none, some 5⟩] (6, ⟨2024, 3, 2, by decide⟩) :=
    .affiliated (by decide +kernel) (by decide +kernel) (by decide +kernel)
      (.author (by decide +kernel) (.date (by decide +kernel)))
  have before_blank : ∀ cs ∈ [([] : List Char)], Text.isAllBlank cs = true := by decide
  have after_blank : ∀ cs ∈ [([] : List Char)].head?, Text.isAllBlank cs = true := by decide
  exact header_of_laidOut before_blank after_blank laid_out states lists

end PlainText

end DraftNits
