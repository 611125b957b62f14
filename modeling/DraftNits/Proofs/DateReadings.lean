import DraftNits.Proofs.MonthNames

/-! # Readings of a date

The date of a first page is tried in seven readings: five patterns for a date with a day, and two
for a date without one, before which the day is written as `1`. What a pattern reads falls into
pieces, one for each of its parts, and these show in the text: whether it has a letter, whether it
has a comma, and whether it begins with a digit. So a text is read in one way only, up to the two
forms of the name of a month, and no order of the readings gives another date.

* `DatePart.any_of_admits`, `DatePattern.any_eq_of_fields?` — what shows in a piece, and in a text
  that follows a pattern.
* `DateReading.date?_fitting` — the reading that fits a text gives every date that some reading
  gives.
* `Date.ofFrontMatter?_eq_findSome?` — the date of a first page is that of the first reading which
  gives one, and `DateReading.findSome?_eq_of_perm` that of the first in any other order. -/

namespace DraftNits

/-! ## Pieces -/

/-- Digits behind white space and perhaps a sign. -/
def IsSpacedNumber (signs piece : List Char) : Prop :=
  ∃ blanks sign digits, piece = blanks ++ (sign ++ digits) ∧
    (∀ c ∈ blanks, Text.isBlank c = true) ∧ (sign = [] ∨ ∃ c ∈ signs, sign = [c]) ∧
      Json.IsDigits digits

namespace IsSpacedNumber

variable {signs piece : List Char}

/-- A number has some digit. -/
theorem ne_nil (number : IsSpacedNumber signs piece) : piece ≠ [] := by
  obtain ⟨blanks, sign, digits, rfl, -, -, is_digits⟩ := number
  exact List.append_ne_nil_of_right_ne_nil _ (List.append_ne_nil_of_right_ne_nil _ is_digits.1)

/-- What is neither white space nor a sign nor a digit does not stand in a number. -/
theorem any_eq_false (number : IsSpacedNumber signs piece) {p : Char → Bool}
    (blank : ∀ c, Text.isBlank c = true → p c = false) (sign : signs.any p = false)
    (digit : ∀ c, Text.isAsciiDigit c = true → p c = false) : piece.any p = false := by
  obtain ⟨blanks, written, digits, rfl, all_blank, is_sign, is_digits⟩ := number
  have none_written : written.any p = false := by
    rcases is_sign with rfl | ⟨c, mem, rfl⟩
    · rfl
    · simpa using List.any_eq_false.1 sign c mem
  rw [List.any_append, List.any_append, none_written, List.any_eq_false.2 ?_,
    List.any_eq_false.2 ?_]
  · rfl
  · intro c mem
    simp [digit c (is_digits.2 c mem)]
  · intro c mem
    simp [blank c (all_blank c mem)]

end IsSpacedNumber

namespace DatePart

variable {part : DatePart} {cs rest : List Char} {fields read_fields : DateFields}

/-- The texts that a part of a pattern stands for. -/
def Admits (piece : List Char) : DatePart → Prop
  | .blank => ∀ c ∈ piece, Text.isBlank c = true
  | .mark c => piece = [c]
  | .year => IsSpacedNumber ['+', '-'] piece
  | .month | .day => IsSpacedNumber [] piece
  | .shortMonth | .longMonth => ∃ month, Date.NamesMonth month piece

/-- The digits of a number stand in front of what is left. -/
theorem exists_digits_of_readNumber? {width n : Nat}
    (read : readNumber? width cs = some (n, rest)) :
    ∃ digits, cs = digits ++ rest ∧ Json.IsDigits digits ∧ Text.digitsValue digits = n := by
  unfold readNumber? at read
  dsimp only at read
  split at read
  · cases read
  next some_digit =>
    obtain ⟨rfl, rfl⟩ := Prod.mk.inj (Option.some.inj read)
    have starts : (cs.take width).takeWhile Text.isAsciiDigit <+: cs :=
      (List.takeWhile_prefix _).trans (List.take_prefix width cs)
    refine ⟨_, (List.prefix_iff_eq_append.1 starts).symm, ⟨?_, ?_⟩, rfl⟩
    · simpa using some_digit
    · exact List.all_eq_true.1 List.all_takeWhile

/-- The digits of a number stand behind white space. -/
theorem exists_piece_of_readNumber? {width n : Nat}
    (read : readNumber? width (Text.trimStart cs) = some (n, rest)) :
    ∃ piece, cs = piece ++ rest ∧ IsSpacedNumber [] piece := by
  obtain ⟨blanks, is_text, all_blank⟩ := Text.exists_trimStart cs
  obtain ⟨digits, is_rest, is_digits, -⟩ := exists_digits_of_readNumber? read
  refine ⟨blanks ++ ([] ++ digits), ?_, blanks, [], digits, rfl, all_blank, .inl rfl, is_digits⟩
  rw [is_text, is_rest, List.nil_append, List.append_assoc]

/-- The digits of a year stand behind white space and perhaps a sign. -/
theorem exists_piece_of_readYear? {n : Int} (read : readYear? cs = some (n, rest)) :
    ∃ piece, cs = piece ++ rest ∧ IsSpacedNumber ['+', '-'] piece := by
  obtain ⟨blanks, is_text, all_blank⟩ := Text.exists_trimStart cs
  -- Behind the sign, a number is read in each of the three cases.
  have signed : ∀ sign behind, Text.trimStart cs = sign ++ behind →
      (sign = [] ∨ ∃ c ∈ ['+', '-'], sign = [c]) → ∀ {width k},
        readNumber? width behind = some (k, rest) →
          ∃ piece, cs = piece ++ rest ∧ IsSpacedNumber ['+', '-'] piece := by
    intro sign behind is_behind is_sign width k read
    obtain ⟨digits, is_rest, is_digits, -⟩ := exists_digits_of_readNumber? read
    refine ⟨blanks ++ (sign ++ digits), ?_, blanks, sign, digits, rfl, all_blank, is_sign,
      is_digits⟩
    rw [is_text, is_behind, is_rest, List.append_assoc, List.append_assoc]
  unfold readYear? at read
  split at read
  next behind is_behind =>
    obtain ⟨⟨k, left⟩, is_read, same⟩ := Option.map_eq_some_iff.1 read
    obtain ⟨-, rfl⟩ := Prod.mk.inj same
    exact signed ['-'] behind is_behind (.inr ⟨'-', by decide, rfl⟩) is_read
  next behind is_behind =>
    obtain ⟨⟨k, left⟩, is_read, same⟩ := Option.map_eq_some_iff.1 read
    obtain ⟨-, rfl⟩ := Prod.mk.inj same
    exact signed ['+'] behind is_behind (.inr ⟨'+', by decide, rfl⟩) is_read
  next =>
    obtain ⟨⟨k, left⟩, is_read, same⟩ := Option.map_eq_some_iff.1 read
    obtain ⟨-, rfl⟩ := Prod.mk.inj same
    exact signed [] _ rfl (.inl rfl) is_read

/-- What a part takes from the beginning of a text is a piece that it stands for. -/
theorem exists_piece_of_read? (read : part.read? fields cs = some (read_fields, rest)) :
    ∃ piece, cs = piece ++ rest ∧ part.Admits piece := by
  cases part with
  | blank =>
    obtain ⟨-, rfl⟩ := Prod.mk.inj (Option.some.inj read)
    exact Text.exists_trimStart cs
  | mark c =>
    cases cs with
    | nil => cases read
    | cons d left =>
      rw [read?] at read
      split at read
      next same =>
        obtain ⟨-, rfl⟩ := Prod.mk.inj (Option.some.inj read)
        exact ⟨[c], by rw [same]; rfl, rfl⟩
      next => cases read
  | year =>
    obtain ⟨⟨n, left⟩, is_read, same⟩ := Option.map_eq_some_iff.1 read
    obtain ⟨-, rfl⟩ := Prod.mk.inj same
    exact exists_piece_of_readYear? is_read
  | month
  | day =>
    obtain ⟨⟨n, left⟩, is_read, same⟩ := Option.map_eq_some_iff.1 read
    obtain ⟨-, rfl⟩ := Prod.mk.inj same
    exact exists_piece_of_readNumber? is_read
  | shortMonth =>
    obtain ⟨month, written, names, is_text, -⟩ := exists_namesMonth_of_read? (.inl rfl) read
    exact ⟨written, is_text, month, names⟩
  | longMonth =>
    obtain ⟨month, written, names, is_text, -⟩ := exists_namesMonth_of_read? (.inr rfl) read
    exact ⟨written, is_text, month, names⟩

/-- Whether characters of a class show in the texts that a part stands for, if they do or do not
show in the names of months. -/
def shows (p : Char → Bool) (named : Bool) : DatePart → Bool
  | .shortMonth | .longMonth => named
  | .mark c => p c
  | _ => false

/-- Characters of a class that is foreign to numbers show in a piece exactly if they do in its
part. -/
theorem any_of_admits {p : Char → Bool} {named : Bool} {piece : List Char}
    (blank : ∀ c, Text.isBlank c = true → p c = false)
    (digit : ∀ c, Text.isAsciiDigit c = true → p c = false) (sign : ['+', '-'].any p = false)
    (name : ∀ {month name}, Date.NamesMonth month name → name.any p = named)
    (admits : part.Admits piece) : piece.any p = part.shows p named := by
  cases part with
  | blank =>
    refine List.any_eq_false.2 fun c mem => ?_
    simp [blank c (admits c mem)]
  | mark c =>
    obtain rfl : piece = [c] := admits
    exact Bool.or_false _
  | year => exact IsSpacedNumber.any_eq_false admits blank sign digit
  | month
  | day => exact IsSpacedNumber.any_eq_false admits blank rfl digit
  | shortMonth
  | longMonth =>
    obtain ⟨month, names⟩ := admits
    exact name names

/-- A piece has a letter exactly if its part stands for one. -/
theorem any_isAsciiLetter {piece : List Char} (admits : part.Admits piece) :
    piece.any Text.isAsciiLetter = part.shows Text.isAsciiLetter true := by
  refine any_of_admits (fun _ => Text.isAsciiLetter_of_isBlank)
    (fun _ => Text.isAsciiLetter_of_isAsciiDigit) rfl ?_ admits
  intro month name names
  obtain ⟨c, others, rfl, letter⟩ := names.exists_cons
  rw [List.any_cons, letter, Bool.true_or]

/-- A character that is foreign to numbers and names shows in a piece exactly if its part is it. -/
theorem any_mark {m : Char} {piece : List Char} (blank : Text.isBlank m = false)
    (digit : Text.isAsciiDigit m = false) (sign : ['+', '-'].any (· == m) = false)
    (letter : Text.isAsciiLetter m = false) (admits : part.Admits piece) :
    piece.any (· == m) = part.shows (· == m) false := by
  have other : ∀ {q : Char → Bool}, q m = false → ∀ c, q c = true → (c == m) = false := by
    intro q not_in_class c in_class
    refine beq_false_of_ne ?_
    rintro rfl
    rw [not_in_class] at in_class
    cases in_class
  refine any_of_admits (other blank) (other digit) sign ?_ admits
  intro month name names
  refine List.any_eq_false.2 fun c mem => ?_
  rw [other letter c (names.letters.2 c mem)]
  exact Bool.false_ne_true

/-- A piece has a comma exactly if its part is one. -/
theorem any_comma {piece : List Char} (admits : part.Admits piece) :
    piece.any (· == ',') = part.shows (· == ',') false :=
  any_mark rfl rfl rfl rfl admits

/-- A piece has a full stop exactly if its part is one. -/
theorem any_fullStop {piece : List Char} (admits : part.Admits piece) :
    piece.any (· == '.') = part.shows (· == '.') false :=
  any_mark rfl rfl rfl rfl admits

end DatePart

/-! ## Patterns -/

namespace DatePattern

variable {part : DatePart} {parts pattern other : DatePattern} {cs : List Char}
  {fields result : DateFields} {d : Date}

/-- A pattern is followed part by part. -/
theorem fields?_cons_iff :
    fields? (part :: parts) fields cs = some result ↔
      ∃ next rest, part.read? fields cs = some (next, rest) ∧
        fields? parts next rest = some result := by
  rw [fields?]
  cases part.read? fields cs with
  | none => simp
  | some found =>
    obtain ⟨next, rest⟩ := found
    simp only [Option.some.injEq, Prod.mk.injEq]
    constructor
    · intro followed
      exact ⟨next, rest, ⟨rfl, rfl⟩, followed⟩
    · rintro ⟨_, _, ⟨rfl, rfl⟩, followed⟩
      exact followed

/-- What shows in the pieces of a pattern shows in a text that follows it. -/
theorem any_eq_of_fields? {p : Char → Bool} {q : DatePart → Bool}
    (shows : ∀ {part piece}, DatePart.Admits piece part → piece.any p = q part)
    (followed : fields? pattern fields cs = some result) : cs.any p = pattern.any q := by
  induction pattern generalizing fields cs with
  | nil =>
    cases cs with
    | nil => rfl
    | cons c rest => cases followed
  | cons part parts ih =>
    obtain ⟨next, rest, read, then_followed⟩ := fields?_cons_iff.1 followed
    obtain ⟨piece, rfl, admits⟩ := DatePart.exists_piece_of_read? read
    rw [List.any_append, List.any_cons, shows admits, ih then_followed]

/-- A pattern that goes on with a number is followed by no letter. -/
theorem not_isAsciiLetter_head? (is_number : part = .year ∨ part = .month ∨ part = .day)
    (followed : fields? (.blank :: part :: parts) fields cs = some result) :
    ∀ c ∈ cs.head?, Text.isAsciiLetter c = false := by
  obtain ⟨_, left, skipped, followed⟩ := fields?_cons_iff.1 followed
  obtain ⟨_, rest, read, -⟩ := fields?_cons_iff.1 followed
  obtain ⟨blanks, rfl, blank⟩ := DatePart.exists_piece_of_read? skipped
  obtain ⟨piece, rfl, number⟩ := DatePart.exists_piece_of_read? read
  -- Neither the white space nor the number has a letter, and the number is not empty.
  have some_piece : piece ≠ [] := by
    rcases is_number with rfl | rfl | rfl <;> exact IsSpacedNumber.ne_nil number
  have no_letter : (blanks ++ piece).any Text.isAsciiLetter = false := by
    rw [List.any_append, DatePart.any_isAsciiLetter blank, DatePart.any_isAsciiLetter number]
    rcases is_number with rfl | rfl | rfl <;> rfl
  intro c first
  have mem : c ∈ blanks ++ piece := by
    rw [← List.append_assoc, List.head?_append_of_ne_nil _ (by simp [some_piece])] at first
    exact List.mem_of_mem_head? first
  simpa using List.any_eq_false.1 no_letter c mem

/-- Where no letter follows, the form that may be longer reads what the short one does. -/
theorem fields?_longMonth (followed : fields? (.shortMonth :: parts) fields cs = some result)
    (stop : ∀ {next rest}, fields? parts next rest = some result →
      ∀ c ∈ rest.head?, Text.isAsciiLetter c = false) :
    fields? (.longMonth :: parts) fields cs = some result := by
  obtain ⟨next, rest, read, then_followed⟩ := fields?_cons_iff.1 followed
  obtain ⟨month, written, names, rfl, rfl⟩ :=
    DatePart.exists_namesMonth_of_read? (.inl rfl) read
  -- The long form could only take more if the rest of the name came next.
  exact fields?_cons_iff.2
    ⟨_, rest, DatePart.read?_longMonth names (stop then_followed), then_followed⟩

/-- At the end of a pattern, a year takes the rest of the text. -/
theorem fields?_blank_year_iff :
    fields? [.blank, .year] fields cs = some result ↔
      ∃ year, DatePart.readYear? (Text.trimStart cs) = some (year, []) ∧
        result = { fields with year := some year } := by
  rw [fields?_cons_iff]
  constructor
  · rintro ⟨_, rest, ⟨⟩, followed⟩
    obtain ⟨_, left, read, ends⟩ := fields?_cons_iff.1 followed
    obtain ⟨⟨year, behind⟩, is_year, same⟩ := Option.map_eq_some_iff.1 read
    obtain ⟨rfl, rfl⟩ := Prod.mk.inj same
    cases behind with
    | nil => exact ⟨year, is_year, (Option.some.inj ends).symm⟩
    | cons c others => cases ends
  · rintro ⟨year, is_year, rfl⟩
    refine ⟨fields, Text.trimStart cs, rfl, fields?_cons_iff.2 ⟨_, [], ?_, rfl⟩⟩
    exact Option.map_eq_some_iff.2 ⟨_, is_year, rfl⟩

/-- A text gives a date along a pattern if it gives the year, month and day of the date. -/
theorem date?_eq_some_iff :
    date? pattern cs = some d ↔
      fields? pattern ⟨none, none, none⟩ cs = some ⟨some d.year, some d.month, some d.day⟩ := by
  unfold date?
  constructor
  · intro is_date
    split at is_date
    next year month day followed =>
      obtain ⟨rfl, rfl, rfl⟩ := Date.ofYmd?_eq_some_iff.1 is_date
      exact followed
    next => cases is_date
  · intro followed
    rw [followed]
    exact Date.ofYmd?_self d

/-- The long name is read wherever the short one is, in dates that begin with it. -/
theorem monthDayYear_of_short (is_date : shortMonthDayYear.date? cs = some d) :
    monthDayYear.date? cs = some d := by
  rw [date?_eq_some_iff] at is_date ⊢
  exact fields?_longMonth is_date (not_isAsciiLetter_head? (.inr (.inr rfl)))

/-- The long name is read wherever the short one is, in dates that begin with the day. -/
theorem dayMonthYear_of_short (is_date : dayShortMonthYear.date? cs = some d) :
    dayMonthYear.date? cs = some d := by
  rw [date?_eq_some_iff] at is_date ⊢
  obtain ⟨_, _, day, followed⟩ := fields?_cons_iff.1 is_date
  obtain ⟨_, _, blank, followed⟩ := fields?_cons_iff.1 followed
  refine fields?_cons_iff.2 ⟨_, _, day, fields?_cons_iff.2 ⟨_, _, blank, ?_⟩⟩
  exact fields?_longMonth followed (not_isAsciiLetter_head? (.inl rfl))

end DatePattern

/-! ## Readings -/

/-- A way to read a date: what is written in front of the text, and the pattern that it has to
follow then. -/
structure DateReading where
  /-- What is written in front. -/
  opening : List Char
  /-- The pattern. -/
  pattern : DatePattern
  deriving DecidableEq

namespace DateReading

variable {reading : DateReading} {cs : List Char} {d : Date}

/-- The date that a text gives in a reading. -/
def date? (reading : DateReading) (cs : List Char) : Option Date :=
  reading.pattern.date? (reading.opening ++ cs)

/-- The readings of the date of a first page, in the order in which they are tried. -/
def frontMatter : List DateReading :=
  DatePattern.written.map (DateReading.mk []) ++
    DatePattern.dayFirst.map (DateReading.mk ['1', ' '])

/-- The reading that fits a text. A date without a letter is all numbers, a comma stands only where
the month comes first and the day next, and where the day comes first the text begins with a
digit. -/
def fitting (cs : List Char) : DateReading :=
  if cs.any Text.isAsciiLetter = false then ⟨[], .iso⟩
  else if cs.any (· == ',') then ⟨[], .monthDayYear⟩
  else if (Text.trimStart cs).head?.any Text.isAsciiDigit then ⟨[], .dayMonthYear⟩
  else ⟨['1', ' '], .dayMonthYear⟩

/-- A text that follows a pattern has a letter or a comma exactly if the pattern has. -/
theorem any_of_date? {pattern : DatePattern} (is_date : pattern.date? cs = some d) :
    cs.any Text.isAsciiLetter = pattern.any (DatePart.shows Text.isAsciiLetter true) ∧
      cs.any (· == ',') = pattern.any (DatePart.shows (· == ',') false) := by
  rw [DatePattern.date?_eq_some_iff] at is_date
  exact ⟨DatePattern.any_eq_of_fields? DatePart.any_isAsciiLetter is_date,
    DatePattern.any_eq_of_fields? DatePart.any_comma is_date⟩

/-- A date in numbers fits the reading of numbers. -/
theorem fitting_of_iso (is_date : DatePattern.iso.date? cs = some d) : fitting cs = ⟨[], .iso⟩ := by
  obtain ⟨letter, -⟩ := any_of_date? is_date
  exact if_pos letter

/-- A date that begins with the month and has a day fits the reading of such dates. -/
theorem fitting_of_monthDayYear (is_date : DatePattern.monthDayYear.date? cs = some d) :
    fitting cs = ⟨[], .monthDayYear⟩ := by
  obtain ⟨letter, comma⟩ := any_of_date? is_date
  rw [fitting, letter, comma]
  rfl

/-- A date that begins with the day fits the reading of such dates. -/
theorem fitting_of_dayMonthYear (is_date : DatePattern.dayMonthYear.date? cs = some d) :
    fitting cs = ⟨[], .dayMonthYear⟩ := by
  obtain ⟨letter, comma⟩ := any_of_date? is_date
  have first : (Text.trimStart cs).head?.any Text.isAsciiDigit = true := by
    obtain ⟨_, _, read, -⟩ := DatePattern.fields?_cons_iff.1
      (DatePattern.date?_eq_some_iff.1 is_date)
    obtain ⟨⟨n, rest⟩, is_read, -⟩ := Option.map_eq_some_iff.1 read
    obtain ⟨digits, is_text, is_digits, -⟩ := DatePart.exists_digits_of_readNumber? is_read
    obtain ⟨digit, others, rfl⟩ := List.exists_cons_of_ne_nil is_digits.1
    rw [is_text]
    exact is_digits.2 digit List.mem_cons_self
  rw [fitting, letter, comma, first]
  rfl

/-- Of a date without a day, the day that is written in front is read as such, and then the name of
the month and the year. -/
theorem exists_parts_of_dayMonthYear
    (is_date : DatePattern.dayMonthYear.date? ('1' :: ' ' :: cs) = some d) :
    d.day = 1 ∧ ∃ written rest, Date.NamesMonth d.month written ∧
      Text.trimStart cs = written ++ rest ∧
      DatePart.readYear? (Text.trimStart rest) = some (d.year, []) := by
  have day : DatePart.day.read? ⟨none, none, none⟩ ('1' :: ' ' :: cs) =
      some (⟨none, none, some 1⟩, ' ' :: cs) := rfl
  have blank : DatePart.blank.read? ⟨none, none, some 1⟩ (' ' :: cs) =
      some (⟨none, none, some 1⟩, Text.trimStart cs) := rfl
  -- What is written in front is read without looking at the text behind it.
  rw [DatePattern.date?_eq_some_iff, DatePattern.dayMonthYear, DatePattern.fields?, day] at is_date
  dsimp only at is_date
  rw [DatePattern.fields?, blank] at is_date
  obtain ⟨_, rest, read, followed⟩ := DatePattern.fields?_cons_iff.1 is_date
  obtain ⟨month, written, names, is_text, rfl⟩ :=
    DatePart.exists_namesMonth_of_read? (.inr rfl) read
  obtain ⟨year, is_year, same⟩ := DatePattern.fields?_blank_year_iff.1 followed
  obtain ⟨same_year, same_month, same_day⟩ := DateFields.mk.inj same
  obtain rfl := Option.some.inj same_month
  refine ⟨Option.some.inj same_day, written, rest, names, is_text, ?_⟩
  rw [is_year, Option.some.inj same_year]

/-- A date without a day fits the reading of such dates. -/
theorem fitting_of_monthYear
    (is_date : DatePattern.dayMonthYear.date? ('1' :: ' ' :: cs) = some d) :
    fitting cs = ⟨['1', ' '], .dayMonthYear⟩ := by
  have opening : ∀ {p : Char → Bool}, p '1' = false → p ' ' = false →
      ('1' :: ' ' :: cs).any p = cs.any p := by
    intro p one space
    rw [List.any_cons, List.any_cons, one, space]
    rfl
  obtain ⟨letter, comma⟩ := any_of_date? is_date
  rw [opening rfl rfl] at letter comma
  have first : (Text.trimStart cs).head?.any Text.isAsciiDigit = false := by
    obtain ⟨-, written, rest, names, is_text, -⟩ := exists_parts_of_dayMonthYear is_date
    obtain ⟨c, others, rfl, is_letter⟩ := names.exists_cons
    rw [is_text]
    by_contra digit
    rw [Text.isAsciiLetter_of_isAsciiDigit (by simpa using digit)] at is_letter
    cases is_letter
  rw [fitting, letter, comma, first]
  rfl

/-- The reading that fits a text gives every date that some reading gives. -/
theorem date?_fitting (mem : reading ∈ frontMatter) (is_date : reading.date? cs = some d) :
    (fitting cs).date? cs = some d := by
  have of_long : ∀ {long : DateReading}, fitting cs = long → long.date? cs = some d →
      (fitting cs).date? cs = some d := by
    rintro _ rfl is_long
    exact is_long
  simp only [frontMatter, DatePattern.written, DatePattern.dayFirst, List.map_cons, List.map_nil,
    List.cons_append, List.nil_append, List.mem_cons, List.not_mem_nil, or_false] at mem
  -- A reading with the short name gives way to the one with the long name, which fits.
  rcases mem with rfl | rfl | rfl | rfl | rfl | rfl | rfl
  · exact of_long (fitting_of_monthDayYear is_date) is_date
  · have is_long := DatePattern.monthDayYear_of_short is_date
    exact of_long (fitting_of_monthDayYear is_long) is_long
  · exact of_long (fitting_of_dayMonthYear is_date) is_date
  · have is_long := DatePattern.dayMonthYear_of_short is_date
    exact of_long (fitting_of_dayMonthYear is_long) is_long
  · exact of_long (fitting_of_iso is_date) is_date
  · exact of_long (fitting_of_monthYear is_date) is_date
  · have is_long := DatePattern.dayMonthYear_of_short is_date
    exact of_long (fitting_of_monthYear is_long) is_long

/-- Every reading that gives a date of a text gives the same one. -/
theorem date?_unique {other : DateReading} {e : Date} (mem : reading ∈ frontMatter)
    (also_mem : other ∈ frontMatter) (is_date : reading.date? cs = some d)
    (also : other.date? cs = some e) : d = e :=
  Option.some.inj ((date?_fitting mem is_date).symm.trans (date?_fitting also_mem also))

/-- The first of the readings gives a date exactly if some of them does. -/
theorem findSome?_eq_some_iff {readings : List DateReading}
    (known : ∀ reading ∈ readings, reading ∈ frontMatter) :
    readings.findSome? (fun reading => reading.date? cs) = some d ↔
      ∃ reading ∈ readings, reading.date? cs = some d := by
  constructor
  · exact List.exists_of_findSome?_eq_some
  · rintro ⟨reading, mem, is_date⟩
    cases found : readings.findSome? (fun reading => reading.date? cs) with
    | none =>
      rw [List.findSome?_eq_none_iff.1 found reading mem] at is_date
      cases is_date
    | some e =>
      obtain ⟨first, first_mem, also⟩ := List.exists_of_findSome?_eq_some found
      rw [date?_unique (known reading mem) (known first first_mem) is_date also]

/-- In which order the readings are tried does not matter. -/
theorem findSome?_eq_of_perm {order : List DateReading} (perm : order.Perm frontMatter) :
    order.findSome? (fun reading => reading.date? cs) =
      frontMatter.findSome? (fun reading => reading.date? cs) := by
  -- Which date is found depends only on which readings there are.
  refine Option.ext fun d => ?_
  rw [findSome?_eq_some_iff fun reading mem => perm.mem_iff.1 mem,
    findSome?_eq_some_iff fun reading mem => mem]
  exact exists_congr fun reading => and_congr_left fun _ => perm.mem_iff

end DateReading

/-! ## The date of a first page -/

namespace Date

/-- A text without the white space at its ends and the full stops behind it. -/
def withoutStops (cs : List Char) : List Char := Text.dropEndWhile (· == '.') (Text.trim cs)

/-- The date of a first page is that of the first reading that gives one. -/
theorem ofFrontMatter?_eq_findSome? (cs : List Char) :
    ofFrontMatter? cs =
      DateReading.frontMatter.findSome? fun reading => reading.date? (withoutStops cs) := by
  -- An empty text is not tried at all, but no reading would give a date of it.
  have nothing : DateReading.frontMatter.findSome? (fun reading => reading.date? []) = none := by
    decide +kernel
  have in_turn : DateReading.frontMatter.findSome? (fun reading =>
      reading.date? (withoutStops cs)) =
        (ofPatterns? DatePattern.written (withoutStops cs)).or
          (ofPatterns? DatePattern.dayFirst ('1' :: ' ' :: withoutStops cs)) := by
    rw [DateReading.frontMatter, List.findSome?_append, List.findSome?_map, List.findSome?_map]
    rfl
  have unfolded : ofFrontMatter? cs = if (withoutStops cs).isEmpty then none else
      (ofPatterns? DatePattern.written (withoutStops cs)).or
        (ofPatterns? DatePattern.dayFirst ('1' :: ' ' :: withoutStops cs)) := by
    rw [ofFrontMatter?, ← withoutStops]
    cases ofPatterns? DatePattern.written (withoutStops cs) <;> rfl
  rw [unfolded]
  split
  next empty => rw [List.isEmpty_iff.1 empty, nothing]
  next => exact in_turn.symm

end Date

end DraftNits
