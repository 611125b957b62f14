import DraftNits.Proofs.DateReadings

/-! # Forms of a date

A date of the years 0 to 9999 may be written with the month in front, with the day in front, or in
numbers, and the first of a month by its month and year alone. Each of these forms is read as its
date, with white space around it and full stops behind it, and no text is read as two dates.

* `Date.Writes`, `Date.WritesMonth` — the written forms.
* `DatePattern.date?_monthDayYear`, `DatePattern.date?_dayMonthYear`, `DatePattern.date?_iso` — each
  form follows its pattern.
* `Date.ofFrontMatter?_reads_and_unambiguous` — all forms are read, in one way only. -/

namespace DraftNits

/-! ## Numbers -/

/-- Whether a text is a number of at most so many digits. -/
structure Text.IsNumeral (width n : Nat) (cs : List Char) : Prop where
  /-- The text is made of digits. -/
  isDigits : Json.IsDigits cs
  /-- There are not too many. -/
  short : cs.length ≤ width
  /-- Their value is the number. -/
  value : Text.digitsValue cs = n

instance (width n : Nat) (cs : List Char) : Decidable (Text.IsNumeral width n cs) :=
  decidable_of_iff (Json.IsDigits cs ∧ cs.length ≤ width ∧ Text.digitsValue cs = n)
    ⟨fun parts => ⟨parts.1, parts.2.1, parts.2.2⟩,
      fun numeral => ⟨numeral.isDigits, numeral.short, numeral.value⟩⟩

/-- Digits begin and end with one. -/
theorem Json.IsDigits.ends {digits : List Char} (is_digits : IsDigits digits) :
    (∃ c rest, digits = c :: rest ∧ Text.isAsciiDigit c = true) ∧
      ∃ front c, digits = front ++ [c] ∧ Text.isAsciiDigit c = true := by
  obtain ⟨c, rest, starts⟩ := List.exists_cons_of_ne_nil is_digits.1
  obtain ⟨front, z, ends⟩ := (List.eq_nil_or_concat' digits).resolve_left is_digits.1
  exact ⟨⟨c, rest, starts, is_digits.2 c (starts ▸ List.mem_cons_self)⟩,
    front, z, ends, is_digits.2 z (ends ▸ List.mem_append_right _ (List.mem_singleton_self z))⟩

/-- A year from 0 to 9999 in at most four digits. -/
def Date.WritesYear (year : Int) (cs : List Char) : Prop :=
  ∃ n : Nat, year = n ∧ Text.IsNumeral 4 n cs

namespace DatePart

variable {fields : DateFields} {blanks digits rest : List Char} {n : Nat} {year : Int}

/-- White space is skipped up to the first character that is none. -/
theorem read?_blank (all_blank : ∀ c ∈ blanks, Text.isBlank c = true)
    (stop : ∀ c ∈ rest.head?, Text.isBlank c = false) :
    blank.read? fields (blanks ++ rest) = some (fields, rest) := by
  have skipped : Text.trimStart (blanks ++ rest) = rest := by
    cases rest with
    | nil =>
      rw [Text.trimStart, List.dropWhile_append_of_pos all_blank]
      rfl
    | cons c others => exact Text.trimStart_append all_blank (stop c rfl)
  rw [read?, skipped]

/-- A number is read where no digit follows it. -/
theorem readNumber?_of_isNumeral {width : Nat} (numeral : Text.IsNumeral width n digits)
    (stop : ∀ c ∈ rest.head?, Text.isAsciiDigit c = false) :
    readNumber? width (Text.trimStart (digits ++ rest)) = some (n, rest) := by
  rw [Text.trimStart_of_isDigits numeral.isDigits,
    readNumber?_append numeral.isDigits numeral.short (.inr stop), numeral.value]

/-- A day is read where no digit follows it. -/
theorem read?_day (numeral : Text.IsNumeral 2 n digits)
    (stop : ∀ c ∈ rest.head?, Text.isAsciiDigit c = false) :
    day.read? fields (digits ++ rest) = some ({ fields with day := some n }, rest) := by
  rw [read?, readNumber?_of_isNumeral numeral stop]
  rfl

/-- A month in numbers is read where no digit follows it. -/
theorem read?_month (numeral : Text.IsNumeral 2 n digits)
    (stop : ∀ c ∈ rest.head?, Text.isAsciiDigit c = false) :
    month.read? fields (digits ++ rest) = some ({ fields with month := some n }, rest) := by
  rw [read?, readNumber?_of_isNumeral numeral stop]
  rfl

/-- A year is read where no digit follows it. -/
theorem read?_year (writes : Date.WritesYear year digits)
    (stop : ∀ c ∈ rest.head?, Text.isAsciiDigit c = false) :
    DatePart.year.read? fields (digits ++ rest) =
      some ({ fields with year := some year }, rest) := by
  obtain ⟨n, rfl, numeral⟩ := writes
  rw [read?, readYear?_isDigits numeral.isDigits,
    readNumber?_append numeral.isDigits numeral.short (.inr stop), numeral.value]
  rfl

end DatePart

/-! ## What stands at the beginning -/

namespace Text

variable {blanks digits : List Char}

/-- Digits do not begin with white space. -/
theorem isBlank_head?_digits (is_digits : Json.IsDigits digits) (rest : List Char) :
    ∀ c ∈ (digits ++ rest).head?, isBlank c = false := by
  obtain ⟨⟨digit, others, rfl, is_digit⟩, -⟩ := is_digits.ends
  rintro c ⟨⟩
  exact isBlank_of_isAsciiDigit is_digit

/-- Digits, also behind white space, do not begin with a letter. -/
theorem isAsciiLetter_head?_digits (all_blank : ∀ c ∈ blanks, isBlank c = true)
    (is_digits : Json.IsDigits digits) (rest : List Char) :
    ∀ c ∈ (blanks ++ (digits ++ rest)).head?, isAsciiLetter c = false := by
  cases blanks with
  | nil =>
    obtain ⟨⟨digit, others, rfl, is_digit⟩, -⟩ := is_digits.ends
    rintro c ⟨⟩
    exact isAsciiLetter_of_isAsciiDigit is_digit
  | cons b others =>
    rintro c ⟨⟩
    exact isAsciiLetter_of_isBlank (all_blank b List.mem_cons_self)

/-- The name of a month does not begin with white space. -/
theorem isBlank_head?_name {month : Nat} {name : List Char} (names : Date.NamesMonth month name)
    (rest : List Char) : ∀ c ∈ (name ++ rest).head?, isBlank c = false := by
  obtain ⟨letter, others, rfl, is_letter⟩ := names.exists_cons
  rintro c ⟨⟩
  exact isBlank_of_isAsciiLetter is_letter

/-- The name of a month, also behind white space, does not begin with a digit. -/
theorem isAsciiDigit_head?_name {month : Nat} {name : List Char}
    (all_blank : ∀ c ∈ blanks, isBlank c = true) (names : Date.NamesMonth month name)
    (rest : List Char) : ∀ c ∈ (blanks ++ (name ++ rest)).head?, isAsciiDigit c = false := by
  have other : ∀ {c}, isBlank c = true ∨ isAsciiLetter c = true → isAsciiDigit c = false := by
    intro c kind
    by_contra digit
    rw [Bool.not_eq_false] at digit
    rcases kind with blank | letter
    · rw [isBlank_of_isAsciiDigit digit] at blank
      cases blank
    · rw [isAsciiLetter_of_isAsciiDigit digit] at letter
      cases letter
  cases blanks with
  | nil =>
    obtain ⟨letter, others, rfl, is_letter⟩ := names.exists_cons
    rintro c ⟨⟩
    exact other (.inr is_letter)
  | cons b others =>
    rintro c ⟨⟩
    exact other (.inl (all_blank b List.mem_cons_self))

end Text

/-! ## Patterns -/

namespace DatePattern

/-- A part that is read makes way for the others. -/
theorem fields?_cons_of_read? {part : DatePart} {parts : DatePattern} {fields next : DateFields}
    {cs rest : List Char} (read : part.read? fields cs = some (next, rest)) :
    fields? (part :: parts) fields cs = fields? parts next rest := by
  rw [fields?, read]

variable {d : Date} {day month year blanks more : List Char}

/-- A year at the end completes the date, also behind white space. -/
theorem fields?_blank_year {fields : DateFields} {y : Int}
    (all_blank : ∀ c ∈ blanks, Text.isBlank c = true) (is_year : Date.WritesYear y year) :
    fields? [.blank, .year] fields (blanks ++ year) = some { fields with year := some y } := by
  obtain ⟨n, -, numeral⟩ := id is_year
  have year_first := Text.isBlank_head?_digits numeral.isDigits []
  have year_read : DatePart.year.read? fields (year ++ []) =
      some ({ fields with year := some y }, []) := DatePart.read?_year is_year (by rintro c ⟨⟩)
  rw [List.append_nil] at year_first year_read
  rw [fields?_cons_of_read? (DatePart.read?_blank all_blank year_first),
    fields?_cons_of_read? year_read]
  rfl

/-- A date with the month in front, then the day, and the year behind a comma. -/
theorem date?_monthDayYear (names : Date.NamesMonth d.month month)
    (first : ∀ c ∈ blanks, Text.isBlank c = true) (is_day : Text.IsNumeral 2 d.day day)
    (second : ∀ c ∈ more, Text.isBlank c = true) (is_year : Date.WritesYear d.year year) :
    monthDayYear.date? (month ++ (blanks ++ (day ++ ',' :: (more ++ year)))) = some d := by
  have name_read : DatePart.longMonth.read? ⟨none, none, none⟩
      (month ++ (blanks ++ (day ++ ',' :: (more ++ year)))) =
        some (⟨none, some d.month, none⟩, blanks ++ (day ++ ',' :: (more ++ year))) :=
    DatePart.read?_longMonth names (Text.isAsciiLetter_head?_digits first is_day.isDigits _)
  have skipped : DatePart.blank.read? ⟨none, some d.month, none⟩
      (blanks ++ (day ++ ',' :: (more ++ year))) =
        some (⟨none, some d.month, none⟩, day ++ ',' :: (more ++ year)) :=
    DatePart.read?_blank first (Text.isBlank_head?_digits is_day.isDigits _)
  have day_read : DatePart.day.read? ⟨none, some d.month, none⟩ (day ++ ',' :: (more ++ year)) =
      some (⟨none, some d.month, some d.day⟩, ',' :: (more ++ year)) :=
    DatePart.read?_day is_day (by rintro c ⟨⟩; rfl)
  have comma_read : (DatePart.mark ',').read? ⟨none, some d.month, some d.day⟩
      (',' :: (more ++ year)) = some (⟨none, some d.month, some d.day⟩, more ++ year) := rfl
  rw [date?_eq_some_iff, monthDayYear, fields?_cons_of_read? name_read,
    fields?_cons_of_read? skipped, fields?_cons_of_read? day_read,
    fields?_cons_of_read? comma_read, fields?_blank_year second is_year]

/-- A date with the day in front, then the name of the month, and the year. -/
theorem date?_dayMonthYear (is_day : Text.IsNumeral 2 d.day day)
    (first : ∀ c ∈ blanks, Text.isBlank c = true) (names : Date.NamesMonth d.month month)
    (second : ∀ c ∈ more, Text.isBlank c = true) (is_year : Date.WritesYear d.year year) :
    dayMonthYear.date? (day ++ (blanks ++ (month ++ (more ++ year)))) = some d := by
  obtain ⟨n, -, numeral⟩ := id is_year
  have no_letter := Text.isAsciiLetter_head?_digits second numeral.isDigits []
  rw [List.append_nil] at no_letter
  have day_read : DatePart.day.read? ⟨none, none, none⟩
      (day ++ (blanks ++ (month ++ (more ++ year)))) =
        some (⟨none, none, some d.day⟩, blanks ++ (month ++ (more ++ year))) :=
    DatePart.read?_day is_day (Text.isAsciiDigit_head?_name first names _)
  have skipped : DatePart.blank.read? ⟨none, none, some d.day⟩
      (blanks ++ (month ++ (more ++ year))) =
        some (⟨none, none, some d.day⟩, month ++ (more ++ year)) :=
    DatePart.read?_blank first (Text.isBlank_head?_name names _)
  have name_read : DatePart.longMonth.read? ⟨none, none, some d.day⟩ (month ++ (more ++ year)) =
      some (⟨none, some d.month, some d.day⟩, more ++ year) :=
    DatePart.read?_longMonth names no_letter
  rw [date?_eq_some_iff, dayMonthYear, fields?_cons_of_read? day_read,
    fields?_cons_of_read? skipped, fields?_cons_of_read? name_read,
    fields?_blank_year second is_year]

/-- A date in numbers, with the year in front. -/
theorem date?_iso (is_year : Date.WritesYear d.year year)
    (is_month : Text.IsNumeral 2 d.month month) (is_day : Text.IsNumeral 2 d.day day) :
    iso.date? (year ++ '-' :: (month ++ '-' :: day)) = some d := by
  have year_read : DatePart.year.read? ⟨none, none, none⟩ (year ++ '-' :: (month ++ '-' :: day)) =
      some (⟨some d.year, none, none⟩, '-' :: (month ++ '-' :: day)) :=
    DatePart.read?_year is_year (by rintro c ⟨⟩; rfl)
  have month_read : DatePart.month.read? ⟨some d.year, none, none⟩ (month ++ '-' :: day) =
      some (⟨some d.year, some d.month, none⟩, '-' :: day) :=
    DatePart.read?_month is_month (by rintro c ⟨⟩; rfl)
  have day_read : DatePart.day.read? ⟨some d.year, some d.month, none⟩ (day ++ []) =
      some (⟨some d.year, some d.month, some d.day⟩, []) :=
    DatePart.read?_day is_day (by rintro c ⟨⟩)
  rw [List.append_nil] at day_read
  have mark_read : ∀ fields rest, (DatePart.mark '-').read? fields ('-' :: rest) =
      some (fields, rest) := fun _ _ => rfl
  rw [date?_eq_some_iff, iso, fields?_cons_of_read? year_read,
    fields?_cons_of_read? (mark_read _ _), fields?_cons_of_read? month_read,
    fields?_cons_of_read? (mark_read _ _), fields?_cons_of_read? day_read]
  rfl

end DatePattern

/-! ## Written dates -/

namespace Date

/-- The written forms of a date with a day. White space may stand, or be missing, where a form has a
space. -/
inductive Writes (d : Date) : List Char → Prop
  /-- The month, the day, and the year behind a comma. -/
  | monthDayYear {month blanks day more year : List Char} (names : NamesMonth d.month month)
    (first : ∀ c ∈ blanks, Text.isBlank c = true) (is_day : Text.IsNumeral 2 d.day day)
    (second : ∀ c ∈ more, Text.isBlank c = true) (is_year : WritesYear d.year year) :
    Writes d (month ++ (blanks ++ (day ++ ',' :: (more ++ year))))
  /-- The day, the month and the year. -/
  | dayMonthYear {day blanks month more year : List Char} (is_day : Text.IsNumeral 2 d.day day)
    (first : ∀ c ∈ blanks, Text.isBlank c = true) (names : NamesMonth d.month month)
    (second : ∀ c ∈ more, Text.isBlank c = true) (is_year : WritesYear d.year year) :
    Writes d (day ++ (blanks ++ (month ++ (more ++ year))))
  /-- The year, the month and the day in numbers. -/
  | iso {year month day : List Char} (is_year : WritesYear d.year year)
    (is_month : Text.IsNumeral 2 d.month month) (is_day : Text.IsNumeral 2 d.day day) :
    Writes d (year ++ '-' :: (month ++ '-' :: day))

/-- The first day of the month of a date. -/
def firstOfMonth (d : Date) : Date where
  year := d.year
  month := d.month
  day := 1
  isDate := ⟨d.isDate.1, d.isDate.2.1, Nat.le_refl 1, Nat.le_trans d.isDate.2.2.1 d.isDate.2.2.2⟩

/-- The written form of the month of a date. -/
def WritesMonth (d : Date) (cs : List Char) : Prop :=
  ∃ month blanks year, cs = month ++ (blanks ++ year) ∧ NamesMonth d.month month ∧
    (∀ c ∈ blanks, Text.isBlank c = true) ∧ WritesYear d.year year

/-- Whether a text ends with a digit. -/
def EndsInDigit (cs : List Char) : Prop :=
  ∃ front digit, cs = front ++ [digit] ∧ Text.isAsciiDigit digit = true

/-- What stands in front of the end does not matter. -/
theorem EndsInDigit.append (front : List Char) {cs : List Char} (ends : EndsInDigit cs) :
    EndsInDigit (front ++ cs) := by
  obtain ⟨rest, digit, rfl, is_digit⟩ := ends
  exact ⟨front ++ rest, digit, (List.append_assoc _ _ _).symm, is_digit⟩

variable {d : Date} {cs before stops after : List Char}

/-- A written date begins with no white space and ends with a digit. -/
theorem Writes.ends (writes : d.Writes cs) :
    (∀ c ∈ cs.head?, Text.isBlank c = false) ∧ EndsInDigit cs := by
  cases writes with
  | monthDayYear names first is_day second is_year =>
    obtain ⟨n, -, numeral⟩ := is_year
    have last : EndsInDigit _ := numeral.isDigits.ends.2
    exact ⟨Text.isBlank_head?_name names _,
      .append _ (.append _ (.append _ (.append [','] (.append _ last))))⟩
  | dayMonthYear is_day first names second is_year =>
    obtain ⟨n, -, numeral⟩ := is_year
    have last : EndsInDigit _ := numeral.isDigits.ends.2
    exact ⟨Text.isBlank_head?_digits is_day.isDigits _,
      .append _ (.append _ (.append _ (.append _ last)))⟩
  | iso is_year is_month is_day =>
    obtain ⟨n, -, numeral⟩ := is_year
    have last : EndsInDigit _ := is_day.isDigits.ends.2
    exact ⟨Text.isBlank_head?_digits numeral.isDigits _,
      .append _ (.append ['-'] (.append _ (.append ['-'] last)))⟩

/-- A written month begins with no white space and ends with a digit. -/
theorem WritesMonth.ends (writes : d.WritesMonth cs) :
    (∀ c ∈ cs.head?, Text.isBlank c = false) ∧ EndsInDigit cs := by
  obtain ⟨month, blanks, year, rfl, names, -, n, -, numeral⟩ := writes
  have last : EndsInDigit _ := numeral.isDigits.ends.2
  exact ⟨Text.isBlank_head?_name names _, .append _ (.append _ last)⟩

/-- White space around a date and full stops behind it are taken off. -/
theorem withoutStops_append (first : ∀ c ∈ cs.head?, Text.isBlank c = false)
    (last : EndsInDigit cs) (front : ∀ c ∈ before, Text.isBlank c = true)
    (all_stops : ∀ c ∈ stops, c = '.') (back : ∀ c ∈ after, Text.isBlank c = true) :
    withoutStops (before ++ (cs ++ (stops ++ after))) = cs := by
  obtain ⟨rest, digit, rfl, is_digit⟩ := last
  have no_stop : ∀ c ∈ (rest ++ [digit]).getLast?, (c == '.') = false := by
    intro c is_last
    rw [List.getLast?_concat] at is_last
    obtain rfl := Option.some.inj is_last
    refine beq_false_of_ne ?_
    rintro rfl
    exact absurd is_digit (by decide)
  -- White space is taken off up to the last full stop, or up to the digit if there is none.
  have no_blank : ∀ c ∈ (rest ++ [digit] ++ stops).getLast?, Text.isBlank c = false := by
    intro c is_last
    rcases List.eq_nil_or_concat' stops with rfl | ⟨others, stop, rfl⟩
    · rw [List.append_nil, List.getLast?_concat] at is_last
      obtain rfl := Option.some.inj is_last
      exact Text.isBlank_of_isAsciiDigit is_digit
    · rw [← List.append_assoc, List.getLast?_concat] at is_last
      obtain rfl := Option.some.inj is_last
      rw [all_stops stop (List.mem_append_right _ (List.mem_singleton_self stop))]
      decide
  have starts : ∀ c ∈ (rest ++ [digit] ++ stops).head?, Text.isBlank c = false := by
    rw [List.head?_append_of_ne_nil _ (List.append_ne_nil_of_right_ne_nil _ (List.cons_ne_nil _ _))]
    exact first
  rw [withoutStops, ← List.append_assoc _ stops, Text.trim_append front back starts no_blank]
  refine Text.dropEndWhile_append (fun c mem => ?_) no_stop
  rw [all_stops c mem]
  rfl

/-! ## All written dates -/

/-- A date that some reading gives is the date of a first page, whatever stands around it. -/
theorem ofFrontMatter?_append (reads : ∃ reading ∈ DateReading.frontMatter,
      reading.date? cs = some d)
    (ends : (∀ c ∈ cs.head?, Text.isBlank c = false) ∧ EndsInDigit cs)
    (front : ∀ c ∈ before, Text.isBlank c = true) (all_stops : ∀ c ∈ stops, c = '.')
    (back : ∀ c ∈ after, Text.isBlank c = true) :
    ofFrontMatter? (before ++ (cs ++ (stops ++ after))) = some d := by
  rw [ofFrontMatter?_eq_findSome?, withoutStops_append ends.1 ends.2 front all_stops back,
    DateReading.findSome?_eq_some_iff fun _ => id]
  exact reads

/-- A written date follows the pattern of some reading. -/
theorem Writes.exists_reading (writes : d.Writes cs) :
    ∃ reading ∈ DateReading.frontMatter, reading.date? cs = some d := by
  have nothing_in_front : ∀ pattern, (DateReading.mk [] pattern).date? cs = pattern.date? cs :=
    fun _ => rfl
  cases writes with
  | monthDayYear names first is_day second is_year =>
    refine ⟨⟨[], .monthDayYear⟩, by decide, ?_⟩
    rw [nothing_in_front]
    exact DatePattern.date?_monthDayYear names first is_day second is_year
  | dayMonthYear is_day first names second is_year =>
    refine ⟨⟨[], .dayMonthYear⟩, by decide, ?_⟩
    rw [nothing_in_front]
    exact DatePattern.date?_dayMonthYear is_day first names second is_year
  | iso is_year is_month is_day =>
    refine ⟨⟨[], .iso⟩, by decide, ?_⟩
    rw [nothing_in_front]
    exact DatePattern.date?_iso is_year is_month is_day

/-- A written month gives the first of the month, for which the day is written in front. -/
theorem WritesMonth.exists_reading (writes : d.WritesMonth cs) :
    ∃ reading ∈ DateReading.frontMatter, reading.date? cs = some d.firstOfMonth := by
  obtain ⟨month, blanks, year, rfl, names, all_blank, is_year⟩ := writes
  have one : Text.IsNumeral 2 d.firstOfMonth.day ['1'] := by
    show Text.IsNumeral 2 1 ['1']
    decide
  have space : ∀ c ∈ [' '], Text.isBlank c = true := List.forall_mem_singleton.2 rfl
  refine ⟨⟨['1', ' '], .dayMonthYear⟩, by decide, ?_⟩
  show DatePattern.dayMonthYear.date? (['1'] ++ ([' '] ++ (month ++ (blanks ++ year)))) = _
  exact DatePattern.date?_dayMonthYear one space names all_blank is_year

/-- Every written form of a date is read as the date, and every written month as its first day, with
any white space around it and any full stops behind it. All readings that give a date of a text give
the same one, so that in any order of the readings the first of them gives the date that is read. -/
theorem ofFrontMatter?_reads_and_unambiguous :
    (∀ (d : Date) (before cs stops after : List Char), (∀ c ∈ before, Text.isBlank c = true) →
      (∀ c ∈ stops, c = '.') → (∀ c ∈ after, Text.isBlank c = true) →
      (d.Writes cs → ofFrontMatter? (before ++ (cs ++ (stops ++ after))) = some d) ∧
      (d.WritesMonth cs →
        ofFrontMatter? (before ++ (cs ++ (stops ++ after))) = some d.firstOfMonth)) ∧
    (∀ (cs : List Char) (reading other : DateReading) (d e : Date),
      reading ∈ DateReading.frontMatter → other ∈ DateReading.frontMatter →
      reading.date? cs = some d → other.date? cs = some e → d = e) ∧
    ∀ (cs : List Char) (order : List DateReading), order.Perm DateReading.frontMatter →
      ofFrontMatter? cs = order.findSome? fun reading => reading.date? (withoutStops cs) := by
  refine ⟨?_, ?_, ?_⟩
  · intro d before cs stops after front all_stops back
    refine ⟨fun writes => ?_, fun writes => ?_⟩
    · exact ofFrontMatter?_append writes.exists_reading writes.ends front all_stops back
    · exact ofFrontMatter?_append writes.exists_reading writes.ends front all_stops back
  · intro cs reading other d e mem also_mem
    exact DateReading.date?_unique mem also_mem
  · intro cs order perm
    rw [ofFrontMatter?_eq_findSome?, DateReading.findSome?_eq_of_perm perm]

/-- The 29 February of 2024. -/
def leapDay : Date := ⟨2024, 2, 29, by decide⟩

/-- The parts that the leap day is written in. -/
theorem parts_leapDay : NamesMonth leapDay.month "fEB".toList ∧
    Text.IsNumeral 2 leapDay.day "29".toList ∧ WritesYear leapDay.year "2024".toList := by
  exact ⟨⟨by decide, .inr (by decide)⟩, by decide, 2024, rfl, by decide⟩

/-- The leap day is read between white space and full stops, in both readings that begin with the
day, and also when the readings are tried backwards. -/
theorem ofFrontMatter?_reads_leapDay :
    ofFrontMatter? " \t29 fEB 2024..\n".toList = some leapDay ∧
      ofFrontMatter? "February 2024".toList = some leapDay.firstOfMonth ∧
      (∃ d e, (DateReading.mk [] .dayMonthYear).date? "29 fEB 2024".toList = some d ∧
        (DateReading.mk [] .dayShortMonthYear).date? "29 fEB 2024".toList = some e ∧ d = e) ∧
      ofFrontMatter? "29 fEB 2024".toList = DateReading.frontMatter.reverse.findSome?
        fun reading => reading.date? (withoutStops "29 fEB 2024".toList) := by
  obtain ⟨reads, unique, any_order⟩ := ofFrontMatter?_reads_and_unambiguous
  obtain ⟨names, is_day, is_year⟩ := parts_leapDay
  have space : ∀ c ∈ [' '], Text.isBlank c = true := List.forall_mem_singleton.2 rfl
  refine ⟨?_, ?_, ?_, any_order _ _ (List.reverse_perm _)⟩
  · have writes : leapDay.Writes "29 fEB 2024".toList :=
      .dayMonthYear is_day space names space is_year
    have front : ∀ c ∈ " \t".toList, Text.isBlank c = true := List.all_eq_true.1 (by decide)
    have all_stops : ∀ c ∈ "..".toList, c = '.' := fun c mem =>
      List.eq_of_mem_replicate (n := 2) mem
    exact (reads leapDay _ _ _ ['\n'] front all_stops (List.forall_mem_singleton.2 rfl)).1 writes
  · have whole : NamesMonth leapDay.month "February".toList := ⟨by decide, .inl (by decide)⟩
    have writes : leapDay.WritesMonth "February 2024".toList :=
      ⟨_, [' '], _, rfl, whole, space, is_year⟩
    exact (reads leapDay [] "February 2024".toList [] [] (List.forall_mem_nil _)
      (List.forall_mem_nil _) (List.forall_mem_nil _)).2 writes
  · have long : (DateReading.mk [] .dayMonthYear).date? "29 fEB 2024".toList = some leapDay := by
      decide +kernel
    have short : (DateReading.mk [] .dayShortMonthYear).date? "29 fEB 2024".toList =
        some leapDay := by decide +kernel
    exact ⟨leapDay, leapDay, long, short,
      unique _ _ _ _ _ (by decide) (by decide) long short⟩

end Date

end DraftNits
