import DraftNits.Proofs.DateForms

/-! # Dates from three parts

The parts of a date are given as texts: the year as a number, the month as a number or by its name,
the day as a number. The name is looked for in a date that is made up around it, `1 … 2000`. White
space in front of the year shows where the name ends, and a pattern reads letters for the name and
digits for the year, so nothing of a foreign text gets into the day or the year.

* `Date.monthOfName?_eq_some_iff` — the texts that are read as the name of a month.
* `Date.ofParts?_eq_some_iff` — the parts that make a date.
* `Date.ofParts?_exact` — both, and that a date of three parts is the date that is written in one
  text. -/

namespace DraftNits

/-! ## White space in front of the end -/

/-- Where two texts are the same, what stands behind the last character of a class is the same, and
so is what stands in front of it. -/
theorem Text.append_cons_inj {p : Char → Bool} {front behind other_front other_behind : List Char}
    {c d : Char} (same : front ++ c :: behind = other_front ++ d :: other_behind)
    (c_in : p c = true) (d_in : p d = true) (none_behind : ∀ x ∈ behind, p x = false)
    (none_other : ∀ x ∈ other_behind, p x = false) :
    front = other_front ∧ behind = other_behind := by
  -- If one of the two characters stood further on, it would stand behind the other one.
  rcases List.append_eq_append_iff.1 same with
    ⟨more, is_other, is_behind⟩ | ⟨more, is_front, is_behind⟩
  · cases more with
    | nil =>
      rw [List.append_nil] at is_other
      exact ⟨is_other.symm, (List.cons.inj is_behind).2⟩
    | cons x others =>
      have mem : d ∈ behind := by
        rw [(List.cons.inj is_behind).2]
        exact List.mem_append_right _ List.mem_cons_self
      rw [none_behind d mem] at d_in
      cases d_in
  · cases more with
    | nil =>
      rw [List.append_nil] at is_front
      exact ⟨is_front, (List.cons.inj is_behind).2.symm⟩
    | cons x others =>
      have mem : c ∈ other_behind := by
        rw [(List.cons.inj is_behind).2]
        exact List.mem_append_right _ List.mem_cons_self
      rw [none_other c mem] at c_in
      cases c_in

namespace Date

/-! ## Names of months -/

/-- Of the patterns with the day in front, the one with the long name decides. -/
theorem ofPatterns?_dayFirst (cs : List Char) :
    ofPatterns? DatePattern.dayFirst cs = DatePattern.dayMonthYear.date? cs := by
  rw [ofPatterns?, DatePattern.dayFirst, List.findSome?_cons, List.findSome?_cons]
  cases long : DatePattern.dayMonthYear.date? cs with
  | some d => rfl
  | none =>
    cases short : DatePattern.dayShortMonthYear.date? cs with
    | none => rfl
    | some d =>
      rw [DatePattern.dayMonthYear_of_short short] at long
      cases long

/-- The month of a name is that of a date in which the name stands. -/
theorem monthOfName?_eq (name : List Char) :
    monthOfName? name =
      (DatePattern.dayMonthYear.date? ('1' :: ' ' :: (name ++ " 2000".toList))).map Date.month := by
  rw [monthOfName?, ofPatterns?_dayFirst, List.append_assoc]
  rfl

/-- A year that ends a text has no white space in it. -/
theorem exists_year_of_readYear? {cs : List Char} {year : Int}
    (read : DatePart.readYear? (Text.trimStart cs) = some (year, [])) :
    ∃ blanks written, cs = blanks ++ written ∧ (∀ c ∈ blanks, Text.isBlank c = true) ∧
      ∀ c ∈ written, Text.isBlank c = false := by
  obtain ⟨blanks, is_text, all_blank⟩ := Text.exists_trimStart cs
  obtain ⟨_, is_piece, more, sign, digits, rfl, also_blank, is_sign, is_digits⟩ :=
    DatePart.exists_piece_of_readYear? read
  refine ⟨blanks ++ more, sign ++ digits, ?_, ?_, ?_⟩
  · rw [is_text, is_piece, List.append_nil, List.append_assoc]
  · exact List.forall_mem_append.2 ⟨all_blank, also_blank⟩
  · refine List.forall_mem_append.2 ⟨?_, fun c mem =>
      Text.isBlank_of_isAsciiDigit (is_digits.2 c mem)⟩
    rcases is_sign with rfl | ⟨c, mem, rfl⟩
    · exact List.forall_mem_nil _
    · have no_blank : ['+', '-'].any Text.isBlank = false := rfl
      refine List.forall_mem_singleton.2 ?_
      simpa using List.any_eq_false.1 no_blank c mem

/-- White space in front of a text that has something else in it is taken off there. -/
theorem trimStart_append_of_trimStart {name rest : List Char} {c : Char} {others : List Char}
    (starts : Text.trimStart name = c :: others) :
    Text.trimStart (name ++ rest) = Text.trimStart name ++ rest := by
  obtain ⟨front, is_name, all_blank⟩ := Text.exists_trimStart name
  have stop : Text.isBlank c = false := Text.isBlank_trimStart name c (by rw [starts]; rfl)
  rw [starts] at is_name ⊢
  rw [is_name, List.append_assoc, List.cons_append]
  exact Text.trimStart_append all_blank stop

/-- Where a name is read in front of a year, it is the whole text in front of the white space that
the year stands behind. -/
theorem trim_eq_of_append {name written blanks year : List Char}
    (same : Text.trimStart name ++ " 2000".toList = written ++ (blanks ++ year))
    (letters : ∀ c ∈ written, Text.isAsciiLetter c = true)
    (all_blank : ∀ c ∈ blanks, Text.isBlank c = true)
    (no_blank : ∀ c ∈ year, Text.isBlank c = false) : Text.trim name = written := by
  rcases List.eq_nil_or_concat' blanks with rfl | ⟨others, b, rfl⟩
  · -- Without white space in front of the year there is none at all.
    have space_in : ' ' ∈ written ++ ([] ++ year) := by
      rw [← same]
      exact List.mem_append_right _ (by decide)
    rcases List.mem_append.1 space_in with in_name | in_year
    · exact absurd (letters ' ' in_name) (by decide)
    · exact absurd (no_blank ' ' in_year) (by decide)
  · -- The last white space is what is written between the name and the year.
    rw [List.append_assoc, ← List.append_assoc, List.singleton_append] at same
    have year_filled : ∀ c ∈ "2000".toList, Text.isBlank c = false := fun c mem =>
      Text.isBlank_of_isAsciiDigit (List.all_eq_true.1 (by decide) c mem)
    obtain ⟨is_start, -⟩ := Text.append_cons_inj (p := Text.isBlank) same rfl
      (all_blank b (List.mem_append_right _ (List.mem_singleton_self b))) year_filled no_blank
    rw [Text.trim, is_start]
    refine Text.dropEndWhile_append (fun c mem => all_blank c (List.mem_append_left _ mem)) ?_
    exact fun c last => Text.isBlank_of_isAsciiLetter (letters c (List.mem_of_mem_getLast? last))

/-- A text that is read as a month names it, apart from the white space around it. -/
theorem namesMonth_of_monthOfName? {name : List Char} {month : Nat}
    (found : monthOfName? name = some month) : NamesMonth month (Text.trim name) := by
  rw [monthOfName?_eq, Option.map_eq_some_iff] at found
  obtain ⟨d, is_date, rfl⟩ := found
  obtain ⟨-, written, rest, names, is_text, read⟩ :=
    DateReading.exists_parts_of_dayMonthYear is_date
  obtain ⟨blanks, year, rfl, all_blank, no_blank⟩ := exists_year_of_readYear? read
  cases starts : Text.trimStart name with
  | nil =>
    -- The year that stands behind the name is no name.
    obtain ⟨front, is_name, front_blank⟩ := Text.exists_trimStart name
    rw [starts, List.append_nil] at is_name
    have only_year : Text.trimStart (name ++ " 2000".toList) = "2000".toList := by
      rw [is_name, Text.trimStart, List.dropWhile_append_of_pos front_blank]
      decide
    obtain ⟨c, others, rfl, letter⟩ := names.exists_cons
    rw [only_year] at is_text
    rw [← (List.cons.inj is_text).1] at letter
    exact absurd letter (by decide)
  | cons c others =>
    rw [trimStart_append_of_trimStart starts] at is_text
    rw [trim_eq_of_append is_text names.letters.2 all_blank no_blank]
    exact names

/-- A month that exists has a first day. -/
theorem isDate_first {month : Nat} (is_month : 1 ≤ month ∧ month ≤ 12) : IsDate 2000 month 1 := by
  have all : ∀ m ∈ List.range' 1 12, IsDate 2000 m 1 := by decide
  exact all month (List.mem_range'_1.2 (by omega))

/-- The texts that are read as a month are those that name it, with white space around them. -/
theorem monthOfName?_eq_some_iff {name : List Char} {month : Nat} :
    monthOfName? name = some month ↔ NamesMonth month (Text.trim name) := by
  refine ⟨namesMonth_of_monthOfName?, fun names => ?_⟩
  obtain ⟨before, after, is_name, front, back⟩ := Text.exists_trim name
  have one : Text.IsNumeral 2 1 ['1'] := by decide
  have year : WritesYear 2000 "2000".toList := ⟨2000, rfl, by decide⟩
  have space : Text.isBlank ' ' = true := rfl
  have is_date := DatePattern.date?_dayMonthYear (d := ⟨2000, month, 1, isDate_first names.isMonth⟩)
    one (List.forall_mem_cons.2 ⟨space, front⟩) names
    (List.forall_mem_append.2 ⟨back, List.forall_mem_singleton.2 space⟩) year
  have is_text : '1' :: ' ' :: (name ++ " 2000".toList) =
      ['1'] ++ (' ' :: before ++ (Text.trim name ++ (after ++ [' '] ++ "2000".toList))) := by
    conv_lhs => rw [is_name]
    simp
  rw [monthOfName?_eq, is_text, is_date]
  rfl

/-! ## Three parts -/

/-- Whether a part of a date has a number: the first if it is missing or blank, and else one that
its text stands for. -/
def IsPart (stands : List Char → Nat → Prop) (value : Option (List Char)) (n : Nat) : Prop :=
  ((∀ cs ∈ value, ∀ c ∈ cs, Text.isBlank c = true) ∧ n = 1) ∨
    ∃ cs, value = some cs ∧ (∃ c ∈ cs, Text.isBlank c = false) ∧ stands (Text.trim cs) n

/-- The texts that stand for a month: numbers and names. -/
def StandsForMonth (cs : List Char) (month : Nat) : Prop :=
  Text.IsUnsigned32 cs month ∨ NamesMonth month cs

/-- A part is read if its text is. -/
theorem elim_attributeText?_eq_some_iff {read : List Char → Option Nat}
    {stands : List Char → Nat → Prop}
    (reads : ∀ cs n, read (Text.trim cs) = some n ↔ stands (Text.trim cs) n)
    {value : Option (List Char)} {n : Nat} :
    (attributeText? value).elim (some 1) read = some n ↔ IsPart stands value n := by
  cases value with
  | none =>
    constructor
    · intro is_one
      exact .inl ⟨fun cs is_value => (by cases is_value), (Option.some.inj is_one).symm⟩
    · rintro (⟨-, rfl⟩ | ⟨cs, is_value, -⟩)
      · rfl
      · cases is_value
  | some cs =>
    by_cases nothing : Text.trim cs = []
    · have all_blank := Text.trim_eq_nil_iff.1 nothing
      have no_text : attributeText? (some cs) = none := by
        rw [attributeText?, Option.map_some, nothing]
        rfl
      rw [no_text, Option.elim_none, Option.some.injEq, IsPart]
      constructor
      · rintro rfl
        exact .inl ⟨fun other is_other => Option.some.inj is_other ▸ all_blank, rfl⟩
      · rintro (⟨-, is_one⟩ | ⟨other, is_other, ⟨c, mem, no_blank⟩, -⟩)
        · exact is_one.symm
        · obtain rfl := Option.some.inj is_other
          rw [all_blank c mem] at no_blank
          cases no_blank
    · have some_text : attributeText? (some cs) = some (Text.trim cs) := by
        rw [attributeText?, Option.map_some, Option.filter_some,
          List.isEmpty_eq_false_iff.2 nothing]
        rfl
      rw [some_text, Option.elim_some, reads, IsPart]
      constructor
      · intro is_number
        refine .inr ⟨cs, rfl, ?_, is_number⟩
        by_contra none_there
        refine nothing (Text.trim_eq_nil_iff.2 fun c mem => ?_)
        by_contra no_blank
        exact none_there ⟨c, mem, Bool.eq_false_iff.2 no_blank⟩
      · rintro (⟨all_blank, -⟩ | ⟨other, is_other, -, is_number⟩)
        · exact absurd (Text.trim_eq_nil_iff.2 (all_blank cs rfl)) nothing
        · obtain rfl := Option.some.inj is_other
          exact is_number

/-- A month is read as a number first, and else as a name. -/
def readMonth? (cs : List Char) : Option Nat := (Text.readUnsigned32? cs).or (monthOfName? cs)

/-- The parts of a date are read one after the other. -/
theorem ofParts?_eq (year : List Char) (month day : Option (List Char)) :
    ofParts? year month day = (Text.readSigned32? (Text.trim year)).bind fun y =>
      ((attributeText? month).elim (some 1) readMonth?).bind fun m =>
        ((attributeText? day).elim (some 1) Text.readUnsigned32?).bind fun k => ofYmd? y m k := by
  unfold ofParts?
  -- The year is read alike on both sides, so it is kept fixed for the other two.
  refine congrArg (Option.bind _) (funext fun y => ?_)
  cases attributeText? month with
  | none => cases attributeText? day <;> rfl
  | some text =>
    rw [Option.elim_some, readMonth?]
    dsimp only
    cases Text.readUnsigned32? text <;> cases attributeText? day <;> rfl

/-- A name is no number. -/
theorem NamesMonth.readUnsigned32?_eq_none {cs : List Char} {month : Nat}
    (names : NamesMonth month cs) : Text.readUnsigned32? cs = none := by
  obtain ⟨c, rest, rfl, letter⟩ := names.exists_cons
  refine Option.eq_none_iff_forall_ne_some.2 fun n read => ?_
  obtain ⟨digits, rfl | is_signed, is_digits, -⟩ := Text.readUnsigned32?_eq_some_iff.1 read
  · rw [Text.isAsciiLetter_of_isAsciiDigit (is_digits.2 c List.mem_cons_self)] at letter
    cases letter
  · rw [(List.cons.inj is_signed).1] at letter
    exact absurd letter (by decide)

/-- A month is read from the texts that stand for it. -/
theorem readMonth?_eq_some_iff (cs : List Char) (month : Nat) :
    readMonth? (Text.trim cs) = some month ↔ StandsForMonth (Text.trim cs) month := by
  rw [readMonth?, Option.or_eq_some_iff, Text.readUnsigned32?_eq_some_iff,
    monthOfName?_eq_some_iff, Text.trim_trim, StandsForMonth]
  constructor
  · rintro (number | ⟨-, names⟩)
    · exact .inl number
    · exact .inr names
  · rintro (number | names)
    · exact .inl number
    · exact .inr ⟨names.readUnsigned32?_eq_none, names⟩

/-- The parts of a date are those that its year, month and day are read from. -/
theorem ofParts?_eq_some_iff {year : List Char} {month day : Option (List Char)} {d : Date} :
    ofParts? year month day = some d ↔
      Text.IsSigned32 (Text.trim year) d.year ∧ IsPart StandsForMonth month d.month ∧
        IsPart Text.IsUnsigned32 day d.day := by
  have months := @elim_attributeText?_eq_some_iff _ _ readMonth?_eq_some_iff month
  have days := @elim_attributeText?_eq_some_iff Text.readUnsigned32? Text.IsUnsigned32
    (fun cs n => Text.readUnsigned32?_eq_some_iff) day
  rw [ofParts?_eq]
  constructor
  · intro is_date
    obtain ⟨y, is_year, is_date⟩ := Option.bind_eq_some_iff.1 is_date
    obtain ⟨m, is_month, is_date⟩ := Option.bind_eq_some_iff.1 is_date
    obtain ⟨k, is_day, is_date⟩ := Option.bind_eq_some_iff.1 is_date
    obtain ⟨rfl, rfl, rfl⟩ := ofYmd?_eq_some_iff.1 is_date
    exact ⟨Text.readSigned32?_eq_some_iff.1 is_year, months.1 is_month, days.1 is_day⟩
  · rintro ⟨is_year, is_month, is_day⟩
    rw [Text.readSigned32?_eq_some_iff.2 is_year, Option.bind_some, months.2 is_month,
      Option.bind_some, days.2 is_day, Option.bind_some, ofYmd?_self]

/-! ## Both readers -/

/-- A name has no white space around it. -/
theorem NamesMonth.trim_eq {month : Nat} {cs : List Char} (names : NamesMonth month cs) :
    Text.trim cs = cs := by
  obtain ⟨c, rest, rfl, letter⟩ := names.exists_cons
  refine Text.trim_eq_self ?_ names.isBlank_getLast?
  rintro _ ⟨⟩
  exact Text.isBlank_of_isAsciiLetter letter

/-- The parts of a written date give the date. -/
theorem ofParts?_of_written {d : Date} {month day year : List Char}
    (names : NamesMonth d.month month) (is_day : Text.IsNumeral 2 d.day day)
    (is_year : WritesYear d.year year) : ofParts? year (some month) (some day) = some d := by
  obtain ⟨n, same_year, numeral⟩ := is_year
  obtain ⟨letter, letters, is_name, is_letter⟩ := names.exists_cons
  obtain ⟨⟨digit, digits, is_digits, is_digit⟩, -⟩ := is_day.isDigits.ends
  refine ofParts?_eq_some_iff.2 ⟨?_, ?_, ?_⟩
  · -- The years of the calendar are far from the bounds of 32 bits.
    have first := d.isDate.1
    have last := d.isDate.2.1
    rw [firstYear] at first
    rw [lastYear] at last
    rw [Text.trim_of_isDigits numeral.isDigits]
    refine ⟨year, numeral.isDigits, .inl ⟨.inl rfl, ?_⟩, by omega, by omega⟩
    rw [same_year, numeral.value]
  · refine .inr ⟨month, rfl, ⟨letter, ?_, Text.isBlank_of_isAsciiLetter is_letter⟩, .inr ?_⟩
    · rw [is_name]
      exact List.mem_cons_self
    · rwa [names.trim_eq]
  · refine .inr ⟨day, rfl, ⟨digit, ?_, Text.isBlank_of_isAsciiDigit is_digit⟩, ?_⟩
    · rw [is_digits]
      exact List.mem_cons_self
    · have to_31 := d.day_le
      rw [Text.trim_of_isDigits is_day.isDigits]
      exact ⟨day, .inl rfl, is_day.isDigits, is_day.value, by omega⟩

/-- A date is made of three parts exactly if each of them is read: the year from a number, perhaps
with a sign, the month from a number or a name, and the day from a number, where a month or a day
that is missing or blank is the first. The names that are read are those of the months, in full or
by their first three letters and in any ASCII case, and nothing else. For a date of the years 0 to
9999, the parts give the date that is written in one text with the month in front. -/
theorem ofParts?_exact :
    (∀ (year : List Char) (month day : Option (List Char)) (d : Date),
      ofParts? year month day = some d ↔
        Text.IsSigned32 (Text.trim year) d.year ∧ IsPart StandsForMonth month d.month ∧
          IsPart Text.IsUnsigned32 day d.day) ∧
    (∀ (name : List Char) (month : Nat),
      monthOfName? name = some month ↔ NamesMonth month (Text.trim name)) ∧
    ∀ (d : Date) (month day year : List Char), NamesMonth d.month month →
      Text.IsNumeral 2 d.day day → WritesYear d.year year →
      ofParts? year (some month) (some day) = some d ∧
        ofFrontMatter? (month ++ ' ' :: (day ++ ',' :: ' ' :: year)) = some d := by
  refine ⟨fun year month day d => ofParts?_eq_some_iff,
    fun name month => monthOfName?_eq_some_iff, ?_⟩
  intro d month day year names is_day is_year
  refine ⟨ofParts?_of_written names is_day is_year, ?_⟩
  have space : ∀ c ∈ [' '], Text.isBlank c = true := List.forall_mem_singleton.2 rfl
  have writes : d.Writes (month ++ ' ' :: (day ++ ',' :: ' ' :: year)) :=
    .monthDayYear names space is_day space is_year
  have alone := ofFrontMatter?_append writes.exists_reading writes.ends (List.forall_mem_nil _)
    (List.forall_mem_nil _) (List.forall_mem_nil _)
  rwa [List.nil_append, List.append_nil, List.append_nil] at alone

/-- The parts of the leap day give the leap day, as the text that they write does, a missing month
is January, and with the day behind it the name of the month is no name. -/
theorem ofParts?_exact_leapDay :
    ofParts? "2024".toList (some "fEB".toList) (some "29".toList) = some leapDay ∧
      ofFrontMatter? "fEB 29, 2024".toList = some leapDay ∧
      ofParts? "+2024 ".toList none (some "\t".toList) = some ⟨2024, 1, 1, by decide⟩ ∧
      monthOfName? "fEB 29".toList ≠ some 2 := by
  obtain ⟨exact_parts, exact_names, agree⟩ := ofParts?_exact
  obtain ⟨names, is_day, is_year⟩ := parts_leapDay
  obtain ⟨from_parts, from_text⟩ := agree leapDay _ _ _ names is_day is_year
  refine ⟨from_parts, from_text, ?_, ?_⟩
  · refine (exact_parts _ _ _ _).2 ⟨?_, .inl ⟨?_, rfl⟩, .inl ⟨?_, rfl⟩⟩
    · exact ⟨"2024".toList, by decide, .inl ⟨.inr (by decide), by decide⟩, by decide, by decide⟩
    · rintro _ ⟨⟩
    · rintro _ ⟨⟩
      exact List.forall_mem_singleton.2 rfl
  · intro found
    have letter := ((exact_names _ _).1 found).letters.2 '9' (by decide)
    exact absurd letter (by decide)

end Date

end DraftNits
