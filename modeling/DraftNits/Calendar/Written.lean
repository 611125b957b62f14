import DraftNits.Calendar.Pattern

/-! # Dates as documents write them

* `Date.ofFrontMatter?` reads the date of a first page: `March 2, 2024`, `2 March 2024`,
  `2024-03-02`, or `March 2024` for the first of the month; full stops may follow.
* `Date.ofParts?` builds a date from a year, a month by number or name, and a day, as the three
  attributes of a date element give them. -/

namespace DraftNits

namespace DatePattern

/-- `March 2, 2024`. -/
def monthDayYear : DatePattern := [.longMonth, .blank, .day, .mark ',', .blank, .year]

/-- `Mar 2, 2024`. -/
def shortMonthDayYear : DatePattern := [.shortMonth, .blank, .day, .mark ',', .blank, .year]

/-- `2 March 2024`. -/
def dayMonthYear : DatePattern := [.day, .blank, .longMonth, .blank, .year]

/-- `2 Mar 2024`. -/
def dayShortMonthYear : DatePattern := [.day, .blank, .shortMonth, .blank, .year]

/-- `2024-03-02`. -/
def iso : DatePattern := [.year, .mark '-', .month, .mark '-', .day]

/-- The patterns of a date with a day, in the order in which they are tried. -/
def written : List DatePattern :=
  [monthDayYear, shortMonthDayYear, dayMonthYear, dayShortMonthYear, iso]

/-- The patterns of a date whose day comes first. -/
def dayFirst : List DatePattern := [dayMonthYear, dayShortMonthYear]

end DatePattern

namespace Date

/-- The date that the first fitting pattern gives. -/
def ofPatterns? (patterns : List DatePattern) (cs : List Char) : Option Date :=
  patterns.findSome? fun pattern => pattern.date? cs

/-- A date of a first page. White space around it and full stops after it do not count; a date
without a day is the first of its month. -/
def ofFrontMatter? (cs : List Char) : Option Date :=
  let text := Text.dropEndWhile (· == '.') (Text.trim cs)
  if text.isEmpty then none
  else
    match ofPatterns? DatePattern.written text with
    | some d => some d
    | none => ofPatterns? DatePattern.dayFirst ('1' :: ' ' :: text)

/-- The month of a name, read as the month of a date in which the name stands. -/
def monthOfName? (name : List Char) : Option Nat :=
  (ofPatterns? DatePattern.dayFirst ("1 ".toList ++ name ++ " 2000".toList)).map Date.month

/-- An attribute without white space at its ends, if there is anything in it. -/
def attributeText? (value : Option (List Char)) : Option (List Char) :=
  (value.map Text.trim).filter fun cs => !cs.isEmpty

/-- The date of a year, a month by number or name, and a day; a missing or blank month is
January, a missing or blank day the first. -/
def ofParts? (year : List Char) (month day : Option (List Char)) : Option Date := do
  let y ← Text.readSigned32? (Text.trim year)
  let m ← match attributeText? month with
    | none => some 1
    | some text =>
      match Text.readUnsigned32? text with
      | some n => some n
      | none => monthOfName? text
  let d ← match attributeText? day with
    | none => some 1
    | some text => Text.readUnsigned32? text
  ofYmd? y m d

example : (ofFrontMatter? " March 2, 2024. ".toList).map Date.text = some "2024-03-02" := by
  decide +kernel
example : (ofFrontMatter? "mar 2024".toList).map Date.text = some "2024-03-01" := by
  decide +kernel
example : ofFrontMatter? "February 30, 2024".toList = none := by decide +kernel
example : (ofParts? "2024".toList (some "September".toList) none).map Date.text =
    some "2024-09-01" := by decide +kernel

end Date

end DraftNits
