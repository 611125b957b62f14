import DraftNits.Text.Numeral

/-! # Dates of the Gregorian calendar

A `Date` is a day that exists: its month has that day in that year. Years reach from −262143 to
262142, with a year 0 and negative years before it, and the calendar's rules hold in all of them.

* `Date.ofYmd?` — the date with a year, month and day, if there is one.
* `Date.number` — the number of a day in an unbroken count, so that the difference of two numbers
  is the number of days between the dates.
* `Date.next?` — the day after, up to the last day of the last year.
* `Date.text` — the written form `YYYY-MM-DD`. -/

namespace DraftNits

/-! ## Months and years -/

/-- Whether a year has a 29 February. -/
def isLeapYear (year : Int) : Bool := year % 4 == 0 && (year % 100 != 0 || year % 400 == 0)

/-- The number of days of a month, zero for a number that names no month. -/
def daysInMonth (year : Int) : Nat → Nat
  | 1 | 3 | 5 | 7 | 8 | 10 | 12 => 31
  | 4 | 6 | 9 | 11 => 30
  | 2 => if isLeapYear year then 29 else 28
  | _ => 0

/-- The first year with dates. -/
def firstYear : Int := -262143

/-- The last year with dates. -/
def lastYear : Int := 262142

/-- Whether a year, month and day make a date. -/
def IsDate (year : Int) (month day : Nat) : Prop :=
  firstYear ≤ year ∧ year ≤ lastYear ∧ 1 ≤ day ∧ day ≤ daysInMonth year month

instance (year : Int) (month day : Nat) : Decidable (IsDate year month day) :=
  inferInstanceAs (Decidable (_ ∧ _ ∧ _ ∧ _))

/-! ## Dates -/

/-- A day of the calendar. -/
structure Date where
  /-- The year, which may be negative. -/
  year : Int
  /-- The month, from 1. -/
  month : Nat
  /-- The day of the month, from 1. -/
  day : Nat
  /-- The day exists. -/
  isDate : IsDate year month day
  deriving DecidableEq

namespace Date

/-- The date with a year, month and day, if that day exists. -/
def ofYmd? (year : Int) (month day : Nat) : Option Date :=
  if h : IsDate year month day then some ⟨year, month, day, h⟩ else none

/-- Whether a date comes before another: by year, then month, then day. -/
def before (a b : Date) : Bool :=
  decide (a.year < b.year) ||
    (a.year == b.year &&
      (decide (a.month < b.month) || (a.month == b.month && decide (a.day < b.day))))

/-- The number of days of a year before a month. -/
def daysBeforeMonth (year : Int) (month : Nat) : Nat :=
  (List.range (month - 1)).foldl (fun days m => days + daysInMonth year (m + 1)) 0

/-- The number of days from the first of the year 1 to the first of a year, negative before it. -/
def daysBeforeYear (year : Int) : Int :=
  365 * (year - 1) + (year - 1) / 4 - (year - 1) / 100 + (year - 1) / 400

/-- The number of a date in the count of days that gives 1 to the first day of the year 1. -/
def number (d : Date) : Int :=
  daysBeforeYear d.year + daysBeforeMonth d.year d.month + d.day

/-- The number of days from the first date to the second, negative if the second comes first. -/
def daysTo (a b : Date) : Int := b.number - a.number

/-- The day after. -/
def next? (d : Date) : Option Date :=
  match ofYmd? d.year d.month (d.day + 1) with
  | some e => some e
  | none =>
    match ofYmd? d.year (d.month + 1) 1 with
    | some e => some e
    | none => ofYmd? (d.year + 1) 1 1

/-! ## The written form -/

/-- The text of a year: four digits from 0 to 9999, otherwise a sign and at least four digits. -/
def yearText (year : Int) : List Char :=
  if 0 ≤ year ∧ year ≤ 9999 then Text.decimalPadded 4 year.natAbs
  else (if year < 0 then '-' else '+') :: Text.decimalPadded 4 year.natAbs

/-- The written form of a date, `YYYY-MM-DD`. -/
def text (d : Date) : String :=
  String.ofList (yearText d.year ++ '-' :: Text.decimalPadded 2 d.month ++
    '-' :: Text.decimalPadded 2 d.day)

/-- A date is found from its own year, month and day. -/
@[simp] theorem ofYmd?_self (d : Date) : ofYmd? d.year d.month d.day = some d := by
  simp [ofYmd?, d.isDate]

/-- The date found is the one asked for. -/
theorem ofYmd?_eq_some_iff {year : Int} {month day : Nat} {d : Date} :
    ofYmd? year month day = some d ↔ d.year = year ∧ d.month = month ∧ d.day = day := by
  constructor
  · intro h
    unfold ofYmd? at h
    split at h
    · cases h; exact ⟨rfl, rfl, rfl⟩
    · cases h
  · rintro ⟨rfl, rfl, rfl⟩
    exact ofYmd?_self d

example : (ofYmd? 2024 2 29).map text = some "2024-02-29" := by decide +kernel
example : ofYmd? 1900 2 29 = none := by decide +kernel
example : (ofYmd? (-1) 12 31).map text = some "-0001-12-31" := by decide +kernel
example : (ofYmd? 10000 1 1).map text = some "+10000-01-01" := by decide +kernel

end Date

end DraftNits
