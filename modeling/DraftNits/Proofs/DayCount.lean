import DraftNits.Proofs.ReportLines
import DraftNits.Proofs.WrittenDates
import DraftNits.Rules.FrontMatter

/-! # The count of days

The days of the calendar are numbered without a gap: a day and the day after it have numbers next to
each other, at the end of a month and of a year, in leap years and in others, before the year 1 and
after it. So the difference of two numbers is the number of days to be stepped from one date to the
other, and of two dates the one with the smaller number comes first.

* `Date.after?` — the date that some single-day steps lead to.
* `Date.number_of_next?` — a step adds one to the number of a day.
* `Date.before_iff_number_lt` — the order of dates is that of their numbers.
* `Date.after?_eq_some_iff` — the steps between two dates are the difference of their numbers.
* `Rules.expiry_window` — what the rule on expiry says, by the calendar alone. -/

namespace DraftNits

/-! ## Months and years -/

/-- A year has one day more if it is a leap year. -/
def daysInYear (year : Int) : Nat := if isLeapYear year then 366 else 365

/-- Every fourth year is a leap year, but of those that end a century only every fourth. -/
theorem isLeapYear_iff {year : Int} :
    isLeapYear year = true ↔ year % 4 = 0 ∧ (year % 100 ≠ 0 ∨ year % 400 = 0) := by
  simp [isLeapYear]

namespace Date

/-- A year starts as many days after the one before as that one has. -/
theorem daysBeforeYear_succ (year : Int) :
    daysBeforeYear (year + 1) = daysBeforeYear year + daysInYear year := by
  unfold daysBeforeYear daysInYear
  by_cases leap : isLeapYear year = true
  · rw [if_pos leap]
    rw [isLeapYear_iff] at leap
    omega
  · rw [if_neg leap]
    rw [isLeapYear_iff] at leap
    omega

/-- Years start one after the other. -/
theorem daysBeforeYear_le {year later : Int} (le : year ≤ later) :
    daysBeforeYear year ≤ daysBeforeYear later := by
  unfold daysBeforeYear
  omega

/-- A month starts as many days after the one before as that one has. -/
theorem daysBeforeMonth_succ (year : Int) {month : Nat} (from_one : 1 ≤ month) :
    daysBeforeMonth year (month + 1) = daysBeforeMonth year month + daysInMonth year month := by
  obtain ⟨m, rfl⟩ := Nat.exists_eq_add_of_le' from_one
  simp only [daysBeforeMonth, Nat.add_sub_cancel, List.range_succ, List.foldl_append,
    List.foldl_cons, List.foldl_nil]

/-- Months start one after the other. -/
theorem daysBeforeMonth_le (year : Int) {month later : Nat} (from_one : 1 ≤ month)
    (le : month ≤ later) : daysBeforeMonth year month ≤ daysBeforeMonth year later := by
  induction le with
  | refl => exact Nat.le_refl _
  | step le ih =>
    rw [daysBeforeMonth_succ year (Nat.le_trans from_one le)]
    exact Nat.le_add_right_of_le ih

/-- Twelve months make a year. -/
theorem daysBeforeMonth_thirteen (year : Int) : daysBeforeMonth year 13 = daysInYear year := by
  rw [daysInYear]
  cases leap : isLeapYear year <;> simp [daysBeforeMonth, List.range_succ, daysInMonth, leap]

/-- A month has days exactly if its number is between 1 and 12. -/
theorem daysInMonth_pos_iff {year : Int} {month : Nat} :
    1 ≤ daysInMonth year month ↔ 1 ≤ month ∧ month ≤ 12 := by
  unfold daysInMonth
  split
  case h_12 => split <;> decide
  case h_13 => grind
  all_goals decide

/-! ## Order -/

variable {a b d e : Date}

/-- The number of a month lies between 1 and 12. -/
theorem month_bounds (d : Date) : 1 ≤ d.month ∧ d.month ≤ 12 :=
  daysInMonth_pos_iff.1 (Nat.le_trans d.isDate.2.2.1 d.isDate.2.2.2)

/-- Dates come in the order of their years, then their months, then their days. -/
theorem before_iff : a.before b = true ↔ a.year < b.year ∨
    a.year = b.year ∧ (a.month < b.month ∨ a.month = b.month ∧ a.day < b.day) := by
  simp [before]

/-- A date that comes neither before nor after another is the same. -/
theorem eq_of_not_before (not_before : a.before b = false) (not_after : b.before a = false) :
    a = b := by
  rw [← Bool.not_eq_true, before_iff] at not_before not_after
  have same_year : a.year = b.year := by omega
  have same_month : a.month = b.month := by omega
  have same_day : a.day = b.day := by omega
  cases a
  cases b
  simp_all

/-- The days of a month are numbered from behind the months before it up to its length. -/
theorem number_bounds (d : Date) :
    daysBeforeYear d.year + daysBeforeMonth d.year d.month < d.number ∧
      d.number ≤ daysBeforeYear d.year + daysBeforeMonth d.year (d.month + 1) := by
  have from_one := d.isDate.2.2.1
  have to_length := d.isDate.2.2.2
  rw [number, daysBeforeMonth_succ d.year d.month_bounds.1]
  omega

/-- The days of a year are numbered up to its length. -/
theorem number_le_year (d : Date) : d.number ≤ daysBeforeYear (d.year + 1) := by
  have in_year := daysBeforeMonth_le d.year (Nat.le_add_left 1 d.month)
    (Nat.succ_le_succ d.month_bounds.2)
  have in_month := d.number_bounds.2
  rw [daysBeforeMonth_thirteen] at in_year
  rw [daysBeforeYear_succ]
  omega

/-- A date that comes first has the smaller number. -/
theorem number_lt_of_before (first : a.before b = true) : a.number < b.number := by
  rcases before_iff.1 first with year | ⟨year, month | ⟨month, day⟩⟩
  · have start := daysBeforeYear_le (Int.add_one_le_of_lt year)
    have a_bound := a.number_le_year
    have b_bound := b.number_bounds.1
    omega
  · have start := daysBeforeMonth_le a.year (Nat.le_add_left 1 a.month) month
    have a_bound := a.number_bounds.2
    have b_bound := b.number_bounds.1
    rw [← year] at b_bound
    omega
  · rw [number, number, year, month]
    omega

/-- The order of dates is that of their numbers. -/
theorem before_iff_number_lt : a.before b = true ↔ a.number < b.number := by
  refine ⟨number_lt_of_before, fun smaller => ?_⟩
  by_contra not_before
  rw [Bool.not_eq_true] at not_before
  cases after : b.before a with
  | true =>
    have larger := number_lt_of_before after
    omega
  | false =>
    rw [eq_of_not_before not_before after] at smaller
    omega

/-- No two dates have one number. -/
theorem number_inj (same : a.number = b.number) : a = b := by
  refine eq_of_not_before ?_ ?_ <;> rw [← Bool.not_eq_true, before_iff_number_lt] <;> omega

/-! ## Steps -/

/-- The date after some single-day steps, if the calendar goes so far. -/
def after? : Nat → Date → Option Date
  | 0, d => some d
  | n + 1, d => d.next?.bind (after? n)

/-- There is no date exactly if there is no such day. -/
theorem ofYmd?_eq_none_iff {year : Int} {month day : Nat} :
    ofYmd? year month day = none ↔ ¬ IsDate year month day := by
  unfold ofYmd?
  split <;> simp_all

/-- The day after a day is the next one of its month, or else the first one of the next month, or
else the first one of the next year. -/
theorem next?_cases (d : Date) :
    (∃ e, d.next? = some e ∧ e.year = d.year ∧ e.month = d.month ∧ e.day = d.day + 1) ∨
      d.day = daysInMonth d.year d.month ∧
        ((∃ e, d.next? = some e ∧ e.year = d.year ∧ e.month = d.month + 1 ∧ e.day = 1) ∨
          d.month = 12 ∧ d.next? = ofYmd? (d.year + 1) 1 1) := by
  obtain ⟨from_first, to_last, from_one, to_length⟩ := d.isDate
  unfold next?
  split
  next e found => exact .inl ⟨e, rfl, ofYmd?_eq_some_iff.1 found⟩
  next no_day =>
    rw [ofYmd?_eq_none_iff, IsDate] at no_day
    refine .inr ⟨by omega, ?_⟩
    split
    next e found => exact .inl ⟨e, rfl, ofYmd?_eq_some_iff.1 found⟩
    next no_month =>
      rw [ofYmd?_eq_none_iff, IsDate, daysInMonth_pos_iff] at no_month
      have bounds := d.month_bounds
      exact .inr ⟨by omega, rfl⟩

/-- A step adds one to the number of a day. -/
theorem number_of_next? (next : d.next? = some e) : e.number = d.number + 1 := by
  rcases d.next?_cases with ⟨e', found, year, month, day⟩ |
    ⟨last_day, ⟨e', found, year, month, day⟩ | ⟨last_month, found⟩⟩
  · obtain rfl := Option.some.inj (next.symm.trans found)
    rw [number, number, year, month, day]
    omega
  · obtain rfl := Option.some.inj (next.symm.trans found)
    rw [number, number, year, month, day, daysBeforeMonth_succ d.year d.month_bounds.1, last_day]
    omega
  · obtain ⟨year, month, day⟩ := ofYmd?_eq_some_iff.1 (found.symm.trans next)
    have whole_year := daysBeforeMonth_succ d.year d.month_bounds.1
    rw [last_month, daysBeforeMonth_thirteen, ← last_month, ← last_day] at whole_year
    have no_month : daysBeforeMonth (d.year + 1) 1 = 0 := rfl
    rw [number, number, year, month, day, daysBeforeYear_succ, no_month, whole_year]
    omega

/-- There is a day after a day that another date comes after. -/
theorem exists_next? (later : d.before e = true) : ∃ next, d.next? = some next := by
  rcases d.next?_cases with ⟨next, found, -⟩ | ⟨last_day, ⟨next, found, -⟩ | ⟨last_month, found⟩⟩
  · exact ⟨next, found⟩
  · exact ⟨next, found⟩
  · -- On the last day of a year, a later date is in a later year, so there is a next one.
    have is_date : IsDate (d.year + 1) 1 1 := by
      obtain ⟨-, to_last, -, to_length⟩ := e.isDate
      have bounds := e.month_bounds
      have first := d.isDate.1
      rcases before_iff.1 later with year | ⟨year, month | ⟨month, day⟩⟩
      · exact ⟨by omega, by omega, Nat.le_refl 1,
          daysInMonth_pos_iff.2 (by decide)⟩
      · omega
      · rw [← year, ← month, ← last_day] at to_length
        omega
    rw [found, ofYmd?, dif_pos is_date]
    exact ⟨_, rfl⟩

/-- The steps between two dates are the difference of their numbers. -/
theorem after?_eq_some_iff {n : Nat} : after? n d = some e ↔ e.number = d.number + n := by
  induction n generalizing d with
  | zero =>
    rw [after?, Option.some.injEq]
    constructor
    · rintro rfl
      simp
    · intro same
      exact (number_inj (by omega)).symm
  | succ n ih =>
    rw [after?, Option.bind_eq_some_iff]
    constructor
    · rintro ⟨next, found, reached⟩
      have step := number_of_next? found
      have steps := ih.1 reached
      omega
    · intro far
      obtain ⟨next, found⟩ := exists_next? (before_iff_number_lt.2 (by omega) : d.before e = true)
      have step := number_of_next? found
      exact ⟨next, found, ih.2 (by omega)⟩

/-- Steps are made one part after the other. -/
theorem after?_add (m n : Nat) (d : Date) : after? (m + n) d = (after? m d).bind (after? n) := by
  induction m generalizing d with
  | zero => rw [Nat.zero_add, after?, Option.bind_some]
  | succ m ih =>
    rw [Nat.succ_add, after?, after?, Option.bind_assoc]
    exact congrArg _ (funext ih)

example : (ofYmd? 1900 2 28).bind (after? 1) = ofYmd? 1900 3 1 := by decide +kernel

end Date

/-! ## The rule on expiry -/

namespace Rules

/-- What is said of an expiry that does not come after the date of the document. -/
def notAfterMessage (date expires : Date) : String :=
  "Expiration date " ++ expires.text ++ " is not after the document date " ++ date.text

/-- What is said of an expiry that comes too many days after the date of the document. -/
def farMessage (days : Nat) : String :=
  "Expiration date is " ++ toString days ++ " days after the document date"

/-- Whether the rule on expiry says one thing, at the line of the expiry. -/
def ReportsExpiry (doc : Document) (options : Options) (message : String) : Prop :=
  expiry doc options = .ok [Finding.single ⟨doc.front.expiresLine, message⟩
    "The expiration date is inconsistent with the document date"]

/-- Whether a date comes after the last one on which a document of a date may expire. -/
def IsPastWindow (date expires : Date) : Prop :=
  ∃ last, date.after? 185 = some last ∧ last.before expires = true

variable {date expires : Date} {doc : Document} {options : Options}

/-- A date is past the window exactly if its number is beyond that of the last day. -/
theorem isPastWindow_iff : IsPastWindow date expires ↔ date.number + 185 < expires.number := by
  constructor
  · rintro ⟨last, reached, later⟩
    have steps := Date.after?_eq_some_iff.1 reached
    have order := Date.before_iff_number_lt.1 later
    omega
  · intro beyond
    -- The steps to the later date lead over the last day, which therefore exists.
    obtain ⟨more, is_number⟩ := Int.le.dest (Int.le_of_lt beyond)
    have reached : date.after? (185 + more) = some expires := Date.after?_eq_some_iff.2 (by omega)
    rw [Date.after?_add, Option.bind_eq_some_iff] at reached
    obtain ⟨last, reached, steps⟩ := reached
    have order := Date.after?_eq_some_iff.1 reached
    exact ⟨last, reached, Date.before_iff_number_lt.2 (by omega)⟩

/-- A date does not begin with the first letter of a word that follows in its place. -/
theorem exists_text_cons (d : Date) : ∃ c cs, d.text.toList = c :: cs ∧ c ≠ 'i' := by
  have is_text : d.text.toList = Date.yearText d.year ++ ('-' :: (Text.decimalPadded 2 d.month ++
      '-' :: Text.decimalPadded 2 d.day)) := by
    simp [Date.text]
  rw [is_text, Date.yearText]
  split
  · have is_digits := Text.isDigits_decimalPadded 4 d.year.natAbs
    obtain ⟨c, cs, is_year⟩ := List.exists_cons_of_ne_nil is_digits.1
    have digit := is_digits.2 c (is_year ▸ List.mem_cons_self)
    rw [is_year]
    refine ⟨c, _, rfl, ?_⟩
    rintro rfl
    exact absurd digit (by decide)
  · refine ⟨_, _, rfl, ?_⟩
    split <;> decide

/-- Behind the same words, one message has a date and the other the word "is". -/
theorem notAfterMessage_ne_farMessage (days : Nat) :
    notAfterMessage date expires ≠ farMessage days := by
  intro same
  obtain ⟨c, cs, is_text, not_word⟩ := exists_text_cons expires
  have words : "Expiration date is " = "Expiration date " ++ "is " := by decide +kernel
  have word : "is ".toList = ['i', 's', ' '] := by decide +kernel
  unfold notAfterMessage farMessage at same
  rw [words] at same
  simp only [String.append_assoc, String.append_right_inj] at same
  have letters := congrArg String.toList same
  simp only [String.toList_append, is_text, word, List.cons_append] at letters
  exact not_word (List.cons.inj letters).1

/-- The message tells the number of days. -/
theorem farMessage_inj {m n : Nat} (same : farMessage m = farMessage n) : m = n := by
  have numbers := (String.append_right_inj _).1 ((String.append_left_inj _).1 same)
  refine toDigits_injective ?_
  rw [← Nat.toList_repr, ← Nat.toList_repr]
  exact congrArg String.toList numbers

/-- What is wrong with an expiry is all that the rule reports. -/
theorem reportsExpiry_iff (dated : doc.front.date = some date)
    (expiring : doc.front.expires = some expires) {message : String} :
    ReportsExpiry doc options message ↔ expiryProblem? date expires = some message := by
  unfold ReportsExpiry expiry
  rw [expiring, dated]
  dsimp only
  cases expiryProblem? date expires with
  | none => simp
  | some problem => simp [Finding.ofNits, Finding.single]

/-- If nothing is wrong with an expiry, the rule reports nothing. -/
theorem expiry_eq_nil_iff (dated : doc.front.date = some date)
    (expiring : doc.front.expires = some expires) :
    expiry doc options = .ok [] ↔ expiryProblem? date expires = none := by
  unfold expiry
  rw [expiring, dated]
  dsimp only
  cases expiryProblem? date expires with
  | none => simp
  | some problem => simp [Finding.ofNits]

/-- An expiry that does not come after the date of the document is reported as such. -/
theorem expiryProblem?_of_not_before (not_before : date.before expires = false) :
    expiryProblem? date expires = some (notAfterMessage date expires) := by
  rw [← Bool.not_eq_true, Date.before_iff_number_lt] at not_before
  have no_days : date.daysTo expires ≤ 0 := by
    rw [Date.daysTo]
    omega
  rw [expiryProblem?, if_pos no_days]
  rfl

/-- An expiry past the window is reported with the number of steps to it. -/
theorem exists_expiryProblem?_of_isPastWindow (past : IsPastWindow date expires) :
    ∃ days, date.after? days = some expires ∧
      expiryProblem? date expires = some (farMessage days) := by
  rw [isPastWindow_iff] at past
  obtain ⟨days, is_number⟩ := Int.le.dest (by omega : date.number ≤ expires.number)
  have is_days : date.daysTo expires = days := by
    rw [Date.daysTo]
    omega
  refine ⟨days, Date.after?_eq_some_iff.2 is_number.symm, ?_⟩
  have some_days : ¬ (days : Int) ≤ 0 := by omega
  have many_days : maxExpiryDays < (days : Int) := by
    rw [maxExpiryDays]
    omega
  rw [expiryProblem?, is_days, if_neg some_days, if_pos many_days]
  rfl

/-- Nothing is wrong with an expiry in the window. -/
theorem expiryProblem?_of_inside (later : date.before expires = true)
    (inside : ¬ IsPastWindow date expires) : expiryProblem? date expires = none := by
  rw [isPastWindow_iff] at inside
  rw [Date.before_iff_number_lt] at later
  have some_days : ¬ date.daysTo expires ≤ 0 := by
    rw [Date.daysTo]
    omega
  have few_days : ¬ maxExpiryDays < date.daysTo expires := by
    rw [maxExpiryDays, Date.daysTo]
    omega
  rw [expiryProblem?, if_neg some_days, if_neg few_days]

/-- Of an expiry and a date of a document, whatever the years are, the rule reports that the one
does not come after the other exactly if that is so by year, month and day; that it comes too late
exactly if it comes after the date reached in 185 steps of one day, and then with the number of
steps that lead to it; and nothing otherwise. -/
theorem expiry_window (doc : Document) (options : Options) (dated : doc.front.date = some date)
    (expiring : doc.front.expires = some expires) :
    (ReportsExpiry doc options (notAfterMessage date expires) ↔ date.before expires = false) ∧
      ((∃ days, ReportsExpiry doc options (farMessage days)) ↔ IsPastWindow date expires) ∧
      (∀ days, ReportsExpiry doc options (farMessage days) → date.after? days = some expires) ∧
      (expiry doc options = .ok [] ↔
        date.before expires = true ∧ ¬ IsPastWindow date expires) := by
  simp only [reportsExpiry_iff dated expiring, expiry_eq_nil_iff dated expiring]
  cases order : date.before expires with
  | false =>
    have not_past : ¬ IsPastWindow date expires := by
      rw [← Bool.not_eq_true, Date.before_iff_number_lt] at order
      rw [isPastWindow_iff]
      omega
    simp [expiryProblem?_of_not_before order, notAfterMessage_ne_farMessage, not_past]
  | true =>
    by_cases past : IsPastWindow date expires
    · obtain ⟨days, steps, problem⟩ := exists_expiryProblem?_of_isPastWindow past
      refine ⟨?_, iff_of_true ⟨days, problem⟩ past, fun other same => ?_, ?_⟩
      · simp [problem, (notAfterMessage_ne_farMessage days).symm]
      · rw [problem] at same
        exact farMessage_inj (Option.some.inj same) ▸ steps
      · simp [problem, past]
    · simp [expiryProblem?_of_inside order past, past]

/-- A draft of the last day before the year 0 that expires on the fourth of July of the year 0. -/
def yearZeroDraft : Document where
  path := "draft.txt"
  format := .paginated
  kind := .draft
  lines := ["Expires: 0000-07-04"]
  front := { FrontMatter.empty with
    date := some ⟨-1, 12, 31, by decide⟩
    expires := some ⟨0, 7, 4, by decide⟩
    expiresLine := some 1 }
  sections := []
  references := []
  citations := []
  diagnostics := []

/-- The year 0 has a 29 February, so that draft expires 186 days after its date, one too many. -/
theorem expiry_window_yearZero :
    yearZeroDraft.front.date = Date.ofYmd? (-1) 12 31 ∧
      yearZeroDraft.front.expires = Date.ofYmd? 0 7 4 ∧
      ReportsExpiry yearZeroDraft (.ofMode .normal) (farMessage 186) := by
  obtain ⟨-, far_iff, steps, -⟩ := expiry_window yearZeroDraft (.ofMode .normal) rfl rfl
  have last : Date.after? 185 ⟨-1, 12, 31, by decide⟩ = Date.ofYmd? 0 7 3 := by decide +kernel
  obtain ⟨days, reported⟩ := far_iff.2 ⟨⟨0, 7, 3, by decide⟩, last, by decide⟩
  have number := Date.after?_eq_some_iff.1 (steps days reported)
  have same : days = 186 := by
    have difference : Date.number ⟨0, 7, 4, by decide⟩ =
        Date.number ⟨-1, 12, 31, by decide⟩ + 186 := by decide +kernel
    omega
  exact ⟨by decide +kernel, by decide +kernel, same ▸ reported⟩

end Rules

end DraftNits
