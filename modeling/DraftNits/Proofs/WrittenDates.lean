import DraftNits.Calendar.Pattern
import DraftNits.Proofs.JsonParts
import DraftNits.Proofs.JsonWriting
import Mathlib.Algebra.Group.Nat.Defs

/-! # Written dates are read back

A number written with zeros in front is read back as far as its width reaches. A year is written in
four digits, or with a sign and as many digits as it needs; which of the two it is shows by its first
character, so every date of the calendar is read back from its written form.

* `DatePart.readNumber?_append` — the digits that a number of some width takes.
* `DatePart.readYear?_yearText` — years of every size.
* `Date.ofText?_text` — whole dates. -/

namespace DraftNits

/-! ## Digits -/

namespace Text

/-- The ten digits stand in one block. -/
theorem toNat_of_isAsciiDigit {c : Char} (digit : isAsciiDigit c = true) :
    48 ≤ c.toNat ∧ c.toNat ≤ 57 := by
  simp only [isAsciiDigit, Bool.and_eq_true, decide_eq_true_eq, Char.le_def] at digit
  exact digit

/-- A digit is not white space. -/
theorem isBlank_of_isAsciiDigit {c : Char} (digit : isAsciiDigit c = true) : isBlank c = false := by
  obtain ⟨from_zero, to_nine⟩ := toNat_of_isAsciiDigit digit
  have no_space : c ≠ ' ' := by
    rintro rfl
    exact absurd from_zero (by decide)
  simp [isBlank, no_space]
  omega

/-- Digits have no white space in front of them. -/
theorem trimStart_of_isDigits {digits : List Char} (is_digits : Json.IsDigits digits)
    (rest : List Char) : trimStart (digits ++ rest) = digits ++ rest := by
  obtain ⟨digit, others, rfl⟩ := List.exists_cons_of_ne_nil is_digits.1
  have no_blank := isBlank_of_isAsciiDigit (is_digits.2 digit List.mem_cons_self)
  rw [List.cons_append, trimStart, List.dropWhile_cons, no_blank]
  rfl

/-- Zeros in front of a number do not count. -/
theorem digitsValue_zeros (zeros : Nat) (cs : List Char) :
    digitsValue (List.replicate zeros '0' ++ cs) = digitsValue cs := by
  induction zeros with
  | zero => rfl
  | succ zeros ih =>
    rw [← ih, List.replicate_succ]
    rfl

/-- The value of a number is kept when zeros are written in front of it. -/
theorem digitsValue_decimalPadded (width n : Nat) : digitsValue (decimalPadded width n) = n := by
  rw [decimalPadded, digitsValue_zeros, Json.digitsValue_decimal]

/-- A number is written in digits. -/
theorem isDigits_decimalPadded (width n : Nat) : Json.IsDigits (decimalPadded width n) := by
  have is_digits : Json.IsDigits (decimal n) := (Json.isValid_decimal (.inl rfl) n).whole
  refine ⟨List.append_ne_nil_of_right_ne_nil _ is_digits.1, fun c mem => ?_⟩
  rcases List.mem_append.1 mem with zero | digit
  · rw [(List.mem_replicate.1 zero).2]
    decide
  · exact is_digits.2 c digit

/-- A number that fits a width is written in as many digits. -/
theorem length_decimalPadded {width n : Nat} (some_digit : 0 < width) (fits : n < 10 ^ width) :
    (decimalPadded width n).length = width := by
  have short : (decimal n).length ≤ width :=
    (Nat.length_toDigits_le_iff (by decide) some_digit).2 fits
  rw [decimalPadded, List.length_append, List.length_replicate]
  omega

end Text

/-! ## Numbers and years -/

namespace DatePart

/-- Digits are read that do not go beyond the width, if they fill it or something else follows. -/
theorem readNumber?_append {width : Nat} {digits rest : List Char}
    (is_digits : Json.IsDigits digits) (fits : digits.length ≤ width)
    (stop : digits.length = width ∨ ∀ c ∈ rest.head?, Text.isAsciiDigit c = false) :
    readNumber? width (digits ++ rest) = some (Text.digitsValue digits, rest) := by
  have taken : (digits ++ rest).take width = digits ++ rest.take (width - digits.length) := by
    rw [List.take_append, List.take_of_length_le fits]
  have ends : ∀ c ∈ (rest.take (width - digits.length)).head?, Text.isAsciiDigit c = false := by
    rcases stop with full | other
    · simp [full]
    · intro c first
      cases rest with
      | nil => simp at first
      | cons d rest =>
        cases room : width - digits.length with
        | zero => simp [room] at first
        | succ _ => exact other c (by simpa [room] using first)
  have some_digit : digits.isEmpty = false := List.isEmpty_eq_false_iff.2 is_digits.1
  simp [readNumber?, taken, Json.takeWhile_append is_digits.2 ends, some_digit]

/-- A number that fits a width is read back from as many digits, whatever follows them. -/
theorem readNumber?_decimalPadded {width n : Nat} (some_digit : 0 < width) (fits : n < 10 ^ width)
    (rest : List Char) :
    readNumber? width (Text.decimalPadded width n ++ rest) = some (n, rest) := by
  have full := Text.length_decimalPadded some_digit fits
  rw [readNumber?_append (Text.isDigits_decimalPadded width n) (Nat.le_of_eq full) (.inl full),
    Text.digitsValue_decimalPadded]

/-- A number that fits a width is read back where white space may stand in front. -/
theorem readNumber?_trimStart_decimalPadded {width n : Nat} (some_digit : 0 < width)
    (fits : n < 10 ^ width) (rest : List Char) :
    readNumber? width (Text.trimStart (Text.decimalPadded width n ++ rest)) = some (n, rest) := by
  rw [Text.trimStart_of_isDigits (Text.isDigits_decimalPadded width n)]
  exact readNumber?_decimalPadded some_digit fits rest

/-- All the digits after a sign are read. -/
theorem readNumber?_signed (n : Nat) {rest : List Char}
    (stop : ∀ c ∈ rest.head?, Text.isAsciiDigit c = false) :
    readNumber? (Text.decimalPadded 4 n ++ rest).length (Text.decimalPadded 4 n ++ rest) =
      some (n, rest) := by
  rw [readNumber?_append (Text.isDigits_decimalPadded 4 n) (by simp) (.inr stop),
    Text.digitsValue_decimalPadded]

/-- A year that starts with a digit has no sign. -/
theorem readYear?_isDigits {digits : List Char} (is_digits : Json.IsDigits digits)
    (rest : List Char) : readYear? (digits ++ rest) =
      (readNumber? 4 (digits ++ rest)).map fun found => ((found.1 : Int), found.2) := by
  obtain ⟨digit, others, rfl⟩ := List.exists_cons_of_ne_nil is_digits.1
  have first := is_digits.2 digit List.mem_cons_self
  have no_minus : digit ≠ '-' := by
    rintro rfl
    exact absurd first (by decide)
  have no_plus : digit ≠ '+' := by
    rintro rfl
    exact absurd first (by decide)
  rw [readYear?, Text.trimStart_of_isDigits is_digits, List.cons_append]
  split
  next minus => exact absurd (List.cons.inj minus).1 no_minus
  next plus => exact absurd (List.cons.inj plus).1 no_plus
  next => rfl

/-- A year is read back from its written form, if no digit follows. -/
theorem readYear?_yearText (year : Int) {rest : List Char}
    (stop : ∀ c ∈ rest.head?, Text.isAsciiDigit c = false) :
    readYear? (Date.yearText year ++ rest) = some (year, rest) := by
  have no_blank : ∀ c, c = '-' ∨ c = '+' → ∀ cs, Text.trimStart (c :: cs) = c :: cs := by
    rintro c (rfl | rfl) cs <;> rfl
  have signed := readNumber?_signed year.natAbs stop
  by_cases plain : 0 ≤ year ∧ year ≤ 9999
  · have fits : year.natAbs < 10 ^ 4 := by omega
    have read := readNumber?_decimalPadded (by decide) fits rest
    have back : (year.natAbs : Int) = year := by omega
    rw [Date.yearText, if_pos plain, readYear?_isDigits (Text.isDigits_decimalPadded 4 _), read,
      Option.map_some, back]
  · rw [Date.yearText, if_neg plain]
    by_cases negative : year < 0
    · have back : -(year.natAbs : Int) = year := by omega
      rw [if_pos negative, List.cons_append, readYear?, no_blank _ (.inl rfl)]
      simp only [signed, Option.map_some, back]
    · have back : (year.natAbs : Int) = year := by omega
      rw [if_neg negative, List.cons_append, readYear?, no_blank _ (.inr rfl)]
      simp only [signed, Option.map_some, back]

end DatePart

/-! ## Dates -/

namespace Date

/-- A month that has days has a number up to 12. -/
theorem month_le (d : Date) : d.month ≤ 12 := by
  by_contra beyond
  have no_days : daysInMonth d.year d.month = 0 := by
    unfold daysInMonth
    split <;> omega
  have some_day := d.isDate.2.2
  omega

/-- No month has more than 31 days. -/
theorem day_le (d : Date) : d.day ≤ 31 := by
  have no_more : daysInMonth d.year d.month ≤ 31 := by
    unfold daysInMonth
    split
    case h_12 => split <;> omega
    all_goals omega
  exact Nat.le_trans d.isDate.2.2.2 no_more

/-- Every date is read back from its written form, whatever its year. -/
theorem ofText?_text (d : Date) : ofText? d.text.toList = some d := by
  have month_fits : d.month < 10 ^ 2 := by have := d.month_le; omega
  have day_fits : d.day < 10 ^ 2 := by have := d.day_le; omega
  have stop : ∀ c ∈ ('-' :: (Text.decimalPadded 2 d.month ++
      '-' :: Text.decimalPadded 2 d.day)).head?, Text.isAsciiDigit c = false := by
    rintro c ⟨⟩
    rfl
  have year := DatePart.readYear?_yearText d.year stop
  have month := DatePart.readNumber?_trimStart_decimalPadded (by decide) month_fits
    ('-' :: Text.decimalPadded 2 d.day)
  have day := DatePart.readNumber?_trimStart_decimalPadded (by decide) day_fits []
  rw [List.append_nil] at day
  have no_space : ∀ cs, Text.trimStart ('-' :: cs) = '-' :: cs := fun _ => rfl
  have no_more : Text.trimStart [] = [] := rfl
  simp only [ofText?, text, String.toList_ofList, DatePattern.isoSpaced, DatePattern.date?,
    DatePattern.fields?, DatePart.read?, List.append_assoc, List.cons_append, year, month, day,
    no_space, no_more, Option.map_some, if_true, List.isEmpty_nil, ofYmd?_self]

example : ofText? "-262143-01-01".toList = ofYmd? (-262143) 1 1 := by decide +kernel

end Date

end DraftNits
