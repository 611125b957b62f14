import DraftNits.Proofs.WrittenDates

/-! # Numerals

Numbers are read from ASCII digits only, with a sign where the reader allows one, and only as far as
they fit 32 bits. A run of decimal digits of any script is a number all the same; it is read exactly
if all of them are ASCII digits.

* `Text.readUnsigned32?_eq_some_iff`, `Text.readSigned32?_eq_some_iff` — the texts that are read,
  and their numbers.
* `Text.decimalValue` — the number that decimal digits of any script write. -/

namespace DraftNits.Text

variable {cs digits : List Char}

/-! ## Numbers of 32 bits -/

/-- Whether a text is a number without a sign or with a plus sign that fits 32 unsigned bits. -/
def IsUnsigned32 (cs : List Char) (n : Nat) : Prop :=
  ∃ digits, (cs = digits ∨ cs = '+' :: digits) ∧ Json.IsDigits digits ∧ digitsValue digits = n ∧
    n < 2 ^ 32

/-- Whether a text is a number, perhaps with a sign, that fits 32 signed bits. -/
def IsSigned32 (cs : List Char) (n : Int) : Prop :=
  ∃ digits, Json.IsDigits digits ∧
    ((cs = digits ∨ cs = '+' :: digits) ∧ n = digitsValue digits ∨
      cs = '-' :: digits ∧ n = -(digitsValue digits : Int)) ∧
    -0x80000000 ≤ n ∧ n < 0x80000000

/-- A text of digits is not empty, and all of it is digits. -/
theorem isDigits_iff : Json.IsDigits cs ↔ (!cs.isEmpty && cs.all isAsciiDigit) = true := by
  simp [Json.IsDigits]

instance (cs : List Char) : Decidable (Json.IsDigits cs) := decidable_of_iff _ isDigits_iff.symm

/-- Digits are read as their value, and nothing else is. -/
theorem readDigits?_eq_some_iff {n : Nat} :
    readDigits? cs = some n ↔ Json.IsDigits cs ∧ digitsValue cs = n := by
  rw [readDigits?]
  by_cases is_digits : Json.IsDigits cs
  · rw [if_pos (isDigits_iff.1 is_digits)]
    simp [is_digits]
  · rw [if_neg (fun all => is_digits (isDigits_iff.2 all))]
    simp [is_digits]

/-- No sign is a digit. -/
theorem not_isDigits_sign {sign : Char} (is_sign : sign = '+' ∨ sign = '-') (rest : List Char) :
    ¬ Json.IsDigits (sign :: rest) := by
  intro is_digits
  have digit := is_digits.2 sign List.mem_cons_self
  rcases is_sign with rfl | rfl
  · exact absurd digit (by decide)
  · exact absurd digit (by decide)

/-- There is no white space to be taken off digits. -/
theorem trim_of_isDigits (is_digits : Json.IsDigits digits) : trim digits = digits :=
  trim_eq_self
    (fun c first => isBlank_of_isAsciiDigit (is_digits.2 c (List.mem_of_mem_head? first)))
    (fun c last => isBlank_of_isAsciiDigit (is_digits.2 c (List.mem_of_mem_getLast? last)))

/-- A number that has to be in a range is given exactly if it is there and in the range. -/
theorem bind_ite_eq_some_iff {α : Type} {p : α → Prop} [DecidablePred p] {found : Option α}
    {a : α} :
    (found.bind fun b => if p b then some b else none) = some a ↔ found = some a ∧ p a := by
  rw [Option.bind_eq_some_iff]
  constructor
  · rintro ⟨b, is_found, in_range⟩
    split at in_range
    next holds =>
      obtain rfl := Option.some.inj in_range
      exact ⟨is_found, holds⟩
    next => cases in_range
  · rintro ⟨is_found, holds⟩
    exact ⟨a, is_found, if_pos holds⟩

/-- A number is read exactly if it is one of 32 unsigned bits. -/
theorem readUnsigned32?_eq_some_iff {n : Nat} :
    readUnsigned32? cs = some n ↔ IsUnsigned32 cs n := by
  unfold readUnsigned32?
  refine (bind_ite_eq_some_iff (p := (· < UInt32.size))).trans ?_
  rw [readDigits?_eq_some_iff]
  split
  next rest =>
    constructor
    · rintro ⟨⟨is_digits, is_value⟩, fits⟩
      exact ⟨rest, .inr rfl, is_digits, is_value, fits⟩
    · rintro ⟨digits, rfl | same, is_digits, is_value, fits⟩
      · exact absurd is_digits (not_isDigits_sign (.inl rfl) rest)
      · obtain rfl := (List.cons.inj same).2
        exact ⟨⟨is_digits, is_value⟩, fits⟩
  next no_sign =>
    constructor
    · rintro ⟨⟨is_digits, is_value⟩, fits⟩
      exact ⟨cs, .inl rfl, is_digits, is_value, fits⟩
    · rintro ⟨digits, rfl | rfl, is_digits, is_value, fits⟩
      · exact ⟨⟨is_digits, is_value⟩, fits⟩
      · exact absurd rfl (no_sign digits)

/-- A number is read exactly if it is one of 32 signed bits. -/
theorem readSigned32?_eq_some_iff {n : Int} :
    readSigned32? cs = some n ↔ IsSigned32 cs n := by
  -- Behind the sign, digits are read, and their value with the sign has to fit.
  have reads : ∀ (sign : Nat → Int) (behind : List Char),
      (((readDigits? behind).map sign).bind fun m =>
          if -0x80000000 ≤ m ∧ m < 0x80000000 then some m else none) = some n ↔
        Json.IsDigits behind ∧ sign (digitsValue behind) = n ∧ -0x80000000 ≤ n ∧ n < 0x80000000 := by
    intro sign behind
    refine (bind_ite_eq_some_iff (p := fun m : Int => -0x80000000 ≤ m ∧ m < 0x80000000)).trans ?_
    rw [Option.map_eq_some_iff]
    constructor
    · rintro ⟨⟨m, read, is_value⟩, fits⟩
      obtain ⟨is_digits, rfl⟩ := readDigits?_eq_some_iff.1 read
      exact ⟨is_digits, is_value, fits⟩
    · rintro ⟨is_digits, is_value, fits⟩
      exact ⟨⟨_, readDigits?_eq_some_iff.2 ⟨is_digits, rfl⟩, is_value⟩, fits⟩
  unfold readSigned32?
  dsimp only
  split
  next rest =>
    refine (reads Int.ofNat rest).trans ⟨?_, ?_⟩
    · rintro ⟨is_digits, is_value, fits⟩
      exact ⟨rest, is_digits, .inl ⟨.inr rfl, is_value.symm⟩, fits⟩
    · rintro ⟨digits, is_digits, ⟨rfl | same, is_value⟩ | ⟨other, -⟩, fits⟩
      · exact absurd is_digits (not_isDigits_sign (.inl rfl) rest)
      · obtain rfl := (List.cons.inj same).2
        exact ⟨is_digits, is_value.symm, fits⟩
      · exact absurd (List.cons.inj other).1 (by decide)
  next rest =>
    refine (reads (fun m => -Int.ofNat m) rest).trans ⟨?_, ?_⟩
    · rintro ⟨is_digits, is_value, fits⟩
      exact ⟨rest, is_digits, .inr ⟨rfl, is_value.symm⟩, fits⟩
    · rintro ⟨digits, is_digits, ⟨rfl | other, -⟩ | ⟨same, is_value⟩, fits⟩
      · exact absurd is_digits (not_isDigits_sign (.inr rfl) rest)
      · exact absurd (List.cons.inj other).1 (by decide)
      · obtain rfl := (List.cons.inj same).2
        exact ⟨is_digits, is_value.symm, fits⟩
  next no_plus no_minus =>
    refine (reads Int.ofNat cs).trans ⟨?_, ?_⟩
    · rintro ⟨is_digits, is_value, fits⟩
      exact ⟨cs, is_digits, .inl ⟨.inl rfl, is_value.symm⟩, fits⟩
    · rintro ⟨digits, is_digits, ⟨rfl | rfl, is_value⟩ | ⟨rfl, -⟩, fits⟩
      · exact ⟨is_digits, is_value.symm, fits⟩
      · exact absurd rfl (no_plus digits)
      · exact absurd rfl (no_minus digits)

/-! ## Decimal digits of any script -/

/-- The value of a decimal digit of any script. Digits stand in blocks of ten from a zero on. -/
def decimalDigitValue (c : Char) : Nat :=
  if c.toNat < 0x80 then digitValue c
  else (digitRanges.find? fun r => r.1 ≤ c.toNat && c.toNat ≤ r.2).elim 0 fun r =>
    (c.toNat - r.1) % 10

/-- The number that decimal digits of any script write. -/
def decimalValue (cs : List Char) : Nat := cs.foldl (fun n c => n * 10 + decimalDigitValue c) 0

/-- ASCII digits write the number that is read. -/
theorem decimalValue_of_isDigits (is_digits : Json.IsDigits digits) :
    decimalValue digits = digitsValue digits := by
  have values : ∀ c ∈ digits, decimalDigitValue c = digitValue c := by
    intro c mem
    have to_nine := (toNat_of_isAsciiDigit (is_digits.2 c mem)).2
    rw [decimalDigitValue, if_pos (by omega)]
  rw [decimalValue, digitsValue]
  refine List.foldl_ext _ _ _ fun n c mem => ?_
  rw [values c mem]

/-- An ASCII digit is a decimal digit. -/
theorem isDecimalDigit_of_isAsciiDigit {c : Char} (digit : isAsciiDigit c = true) :
    isDecimalDigit c = true := by
  have to_nine := (toNat_of_isAsciiDigit digit).2
  rw [isDecimalDigit, if_pos (by omega), digit]

/-- The white space above ASCII. -/
def blankCodes : List Nat :=
  [0x85, 0xA0, 0x1680] ++ List.range' 0x2000 11 ++ [0x2028, 0x2029, 0x202F, 0x205F, 0x3000]

/-- A decimal digit of any script is not white space. -/
theorem isBlank_of_isDecimalDigit {c : Char} (digit : isDecimalDigit c = true) :
    isBlank c = false := by
  unfold isDecimalDigit at digit
  split at digit
  · exact isBlank_of_isAsciiDigit digit
  next above =>
    by_contra blank
    have no_space : c ≠ ' ' := by
      rintro rfl
      exact above (by decide)
    have listed : c.toNat ∈ blankCodes := by
      simp [isBlank, no_space] at blank
      simp [blankCodes, List.mem_range'_1]
      omega
    have no_digits : ∀ code ∈ blankCodes, digitRanges.contains code = false := by decide +kernel
    rw [no_digits _ listed] at digit
    cases digit

example : decimalValue "٢٠٢٤".toList = 2024 := by decide +kernel

end DraftNits.Text
