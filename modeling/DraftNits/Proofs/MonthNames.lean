import DraftNits.Calendar.Written
import DraftNits.Proofs.Numerals

/-! # Names of months

A month is read by its English name or by the first three letters of the name, in any ASCII case.
The three letters tell the months apart, and a name that is read to its end is followed by no letter
of its own, so the reader has no choice in what it takes.

* `Date.NamesMonth` — the texts that name a month.
* `DatePart.readName?_monthNames` — the month whose three letters begin a text.
* `DatePart.exists_namesMonth_of_read?`, `DatePart.read?_longMonth` — the parts of a pattern that
  read a name, and nothing but one; each name is read where no letter follows it. -/

namespace DraftNits

/-! ## Letters -/

namespace Text

/-- An ASCII letter. -/
def isAsciiLetter (c : Char) : Bool := isAsciiUpper c || isAsciiLower c

/-- A capital letter is a letter. -/
theorem isAsciiLetter_of_isAsciiUpper {c : Char} (upper : isAsciiUpper c = true) :
    isAsciiLetter c = true := by
  rw [isAsciiLetter, upper, Bool.true_or]

/-- A character whose small letter is one is a letter. -/
theorem isAsciiLetter_of_asciiLower {c : Char} (small : isAsciiLower (asciiLower c) = true) :
    isAsciiLetter c = true := by
  unfold asciiLower at small
  split at small
  next upper => exact isAsciiLetter_of_isAsciiUpper upper
  next => rw [isAsciiLetter, small, Bool.or_true]

/-- A letter has the number of a capital or of a small one. -/
theorem toNat_of_isAsciiLetter {c : Char} (letter : isAsciiLetter c = true) :
    (65 ≤ c.toNat ∧ c.toNat ≤ 90) ∨ (97 ≤ c.toNat ∧ c.toNat ≤ 122) := by
  simp only [isAsciiLetter, isAsciiUpper, isAsciiLower, Bool.or_eq_true, Bool.and_eq_true,
    decide_eq_true_eq, Char.le_def] at letter
  exact letter

/-- A letter is not white space. -/
theorem isBlank_of_isAsciiLetter {c : Char} (letter : isAsciiLetter c = true) :
    isBlank c = false := by
  have number := toNat_of_isAsciiLetter letter
  have no_space : c ≠ ' ' := by
    rintro rfl
    exact absurd letter (by decide)
  simp [isBlank, no_space]
  omega

/-- A capital letter is not white space. -/
theorem isBlank_of_isAsciiUpper {c : Char} (upper : isAsciiUpper c = true) : isBlank c = false :=
  isBlank_of_isAsciiLetter (isAsciiLetter_of_isAsciiUpper upper)

/-- White space is no letter. -/
theorem isAsciiLetter_of_isBlank {c : Char} (blank : isBlank c = true) :
    isAsciiLetter c = false := by
  by_contra letter
  rw [Bool.not_eq_false] at letter
  rw [isBlank_of_isAsciiLetter letter] at blank
  cases blank

/-- A digit is no letter. -/
theorem isAsciiLetter_of_isAsciiDigit {c : Char} (digit : isAsciiDigit c = true) :
    isAsciiLetter c = false := by
  by_contra letter
  rw [Bool.not_eq_false] at letter
  have number := toNat_of_isAsciiLetter letter
  have from_zero := toNat_of_isAsciiDigit digit
  omega

end Text

/-! ## Names -/

namespace Date

/-- The English name of a month, from January, which is 1. -/
def monthName : Nat → List Char
  | 1 => "January".toList
  | 2 => "February".toList
  | 3 => "March".toList
  | 4 => "April".toList
  | 5 => "May".toList
  | 6 => "June".toList
  | 7 => "July".toList
  | 8 => "August".toList
  | 9 => "September".toList
  | 10 => "October".toList
  | 11 => "November".toList
  | 12 => "December".toList
  | _ => []

/-- Whether a text is the English name of a month or the first three letters of it, in any ASCII
case. -/
structure NamesMonth (month : Nat) (cs : List Char) : Prop where
  /-- The month is one of the twelve. -/
  isMonth : 1 ≤ month ∧ month ≤ 12
  /-- The text spells the name or its first three letters. -/
  spells : Text.eqIgnoringAsciiCase cs (monthName month) = true ∨
    Text.eqIgnoringAsciiCase cs ((monthName month).take 3) = true

/-- Names are written in letters, and at least three of them. -/
theorem monthName_letters {month : Nat} (is_month : 1 ≤ month ∧ month ≤ 12) :
    3 ≤ (monthName month).length ∧
      ∀ c ∈ monthName month, Text.isAsciiLower (Text.asciiLower c) = true := by
  have all : ∀ m ∈ List.range' 1 12, 3 ≤ (monthName m).length ∧
      (monthName m).all (fun c => Text.isAsciiLower (Text.asciiLower c)) = true := by decide +kernel
  obtain ⟨long, letters⟩ := all month (List.mem_range'_1.2 (by omega))
  exact ⟨long, List.all_eq_true.1 letters⟩

/-- What spells letters is written in letters. -/
theorem isAsciiLetter_of_map_asciiLower {cs letters : List Char}
    (same : cs.map Text.asciiLower = letters.map Text.asciiLower)
    (all : ∀ c ∈ letters, Text.isAsciiLower (Text.asciiLower c) = true) :
    ∀ c ∈ cs, Text.isAsciiLetter c = true := by
  intro c mem
  have lowered : Text.asciiLower c ∈ letters.map Text.asciiLower :=
    same ▸ List.mem_map_of_mem mem
  obtain ⟨letter, is_letter, same_letter⟩ := List.mem_map.1 lowered
  exact Text.isAsciiLetter_of_asciiLower (same_letter ▸ all letter is_letter)

namespace NamesMonth

variable {month : Nat} {cs : List Char}

/-- The name of a month is not empty, and it is written in letters. -/
theorem letters (names : NamesMonth month cs) :
    cs ≠ [] ∧ ∀ c ∈ cs, Text.isAsciiLetter c = true := by
  obtain ⟨long, small⟩ := monthName_letters names.isMonth
  -- Either way the text spells three letters of the name or more, so there is one form to look at.
  obtain ⟨count, three, spells⟩ : ∃ count, 3 ≤ count ∧
      Text.eqIgnoringAsciiCase cs ((monthName month).take count) = true := by
    rcases names.spells with whole | short
    · exact ⟨_, long, by rw [List.take_length]; exact whole⟩
    · exact ⟨3, Nat.le_refl 3, short⟩
  have same := eq_of_beq spells
  refine ⟨fun nothing => ?_, isAsciiLetter_of_map_asciiLower same fun c mem =>
    small c (List.mem_of_mem_take mem)⟩
  have lengths := congrArg List.length same
  rw [nothing, List.length_map, List.length_map, List.length_take, List.length_nil] at lengths
  omega

/-- The name of a month begins with a letter. -/
theorem exists_cons (names : NamesMonth month cs) :
    ∃ c rest, cs = c :: rest ∧ Text.isAsciiLetter c = true := by
  obtain ⟨some_letter, letters⟩ := names.letters
  obtain ⟨c, rest, rfl⟩ := List.exists_cons_of_ne_nil some_letter
  exact ⟨c, rest, rfl, letters c List.mem_cons_self⟩

/-- The name of a month ends with a character that is no white space. -/
theorem isBlank_getLast? (names : NamesMonth month cs) :
    ∀ c ∈ cs.getLast?, Text.isBlank c = false :=
  fun c last => Text.isBlank_of_isAsciiLetter (names.letters.2 c (List.mem_of_mem_getLast? last))

end NamesMonth

end Date

/-! ## Reading names -/

namespace DatePart

variable {cs rest ending written : List Char} {month : Nat} {fields read_fields : DateFields}

/-- The text after a name is what stands behind the letters of the name. -/
theorem afterName?_eq_some_iff {name : List Char} :
    afterName? name cs = some rest ↔
      ∃ written, cs = written ++ rest ∧ written.map Text.asciiLower = name := by
  unfold afterName?
  constructor
  · intro found
    split at found
    next spelled =>
      obtain rfl := Option.some.inj found
      exact ⟨_, (List.take_append_drop _ _).symm, eq_of_beq spelled⟩
    next => cases found
  · rintro ⟨written, rfl, rfl⟩
    rw [List.length_map, List.take_left, List.drop_left, if_pos (beq_self_eq_true _)]

/-- Where the names begin differently, but are equally long up to there, the first that fits is the
only one. -/
theorem readName?_eq_some_iff {names : List (List Char × List Char)} {first : Nat}
    (same_length : ∀ entry ∈ names, entry.1.length = 3) (distinct : (names.map Prod.fst).Nodup) :
    readName? first cs names = some (month, ending, rest) ↔
      ∃ i short, names[i]? = some (short, ending) ∧ month = first + i ∧
        afterName? short cs = some rest := by
  -- By induction on the names: the first of them fits, or the search goes on one month later.
  induction names generalizing first with
  | nil => simp [readName?]
  | cons entry names ih =>
    obtain ⟨short, own_ending⟩ := entry
    rw [List.forall_mem_cons] at same_length
    rw [List.map_cons, List.nodup_cons] at distinct
    have later := @ih (first + 1) same_length.2 distinct.2
    rw [readName?]
    cases found : afterName? short cs with
    | none =>
      dsimp only
      rw [later]
      constructor
      · rintro ⟨i, other, is_entry, is_month, fits⟩
        exact ⟨i + 1, other, is_entry, by omega, fits⟩
      · rintro ⟨_ | i, other, is_entry, is_month, fits⟩
        · obtain ⟨rfl, -⟩ := Prod.mk.inj (Option.some.inj is_entry)
          rw [found] at fits
          cases fits
        · exact ⟨i, other, is_entry, by omega, fits⟩
    | some behind =>
      constructor
      · intro is_read
        obtain ⟨rfl, same⟩ := Prod.mk.inj (Option.some.inj is_read)
        obtain ⟨rfl, rfl⟩ := Prod.mk.inj same
        exact ⟨0, short, rfl, rfl, found⟩
      · rintro ⟨_ | i, other, is_entry, is_month, fits⟩
        · obtain ⟨rfl, rfl⟩ := Prod.mk.inj (Option.some.inj is_entry)
          rw [found] at fits
          obtain rfl := Option.some.inj fits
          rw [is_month]
          rfl
        · -- Another name that fits begins with the same three letters of the text.
          have mem : (other, ending) ∈ names := List.mem_of_getElem? is_entry
          have three : other.length = 3 := same_length.2 _ mem
          obtain ⟨letters, is_text, is_short⟩ := afterName?_eq_some_iff.1 found
          obtain ⟨others, also_text, is_other⟩ := afterName?_eq_some_iff.1 fits
          have same : letters = others := by
            refine List.append_inj_left (is_text.symm.trans also_text) ?_
            have lengths := same_length.1.trans three.symm
            rw [← is_short, ← is_other] at lengths
            simpa using lengths
          have repeated : short ∈ names.map Prod.fst :=
            List.mem_map.2 ⟨_, mem, by rw [← is_short, same, is_other]⟩
          exact absurd repeated distinct.1

/-- The month that begins a text is the one whose three letters do. -/
theorem readName?_monthNames :
    readName? 1 cs monthNames = some (month, ending, rest) ↔
      (1 ≤ month ∧ month ≤ 12) ∧
        ending = ((Date.monthName month).drop 3).map Text.asciiLower ∧
        ∃ written, cs = written ++ rest ∧
          written.map Text.asciiLower = ((Date.monthName month).take 3).map Text.asciiLower := by
  -- The table of the reader is the list of names, cut behind their third letters.
  have table : monthNames = (List.range' 1 12).map fun m =>
      (((Date.monthName m).take 3).map Text.asciiLower,
        ((Date.monthName m).drop 3).map Text.asciiLower) := by decide +kernel
  have same_length : ∀ entry ∈ monthNames, entry.1.length = 3 := by decide +kernel
  have distinct : (monthNames.map Prod.fst).Nodup := by decide +kernel
  rw [readName?_eq_some_iff same_length distinct, table]
  constructor
  · rintro ⟨i, short, is_entry, rfl, fits⟩
    rw [List.getElem?_map, Option.map_eq_some_iff] at is_entry
    obtain ⟨m, is_m, is_entry⟩ := is_entry
    have below : i < 12 := by simpa using (List.getElem?_eq_some_iff.1 is_m).1
    rw [List.getElem?_range' below, Nat.one_mul] at is_m
    obtain rfl := Option.some.inj is_m
    obtain ⟨rfl, rfl⟩ := Prod.mk.inj is_entry
    exact ⟨by omega, rfl, afterName?_eq_some_iff.1 fits⟩
  · rintro ⟨is_month, rfl, written⟩
    refine ⟨month - 1, _, ?_, by omega, afterName?_eq_some_iff.2 written⟩
    rw [List.getElem?_map, List.getElem?_range' (by omega)]
    have back : 1 + 1 * (month - 1) = month := by omega
    rw [back]
    rfl

/-- A part that reads the name of a month reads nothing else. -/
theorem exists_namesMonth_of_read? {part : DatePart}
    (is_name : part = .shortMonth ∨ part = .longMonth)
    (read : part.read? fields cs = some (read_fields, rest)) :
    ∃ month written, Date.NamesMonth month written ∧ cs = written ++ rest ∧
      read_fields = { fields with month := some month } := by
  rcases is_name with rfl | rfl
  all_goals
    obtain ⟨⟨month, ending, behind⟩, is_read, is_result⟩ := Option.map_eq_some_iff.1 read
    obtain ⟨is_month, rfl, written, rfl, spelled⟩ := readName?_monthNames.1 is_read
    obtain ⟨rfl, is_rest⟩ := Prod.mk.inj is_result
  · exact ⟨month, written, ⟨is_month, .inr (beq_iff_eq.2 spelled)⟩, is_rest ▸ rfl, rfl⟩
  · cases more : afterName? (((Date.monthName month).drop 3).map Text.asciiLower) behind with
    | none =>
      rw [more] at is_rest
      exact ⟨month, written, ⟨is_month, .inr (beq_iff_eq.2 spelled)⟩, is_rest ▸ rfl, rfl⟩
    | some after =>
      rw [more] at is_rest
      obtain ⟨others, rfl, also_spelled⟩ := afterName?_eq_some_iff.1 more
      refine ⟨month, written ++ others, ⟨is_month, .inl (beq_iff_eq.2 ?_)⟩, ?_, rfl⟩
      · rw [List.map_append, spelled, also_spelled, ← List.map_append, List.take_append_drop]
      · rw [List.append_assoc, ← is_rest]
        rfl

/-- The name of a month is read where no letter follows it. -/
theorem read?_longMonth (names : Date.NamesMonth month written)
    (stop : ∀ c ∈ rest.head?, Text.isAsciiLetter c = false) :
    longMonth.read? fields (written ++ rest) =
      some ({ fields with month := some month }, rest) := by
  obtain ⟨-, small⟩ := Date.monthName_letters names.isMonth
  rcases names.spells with whole | short
  · -- The name is read in two pieces, and both are there.
    have same := eq_of_beq whole
    have begins : readName? 1 (written ++ rest) monthNames =
        some (month, ((Date.monthName month).drop 3).map Text.asciiLower,
          written.drop 3 ++ rest) := by
      refine readName?_monthNames.2 ⟨names.isMonth, rfl, written.take 3, ?_, ?_⟩
      · rw [← List.append_assoc, List.take_append_drop]
      · rw [List.map_take, same, List.map_take]
    have ends : afterName? (((Date.monthName month).drop 3).map Text.asciiLower)
        (written.drop 3 ++ rest) = some rest := by
      refine afterName?_eq_some_iff.2 ⟨written.drop 3, rfl, ?_⟩
      rw [List.map_drop, same, List.map_drop]
    rw [read?, begins, Option.map_some]
    dsimp only
    rw [ends]
    rfl
  · have begins : readName? 1 (written ++ rest) monthNames =
        some (month, ((Date.monthName month).drop 3).map Text.asciiLower, rest) :=
      readName?_monthNames.2 ⟨names.isMonth, rfl, written, rfl, eq_of_beq short⟩
    -- The rest of the name is not there, unless it is empty, as that of May is.
    have no_more : (afterName? (((Date.monthName month).drop 3).map Text.asciiLower) rest).getD
        rest = rest := by
      cases more : afterName? (((Date.monthName month).drop 3).map Text.asciiLower) rest with
      | none => rfl
      | some after =>
        obtain ⟨letters, is_rest, spelled⟩ := afterName?_eq_some_iff.1 more
        have all := Date.isAsciiLetter_of_map_asciiLower spelled fun c mem =>
          small c (List.mem_of_mem_drop mem)
        cases letters with
        | nil => exact is_rest.symm
        | cons c others =>
          have no_letter := stop c (by rw [is_rest]; rfl)
          rw [all c List.mem_cons_self] at no_letter
          cases no_letter
    rw [read?, begins, Option.map_some]
    dsimp only
    rw [no_more]

end DatePart

end DraftNits
