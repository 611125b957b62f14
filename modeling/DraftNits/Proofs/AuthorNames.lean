import DraftNits.PlainText.AuthorName
import DraftNits.Proofs.DateReadings

/-! # Author names

The name of an author is one or more initials and a surname. A matcher that takes each initial as it
comes and never gives one back finds exactly these names: a second initial without a hyphen may as
well be one of its own, and behind more than one white-space character there is only the surname.

* `PlainText.IsAuthor` — the author names, said without a matcher.
* `PlainText.isAuthorName_iff_isAuthor` — the texts that match are the author names.
* `PlainText.IsAuthor.ofFrontMatter?_eq_none` — no author name is a date. -/

namespace DraftNits.PlainText

variable {cs rest : List Char}

/-! ## Initials and surnames -/

/-- An initial: a capital letter, perhaps a small one, and a full stop, perhaps with a second
capital letter and full stop behind it or behind a hyphen. -/
def IsInitial (cs : List Char) : Prop :=
  ∃ a small second, cs = a :: (small ++ '.' :: second) ∧ Text.isAsciiUpper a = true ∧
    (small = [] ∨ ∃ b, Text.isAsciiLower b = true ∧ small = [b]) ∧
    (second = [] ∨ ∃ hyphen b, (hyphen = [] ∨ hyphen = ['-']) ∧ Text.isAsciiUpper b = true ∧
      second = hyphen ++ [b, '.'])

/-- A surname: a capital letter and one or more characters of a surname, perhaps with the mark of an
editor. -/
def IsSurname (cs : List Char) : Prop :=
  ∃ a others mark, cs = a :: (others ++ mark) ∧ Text.isAsciiUpper a = true ∧ others ≠ [] ∧
    (∀ c ∈ others, isSurnameChar c = true) ∧ (mark = [] ∨ mark = ", Ed.".toList)

/-- A name: initials, each with at most one white-space character behind it, and a surname behind
any white space. There is some initial unless there were initials before. -/
inductive IsNameFrom : Bool → List Char → Prop
  | surname {blanks surname : List Char} (all_blank : ∀ c ∈ blanks, Text.isBlank c = true)
      (is_surname : IsSurname surname) : IsNameFrom true (blanks ++ surname)
  | initial {initials : Bool} {initial blank rest : List Char} (is_initial : IsInitial initial)
      (short : blank.length ≤ 1) (all_blank : ∀ c ∈ blank, Text.isBlank c = true)
      (is_name : IsNameFrom true rest) : IsNameFrom initials (initial ++ (blank ++ rest))

/-- The name of an author. -/
def IsAuthor (cs : List Char) : Prop := IsNameFrom false cs

/-- The surnames are what is taken as one. -/
theorem isSurname_iff : isSurname cs = true ↔ IsSurname cs := by
  constructor
  · intro matched
    cases cs with
    | nil => cases matched
    | cons a rest =>
      simp only [isSurname, Bool.and_eq_true, Bool.not_eq_true', Bool.or_eq_true,
        List.isEmpty_eq_false_iff, List.isEmpty_iff, beq_iff_eq] at matched
      obtain ⟨⟨upper, some_char⟩, mark⟩ := matched
      exact ⟨a, rest.takeWhile isSurnameChar, rest.dropWhile isSurnameChar,
        by rw [List.takeWhile_append_dropWhile], upper, some_char,
        List.all_eq_true.1 List.all_takeWhile, mark⟩
  · rintro ⟨a, others, mark, rfl, upper, some_char, all_chars, is_mark⟩
    have stop : ∀ c ∈ mark.head?, isSurnameChar c = false := by
      rcases is_mark with rfl | rfl
      · rintro _ ⟨⟩
      · rintro _ ⟨⟩
        rfl
    have taken := Json.takeWhile_append all_chars stop
    have left : (others ++ mark).dropWhile isSurnameChar = mark := by
      have whole := List.takeWhile_append_dropWhile (p := isSurnameChar) (l := others ++ mark)
      rw [taken] at whole
      exact List.append_cancel_left whole
    simp only [isSurname, taken, left, upper]
    rcases is_mark with rfl | rfl <;> simpa using some_char

/-- A small letter is no full stop, so it is taken before the full stop of its initial. -/
theorem ne_fullStop {b : Char} (lower : Text.isAsciiLower b = true) : b ≠ '.' := by
  rintro rfl
  exact absurd lower (by decide)

/-- Neither white space nor a capital letter is a hyphen. -/
theorem ne_hyphen {c : Char} (starts : Text.isBlank c = true ∨ Text.isAsciiUpper c = true) :
    c ≠ '-' := by
  rintro rfl
  exact absurd starts (by decide)

/-- An initial is taken up to its full stop, where no hyphen follows. -/
theorem afterInitial?_single {a : Char} {small : List Char} (upper : Text.isAsciiUpper a = true)
    (is_small : small = [] ∨ ∃ b, Text.isAsciiLower b = true ∧ small = [b])
    (no_hyphen : ∀ c ∈ rest.head?, c ≠ '-') :
    afterInitial? (a :: (small ++ '.' :: rest)) = some rest := by
  rcases is_small with rfl | ⟨b, lower, rfl⟩
  · rw [List.nil_append]
    unfold afterInitial?
    grind
  · have no_stop := ne_fullStop lower
    rw [List.singleton_append]
    unfold afterInitial?
    grind

/-- An initial is taken with the second one behind its hyphen. -/
theorem afterInitial?_hyphen {a b : Char} {small : List Char} (upper : Text.isAsciiUpper a = true)
    (is_small : small = [] ∨ ∃ b, Text.isAsciiLower b = true ∧ small = [b])
    (also_upper : Text.isAsciiUpper b = true) :
    afterInitial? (a :: (small ++ '.' :: '-' :: b :: '.' :: rest)) = some rest := by
  rcases is_small with rfl | ⟨b, lower, rfl⟩
  · rw [List.nil_append]
    unfold afterInitial?
    grind
  · have no_stop := ne_fullStop lower
    rw [List.singleton_append]
    unfold afterInitial?
    grind

/-- A capital letter, perhaps with a small one, and a full stop are an initial. -/
theorem isInitial_single {a : Char} {small : List Char} (upper : Text.isAsciiUpper a = true)
    (is_small : small = [] ∨ ∃ b, Text.isAsciiLower b = true ∧ small = [b]) :
    IsInitial (a :: (small ++ ['.'])) :=
  ⟨a, small, [], rfl, upper, is_small, .inl rfl⟩

/-- Such an initial is one with a second capital letter and full stop behind a hyphen, too. -/
theorem isInitial_hyphen {a b : Char} {small : List Char} (upper : Text.isAsciiUpper a = true)
    (is_small : small = [] ∨ ∃ b, Text.isAsciiLower b = true ∧ small = [b])
    (also_upper : Text.isAsciiUpper b = true) :
    IsInitial (a :: (small ++ ['.', '-', b, '.'])) :=
  ⟨a, small, ['-', b, '.'], rfl, upper, is_small, .inr ⟨['-'], b, .inr rfl, also_upper, rfl⟩⟩

/-- What is taken is an initial. -/
theorem exists_isInitial (taken : afterInitial? cs = some rest) :
    ∃ initial, cs = initial ++ rest ∧ IsInitial initial := by
  unfold afterInitial? at taken
  split at taken
  next a b behind =>
    split at taken
    next upper =>
      split at taken
      next also_upper =>
        obtain rfl := Option.some.inj taken
        exact ⟨[a, '.', '-', b, '.'], rfl, isInitial_hyphen upper (.inl rfl) also_upper⟩
      next =>
        obtain rfl := Option.some.inj taken
        exact ⟨[a, '.'], rfl, isInitial_single upper (.inl rfl)⟩
    next => cases taken
  next a behind _ =>
    split at taken
    next upper =>
      obtain rfl := Option.some.inj taken
      exact ⟨[a, '.'], rfl, isInitial_single upper (.inl rfl)⟩
    next => cases taken
  next a b c behind _ =>
    split at taken
    next letters =>
      obtain ⟨upper, lower⟩ := Bool.and_eq_true_iff.1 letters
      split at taken
      next also_upper =>
        obtain rfl := Option.some.inj taken
        exact ⟨[a, b, '.', '-', c, '.'], rfl,
          isInitial_hyphen upper (.inr ⟨b, lower, rfl⟩) also_upper⟩
      next =>
        obtain rfl := Option.some.inj taken
        exact ⟨[a, b, '.'], rfl, isInitial_single upper (.inr ⟨b, lower, rfl⟩)⟩
    next => cases taken
  next a b behind _ _ =>
    split at taken
    next letters =>
      obtain ⟨upper, lower⟩ := Bool.and_eq_true_iff.1 letters
      obtain rfl := Option.some.inj taken
      exact ⟨[a, b, '.'], rfl, isInitial_single upper (.inr ⟨b, lower, rfl⟩)⟩
    next => cases taken
  next => cases taken

/-- A surname is not taken for an initial: no full stop stands so near its beginning. -/
theorem IsSurname.afterInitial?_eq_none (is_surname : IsSurname cs) : afterInitial? cs = none := by
  obtain ⟨a, others, mark, rfl, -, some_char, all_chars, is_mark⟩ := is_surname
  obtain ⟨b, chars, rfl⟩ := List.exists_cons_of_ne_nil some_char
  have no_stop : ∀ c, isSurnameChar c = true → c ≠ '.' := by
    rintro _ surname_char rfl
    exact absurd surname_char (by decide)
  have second := no_stop b (all_chars b List.mem_cons_self)
  have third : ∀ c ∈ (chars ++ mark).head?, c ≠ '.' := by
    cases chars with
    | nil =>
      rcases is_mark with rfl | rfl
      · rintro _ ⟨⟩
      · rintro _ ⟨⟩
        decide
    | cons c chars =>
      rintro _ ⟨⟩
      exact no_stop c (all_chars c (by simp))
  rw [List.cons_append]
  unfold afterInitial?
  grind

/-! ## Names -/

/-- A surname begins with a character that is not white space. -/
theorem IsSurname.exists_cons (is_surname : IsSurname cs) :
    ∃ a others, cs = a :: others ∧ Text.isBlank a = false := by
  obtain ⟨a, others, mark, rfl, upper, -⟩ := is_surname
  exact ⟨a, _, rfl, Text.isBlank_of_isAsciiUpper upper⟩

/-- Behind white space, a surname is found. -/
theorem IsSurname.isSurname_trimStart {blanks : List Char} (is_surname : IsSurname cs)
    (all_blank : ∀ c ∈ blanks, Text.isBlank c = true) :
    isSurname (Text.trimStart (blanks ++ cs)) = true := by
  have matched := isSurname_iff.2 is_surname
  obtain ⟨a, others, rfl, not_blank⟩ := is_surname.exists_cons
  rwa [Text.trimStart_append all_blank not_blank]

/-- The text without the white-space character that it may begin with. -/
def dropBlank (cs : List Char) : List Char := if Text.startsBlank cs then cs.tail else cs

/-- One white-space character is dropped. -/
theorem dropBlank_of_isBlank {c : Char} (is_blank : Text.isBlank c = true) :
    dropBlank (c :: cs) = cs := if_pos is_blank

/-- Nothing is dropped where no white space comes first. -/
theorem dropBlank_of_not (not_blank : Text.startsBlank cs = false) : dropBlank cs = cs := by
  rw [dropBlank, not_blank]
  rfl

/-- At most one white-space character is dropped. -/
theorem exists_dropBlank (cs : List Char) :
    ∃ blank, cs = blank ++ dropBlank cs ∧ blank.length ≤ 1 ∧
      ∀ c ∈ blank, Text.isBlank c = true := by
  cases cs with
  | nil => exact ⟨[], rfl, Nat.zero_le 1, List.forall_mem_nil _⟩
  | cons c behind =>
    cases is_blank : Text.isBlank c with
    | true =>
      exact ⟨[c], by rw [dropBlank_of_isBlank is_blank]; rfl, Nat.le_refl 1,
        by simpa using is_blank⟩
    | false =>
      have kept : dropBlank (c :: behind) = c :: behind := dropBlank_of_not is_blank
      exact ⟨[], kept.symm, Nat.zero_le 1, List.forall_mem_nil _⟩

/-- Behind an initial, the matcher goes on with the surname or the next initial. -/
theorem isNameFrom_succ {initials : Bool} {steps : Nat} (taken : afterInitial? cs = some rest) :
    isNameFrom initials (steps + 1) cs =
      if Text.startsBlank (dropBlank rest) then isSurname (Text.trimStart (dropBlank rest))
      else isNameFrom true steps (dropBlank rest) := by
  rw [isNameFrom, taken]
  rfl

/-- What matches is a name. -/
theorem isNameFrom_of_matched {initials : Bool} {steps : Nat}
    (matched : isNameFrom initials steps cs = true) : IsNameFrom initials cs := by
  induction steps generalizing initials cs with
  | zero => cases matched
  | succ steps ih =>
    cases taken : afterInitial? cs with
    | none =>
      rw [isNameFrom, taken] at matched
      obtain ⟨rfl, is_surname⟩ := Bool.and_eq_true_iff.1 matched
      obtain ⟨blanks, is_text, all_blank⟩ := Text.exists_trimStart cs
      rw [is_text]
      exact .surname all_blank (isSurname_iff.1 is_surname)
    | some rest =>
      rw [isNameFrom_succ taken] at matched
      obtain ⟨initial, rfl, is_initial⟩ := exists_isInitial taken
      obtain ⟨blank, is_rest, short, all_blank⟩ := exists_dropBlank rest
      rw [is_rest]
      refine .initial is_initial short all_blank ?_
      split at matched
      · obtain ⟨blanks, is_text, blanks_blank⟩ := Text.exists_trimStart (dropBlank rest)
        rw [is_text]
        exact .surname blanks_blank (isSurname_iff.1 matched)
      · exact ih matched

/-- A name does not begin with a hyphen. -/
theorem IsNameFrom.head?_ne {initials : Bool} (is_name : IsNameFrom initials cs) :
    ∀ c ∈ cs.head?, c ≠ '-' := by
  cases is_name with
  | @surname blanks _ all_blank is_surname =>
    obtain ⟨a, others, mark, rfl, upper, -⟩ := is_surname
    cases blanks with
    | nil =>
      rintro _ ⟨⟩
      exact ne_hyphen (.inr upper)
    | cons c blanks =>
      rintro _ ⟨⟩
      exact ne_hyphen (.inl (all_blank c List.mem_cons_self))
  | initial is_initial =>
    obtain ⟨a, small, second, rfl, upper, -⟩ := is_initial
    rintro _ ⟨⟩
    exact ne_hyphen (.inr upper)

/-- What follows an initial without a second one does not begin with a hyphen. -/
theorem IsNameFrom.head?_append_ne {blank : List Char} {initials : Bool}
    (is_name : IsNameFrom initials rest) (all_blank : ∀ c ∈ blank, Text.isBlank c = true) :
    ∀ c ∈ (blank ++ rest).head?, c ≠ '-' := by
  cases blank with
  | nil => exact is_name.head?_ne
  | cons c blank =>
    rintro _ ⟨⟩
    exact ne_hyphen (.inl (all_blank c List.mem_cons_self))

/-- A surname behind white space is matched at any step. -/
theorem isNameFrom_surname {blanks : List Char} (is_surname : IsSurname cs)
    (all_blank : ∀ c ∈ blanks, Text.isBlank c = true) (steps : Nat) :
    isNameFrom true (steps + 1) (blanks ++ cs) = true := by
  have no_initial : afterInitial? (blanks ++ cs) = none := by
    cases blanks with
    | nil => exact is_surname.afterInitial?_eq_none
    | cons c blanks =>
      cases taken : afterInitial? (c :: blanks ++ cs) with
      | none => rfl
      | some rest =>
        -- An initial would begin with a capital letter.
        obtain ⟨initial, is_text, a, small, second, rfl, upper, -⟩ := exists_isInitial taken
        obtain rfl : c = a := (List.cons.inj is_text).1
        have letter := Text.isAsciiLetter_of_isAsciiUpper upper
        rw [Text.isAsciiLetter_of_isBlank (all_blank c List.mem_cons_self)] at letter
        cases letter
  rw [isNameFrom, no_initial]
  exact is_surname.isSurname_trimStart all_blank

/-- Where an initial is taken, the match goes on with the name behind it. -/
theorem isNameFrom_of_taken {initials : Bool} {steps : Nat} {blank : List Char}
    (taken : afterInitial? cs = some (blank ++ rest)) (short : blank.length ≤ 1)
    (all_blank : ∀ c ∈ blank, Text.isBlank c = true) (is_name : IsNameFrom true rest)
    (matched : isNameFrom true steps rest = true) :
    isNameFrom initials (steps + 1) cs = true := by
  rw [isNameFrom_succ taken]
  cases is_name with
  | @surname blanks surname blanks_blank is_surname =>
    cases steps with
    | zero => cases matched
    | succ steps =>
      have all_blank : ∀ c ∈ blank ++ blanks, Text.isBlank c = true := fun c mem =>
        (List.mem_append.1 mem).elim (all_blank c) (blanks_blank c)
      have no_blank : Text.startsBlank surname = false := by
        obtain ⟨a, others, rfl, not_blank⟩ := is_surname.exists_cons
        exact not_blank
      have matched_here := isNameFrom_surname is_surname (List.forall_mem_nil _) steps
      rw [← List.append_assoc]
      -- One white-space character is skipped with the initial, and more of them end the initials.
      match blank ++ blanks, all_blank with
      | [], _ =>
        rw [List.nil_append, dropBlank_of_not no_blank, no_blank]
        exact matched_here
      | [c], all_blank =>
        rw [List.singleton_append, dropBlank_of_isBlank (all_blank c List.mem_cons_self), no_blank]
        exact matched_here
      | c :: d :: more, all_blank =>
        obtain ⟨is_blank, others_blank⟩ := List.forall_mem_cons.1 all_blank
        rw [List.cons_append, dropBlank_of_isBlank is_blank]
        exact (if_pos (others_blank d List.mem_cons_self)).trans
          (is_surname.isSurname_trimStart others_blank)
  | @initial _ initial behind_blank behind is_initial =>
    have no_blank : Text.startsBlank (initial ++ (behind_blank ++ behind)) = false := by
      obtain ⟨a, small, second, rfl, upper, -⟩ := is_initial
      exact Text.isBlank_of_isAsciiUpper upper
    have dropped : dropBlank (blank ++ (initial ++ (behind_blank ++ behind))) =
        initial ++ (behind_blank ++ behind) := by
      match blank, short, all_blank with
      | [], _, _ => exact dropBlank_of_not no_blank
      | [c], _, all_blank => exact dropBlank_of_isBlank (all_blank c List.mem_cons_self)
    rw [dropped, no_blank]
    exact matched

/-- A name matches, if there are steps for all of it. -/
theorem IsNameFrom.matched {initials : Bool} (is_name : IsNameFrom initials cs) {steps : Nat}
    (enough : cs.length < steps) : isNameFrom initials steps cs = true := by
  induction is_name generalizing steps with
  | @surname blanks surname all_blank is_surname =>
    obtain ⟨steps, rfl⟩ := Nat.exists_eq_add_one_of_ne_zero (Nat.ne_zero_of_lt enough)
    exact isNameFrom_surname is_surname all_blank steps
  | @initial initials initial blank rest is_initial short all_blank is_name ih =>
    obtain ⟨a, small, second, rfl, upper, is_small, is_second⟩ := is_initial
    obtain ⟨steps, rfl⟩ := Nat.exists_eq_add_one_of_ne_zero (Nat.ne_zero_of_lt enough)
    have no_hyphen := is_name.head?_append_ne all_blank
    simp only [List.cons_append, List.append_assoc, List.length_cons,
      List.length_append] at enough ⊢
    rcases is_second with rfl | ⟨hyphen, b, rfl | rfl, also_upper, rfl⟩
    · have taken := afterInitial?_single upper is_small no_hyphen
      exact isNameFrom_of_taken taken short all_blank is_name (ih (by omega))
    · -- Without a hyphen, the second initial is taken as one of its own.
      have own : IsInitial [b, '.'] := isInitial_single also_upper (.inl rfl)
      have own_name : IsNameFrom true ([b, '.'] ++ (blank ++ rest)) :=
        .initial own short all_blank is_name
      have taken : afterInitial? (a :: (small ++ '.' :: ([b, '.'] ++ (blank ++ rest)))) =
          some ([] ++ ([b, '.'] ++ (blank ++ rest))) :=
        afterInitial?_single upper is_small own_name.head?_ne
      have own_taken := afterInitial?_single also_upper (.inl rfl) no_hyphen
      rw [List.length_append, List.length_cons, List.length_nil] at enough
      obtain ⟨steps, rfl⟩ := Nat.exists_eq_add_one_of_ne_zero (show steps ≠ 0 by omega)
      have own_matched : isNameFrom true (steps + 1) ([b, '.'] ++ (blank ++ rest)) = true :=
        isNameFrom_of_taken own_taken short all_blank is_name (ih (by omega))
      exact isNameFrom_of_taken taken (Nat.zero_le 1) (List.forall_mem_nil _) own_name own_matched
    · have taken : afterInitial? (a :: (small ++ '.' :: '-' :: b :: '.' :: (blank ++ rest))) =
          some (blank ++ rest) := afterInitial?_hyphen upper is_small also_upper
      exact isNameFrom_of_taken taken short all_blank is_name (ih (by omega))

/-- The texts that match are the author names. -/
theorem isAuthorName_iff_isAuthor : isAuthorName cs = true ↔ IsAuthor cs := by
  constructor
  · intro matched
    exact isNameFrom_of_matched matched
  · intro is_name
    exact is_name.matched (Nat.lt_succ_self cs.length)

instance (cs : List Char) : Decidable (IsAuthor cs) :=
  decidable_of_iff _ isAuthorName_iff_isAuthor

/-! ## Names and dates -/

/-- A name has a capital letter. -/
theorem IsNameFrom.exists_upper {initials : Bool} (is_name : IsNameFrom initials cs) :
    ∃ before a behind, cs = before ++ a :: behind ∧ Text.isAsciiUpper a = true := by
  cases is_name with
  | @surname blanks surname all_blank is_surname =>
    obtain ⟨a, others, mark, rfl, upper, -⟩ := is_surname
    exact ⟨blanks, a, others ++ mark, rfl, upper⟩
  | initial is_initial =>
    obtain ⟨a, small, second, rfl, upper, -⟩ := is_initial
    exact ⟨[], a, _, rfl, upper⟩

/-- In the name of an author, a full stop stands in front of some capital letter. -/
theorem IsAuthor.exists_fullStop (is_author : IsAuthor cs) :
    ∃ before a behind, cs = before ++ a :: behind ∧ '.' ∈ before ∧ Text.isAsciiUpper a = true := by
  cases is_author with
  | @initial _ initial blank rest is_initial short all_blank is_name =>
    obtain ⟨before, a, behind, rfl, upper⟩ := is_name.exists_upper
    refine ⟨initial ++ (blank ++ before), a, behind, by simp, ?_, upper⟩
    obtain ⟨b, small, second, rfl, -⟩ := is_initial
    simp

/-- That full stop is not one of those that may stand behind a date. -/
theorem IsAuthor.fullStop_mem (is_author : IsAuthor cs) : '.' ∈ Date.withoutStops cs := by
  obtain ⟨before, a, behind, is_text, stop, upper⟩ := is_author.exists_fullStop
  have not_blank := Text.isBlank_of_isAsciiUpper upper
  have not_stop : (a == '.') = false := by
    refine beq_false_of_ne ?_
    rintro rfl
    exact absurd upper (by decide)
  have at_margin : Text.trimStart cs = cs := by
    cases is_author with
    | initial is_initial =>
      obtain ⟨b, small, second, rfl, first_upper, -⟩ := is_initial
      exact Text.trimStart_append (List.forall_mem_nil _)
        (Text.isBlank_of_isAsciiUpper first_upper)
  obtain ⟨kept, is_trimmed⟩ := Text.exists_dropEndWhile_eq before behind not_blank
  obtain ⟨left, is_left⟩ : ∃ left, Text.dropEndWhile (· == '.') (before ++ a :: kept) =
      before ++ a :: left := Text.exists_dropEndWhile_eq before kept not_stop
  rw [Date.withoutStops, Text.trim, at_margin, Text.trimEnd, is_text, is_trimmed, is_left]
  exact List.mem_append_left _ stop

/-- No author name is a date: a date has no full stop in front of its end. -/
theorem IsAuthor.ofFrontMatter?_eq_none (is_author : IsAuthor cs) :
    Date.ofFrontMatter? cs = none := by
  have no_stop : ∀ reading ∈ DateReading.frontMatter,
      reading.pattern.any (DatePart.shows (· == '.') false) = false := by decide
  rw [Date.ofFrontMatter?_eq_findSome?, List.findSome?_eq_none_iff]
  intro reading mem
  cases is_date : reading.date? (Date.withoutStops cs) with
  | none => rfl
  | some d =>
    have shown := DatePattern.any_eq_of_fields? DatePart.any_fullStop
      (DatePattern.date?_eq_some_iff.1 is_date)
    rw [no_stop reading mem, List.any_append, Bool.or_eq_false_iff] at shown
    exact absurd rfl (List.any_eq_false.1 shown.2 '.' is_author.fullStop_mem)

example : IsAuthor "St. J. B.-C. O'Neil-Smith, Ed.".toList := by decide +kernel

end DraftNits.PlainText
