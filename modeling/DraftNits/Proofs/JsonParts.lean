import DraftNits.Proofs.JsonGrammar

/-! # Reading characters and numbers

The parts of a JSON value that need no recursion are read exactly as they are written: white space,
the characters of a text in quotes, and numbers. What ends a number is known from the character
after it (`Json.Ends`).

* `Json.readText?_append`, `Json.readNumber?_append` — what has been written is read, whatever comes
  after it.
* `Json.sound_of_readText?`, `Json.sound_of_readNumber?` — what is read has been written. -/

namespace DraftNits.Json

/-! ## White space -/

/-- White space in front of a text is skipped. -/
theorem skipSpace_append {spaces : List Char} (h : IsSpaces spaces) (cs : List Char) :
    skipSpace (spaces ++ cs) = skipSpace cs :=
  List.dropWhile_append_of_pos h

/-- No more than white space is skipped. -/
theorem Starts.skipSpace {text : List Char} (starts : Starts text) (rest : List Char) :
    skipSpace (text ++ rest) = text ++ rest := by
  obtain ⟨c, tail, rfl, no_space, -⟩ := starts
  rw [List.cons_append, Json.skipSpace, List.dropWhile_cons, no_space]
  rfl

/-- What is skipped is white space. -/
theorem exists_skipSpace (cs : List Char) :
    ∃ spaces, cs = spaces ++ skipSpace cs ∧ IsSpaces spaces := by
  refine ⟨cs.takeWhile isSpace, List.takeWhile_append_dropWhile.symm, fun c mem => ?_⟩
  exact List.all_eq_true.1 List.all_takeWhile c mem

/-- The longest beginning in a class is what is in the class, if what comes next is not. -/
theorem takeWhile_append {α : Type} {p : α → Bool} {as bs : List α} (all : ∀ c ∈ as, p c = true)
    (stop : ∀ c ∈ bs.head?, p c = false) : (as ++ bs).takeWhile p = as := by
  rw [List.takeWhile_append_of_pos all]
  cases bs with
  | nil => simp
  | cons b bs =>
    rw [List.takeWhile_cons, stop b rfl]
    simp

/-! ## Texts -/

/-- A character that is written inside quotes is read, whatever comes after it. -/
theorem readChar?_append {c : Char} {text : List Char} (writes : WritesChar c text)
    (rest : List Char) : readChar? (text ++ rest) = some (c, rest) := by
  cases writes with
  | plain no_control no_quote no_escape =>
    have not_control : ¬ c.toNat < 0x20 := by omega
    simp [readChar?, no_escape, not_control]
  | @letter letter _ escape =>
    simp only [letterEscapes, List.mem_cons, Prod.mk.injEq, List.not_mem_nil, or_false] at escape
    rcases escape with ⟨rfl, rfl⟩ | ⟨rfl, rfl⟩ | ⟨rfl, rfl⟩ | ⟨rfl, rfl⟩ | ⟨rfl, rfl⟩ | ⟨rfl, rfl⟩ |
      ⟨rfl, rfl⟩ | ⟨rfl, rfl⟩ <;> rfl
  | @code n a b c d digits no_surrogate =>
    have not_high : ¬ (0xD800 ≤ n ∧ n < 0xDC00) := by omega
    have not_low : ¬ (0xDC00 ≤ n ∧ n < 0xE000) := by omega
    simp [readChar?, digits, not_high, not_low]
  | surrogates digits digits' is_high is_low =>
    simp [readChar?, digits, digits', is_high, is_low]

/-- What is read as a character is written so, unless it is the quote or the text ends after it. -/
theorem sound_of_readChar? {cs rest : List Char} {c : Char} (no_quote : cs.head? ≠ some '"')
    (more : rest ≠ []) (done : readChar? cs = some (c, rest)) :
    ∃ text, cs = text ++ rest ∧ WritesChar c text := by
  unfold readChar? at done
  -- Four digits, then perhaps four more; a letter; and a character that stands for itself.
  split at done
  · split at done
    · cases done
    next high digits =>
      split at done
      next is_high =>
        split at done
        · split at done
          · cases done
          next low digits' =>
            split at done
            next is_low =>
              obtain ⟨rfl, rfl⟩ := Prod.mk.inj (Option.some.inj done)
              exact ⟨_, rfl, .surrogates digits digits' is_high is_low⟩
            next => cases done
        · cases done
      next not_high =>
        split at done
        · cases done
        next not_low =>
          obtain ⟨rfl, rfl⟩ := Prod.mk.inj (Option.some.inj done)
          exact ⟨_, rfl, .code digits (by omega)⟩
  next letter tail _ =>
    obtain ⟨found, escape, same⟩ := Option.map_eq_some_iff.1 done
    cases same
    refine ⟨['\\', letter], rfl, .letter ?_⟩
    unfold unescape? at escape
    split at escape <;> cases escape <;> decide
  next d tail _ no_escape =>
    split at done
    · cases done
    next not_control =>
      obtain ⟨rfl, rfl⟩ := Prod.mk.inj (Option.some.inj done)
      refine ⟨[d], rfl, .plain (by omega) (fun is_quote => no_quote (by rw [is_quote]; rfl)) ?_⟩
      -- A backslash alone would have to be the last character.
      intro is_escape
      obtain ⟨next, others, rfl⟩ := List.exists_cons_of_ne_nil more
      exact no_escape next others is_escape rfl
  · cases done

/-- No character is written with the quote in front. -/
theorem WritesChar.exists_cons {c : Char} {text : List Char} (writes : WritesChar c text) :
    ∃ d rest, text = d :: rest ∧ d ≠ '"' := by
  cases writes with
  | plain _ no_quote _ => exact ⟨c, [], rfl, no_quote⟩
  | letter _ => exact ⟨'\\', _, rfl, by decide⟩
  | code _ _ => exact ⟨'\\', _, rfl, by decide⟩
  | surrogates _ _ _ _ => exact ⟨'\\', _, rfl, by decide⟩

/-- A character other than the quote is read on its own. -/
theorem readText?_succ {steps : Nat} {read cs : List Char} (no_quote : cs.head? ≠ some '"') :
    readText? (steps + 1) read cs =
      (readChar? cs).bind fun found => readText? steps (found.1 :: read) found.2 := by
  rw [readText?]
  · cases readChar? cs <;> rfl
  · rintro rest rfl
    exact no_quote rfl

/-- A text that is written in quotes is read up to the closing quote. -/
theorem readText?_append {cs body : List Char} (writes : WritesChars cs body) (rest : List Char)
    {steps : Nat} (enough : body.length < steps) (read : List Char) :
    readText? steps read (body ++ '"' :: rest) = some (String.ofList (read.reverse ++ cs), rest) := by
  induction cs generalizing body steps read with
  | nil =>
    obtain rfl := writes
    obtain ⟨steps, rfl⟩ := Nat.exists_eq_add_of_lt enough
    simp [readText?]
  | cons c cs ih =>
    obtain ⟨first, later, rfl, writes_first, writes_later⟩ := writes
    obtain ⟨d, tail, is_first, no_quote⟩ := writes_first.exists_cons
    cases steps with
    | zero => cases enough
    | succ steps =>
      -- The character takes one step, and no less than one character of the text.
      have shorter : later.length < steps := by
        rw [is_first] at enough
        simp only [List.length_append, List.length_cons] at enough
        omega
      have not_closing : (first ++ later ++ '"' :: rest).head? ≠ some '"' := by
        rw [is_first]
        intro closing
        exact no_quote (Option.some.inj closing)
      rw [readText?_succ not_closing, List.append_assoc, readChar?_append writes_first,
        Option.bind_some, ih writes_later shorter]
      simp

/-- What is read as a text in quotes, after the opening one, is one. -/
theorem sound_of_readText? {steps : Nat} {read cs rest : List Char} {s : String}
    (done : readText? steps read cs = some (s, rest)) :
    ∃ new body, s = String.ofList (read.reverse ++ new) ∧ cs = body ++ '"' :: rest ∧
      WritesChars new body := by
  induction steps generalizing read cs with
  | zero => cases done
  | succ steps ih =>
    by_cases closing : cs.head? = some '"'
    · obtain ⟨tail, rfl⟩ := List.head?_eq_some_iff.1 closing
      rw [readText?] at done
      cases done
      exact ⟨[], [], by simp, rfl, rfl⟩
    · rw [readText?_succ closing] at done
      obtain ⟨⟨c, tail⟩, found, later⟩ := Option.bind_eq_some_iff.1 done
      obtain ⟨new, body, is_text, split, writes⟩ := ih later
      dsimp only at is_text split
      have more : tail ≠ [] := by
        rw [split]
        exact List.append_ne_nil_of_right_ne_nil body (List.cons_ne_nil _ _)
      obtain ⟨first, is_first, writes_first⟩ := sound_of_readChar? closing more found
      refine ⟨c :: new, first ++ body, ?_, ?_, first, body, rfl, writes_first, writes⟩
      · rw [is_text]
        simp
      · rw [is_first, split, List.append_assoc]

/-! ## Numbers -/

/-- Whether nothing that comes next goes on with a number: white space, a comma, the end of a list or
an object, or nothing at all. -/
def Ends (rest : List Char) : Prop :=
  ∀ c ∈ rest.head?, isSpace c = true ∨ c = ',' ∨ c = ']' ∨ c = '\x7d'

/-- No class of characters that numbers are made of goes on after the end. -/
theorem Ends.stops {rest : List Char} (ends : Ends rest) {p : Char → Bool}
    (others : [' ', '\t', '\n', '\r', ',', ']', '\x7d'].any p = false) :
    ∀ c ∈ rest.head?, p c = false := by
  intro c is_next
  apply eq_false_of_ne_true
  apply List.any_eq_false.1 others
  rcases ends c is_next with space | rfl | rfl | rfl
  · rcases isSpace_iff.1 space with rfl | rfl | rfl | rfl <;> decide
  · decide
  · decide
  · decide

/-- A sign is neither white space nor a digit, and neither is a point or the mark of an exponent. -/
theorem isSign_of_isAsciiDigit {c : Char} (digit : Text.isAsciiDigit c = true) :
    (c == '-') = false ∧ (c == '+' || c == '-') = false := by
  have no_minus : c ≠ '-' := by
    rintro rfl
    cases digit
  have no_plus : c ≠ '+' := by
    rintro rfl
    cases digit
  simp [no_minus, no_plus]

/-- Digits are read up to what is no digit. -/
theorem IsDigits.takeWhile {digits rest : List Char} (is_digits : IsDigits digits)
    (stop : ∀ c ∈ rest.head?, Text.isAsciiDigit c = false) :
    (digits ++ rest).takeWhile Text.isAsciiDigit = digits :=
  takeWhile_append is_digits.2 stop

/-- The longest run of digits is one or more digits, unless it is empty. -/
theorem isDigits_takeWhile {cs : List Char}
    (some_digit : (cs.takeWhile Text.isAsciiDigit).isEmpty = false) :
    IsDigits (cs.takeWhile Text.isAsciiDigit) :=
  ⟨List.isEmpty_eq_false_iff.1 some_digit, fun c mem => List.all_eq_true.1 List.all_takeWhile c mem⟩

/-- The first character of digits is a digit. -/
theorem IsDigits.head? {digits : List Char} (is_digits : IsDigits digits) (rest : List Char) :
    ∀ c ∈ (digits ++ rest).head?, Text.isAsciiDigit c = true := by
  obtain ⟨d, tail, rfl⟩ := List.exists_cons_of_ne_nil is_digits.1
  intro c is_first
  obtain rfl : d = c := by simpa using is_first
  exact is_digits.2 d List.mem_cons_self

/-- A fraction is read, whatever ends it. -/
theorem fractionChars_append {fraction rest : List Char}
    (valid : IsFraction fraction) (no_point : rest.head? ≠ some '.')
    (stop : ∀ c ∈ rest.head?, Text.isAsciiDigit c = false) :
    fractionChars (fraction ++ rest) = some fraction := by
  rcases valid with rfl | ⟨digits, rfl, is_digits⟩
  · rw [List.nil_append]
    unfold fractionChars
    split
    next tail => exact absurd rfl no_point
    · rfl
  · have some_digit : digits.isEmpty = false := List.isEmpty_eq_false_iff.2 is_digits.1
    rw [List.cons_append, fractionChars]
    simp [is_digits.takeWhile stop, some_digit]

/-- What is read as a fraction is one, or nothing. -/
theorem sound_of_fractionChars {cs fraction : List Char}
    (done : fractionChars cs = some fraction) : fraction <+: cs ∧ IsFraction fraction := by
  unfold fractionChars at done
  split at done
  next rest =>
    dsimp only at done
    split at done
    · cases done
    next some_digit =>
      cases done
      have is_digits := isDigits_takeWhile (eq_false_of_ne_true some_digit)
      exact ⟨(List.prefix_cons_inj '.').2 (List.takeWhile_prefix _), .inr ⟨_, rfl, is_digits⟩⟩
  · cases done
    exact ⟨List.nil_prefix, .inl rfl⟩

/-- An exponent is read, whatever ends it. -/
theorem exponentChars_append {exponent rest : List Char} (valid : IsExponent exponent)
    (no_mark : ∀ c ∈ rest.head?, c ≠ 'e' ∧ c ≠ 'E')
    (stop : ∀ c ∈ rest.head?, Text.isAsciiDigit c = false) :
    exponentChars (exponent ++ rest) = some exponent := by
  rcases valid with rfl | ⟨mark, sign, digits, rfl, is_mark, is_sign, is_digits⟩
  · rw [List.nil_append]
    cases rest with
    | nil => rfl
    | cons c rest =>
      obtain ⟨no_small, no_capital⟩ := no_mark c rfl
      simp [exponentChars, no_small, no_capital]
  · have some_digit : digits.isEmpty = false := List.isEmpty_eq_false_iff.2 is_digits.1
    have signs : sign.all (fun d => d == '+' || d == '-') = true := by
      rcases is_sign with rfl | rfl | rfl <;> rfl
    have sign_read : (sign ++ (digits ++ rest)).takeWhile (fun d => d == '+' || d == '-') = sign :=
      takeWhile_append (List.all_eq_true.1 signs) fun c is_next =>
        (isSign_of_isAsciiDigit (is_digits.head? rest c is_next)).2
    have short : sign.length ≤ 1 := by
      rcases is_sign with rfl | rfl | rfl <;> decide
    rw [List.cons_append, List.append_assoc, exponentChars, if_pos is_mark]
    simp [sign_read, is_digits.takeWhile stop, short, some_digit]

/-- A run of at most one character is one of the class or nothing. -/
theorem takeWhile_short {p : Char → Bool} {cs : List Char} (short : (cs.takeWhile p).length ≤ 1) :
    cs.takeWhile p = [] ∨ ∃ c, cs.takeWhile p = [c] ∧ p c = true := by
  have all : ∀ c ∈ cs.takeWhile p, p c = true := List.all_eq_true.1 List.all_takeWhile
  cases run : cs.takeWhile p with
  | nil => exact .inl rfl
  | cons c others =>
    rw [run] at short all
    have only : others = [] := List.eq_nil_of_length_eq_zero (by simpa using short)
    exact .inr ⟨c, by rw [only], all c List.mem_cons_self⟩

/-- A beginning of a text and a beginning of what is left make a beginning. -/
theorem append_isPrefix {first second cs : List Char} (is_first : first <+: cs)
    (is_second : second <+: cs.drop first.length) : first ++ second <+: cs := by
  obtain ⟨rest, rfl⟩ := is_first
  rw [List.drop_left] at is_second
  exact (List.prefix_append_right_inj first).2 is_second

/-- What is read as an exponent is one, or nothing. -/
theorem sound_of_exponentChars {cs exponent : List Char}
    (done : exponentChars cs = some exponent) : exponent <+: cs ∧ IsExponent exponent := by
  unfold exponentChars at done
  split at done
  next mark rest =>
    split at done
    next is_mark =>
      dsimp only at done
      split at done
      next fine =>
        cases done
        obtain ⟨short, some_digit⟩ := fine
        rw [Bool.not_eq_true'] at some_digit
        have is_digits := isDigits_takeWhile some_digit
        have is_sign : (rest.takeWhile fun d => d == '+' || d == '-') = [] ∨
            (rest.takeWhile fun d => d == '+' || d == '-') = ['+'] ∨
            (rest.takeWhile fun d => d == '+' || d == '-') = ['-'] := by
          rcases takeWhile_short short with none_there | ⟨c, run, is_sign⟩
          · exact .inl none_there
          · rw [run]
            simpa using is_sign
        refine ⟨?_, .inr ⟨mark, _, _, rfl, is_mark, is_sign, is_digits⟩⟩
        rw [List.cons_append]
        exact (List.prefix_cons_inj mark).2 (append_isPrefix (List.takeWhile_prefix _)
          (List.takeWhile_prefix _))
      next => cases done
    next =>
      cases done
      exact ⟨List.nil_prefix, .inl rfl⟩
  · cases done
    exact ⟨List.nil_prefix, .inl rfl⟩

/-- What the reader makes of the parts of a number is their value. -/
theorem NumberParts.read_eq (parts : NumberParts) (rest : List Char) :
    (if !parts.fraction.isEmpty || !parts.exponent.isEmpty ||
        (!parts.sign.isEmpty && Text.digitsValue parts.whole == 0) then
      some (Json.number (String.ofList (parts.sign ++ parts.whole ++ parts.fraction ++
        parts.exponent)), rest)
    else
      some (Json.int (if parts.sign.isEmpty then (Text.digitsValue parts.whole : Int)
        else -(Text.digitsValue parts.whole : Int)), rest)) = some (parts.value, rest) := by
  have other : (!parts.fraction.isEmpty || !parts.exponent.isEmpty ||
      (!parts.sign.isEmpty && Text.digitsValue parts.whole == 0)) = !parts.isInteger := by
    simp only [isInteger, Bool.not_and, Bool.not_or, bne, Bool.not_not]
  rw [other, value]
  cases parts.isInteger with
  | true => rfl
  | false => simp [text]

/-- A number is read, whatever ends it, with the value of its parts. -/
theorem readNumber?_append {parts : NumberParts} (valid : parts.IsValid) {rest : List Char}
    (ends : Ends rest) : readNumber? (parts.text ++ rest) = some (parts.value, rest) := by
  obtain ⟨sign, whole, fraction, exponent⟩ := parts
  have valid_exponent : IsExponent exponent := valid.exponent
  have valid_fraction : IsFraction fraction := valid.fraction
  have some_digit : whole.isEmpty = false := List.isEmpty_eq_false_iff.2 valid.whole.1
  have minus : sign.all (· == '-') = true := by
    rcases valid.sign with rfl | rfl <;> rfl
  -- What comes after the exponent, the fraction and the whole part goes on with none of them.
  have after_exponent := ends.stops (p := Text.isAsciiDigit) rfl
  have after_fraction : ∀ c ∈ (exponent ++ rest).head?, Text.isAsciiDigit c = false := by
    rcases valid_exponent with rfl | ⟨mark, _, _, rfl, rfl | rfl, -, -⟩
    · exact after_exponent
    · simp [Text.isAsciiDigit]
    · simp [Text.isAsciiDigit]
  have no_point : (exponent ++ rest).head? ≠ some '.' := by
    intro point
    rcases valid_exponent with rfl | ⟨mark, _, _, rfl, rfl | rfl, -, -⟩
    · exact absurd (ends.stops (p := (· == '.')) rfl '.' point) (by decide)
    · simp at point
    · simp at point
  have after_whole : ∀ c ∈ (fraction ++ (exponent ++ rest)).head?, Text.isAsciiDigit c = false := by
    rcases valid_fraction with rfl | ⟨digits, rfl, -⟩
    · exact after_fraction
    · simp [Text.isAsciiDigit]
  have no_mark : ∀ c ∈ rest.head?, c ≠ 'e' ∧ c ≠ 'E' := by
    intro c is_next
    have other := ends.stops (p := fun c => c == 'e' || c == 'E') rfl c is_next
    simpa using other
  have split : (NumberParts.mk sign whole fraction exponent).text ++ rest =
      sign ++ (whole ++ (fraction ++ (exponent ++ rest))) := by
    simp [NumberParts.text]
  have sign_read : (sign ++ (whole ++ (fraction ++ (exponent ++ rest)))).takeWhile (· == '-') =
      sign :=
    takeWhile_append (List.all_eq_true.1 minus) fun c is_next =>
      (isSign_of_isAsciiDigit (valid.whole.head? _ c is_next)).1
  have whole_read := valid.whole.takeWhile after_whole
  dsimp only at whole_read
  have sign_short : ¬ 1 < sign.length := by
    rcases valid.sign with rfl | rfl <;> decide
  have no_zeros : ¬ (whole.head? = some '0' ∧ 1 < whole.length) := by
    rintro ⟨zero, long⟩
    have short : whole.length ≤ 1 := valid.no_zeros zero
    omega
  rw [split, readNumber?]
  simp only [sign_read, List.drop_left, whole_read]
  rw [if_neg (by simpa [sign_short, some_digit] using no_zeros)]
  simp only [← List.length_append]
  rw [← List.append_assoc, List.drop_left]
  rw [fractionChars_append valid_fraction no_point after_fraction]
  dsimp only [bind, Option.bind]
  rw [List.drop_left, exponentChars_append valid_exponent no_mark after_exponent]
  dsimp only
  rw [List.drop_left]
  exact NumberParts.read_eq ⟨sign, whole, fraction, exponent⟩ rest

/-- What is read as a number is one, with the value of its parts. -/
theorem sound_of_readNumber? {cs rest : List Char} {v : Json}
    (done : readNumber? cs = some (v, rest)) :
    ∃ text, cs = text ++ rest ∧ WritesNumber v text := by
  unfold readNumber? at done
  extract_lets sign digits afterDigits at done
  split at done
  · cases done
  next fine =>
    obtain ⟨fraction, fraction_read, done⟩ := Option.bind_eq_some_iff.1 done
    obtain ⟨exponent, exponent_read, done⟩ := Option.bind_eq_some_iff.1 done
    obtain ⟨fraction_first, valid_fraction⟩ := sound_of_fractionChars fraction_read
    obtain ⟨exponent_first, valid_exponent⟩ := sound_of_exponentChars exponent_read
    have same := (NumberParts.read_eq ⟨sign, digits, fraction, exponent⟩ _).symm.trans done
    obtain ⟨is_value, is_rest⟩ := Prod.mk.inj (Option.some.inj same)
    simp only [Bool.or_eq_true, decide_eq_true_eq, not_or, Nat.not_lt, Bool.and_eq_true,
      beq_iff_eq, not_and] at fine
    obtain ⟨⟨sign_short, some_digit⟩, no_zeros⟩ := fine
    have valid : NumberParts.IsValid ⟨sign, digits, fraction, exponent⟩ := {
      sign := by
        rcases takeWhile_short sign_short with none_there | ⟨c, run, is_minus⟩
        · exact .inl none_there
        · obtain rfl : c = '-' := beq_iff_eq.1 is_minus
          exact .inr run
      whole := isDigits_takeWhile (eq_false_of_ne_true some_digit)
      no_zeros := no_zeros
      fraction := valid_fraction
      exponent := valid_exponent }
    refine ⟨NumberParts.text ⟨sign, digits, fraction, exponent⟩, ?_, _, valid, rfl, is_value⟩
    calc cs = sign ++ cs.drop sign.length :=
          (List.prefix_iff_eq_append.1 (List.takeWhile_prefix _)).symm
      _ = sign ++ (digits ++ (cs.drop sign.length).drop digits.length) :=
          congrArg (sign ++ ·) (List.prefix_iff_eq_append.1 (List.takeWhile_prefix _)).symm
      _ = sign ++ (digits ++ afterDigits) := by rw [List.drop_drop]
      _ = sign ++ (digits ++ (fraction ++ (exponent ++ rest))) := by
          rw [← is_rest, List.prefix_iff_eq_append.1 exponent_first,
            List.prefix_iff_eq_append.1 fraction_first]
      _ = NumberParts.text ⟨sign, digits, fraction, exponent⟩ ++ rest := by
          simp [NumberParts.text]

end DraftNits.Json
