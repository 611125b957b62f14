import DraftNits.Json.Writer
import DraftNits.Proofs.JsonGrammar

/-! # Writing the JSON notation

Both layouts keep to the notation: they write the value that they were made from, whatever characters
its texts hold and however deep it nests. Numbers that are kept as they are written must be numbers
(`Json.IsWritable`).

* `Json.writesChar_escapeChar`, `Json.writesNumber_intText` — characters and integers.
* `Json.writes_prettyChars`, `Json.writes_compactChars` — values, over their structure.
* `Json.isTextOf_pretty`, `Json.isTextOf_compact` — whole texts. -/

namespace DraftNits.Json

/-! ## Integers -/

/-- The digits of a number are its value in the notation. -/
theorem digitsValue_decimal (n : Nat) : Text.digitsValue (Text.decimal n) = n := by
  have same : Text.digitsValue (Text.decimal n) = Nat.ofDigitChars 10 (Nat.toDigits 10 n) 0 := by
    unfold Text.digitsValue Text.decimal Nat.ofDigitChars
    congr 1
    funext value c
    rw [Nat.mul_comm]
    rfl
  rw [same]
  exact Nat.ofDigitChars_toDigits (by decide) (by decide)

/-- Only zero is written with a zero in front. -/
theorem head?_toDigits_ne {n : Nat} (nonzero : n ≠ 0) : (Nat.toDigits 10 n).head? ≠ some '0' := by
  have digit : ∀ d < 10, d ≠ 0 → Nat.digitChar d ≠ '0' := by decide
  induction n using Nat.strongRecOn with
  | _ n ih =>
    rw [Nat.toDigits_eq_if (by decide)]
    by_cases small : n < 10
    · rw [if_pos small]
      intro zero
      exact digit n small nonzero (Option.some.inj zero)
    · -- The first digit is that of the number without its last one.
      rw [if_neg small, List.head?_append_of_ne_nil _ Nat.toDigits_ne_nil]
      exact ih (n / 10) (by omega) (by omega)

/-- The decimal digits of a number are the whole part of one. -/
theorem isValid_decimal {sign : List Char} (signed : sign = [] ∨ sign = ['-']) (n : Nat) :
    NumberParts.IsValid ⟨sign, Text.decimal n, [], []⟩ where
  sign := signed
  whole := by
    refine ⟨Nat.toDigits_ne_nil, fun c mem => ?_⟩
    have digit := Nat.isDigit_of_mem_toDigits (by decide) (by decide) mem
    simpa [Text.isAsciiDigit, Char.isDigit, Char.le_def] using digit
  no_zeros := by
    intro zero
    by_cases nonzero : n = 0
    · subst nonzero
      exact Nat.le_refl 1
    · exact absurd zero (head?_toDigits_ne nonzero)
  fraction := .inl rfl
  exponent := .inl rfl

/-- An integer is written as a number. -/
theorem writesNumber_intText (n : Int) : WritesNumber (.int n) (intText n) := by
  unfold intText
  by_cases negative : n < 0
  · rw [if_pos negative]
    refine ⟨_, isValid_decimal (.inr rfl) n.natAbs, by simp [NumberParts.text], ?_⟩
    have nonzero : (n.natAbs != 0) = true := bne_iff_ne.2 (by omega)
    have back : -(n.natAbs : Int) = n := by omega
    simp only [NumberParts.value, NumberParts.isInteger, digitsValue_decimal, nonzero]
    exact congrArg Json.int back
  · rw [if_neg negative]
    refine ⟨_, isValid_decimal (.inl rfl) n.natAbs, by simp [NumberParts.text], ?_⟩
    have back : (n.natAbs : Int) = n := by omega
    simp only [NumberParts.value, NumberParts.isInteger, digitsValue_decimal]
    exact congrArg Json.int back

/-! ## Texts -/

/-- A control character is written by its number in four digits. -/
theorem writesChar_control {c : Char} (control : c.toNat < 0x20) :
    WritesChar c ('\\' :: 'u' :: '0' :: '0' :: Nat.digitChar (c.toNat / 16) ::
      [Nat.digitChar (c.toNat % 16)]) := by
  have digits : ∀ n < 0x20, hexUnit? '0' '0' (Nat.digitChar (n / 16)) (Nat.digitChar (n % 16)) =
      some n := by decide
  have code := WritesChar.code (digits c.toNat control) (.inl (by omega))
  rwa [Char.ofNat_toNat] at code

/-- The writer writes characters as the notation has them. -/
theorem writesChar_escapeChar (c : Char) : WritesChar c (escapeChar c) := by
  have low : ∀ n < 0x10, "\\u000".toList ++ Text.hexadecimal n =
      '\\' :: 'u' :: '0' :: '0' :: Nat.digitChar (n / 16) :: [Nat.digitChar (n % 16)] := by
    decide
  have high : ∀ n < 0x20, 0x10 ≤ n → "\\u00".toList ++ Text.hexadecimal n =
      '\\' :: 'u' :: '0' :: '0' :: Nat.digitChar (n / 16) :: [Nat.digitChar (n % 16)] := by
    decide
  unfold escapeChar
  split
  case h_8 no_quote no_escape _ _ _ _ _ =>
    -- No letter stands for the character, so it is a control character or stands for itself.
    split
    next below =>
      rw [low _ below]
      exact writesChar_control (by omega)
    next not_below =>
      split
      next control =>
        rw [high _ control (by omega)]
        exact writesChar_control control
      next no_control => exact .plain (by omega) no_quote no_escape
  all_goals exact .letter (by decide)

/-- The characters of a text are written one by one. -/
theorem writesChars_flatMap (cs : List Char) : WritesChars cs (cs.flatMap escapeChar) := by
  induction cs with
  | nil => rfl
  | cons c cs ih => exact ⟨escapeChar c, cs.flatMap escapeChar, rfl, writesChar_escapeChar c, ih⟩

/-- A text is written in quotes. -/
theorem isQuoted_quote (s : String) : IsQuoted s (quote s) :=
  ⟨s.toList.flatMap escapeChar, rfl, writesChars_flatMap s.toList⟩

/-! ## Values -/

/-- A line end with an indentation is white space. -/
theorem isSpaces_lineBreak (level : Nat) : IsSpaces (lineBreak level) := by
  intro c mem
  rcases List.mem_cons.1 mem with rfl | space
  · decide
  · rw [(List.mem_replicate.1 space).2]
    decide

/-- A member is written on a line of its own, with a space after the colon. -/
theorem writesMember_line (level : Nat) (name : String) {form : List Char → Prop}
    {text after : List Char} (h : form text) (spaces : IsSpaces after) :
    WritesMember name form (lineBreak level ++ quote name ++ ':' :: ' ' :: text ++ after) := by
  have space : IsSpaces [' '] := by
    intro c mem
    rw [List.mem_singleton.1 mem]
    decide
  refine ⟨lineBreak level ++ quote name, [' '] ++ text ++ after, by simp, ?_, ?_⟩
  · exact ⟨lineBreak level, quote name, [], by simp, isSpaces_lineBreak level, isQuoted_quote name,
      isSpaces_nil⟩
  · exact ⟨[' '], text, after, rfl, space, h, spaces⟩

mutual

/-- Whether every number in a value that is kept as it is written is a number. -/
def IsWritable : Json → Prop
  | .number literal => WritesNumber (.number literal) literal.toList
  | .arr items => AllWritable items
  | .obj members => MembersWritable members
  | _ => True

/-- Whether every number in some values is one. -/
def AllWritable : List Json → Prop
  | [] => True
  | item :: items => IsWritable item ∧ AllWritable items

/-- Whether every number in the values of some members is one. -/
def MembersWritable : List (String × Json) → Prop
  | [] => True
  | (_, value) :: members => IsWritable value ∧ MembersWritable members

end

mutual

/-- The layout with a line for each item writes the value. -/
theorem writes_prettyChars (level : Nat) : (v : Json) → v.IsWritable → Writes v (prettyChars level v)
  | .null, _ => by rw [Writes, prettyChars]
  | .bool true, _ => by rw [Writes, prettyChars]
  | .bool false, _ => by rw [Writes, prettyChars]
  | .int n, _ => by
    rw [Writes, prettyChars]
    exact writesNumber_intText n
  | .number literal, writable => by
    rw [IsWritable] at writable
    rw [Writes, prettyChars]
    exact writable
  | .str s, _ => by
    rw [Writes, prettyChars]
    exact isQuoted_quote s
  | .arr [], _ => by
    rw [Writes, prettyChars]
    exact ⟨[], rfl, isSpaces_nil⟩
  | .arr (item :: items), writable => by
    rw [IsWritable] at writable
    rw [Writes, prettyChars]
    · refine ⟨_, List.cons_append .., ?_⟩
      exact writesItems_prettyItems (level + 1) (item :: items) writable (isSpaces_lineBreak level)
    · simp
  | .obj [], _ => by
    rw [Writes, prettyChars]
    exact ⟨[], rfl, isSpaces_nil⟩
  | .obj (member :: members), writable => by
    rw [IsWritable] at writable
    rw [Writes, prettyChars]
    · refine ⟨_, List.cons_append .., ?_⟩
      exact writesMembers_prettyMembers (level + 1) (member :: members) writable
        (isSpaces_lineBreak level)
    · simp

/-- The items of a list are written, each on a line of its own. -/
theorem writesItems_prettyItems (level : Nat) : (items : List Json) → AllWritable items →
    ∀ {after}, IsSpaces after → WritesItems items (prettyItems level items ++ after)
  | [], _, after, spaces => by
    rw [WritesItems, prettyItems]
    exact spaces
  | [item], writable, after, spaces => by
    rw [AllWritable] at writable
    rw [writesItems_singleton, prettyItems]
    exact ⟨lineBreak level, _, after, rfl, isSpaces_lineBreak level,
      writes_prettyChars level item writable.1, spaces⟩
  | item :: next :: items, writable, after, spaces => by
    rw [AllWritable] at writable
    rw [writesItems_cons_cons, prettyItems]
    · refine ⟨lineBreak level ++ prettyChars level item, _, ?_, ?_,
        writesItems_prettyItems level (next :: items) writable.2 spaces⟩
      · simp
      · exact ⟨lineBreak level, _, [], by simp, isSpaces_lineBreak level,
          writes_prettyChars level item writable.1, isSpaces_nil⟩
    · exact List.cons_ne_nil next items

/-- The members of an object are written, each on a line of its own. -/
theorem writesMembers_prettyMembers (level : Nat) : (members : List (String × Json)) →
    MembersWritable members →
    ∀ {after}, IsSpaces after → WritesMembers members (prettyMembers level members ++ after)
  | [], _, after, spaces => by
    rw [WritesMembers, prettyMembers]
    exact spaces
  | [(name, value)], writable, after, spaces => by
    rw [MembersWritable] at writable
    rw [writesMembers_singleton, prettyMembers]
    exact writesMember_line level name (writes_prettyChars level value writable.1) spaces
  | (name, value) :: next :: members, writable, after, spaces => by
    rw [MembersWritable] at writable
    rw [writesMembers_cons_cons, prettyMembers]
    · refine ⟨lineBreak level ++ quote name ++ ':' :: ' ' :: prettyChars level value, _, ?_, ?_,
        writesMembers_prettyMembers level (next :: members) writable.2 spaces⟩
      · simp
      · have line := writesMember_line level name (writes_prettyChars level value writable.1)
          isSpaces_nil
        rwa [List.append_nil] at line
    · exact List.cons_ne_nil next members

end

/-- A member is written without white space. -/
theorem writesMember_tight (name : String) {form : List Char → Prop} {text : List Char}
    (h : form text) : WritesMember name form (quote name ++ ':' :: text) :=
  ⟨quote name, text, rfl, .of_form (isQuoted_quote name), .of_form h⟩

mutual

/-- The layout on one line writes the value. -/
theorem writes_compactChars : (v : Json) → v.IsWritable → Writes v (compactChars v)
  | .null, _ => by rw [Writes, compactChars]
  | .bool true, _ => by rw [Writes, compactChars]
  | .bool false, _ => by rw [Writes, compactChars]
  | .int n, _ => by
    rw [Writes, compactChars]
    exact writesNumber_intText n
  | .number literal, writable => by
    rw [IsWritable] at writable
    rw [Writes, compactChars]
    exact writable
  | .str s, _ => by
    rw [Writes, compactChars]
    exact isQuoted_quote s
  | .arr items, writable => by
    rw [IsWritable] at writable
    rw [Writes, compactChars]
    exact ⟨_, List.cons_append .., writesItems_compactItems items writable⟩
  | .obj members, writable => by
    rw [IsWritable] at writable
    rw [Writes, compactChars]
    exact ⟨_, List.cons_append .., writesMembers_compactMembers members writable⟩

/-- The items of a list are written, with nothing but commas between them. -/
theorem writesItems_compactItems : (items : List Json) → AllWritable items →
    WritesItems items (compactItems items)
  | [], _ => by
    rw [WritesItems, compactItems]
    exact isSpaces_nil
  | [item], writable => by
    rw [AllWritable] at writable
    rw [writesItems_singleton, compactItems]
    exact .of_form (writes_compactChars item writable.1)
  | item :: next :: items, writable => by
    rw [AllWritable] at writable
    rw [writesItems_cons_cons, compactItems]
    · exact ⟨_, _, rfl, .of_form (writes_compactChars item writable.1),
        writesItems_compactItems (next :: items) writable.2⟩
    · exact List.cons_ne_nil next items

/-- The members of an object are written, with nothing but commas between them. -/
theorem writesMembers_compactMembers : (members : List (String × Json)) →
    MembersWritable members → WritesMembers members (compactMembers members)
  | [], _ => by
    rw [WritesMembers, compactMembers]
    exact isSpaces_nil
  | [(name, value)], writable => by
    rw [MembersWritable] at writable
    rw [writesMembers_singleton, compactMembers]
    exact writesMember_tight name (writes_compactChars value writable.1)
  | (name, value) :: next :: members, writable => by
    rw [MembersWritable] at writable
    rw [writesMembers_cons_cons, compactMembers]
    · refine ⟨quote name ++ ':' :: compactChars value, _, ?_, ?_,
        writesMembers_compactMembers (next :: members) writable.2⟩
      · simp
      · exact writesMember_tight name (writes_compactChars value writable.1)
    · exact List.cons_ne_nil next members

end

/-- The text of a value in the layout with a line for each item is one of its texts. -/
theorem isTextOf_pretty {v : Json} (writable : v.IsWritable) : IsTextOf v.pretty v := by
  have writes := writes_prettyChars 0 v writable
  rw [IsTextOf, pretty, String.toList_ofList]
  exact .of_form writes

/-- The text of a value on one line is one of its texts. -/
theorem isTextOf_compact {v : Json} (writable : v.IsWritable) : IsTextOf v.compact v := by
  have writes := writes_compactChars v writable
  rw [IsTextOf, compact, String.toList_ofList]
  exact .of_form writes

end DraftNits.Json
