import DraftNits.Json.Reader
import Mathlib.Data.List.Basic

/-! # The JSON notation

Which texts write a JSON value, by recursion on the value and without any reader: white space may
stand around every value, comma and colon; a text stands in quotes, each of its characters in one of
four ways; and a number has a whole part without zeros in front, and perhaps a sign, a fraction and
an exponent.

* `Json.WritesChar`, `Json.WritesNumber` — the parts of a value that need no recursion.
* `Json.Writes` — the texts of a value, its items and its members.
* `Json.IsTextOf` — the whole texts of a value.
* `Json.starts_of_writes` — a value shows by its first character where white space ends. -/

namespace DraftNits.Json

/-! ## White space -/

/-- Whether a text is white space between the parts of a value. -/
def IsSpaces (cs : List Char) : Prop := ∀ c ∈ cs, isSpace c = true

/-- Whether a text is of some form but for white space around it. -/
def IsPadded (form : List Char → Prop) (cs : List Char) : Prop :=
  ∃ before text after, cs = before ++ text ++ after ∧ IsSpaces before ∧ form text ∧ IsSpaces after

theorem isSpaces_nil : IsSpaces [] := fun c mem => by cases mem

/-- A text may stand without white space around it. -/
theorem IsPadded.of_form {form : List Char → Prop} {text : List Char} (h : form text) :
    IsPadded form text :=
  ⟨[], text, [], by simp, isSpaces_nil, h, isSpaces_nil⟩

/-! ## Texts -/

/-- The letters that stand for a character after a backslash. -/
def letterEscapes : List (Char × Char) :=
  [('"', '"'), ('\\', '\\'), ('/', '/'), ('b', '\x08'), ('f', '\x0c'), ('n', '\n'), ('r', '\r'),
    ('t', '\t')]

/-- How a character may be written inside quotes. -/
inductive WritesChar : Char → List Char → Prop
  /-- As it is, unless it is the quote, the backslash or a control character. -/
  | plain {c : Char} (no_control : 0x20 ≤ c.toNat) (no_quote : c ≠ '"') (no_escape : c ≠ '\\') :
    WritesChar c [c]
  /-- By a letter after a backslash. -/
  | letter {letter c : Char} (escape : (letter, c) ∈ letterEscapes) : WritesChar c ['\\', letter]
  /-- By its number in four hexadecimal digits. -/
  | code {n : Nat} {a b c d : Char} (digits : hexUnit? a b c d = some n)
    (no_surrogate : n < 0xD800 ∨ 0xE000 ≤ n) :
    WritesChar (Char.ofNat n) ['\\', 'u', a, b, c, d]
  /-- By a high and a low surrogate, for a number above U+FFFF. -/
  | surrogates {high low : Nat} {a b c d a' b' c' d' : Char} (digits : hexUnit? a b c d = some high)
    (digits' : hexUnit? a' b' c' d' = some low) (is_high : 0xD800 ≤ high ∧ high < 0xDC00)
    (is_low : 0xDC00 ≤ low ∧ low < 0xE000) :
    WritesChar (Char.ofNat (0x10000 + (high - 0xD800) * 0x400 + (low - 0xDC00)))
      ['\\', 'u', a, b, c, d, '\\', 'u', a', b', c', d']

/-- Whether a text writes some characters, one after the other. -/
def WritesChars : List Char → List Char → Prop
  | [], body => body = []
  | c :: cs, body => ∃ first later, body = first ++ later ∧ WritesChar c first ∧ WritesChars cs later

/-- Whether a text is another one in quotes. -/
def IsQuoted (s : String) (text : List Char) : Prop :=
  ∃ body, text = '"' :: (body ++ ['"']) ∧ WritesChars s.toList body

/-! ## Numbers -/

/-- Whether a text is one or more digits. -/
def IsDigits (cs : List Char) : Prop := cs ≠ [] ∧ ∀ c ∈ cs, Text.isAsciiDigit c = true

/-- Whether a text is the fraction of a number, or nothing. -/
def IsFraction (cs : List Char) : Prop := cs = [] ∨ ∃ digits, cs = '.' :: digits ∧ IsDigits digits

/-- Whether a text is the exponent of a number, or nothing. -/
def IsExponent (cs : List Char) : Prop :=
  cs = [] ∨ ∃ mark sign digits, cs = mark :: (sign ++ digits) ∧ (mark = 'e' ∨ mark = 'E') ∧
    (sign = [] ∨ sign = ['+'] ∨ sign = ['-']) ∧ IsDigits digits

/-- The parts of a number. -/
structure NumberParts where
  /-- The sign, if there is one. -/
  sign : List Char
  /-- The digits before the point. -/
  whole : List Char
  /-- The point and the digits after it, if they are there. -/
  fraction : List Char
  /-- The mark of an exponent, its sign and its digits, if they are there. -/
  exponent : List Char

namespace NumberParts

/-- Whether some parts make a number. -/
structure IsValid (parts : NumberParts) : Prop where
  /-- The only sign is a minus. -/
  sign : parts.sign = [] ∨ parts.sign = ['-']
  /-- There are digits before the point. -/
  whole : IsDigits parts.whole
  /-- None of them is a zero in front of others. -/
  no_zeros : parts.whole.head? = some '0' → parts.whole.length ≤ 1
  /-- There are digits after the point. -/
  fraction : IsFraction parts.fraction
  /-- There are digits in the exponent, after a sign of either kind or none. -/
  exponent : IsExponent parts.exponent

/-- The text of the parts. -/
def text (parts : NumberParts) : List Char :=
  parts.sign ++ (parts.whole ++ (parts.fraction ++ parts.exponent))

/-- Whether the parts write an integer: without fraction and exponent, and not as `-0`. -/
def isInteger (parts : NumberParts) : Bool :=
  parts.fraction.isEmpty && parts.exponent.isEmpty &&
    (parts.sign.isEmpty || Text.digitsValue parts.whole != 0)

/-- The value of the parts: an integer, or the number as it is written. -/
def value (parts : NumberParts) : Json :=
  if parts.isInteger then
    .int (if parts.sign.isEmpty then Text.digitsValue parts.whole
      else -(Text.digitsValue parts.whole : Int))
  else .number (String.ofList parts.text)

end NumberParts

/-- Whether a text writes a value as a number. -/
def WritesNumber (v : Json) (text : List Char) : Prop :=
  ∃ parts : NumberParts, parts.IsValid ∧ parts.text = text ∧ parts.value = v

/-! ## Values -/

/-- Whether a text writes a member of an object: its name, a colon and its value. -/
def WritesMember (name : String) (value : List Char → Prop) (text : List Char) : Prop :=
  ∃ before after, text = before ++ ':' :: after ∧ IsPadded (IsQuoted name) before ∧
    IsPadded value after

mutual

/-- Whether a text writes a value. -/
def Writes : Json → List Char → Prop
  | .null, text => text = "null".toList
  | .bool true, text => text = "true".toList
  | .bool false, text => text = "false".toList
  | .int n, text => WritesNumber (.int n) text
  | .number literal, text => WritesNumber (.number literal) text
  | .str s, text => IsQuoted s text
  | .arr items, text => ∃ body, text = '[' :: (body ++ [']']) ∧ WritesItems items body
  | .obj members, text => ∃ body, text = '\x7b' :: (body ++ ['\x7d']) ∧ WritesMembers members body

/-- Whether a text writes the items of a list, with commas between them. -/
def WritesItems : List Json → List Char → Prop
  | [], body => IsSpaces body
  | [item], body => IsPadded (Writes item) body
  | item :: items, body =>
    ∃ first later, body = first ++ ',' :: later ∧ IsPadded (Writes item) first ∧
      WritesItems items later

/-- Whether a text writes the members of an object, with commas between them. -/
def WritesMembers : List (String × Json) → List Char → Prop
  | [], body => IsSpaces body
  | [(name, value)], body => WritesMember name (Writes value) body
  | (name, value) :: members, body =>
    ∃ first later, body = first ++ ',' :: later ∧ WritesMember name (Writes value) first ∧
      WritesMembers members later

end

/-- The one item of a list may have white space around it. -/
theorem writesItems_singleton {item : Json} {body : List Char} :
    WritesItems [item] body ↔ IsPadded (Writes item) body := by
  rw [WritesItems]

/-- After the first of several items comes a comma. -/
theorem writesItems_cons_cons {item next : Json} {items : List Json} {body : List Char} :
    WritesItems (item :: next :: items) body ↔ ∃ first later, body = first ++ ',' :: later ∧
      IsPadded (Writes item) first ∧ WritesItems (next :: items) later := by
  rw [WritesItems]
  exact List.cons_ne_nil next items

/-- The one member of an object stands alone. -/
theorem writesMembers_singleton {name : String} {value : Json} {body : List Char} :
    WritesMembers [(name, value)] body ↔ WritesMember name (Writes value) body := by
  rw [WritesMembers]

/-- After the first of several members comes a comma. -/
theorem writesMembers_cons_cons {name : String} {value : Json} {next : String × Json}
    {members : List (String × Json)} {body : List Char} :
    WritesMembers ((name, value) :: next :: members) body ↔ ∃ first later,
      body = first ++ ',' :: later ∧ WritesMember name (Writes value) first ∧
        WritesMembers (next :: members) later := by
  rw [WritesMembers]
  exact List.cons_ne_nil next members

/-- Whether a whole text writes a value. -/
def IsTextOf (text : String) (v : Json) : Prop := IsPadded (Writes v) text.toList

/-! ## First characters -/

/-- Whether a text starts with a character that is neither white space nor the end of a list or an
object. -/
def Starts (text : List Char) : Prop :=
  ∃ c rest, text = c :: rest ∧ isSpace c = false ∧ c ≠ ']' ∧ c ≠ '\x7d'

/-- There are four characters of white space. -/
theorem isSpace_iff {c : Char} : isSpace c = true ↔ c = ' ' ∨ c = '\t' ∨ c = '\n' ∨ c = '\r' := by
  simp [isSpace, or_assoc]

/-- A digit is no other character of the notation. -/
theorem starts_of_isAsciiDigit {c : Char} (digit : Text.isAsciiDigit c = true) (rest : List Char) :
    Starts (c :: rest) := by
  refine ⟨c, rest, rfl, ?_, ?_, ?_⟩
  · by_contra space
    rw [Bool.not_eq_false] at space
    rcases isSpace_iff.1 space with rfl | rfl | rfl | rfl <;> exact absurd digit (by decide)
  · rintro rfl
    exact absurd digit (by decide)
  · rintro rfl
    exact absurd digit (by decide)

/-- A number starts with its sign or a digit. -/
theorem NumberParts.IsValid.starts {parts : NumberParts} (valid : parts.IsValid) :
    ∃ c rest, parts.text = c :: rest ∧ (c = '-' ∨ Text.isAsciiDigit c = true) := by
  obtain ⟨digit, digits, whole⟩ := List.exists_cons_of_ne_nil valid.whole.1
  rcases valid.sign with none_there | minus
  · refine ⟨digit, digits ++ (parts.fraction ++ parts.exponent), ?_, .inr ?_⟩
    · rw [NumberParts.text, none_there, whole]
      rfl
    · exact valid.whole.2 digit (whole ▸ List.mem_cons_self)
  · refine ⟨'-', parts.whole ++ (parts.fraction ++ parts.exponent), ?_, .inl rfl⟩
    rw [NumberParts.text, minus]
    rfl

theorem IsQuoted.starts {s : String} {text : List Char} (quoted : IsQuoted s text) :
    Starts text := by
  obtain ⟨body, rfl, -⟩ := quoted
  exact ⟨'"', body ++ ['"'], rfl, by decide, by decide, by decide⟩

theorem WritesNumber.starts {v : Json} {text : List Char} (number : WritesNumber v text) :
    Starts text := by
  obtain ⟨parts, valid, rfl, -⟩ := number
  obtain ⟨c, rest, is_text, first⟩ := valid.starts
  rw [is_text]
  rcases first with rfl | digit
  · exact ⟨'-', rest, rfl, by decide, by decide, by decide⟩
  · exact starts_of_isAsciiDigit digit rest

/-- The text of a value starts with none of the characters that may stand around it. -/
theorem starts_of_writes {v : Json} {text : List Char} (writes : Writes v text) : Starts text := by
  cases v with
  | null =>
    rw [Writes] at writes
    exact ⟨'n', "ull".toList, writes, by decide, by decide, by decide⟩
  | bool value =>
    cases value <;> rw [Writes] at writes
    · exact ⟨'f', "alse".toList, writes, by decide, by decide, by decide⟩
    · exact ⟨'t', "rue".toList, writes, by decide, by decide, by decide⟩
  | int n =>
    rw [Writes] at writes
    exact writes.starts
  | number literal =>
    rw [Writes] at writes
    exact writes.starts
  | str s =>
    rw [Writes] at writes
    exact writes.starts
  | arr items =>
    rw [Writes] at writes
    obtain ⟨body, rfl, -⟩ := writes
    exact ⟨'[', body ++ [']'], rfl, by decide, by decide, by decide⟩
  | obj members =>
    rw [Writes] at writes
    obtain ⟨body, rfl, -⟩ := writes
    exact ⟨'\x7b', body ++ ['\x7d'], rfl, by decide, by decide, by decide⟩

end DraftNits.Json
