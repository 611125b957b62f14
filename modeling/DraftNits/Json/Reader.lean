import DraftNits.Json.Value
import DraftNits.Text.Numeral

/-! # Reading JSON

`Json.parse?` reads a whole text as one value with white space around it. It accepts the standard
notation only: no raw control characters in a text, no lone surrogates, no zeros in front of a
number, nothing after the value. -/

namespace DraftNits.Json

/-- White space between the parts of a value. -/
def isSpace (c : Char) : Bool := c == ' ' || c == '\t' || c == '\n' || c == '\r'

/-- The text without the white space in front of it. -/
def skipSpace (cs : List Char) : List Char := cs.dropWhile isSpace

/-! ## Texts -/

/-- The value of a hexadecimal digit. -/
def hexDigit? (c : Char) : Option Nat :=
  if Text.isAsciiDigit c then some (c.toNat - '0'.toNat)
  else if 'a' ≤ c ∧ c ≤ 'f' then some (c.toNat - 'a'.toNat + 10)
  else if 'A' ≤ c ∧ c ≤ 'F' then some (c.toNat - 'A'.toNat + 10)
  else none

/-- The number in four hexadecimal digits. -/
def hexUnit? (a b c d : Char) : Option Nat := do
  return ((← hexDigit? a) * 16 + (← hexDigit? b)) * 256 + (← hexDigit? c) * 16 + (← hexDigit? d)

/-- The character of an escape of one letter. -/
def unescape? : Char → Option Char
  | '"' => some '"'
  | '\\' => some '\\'
  | '/' => some '/'
  | 'b' => some '\x08'
  | 'f' => some '\x0c'
  | 'n' => some '\n'
  | 'r' => some '\r'
  | 't' => some '\t'
  | _ => none

/-- The first character of a quoted text in which one is left, with the rest. A code point above
U+FFFF may be written as a high and a low surrogate. -/
def readChar? : List Char → Option (Char × List Char)
  | '\\' :: 'u' :: a :: b :: c :: d :: rest =>
    match hexUnit? a b c d with
    | none => none
    | some high =>
      if 0xD800 ≤ high ∧ high < 0xDC00 then
        match rest with
        | '\\' :: 'u' :: a :: b :: c :: d :: rest =>
          match hexUnit? a b c d with
          | none => none
          | some low =>
            if 0xDC00 ≤ low ∧ low < 0xE000 then
              some (Char.ofNat (0x10000 + (high - 0xD800) * 0x400 + (low - 0xDC00)), rest)
            else none
        | _ => none
      else if 0xDC00 ≤ high ∧ high < 0xE000 then none
      else some (Char.ofNat high, rest)
  | '\\' :: c :: rest => (unescape? c).map fun d => (d, rest)
  | c :: rest => if c.toNat < 0x20 then none else some (c, rest)
  | [] => none

/-- The rest of a quoted text after `read`, latest first, and what follows its closing quote. Every
character takes a step, so the length of the text bounds the number of steps. -/
def readText? : Nat → List Char → List Char → Option (String × List Char)
  | 0, _, _ => none
  | _ + 1, read, '"' :: rest => some (String.ofList read.reverse, rest)
  | steps + 1, read, cs =>
    match readChar? cs with
    | some (c, rest) => readText? steps (c :: read) rest
    | none => none

/-! ## Numbers -/

/-- The characters of an exponent, if one stands here. -/
def exponentChars (cs : List Char) : Option (List Char) :=
  match cs with
  | c :: rest =>
    if c = 'e' ∨ c = 'E' then
      let sign := rest.takeWhile (fun d => d == '+' || d == '-')
      let digits := (rest.drop sign.length).takeWhile Text.isAsciiDigit
      if sign.length ≤ 1 ∧ !digits.isEmpty then some (c :: sign ++ digits) else none
    else some []
  | [] => some []

/-- The characters of a fraction, if one stands here. -/
def fractionChars (cs : List Char) : Option (List Char) :=
  match cs with
  | '.' :: rest =>
    let digits := rest.takeWhile Text.isAsciiDigit
    if digits.isEmpty then none else some ('.' :: digits)
  | _ => some []

/-- A number and what follows it. -/
def readNumber? (cs : List Char) : Option (Json × List Char) := do
  let sign := cs.takeWhile (· == '-')
  let digits := (cs.drop sign.length).takeWhile Text.isAsciiDigit
  if 1 < sign.length || digits.isEmpty || (digits.head? == some '0' && 1 < digits.length) then none
  else
    let afterDigits := cs.drop (sign.length + digits.length)
    let fraction ← fractionChars afterDigits
    let afterFraction := afterDigits.drop fraction.length
    let exponent ← exponentChars afterFraction
    let rest := afterFraction.drop exponent.length
    let n := Text.digitsValue digits
    if !fraction.isEmpty || !exponent.isEmpty || (!sign.isEmpty && n == 0) then
      some (.number (String.ofList (sign ++ digits ++ fraction ++ exponent)), rest)
    else some (.int (if sign.isEmpty then (n : Int) else -(n : Int)), rest)

/-! ## Values -/

mutual

/-- A value and what follows it. Every call reads at least one character, so the length of the
text bounds the number of steps. -/
def readValue? : Nat → List Char → Option (Json × List Char)
  | 0, _ => none
  | steps + 1, cs =>
    match skipSpace cs with
    | 'n' :: 'u' :: 'l' :: 'l' :: rest => some (.null, rest)
    | 't' :: 'r' :: 'u' :: 'e' :: rest => some (.bool true, rest)
    | 'f' :: 'a' :: 'l' :: 's' :: 'e' :: rest => some (.bool false, rest)
    | '"' :: rest => (readText? cs.length [] rest).map fun (s, rest) => (.str s, rest)
    | '[' :: rest =>
      match skipSpace rest with
      | ']' :: rest => some (.arr [], rest)
      | rest => (readItems? steps [] rest).map fun (items, rest) => (.arr items, rest)
    | '\x7b' :: rest =>
      match skipSpace rest with
      | '\x7d' :: rest => some (.obj [], rest)
      | rest => (readMembers? steps [] rest).map fun (members, rest) => (.obj members, rest)
    | cs => readNumber? cs

/-- The items of a list after those in `read`, latest first, and what follows the list. -/
def readItems? : Nat → List Json → List Char → Option (List Json × List Char)
  | 0, _, _ => none
  | steps + 1, read, cs =>
    match readValue? steps cs with
    | none => none
    | some (item, rest) =>
      match skipSpace rest with
      | ',' :: rest => readItems? steps (item :: read) rest
      | ']' :: rest => some ((item :: read).reverse, rest)
      | _ => none

/-- The members of an object after those in `read`, latest first, and what follows the object. -/
def readMembers? : Nat → List (String × Json) → List Char →
    Option (List (String × Json) × List Char)
  | 0, _, _ => none
  | steps + 1, read, cs =>
    match skipSpace cs with
    | '"' :: rest =>
      match readText? cs.length [] rest with
      | none => none
      | some (key, rest) =>
        match skipSpace rest with
        | ':' :: rest =>
          match readValue? steps rest with
          | none => none
          | some (value, rest) =>
            match skipSpace rest with
            | ',' :: rest => readMembers? steps ((key, value) :: read) rest
            | '\x7d' :: rest => some (((key, value) :: read).reverse, rest)
            | _ => none
        | _ => none
    | _ => none

end

/-- The value that a whole text writes. -/
def parse? (text : String) : Option Json :=
  let cs := text.toList
  match readValue? (cs.length + 1) cs with
  | some (v, rest) => if (skipSpace rest).isEmpty then some v else none
  | none => none

end DraftNits.Json
