import DraftNits.Text.WordTable
import DraftNits.Text.DigitTable

/-! # Character classes

The classes that the readers of this library tell apart. Blanks, digits and word characters range
over all of Unicode; the `isAscii…` classes hold ASCII characters only, because the notations
they serve (draft names, section letters, citation anchors) are written in ASCII. -/

namespace DraftNits.Text

/-- White space in the sense of Unicode. The zero-width space U+200B and the byte order mark
U+FEFF are not white space. -/
def isBlank (c : Char) : Bool :=
  c == ' ' || (0x09 ≤ c.toNat && c.toNat ≤ 0x0D) || c.toNat == 0x85 || c.toNat == 0xA0 ||
    c.toNat == 0x1680 || (0x2000 ≤ c.toNat && c.toNat ≤ 0x200A) || c.toNat == 0x2028 ||
    c.toNat == 0x2029 || c.toNat == 0x202F || c.toNat == 0x205F || c.toNat == 0x3000

/-- A control character: U+0000 to U+001F and U+007F to U+009F. -/
def isControl (c : Char) : Bool :=
  c.toNat < 0x20 || (0x7F ≤ c.toNat && c.toNat < 0xA0)

/-- A capital letter A to Z. -/
def isAsciiUpper (c : Char) : Bool := 'A' ≤ c && c ≤ 'Z'

/-- A small letter a to z. -/
def isAsciiLower (c : Char) : Bool := 'a' ≤ c && c ≤ 'z'

/-- A digit 0 to 9. -/
def isAsciiDigit (c : Char) : Bool := '0' ≤ c && c ≤ '9'

/-- An ASCII letter or digit. -/
def isAsciiAlnum (c : Char) : Bool := isAsciiUpper c || isAsciiLower c || isAsciiDigit c

/-- A decimal digit of any script. -/
def isDecimalDigit (c : Char) : Bool :=
  if c.toNat < 0x80 then isAsciiDigit c else digitRanges.contains c.toNat

/-- A word character: a letter, mark, decimal digit or connector of any script. -/
def isWord (c : Char) : Bool :=
  if c.toNat < 0x80 then isAsciiAlnum c || c == '_' else wordRanges.contains c.toNat

/-- The small letter of a capital letter A to Z; every other character is kept. -/
def asciiLower (c : Char) : Char :=
  if isAsciiUpper c then Char.ofNat (c.toNat + 32) else c

/-- Whether two texts are equal when the case of ASCII letters is ignored. -/
def eqIgnoringAsciiCase (a b : List Char) : Bool := a.map asciiLower == b.map asciiLower

/-- What holds of the letters A to Z holds of every capital letter. -/
theorem of_isAsciiUpper {p : Char → Prop} (all : ∀ n ∈ List.range' 65 26, p (Char.ofNat n)) {c : Char}
    (upper : isAsciiUpper c = true) : p c := by
  have range : 65 ≤ c.toNat ∧ c.toNat ≤ 90 := by
    simpa [isAsciiUpper, Char.le_def, UInt32.le_iff_toNat_le] using upper
  have letter := all c.toNat (List.mem_range'_1.2 (by omega))
  rwa [Char.ofNat_toNat] at letter

example : isBlank '\u00a0' = true ∧ isBlank '\u200b' = false ∧ isBlank '\ufeff' = false := by decide
example : isDecimalDigit '٣' = true ∧ isAsciiDigit '٣' = false := by decide +kernel
example : isWord 'é' = true ∧ isWord '_' = true ∧ isWord '-' = false := by decide +kernel

end DraftNits.Text
