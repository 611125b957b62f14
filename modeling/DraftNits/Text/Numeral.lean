import DraftNits.Text.CharClass

/-! # Decimal numerals

Numbers read from ASCII digits and written back. -/

namespace DraftNits.Text

/-- The value of an ASCII digit. -/
def digitValue (c : Char) : Nat := c.toNat - '0'.toNat

/-- The value of a run of ASCII digits. -/
def digitsValue (cs : List Char) : Nat := cs.foldl (fun n c => n * 10 + digitValue c) 0

/-- A natural number from a text of one or more ASCII digits. -/
def readDigits? (cs : List Char) : Option Nat :=
  if !cs.isEmpty && cs.all isAsciiDigit then some (digitsValue cs) else none

/-- A number that fits 32 unsigned bits, from ASCII digits after an optional plus sign. -/
def readUnsigned32? (cs : List Char) : Option Nat := do
  let digits := match cs with
    | '+' :: rest => rest
    | _ => cs
  let n ← readDigits? digits
  if n < UInt32.size then some n else none

/-- A number that fits 32 signed bits, from ASCII digits after an optional sign. -/
def readSigned32? (cs : List Char) : Option Int := do
  let n : Int ← match cs with
    | '+' :: rest => (readDigits? rest).map Int.ofNat
    | '-' :: rest => (readDigits? rest).map fun n => -(Int.ofNat n)
    | _ => (readDigits? cs).map Int.ofNat
  if -0x80000000 ≤ n ∧ n < 0x80000000 then some n else none

/-- The decimal digits of a number. -/
def decimal (n : Nat) : List Char := Nat.toDigits 10 n

/-- The decimal digits of a number, with zeros in front up to a given width. -/
def decimalPadded (width n : Nat) : List Char :=
  List.replicate (width - (decimal n).length) '0' ++ decimal n

/-- The hexadecimal digits of a number, in small letters. -/
def hexadecimal (n : Nat) : List Char := Nat.toDigits 16 n

/-- The usual name of a character, `U+` and at least four hexadecimal digits in capitals. -/
def codePoint (c : Char) : String :=
  let digits := (hexadecimal c.toNat).map Char.toUpper
  String.ofList ('U' :: '+' :: List.replicate (4 - digits.length) '0' ++ digits)

example : codePoint 'é' = "U+00E9" := by decide +kernel
example : codePoint '😀' = "U+1F600" := by decide +kernel
example : readUnsigned32? "+4294967295".toList = some 4294967295 := by decide +kernel
example : readUnsigned32? "4294967296".toList = none := by decide +kernel
example : readSigned32? "-2147483648".toList = some (-2147483648) := by decide +kernel

end DraftNits.Text
