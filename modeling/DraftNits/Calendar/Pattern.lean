import DraftNits.Calendar.Date
import DraftNits.Text.Trim

/-! # Date patterns

A `DatePattern` lists the parts of a written date in order. Reading follows it from left to right,
each part taking as much as it can and never giving anything back; a date is read only if the
whole text is used, each part is in range and the day exists.

White space in a pattern stands for any amount of white space, also none. A number skips white
space in front of it. A year without a sign has at most four digits, a year with a sign any number
of them. Month names are read in any ASCII case and never skip white space. -/

namespace DraftNits

/-- A part of a written date. -/
inductive DatePart
  /-- Any amount of white space. -/
  | blank
  /-- A character as it stands. -/
  | mark (c : Char)
  /-- A year. -/
  | year
  /-- A month as a number of one or two digits. -/
  | month
  /-- A month by the first three letters of its name. -/
  | shortMonth
  /-- A month by the first three letters of its name or by the whole name. -/
  | longMonth
  /-- A day as a number of one or two digits. -/
  | day
  deriving DecidableEq, Repr

/-- The parts of a written date, in order. -/
abbrev DatePattern := List DatePart

/-- The year, month and day read so far. -/
structure DateFields where
  /-- The year, if it has been read. -/
  year : Option Int
  /-- The month, if it has been read. -/
  month : Option Nat
  /-- The day, if it has been read. -/
  day : Option Nat
  deriving DecidableEq, Repr

namespace DatePart

/-! ## Numbers and names -/

/-- The English names of the months: the three letters that also stand alone, and the rest. -/
def monthNames : List (List Char × List Char) :=
  [("jan".toList, "uary".toList), ("feb".toList, "ruary".toList), ("mar".toList, "ch".toList),
   ("apr".toList, "il".toList), ("may".toList, []), ("jun".toList, "e".toList),
   ("jul".toList, "y".toList), ("aug".toList, "ust".toList), ("sep".toList, "tember".toList),
   ("oct".toList, "ober".toList), ("nov".toList, "ember".toList), ("dec".toList, "ember".toList)]

/-- The text after a name in small letters, if the text begins with it in any case. -/
def afterName? (name cs : List Char) : Option (List Char) :=
  if (cs.take name.length).map Text.asciiLower == name then some (cs.drop name.length) else none

/-- The month whose first three letters begin the text, counted from `month`, with the rest of its
name and the rest of the text. -/
def readName? (month : Nat) (cs : List Char) :
    List (List Char × List Char) → Option (Nat × List Char × List Char)
  | [] => none
  | (short, ending) :: names =>
    match afterName? short cs with
    | some rest => some (month, ending, rest)
    | none => readName? (month + 1) cs names

/-- The number in the longest run of ASCII digits that starts the text, as far as the given
width; there must be a digit. -/
def readNumber? (width : Nat) (cs : List Char) : Option (Nat × List Char) :=
  let digits := (cs.take width).takeWhile Text.isAsciiDigit
  if digits.isEmpty then none else some (Text.digitsValue digits, cs.drop digits.length)

/-- A year after white space: with a sign any number of digits, without one up to four. -/
def readYear? (cs : List Char) : Option (Int × List Char) :=
  match Text.trimStart cs with
  | '-' :: rest => (readNumber? rest.length rest).map fun found => (-(found.1 : Int), found.2)
  | '+' :: rest => (readNumber? rest.length rest).map fun found => ((found.1 : Int), found.2)
  | rest => (readNumber? 4 rest).map fun found => ((found.1 : Int), found.2)

/-! ## Reading along a pattern -/

/-- What one part takes from the beginning of a text: the fields with the part's value, and the
rest of the text. -/
def read? (fields : DateFields) (cs : List Char) : DatePart → Option (DateFields × List Char)
  | .blank => some (fields, Text.trimStart cs)
  | .mark c =>
    match cs with
    | d :: rest => if d = c then some (fields, rest) else none
    | [] => none
  | .year => (readYear? cs).map fun (n, rest) => ({ fields with year := some n }, rest)
  | .month =>
    (readNumber? 2 (Text.trimStart cs)).map fun (n, rest) => ({ fields with month := some n }, rest)
  | .shortMonth =>
    (readName? 1 cs monthNames).map fun (n, _, rest) => ({ fields with month := some n }, rest)
  | .longMonth =>
    (readName? 1 cs monthNames).map fun (n, ending, rest) =>
      ({ fields with month := some n }, (afterName? ending rest).getD rest)
  | .day =>
    (readNumber? 2 (Text.trimStart cs)).map fun (n, rest) => ({ fields with day := some n }, rest)

end DatePart

namespace DatePattern

/-- The fields that a whole text gives along a pattern. -/
def fields? : DatePattern → DateFields → List Char → Option DateFields
  | [], fields, cs => if cs.isEmpty then some fields else none
  | part :: parts, fields, cs =>
    match part.read? fields cs with
    | some (fields, rest) => fields? parts fields rest
    | none => none

/-- The date that a whole text writes along a pattern. -/
def date? (pattern : DatePattern) (cs : List Char) : Option Date :=
  match fields? pattern ⟨none, none, none⟩ cs with
  | some ⟨some year, some month, some day⟩ => Date.ofYmd? year month day
  | _ => none

/-- `YYYY-MM-DD`, with white space allowed around each part. -/
def isoSpaced : DatePattern :=
  [.year, .blank, .mark '-', .month, .blank, .mark '-', .day, .blank]

end DatePattern

/-- The date in a data file: `YYYY-MM-DD`, with white space allowed around each part. -/
def Date.ofText? (cs : List Char) : Option Date := DatePattern.isoSpaced.date? cs

example : (Date.ofText? " 2024 -3- 02 ".toList).map Date.text = some "2024-03-02" := by
  decide +kernel
example : Date.ofText? "12024-03-02".toList = none := by decide +kernel

end DraftNits
