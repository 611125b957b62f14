import DraftNits.Text.Trim

/-! # Author names

An author on a first page is written with initials and a surname, `J. Smith`, `J.-P. Smith` or
`J. B. Smith, Ed.`. An initial is a capital letter, perhaps with a small letter after it, and a
full stop; a second initial may follow it after a hyphen. At most one white-space character stands
between two initials. The surname is a capital letter and at least one more word character,
apostrophe or hyphen. -/

namespace DraftNits.PlainText

/-- Whether a character can stand in a surname after its first letter. -/
def isSurnameChar (c : Char) : Bool := Text.isWord c || c == '\'' || c == '-'

/-- Whether a text is a surname, perhaps with the mark of an editor after it. -/
def isSurname : List Char → Bool
  | [] => false
  | c :: cs =>
    let ending := cs.dropWhile isSurnameChar
    Text.isAsciiUpper c && !(cs.takeWhile isSurnameChar).isEmpty &&
      (ending.isEmpty || ending == ", Ed.".toList)

/-- The text after an initial, perhaps with a second one after a hyphen. -/
def afterInitial? : List Char → Option (List Char)
  | a :: '.' :: '-' :: b :: '.' :: rest =>
    if Text.isAsciiUpper a then
      if Text.isAsciiUpper b then some rest else some ('-' :: b :: '.' :: rest)
    else none
  | a :: '.' :: rest => if Text.isAsciiUpper a then some rest else none
  | a :: b :: '.' :: '-' :: c :: '.' :: rest =>
    if Text.isAsciiUpper a && Text.isAsciiLower b then
      if Text.isAsciiUpper c then some rest else some ('-' :: c :: '.' :: rest)
    else none
  | a :: b :: '.' :: rest =>
    if Text.isAsciiUpper a && Text.isAsciiLower b then some rest else none
  | _ => none

/-- Whether a text is a surname after initials, at least one of them unless some were read
before. Every initial is longer than nothing, so the length of the text bounds the number of
steps. -/
def isNameFrom (initials : Bool) : Nat → List Char → Bool
  | 0, _ => false
  | steps + 1, cs =>
    match afterInitial? cs with
    | none => initials && isSurname (Text.trimStart cs)
    | some rest =>
      let next := if Text.startsBlank rest then rest.tail else rest
      -- After more than one white-space character only the surname can follow.
      if Text.startsBlank next then isSurname (Text.trimStart next)
      else isNameFrom true steps next

/-- Whether a text is the name of an author. -/
def isAuthorName (cs : List Char) : Bool := isNameFrom false (cs.length + 1) cs

example : isAuthorName "J. Smith".toList = true := by decide +kernel
example : isAuthorName "J.-P. van".toList = false := by decide +kernel
example : isAuthorName "St. J. B.-C. O'Neil-Smith, Ed.".toList = true := by decide +kernel
example : isAuthorName "Smith".toList = false := by decide +kernel
example : isAuthorName "J.  B. Smith".toList = false := by decide +kernel

end DraftNits.PlainText
