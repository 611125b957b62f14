import DraftNits.Json.Value
import DraftNits.Text.Numeral

/-! # Writing JSON

Two layouts of a value: `Json.compact` on one line without spaces, and `Json.pretty` with a line
for each item and member, two spaces of indentation for each level, and `[]` and `{}` for what is
empty. In a text only the quote, the backslash and the control characters below U+0020 are
escaped. -/

namespace DraftNits.Json

/-! ## Texts -/

/-- A character inside a quoted text. -/
def escapeChar (c : Char) : List Char :=
  match c with
  | '"' => ['\\', '"']
  | '\\' => ['\\', '\\']
  | '\x08' => ['\\', 'b']
  | '\x0c' => ['\\', 'f']
  | '\n' => ['\\', 'n']
  | '\r' => ['\\', 'r']
  | '\t' => ['\\', 't']
  | c =>
    if c.toNat < 0x10 then "\\u000".toList ++ Text.hexadecimal c.toNat
    else if c.toNat < 0x20 then "\\u00".toList ++ Text.hexadecimal c.toNat
    else [c]

/-- A quoted text. -/
def quote (s : String) : List Char := '"' :: s.toList.flatMap escapeChar ++ ['"']

/-- The text of an integer. -/
def intText (n : Int) : List Char :=
  if n < 0 then '-' :: Text.decimal n.natAbs else Text.decimal n.natAbs

/-! ## One line -/

mutual

/-- A value on one line. -/
def compactChars : Json → List Char
  | .null => "null".toList
  | .bool true => "true".toList
  | .bool false => "false".toList
  | .int n => intText n
  | .number literal => literal.toList
  | .str s => quote s
  | .arr items => '[' :: compactItems items ++ [']']
  | .obj members => '\x7b' :: compactMembers members ++ ['\x7d']

/-- The items of a list with commas between them. -/
def compactItems : List Json → List Char
  | [] => []
  | [item] => compactChars item
  | item :: items => compactChars item ++ ',' :: compactItems items

/-- The members of an object with commas between them. -/
def compactMembers : List (String × Json) → List Char
  | [] => []
  | [(key, value)] => quote key ++ ':' :: compactChars value
  | (key, value) :: members =>
    quote key ++ ':' :: compactChars value ++ ',' :: compactMembers members

end

/-- A value on one line. -/
def compact (v : Json) : String := String.ofList (compactChars v)

/-! ## One line for each item -/

/-- A line end with the indentation of the next line. -/
def lineBreak (level : Nat) : List Char := '\n' :: List.replicate (2 * level) ' '

mutual

/-- A value that starts on a line of the given level. -/
def prettyChars (level : Nat) : Json → List Char
  | .arr [] => ['[', ']']
  | .arr items => '[' :: prettyItems (level + 1) items ++ lineBreak level ++ [']']
  | .obj [] => ['\x7b', '\x7d']
  | .obj members => '\x7b' :: prettyMembers (level + 1) members ++ lineBreak level ++ ['\x7d']
  | .null => "null".toList
  | .bool true => "true".toList
  | .bool false => "false".toList
  | .int n => intText n
  | .number literal => literal.toList
  | .str s => quote s

/-- The items of a list, each on a new line of the given level. -/
def prettyItems (level : Nat) : List Json → List Char
  | [] => []
  | [item] => lineBreak level ++ prettyChars level item
  | item :: items => lineBreak level ++ prettyChars level item ++ ',' :: prettyItems level items

/-- The members of an object, each on a new line of the given level. -/
def prettyMembers (level : Nat) : List (String × Json) → List Char
  | [] => []
  | [(key, value)] => lineBreak level ++ quote key ++ ':' :: ' ' :: prettyChars level value
  | (key, value) :: members =>
    lineBreak level ++ quote key ++ ':' :: ' ' :: prettyChars level value ++
      ',' :: prettyMembers level members

end

/-- A value with a line for each item and member. -/
def pretty (v : Json) : String := String.ofList (prettyChars 0 v)

example : escapeChar '\x01' = "\\u0001".toList := by decide +kernel
example : escapeChar '\x1f' = "\\u001f".toList := by decide +kernel
example : escapeChar '/' = ['/'] := by decide +kernel

end DraftNits.Json
