import DraftNits.Text.Trim

/-! # Citations and entries

A citation is the anchor of a reference in brackets. An entry of a references section starts with
its anchor in brackets after at least two white-space characters, and may hold the address of the
reference in angle brackets. -/

namespace DraftNits.PlainText

/-! ## Citations -/

/-- Whether a character can stand in the anchor of a citation. -/
def isAnchorChar (c : Char) : Bool :=
  Text.isAsciiAlnum c || c == '.' || c == '-' || c == '/' || c == '+' || c == '_' || c == ':'

/-- The anchor that ends at the first closing bracket, after an opening one: an ASCII letter or
digit and then characters of an anchor. -/
def anchor? : List Char → Option (List Char)
  | [] => none
  | c :: cs =>
    if Text.isAsciiAlnum c && (cs.dropWhile isAnchorChar).head? == some ']' then
      some (c :: cs.takeWhile isAnchorChar)
    else none

/-- Whether a citation may follow a character: neither a word character nor an opening bracket. -/
def endsWord (c : Char) : Bool := !Text.isWord c && c != '['

/-- The anchors of the citations in a text, from left to right. The first `skip` characters belong
to the citation before; `fresh` says whether a citation may start here, which takes a character of
its own in front of it unless the line starts here. -/
def citationsFrom (fresh : Bool) (skip : Nat) : List Char → List (List Char)
  | [] => []
  | c :: cs =>
    match skip with
    | skip + 1 => citationsFrom false skip cs
    | 0 =>
      if fresh && c == '[' then
        match anchor? cs with
        | some anchor => anchor :: citationsFrom false (anchor.length + 1) cs
        | none => citationsFrom false 0 cs
      else citationsFrom (endsWord c) 0 cs

/-- The anchors of the citations on a line, from left to right. Two citations share no character,
and the character in front of a citation belongs to it. -/
def citedAnchors (line : List Char) : List (List Char) := citationsFrom true 0 line

/-! ## Entries -/

/-- Whether a character can stand in the anchor of an entry. -/
def isEntryAnchorChar (c : Char) : Bool := c != ']' && !Text.isBlank c

/-- The anchor of the entry that starts on a line. What follows it is meant to stand on the same
line; that is not checked here, since a line holds no line feed. -/
def entryAnchor? (line : List Char) : Option (List Char) :=
  if (line.takeWhile Text.isBlank).length < 2 then none
  else
    match Text.trimStart line with
    | '[' :: rest =>
      if rest.takeWhile isEntryAnchorChar ≠ [] ∧
          (rest.dropWhile isEntryAnchorChar).head? = some ']' then
        some (rest.takeWhile isEntryAnchorChar)
      else none
    | _ => none

/-- Whether a character can stand in an address. -/
def isUrlChar (c : Char) : Bool := c != '>' && !Text.isBlank c

/-- The address that a text after an opening angle bracket starts with, up to the closing one. -/
def urlHere? (cs : List Char) : Option (List Char) :=
  let scheme :=
    if "https://".toList.isPrefixOf cs then "https://".toList
    else if "http://".toList.isPrefixOf cs then "http://".toList
    else []
  let rest := cs.drop scheme.length
  if scheme ≠ [] ∧ rest.takeWhile isUrlChar ≠ [] ∧ (rest.dropWhile isUrlChar).head? = some '>' then
    some (scheme ++ rest.takeWhile isUrlChar)
  else none

/-- The first address in angle brackets. -/
def url? : List Char → Option (List Char)
  | [] => none
  | c :: cs =>
    if c = '<' then
      match urlHere? cs with
      | some url => some url
      | none => url? cs
    else url? cs

/-- The address of an entry: the first one on its lines. The entry ends before a blank line and
before the next entry. -/
def entryUrl? (line : List Char) (rest : List (List Char)) : Option (List Char) :=
  (line :: rest.takeWhile fun l => !Text.isAllBlank l && (entryAnchor? l).isNone).findSome? url?

example : citedAnchors "[A] see [RFC2119], x[1] and [[B]] [C][D]".toList =
    ["A".toList, "RFC2119".toList, "C".toList] := by decide +kernel
example : entryAnchor? "   [RFC2119]  Bradner".toList = some "RFC2119".toList := by decide +kernel
example : url? "at <ftp://x> <https://a.b/c>.".toList = some "https://a.b/c".toList := by
  decide +kernel

end DraftNits.PlainText
