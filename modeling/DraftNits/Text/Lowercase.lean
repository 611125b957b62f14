import DraftNits.Text.CaseTable
import DraftNits.Text.CharClass

/-! # Lower case

The lower-case form of a text under Unicode's full mapping. It is a mapping of texts, not of
characters: U+0130 becomes two characters, and the capital sigma becomes the final form `ς` at the
end of a word and `σ` elsewhere. -/

namespace DraftNits.Text

/-- The lower-case counterpart of a code point in a table of runs, or the code point itself. -/
def lowerCode : List CaseRun → Nat → Nat
  | [], code => code
  | run :: rest, code =>
    if code < run.first then code
    else if code ≤ run.last && (code - run.first) % run.step == 0 then
      run.lower + (code - run.first)
    else lowerCode rest code

/-- The lower-case form of a single character away from any context. -/
def lowerChar (c : Char) : List Char :=
  if c.toNat < 0x80 then [asciiLower c]
  else if c.toNat = 0x130 then ['i', '\u0307']
  else [Char.ofNat (lowerCode lowerRuns c.toNat)]

/-- Whether the first character that is not passed over has case. -/
def meetsCased (cs : List Char) : Bool :=
  match cs.dropWhile (fun c => caseIgnorableRanges.contains c.toNat) with
  | [] => false
  | c :: _ => casedRanges.contains c.toNat

/-- The small sigma between the characters before it, latest first, and those after it: the final
form where a word ends. -/
def lowerSigma (before after : List Char) : Char :=
  if meetsCased before && !meetsCased after then 'ς' else 'σ'

/-- The lower-case form of a text after the characters `before`, latest first. -/
def lowerAfter (before : List Char) : List Char → List Char
  | [] => []
  | c :: cs =>
    if c = 'Σ' then lowerSigma before cs :: lowerAfter (c :: before) cs
    else lowerChar c ++ lowerAfter (c :: before) cs

/-- The lower-case form of a text. -/
def lowercase (cs : List Char) : List Char := lowerAfter [] cs

@[simp] theorem lowercase_nil : lowercase [] = [] := rfl

example : lowercase "Abstract".toList = "abstract".toList := by decide +kernel
example : lowercase "ΟΔΟΣ Σ".toList = "οδος σ".toList := by decide +kernel
example : lowercase "İÉ".toList = "i\u0307é".toList := by decide +kernel
example : lowercase "\ua7ce".toList = "\ua7cf".toList := by decide +kernel

end DraftNits.Text
