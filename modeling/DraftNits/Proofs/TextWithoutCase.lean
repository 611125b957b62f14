import DraftNits.Text.Lowercase
import Mathlib.Data.List.Basic

/-! # Lower case and beginnings

Lowering a text does not lower its beginnings one by one. What a capital sigma becomes depends on
what stands around it, so the beginning of a text can have another lower-case form than it has on
its own; and U+0130 becomes two characters, so a text in lower case can be cut where the text itself
cannot. Without the difference between the two small sigmas each character is lowered by itself
(`Text.caseless`).

* `Text.caseless_append` — without its case a text is made of its parts.
* `Text.lowercase_congr` — the case of ASCII letters does not matter.
* `Text.caseless_isPrefix_iff` — a beginning without case is a beginning, or it is cut in a U+0130.
* `Text.lowercase_isPrefix_iff` — a beginning in lower case is one without case, with the same
  sigmas.
* `Text.hasOtherSigmas_append_iff` — the beginning of a text has other sigmas on its own exactly if
  it cuts a word.
* `Text.IsPlain` — texts for which beginnings are the same in lower case. -/

namespace DraftNits.Text

/-! ## One character -/

/-- The small sigma in one form for both. -/
def oneSigma (c : Char) : Char := if c = 'ς' then 'σ' else c

/-- Whether a character has case. -/
def isCased (c : Char) : Bool := casedRanges.contains c.toNat

/-- Whether a character is passed over when the neighbours of a sigma are looked at. -/
def isPassedOver (c : Char) : Bool := caseIgnorableRanges.contains c.toNat

/-- The first character that is not passed over decides. -/
theorem meetsCased_cons (c : Char) (cs : List Char) :
    meetsCased (c :: cs) = if isPassedOver c then meetsCased cs else isCased c := by
  unfold meetsCased
  rw [List.dropWhile_cons, isPassedOver]
  by_cases passed : caseIgnorableRanges.contains c.toNat = true
  · rw [if_pos passed, if_pos passed]
  · rw [if_neg passed, if_neg passed]
    rfl

/-- A character is lowered to one character, U+0130 to two. -/
theorem lowerChar_cases (c : Char) :
    c = 'İ' ∧ lowerChar c = ['i', '\u0307'] ∨ c ≠ 'İ' ∧ ∃ d, lowerChar c = [d] := by
  by_cases dotted : c = 'İ'
  · subst dotted
    exact .inl ⟨rfl, by decide⟩
  · have other : c.toNat ≠ 0x130 := fun same => dotted (Char.ext (UInt32.toNat.inj same))
    refine .inr ⟨dotted, ?_⟩
    rw [lowerChar, if_neg other]
    split
    · exact ⟨_, rfl⟩
    · exact ⟨_, rfl⟩

/-- Lowering a character does not depend on its ASCII case, nor does what it is to a sigma. -/
theorem of_asciiLower (c : Char) :
    lowerChar (asciiLower c) = lowerChar c ∧ isCased (asciiLower c) = isCased c ∧
      isPassedOver (asciiLower c) = isPassedOver c ∧ (asciiLower c = 'Σ' ↔ c = 'Σ') := by
  by_cases upper : isAsciiUpper c = true
  · exact of_isAsciiUpper
      (p := fun c => lowerChar (asciiLower c) = lowerChar c ∧ isCased (asciiLower c) = isCased c ∧
        isPassedOver (asciiLower c) = isPassedOver c ∧ (asciiLower c = 'Σ' ↔ c = 'Σ'))
      (by decide +kernel) upper
  · simp [asciiLower, upper]

/-! ## Texts -/

/-- A text without its case: in lower case, with one form for both small sigmas. -/
def caseless (cs : List Char) : List Char := (lowercase cs).map oneSigma

/-- A sigma is lowered to a small sigma. -/
theorem oneSigma_lowerSigma (before after : List Char) :
    oneSigma (lowerSigma before after) = 'σ' := by
  unfold lowerSigma
  split
  · rfl
  · rfl

/-- What a sigma alone is lowered to. -/
theorem map_oneSigma_lowerChar_sigma : (lowerChar 'Σ').map oneSigma = ['σ'] := by decide +kernel

/-- After any characters a text is lowered character by character but for the forms of sigma. -/
theorem map_oneSigma_lowerAfter (before cs : List Char) :
    (lowerAfter before cs).map oneSigma = cs.flatMap fun c => (lowerChar c).map oneSigma := by
  induction cs generalizing before with
  | nil => rfl
  | cons c cs ih =>
    rw [lowerAfter, List.flatMap_cons]
    split
    next sigma =>
      subst sigma
      rw [List.map_cons, oneSigma_lowerSigma, ih, map_oneSigma_lowerChar_sigma]
      rfl
    next => rw [List.map_append, ih]

/-- Without its case a text is lowered character by character. -/
theorem caseless_eq_flatMap (cs : List Char) :
    caseless cs = cs.flatMap fun c => (lowerChar c).map oneSigma :=
  map_oneSigma_lowerAfter [] cs

@[simp] theorem caseless_nil : caseless [] = [] := rfl

/-- Without its case a text is made of its parts. -/
theorem caseless_append (cs ds : List Char) : caseless (cs ++ ds) = caseless cs ++ caseless ds := by
  simp only [caseless_eq_flatMap, List.flatMap_append]

/-- Without its case a text begins with its first character. -/
theorem caseless_cons (c : Char) (cs : List Char) :
    caseless (c :: cs) = (lowerChar c).map oneSigma ++ caseless cs := by
  simp only [caseless_eq_flatMap, List.flatMap_cons]

/-- The neighbours of a sigma count the same in small ASCII letters. -/
theorem meetsCased_map_asciiLower (cs : List Char) :
    meetsCased (cs.map asciiLower) = meetsCased cs := by
  induction cs with
  | nil => rfl
  | cons c cs ih =>
    obtain ⟨-, same_case, same_passed, -⟩ := of_asciiLower c
    rw [List.map_cons, meetsCased_cons, meetsCased_cons, ih, same_case, same_passed]

/-- A text in small ASCII letters is lowered as before. -/
theorem lowerAfter_map_asciiLower (before cs : List Char) :
    lowerAfter (before.map asciiLower) (cs.map asciiLower) = lowerAfter before cs := by
  induction cs generalizing before with
  | nil => rfl
  | cons c cs ih =>
    obtain ⟨same_lower, -, -, same_sigma⟩ := of_asciiLower c
    have later := ih (c :: before)
    rw [List.map_cons] at later
    rw [List.map_cons, lowerAfter, lowerAfter, later, same_lower, lowerSigma, lowerSigma,
      meetsCased_map_asciiLower, meetsCased_map_asciiLower]
    simp only [same_sigma]

/-- Texts that differ in ASCII case only are the same in lower case. -/
theorem lowercase_congr {cs ds : List Char} (same : cs.map asciiLower = ds.map asciiLower) :
    lowercase cs = lowercase ds := by
  rw [lowercase, lowercase, ← lowerAfter_map_asciiLower [] cs, same, lowerAfter_map_asciiLower]

/-! ## Sigmas -/

/-- Whether at some place one text has one form of the small sigma and the other text the other. -/
def SigmasDiffer (cs ds : List Char) : Prop :=
  ∃ i : Nat, cs[i]? = some 'σ' ∧ ds[i]? = some 'ς' ∨ cs[i]? = some 'ς' ∧ ds[i]? = some 'σ'

/-- Characters that are the same but for the forms of sigma are equal, or they are the two forms. -/
theorem oneSigma_eq_iff {c d : Char} :
    oneSigma c = oneSigma d ↔ c = d ∨ c = 'σ' ∧ d = 'ς' ∨ c = 'ς' ∧ d = 'σ' := by
  unfold oneSigma
  by_cases c_final : c = 'ς' <;> by_cases d_final : d = 'ς' <;> grind

/-- Sigmas differ at the first place or behind it. -/
theorem sigmasDiffer_cons {c d : Char} {cs ds : List Char} :
    SigmasDiffer (c :: cs) (d :: ds) ↔
      (c = 'σ' ∧ d = 'ς' ∨ c = 'ς' ∧ d = 'σ') ∨ SigmasDiffer cs ds := by
  constructor
  · rintro ⟨i, here⟩
    cases i with
    | zero => exact .inl (by simpa using here)
    | succ i => exact .inr ⟨i, by simpa using here⟩
  · rintro (here | ⟨i, there⟩)
    · exact ⟨0, by simpa using here⟩
    · exact ⟨i + 1, by simpa using there⟩

/-- A text that is a beginning but for the forms of sigma is one exactly if no sigmas differ. -/
theorem isPrefix_iff_not_sigmasDiffer {cs ds : List Char}
    (begins : cs.map oneSigma <+: ds.map oneSigma) : cs <+: ds ↔ ¬ SigmasDiffer cs ds := by
  induction cs generalizing ds with
  | nil => simp [SigmasDiffer]
  | cons c cs ih =>
    cases ds with
    | nil => simp at begins
    | cons d ds =>
      rw [List.map_cons, List.map_cons, List.cons_prefix_cons] at begins
      rw [List.cons_prefix_cons, ih begins.2, sigmasDiffer_cons, not_or]
      refine and_congr_left fun _ => ⟨?_, fun alike => ?_⟩
      · rintro rfl
        rintro (⟨rfl, other⟩ | ⟨rfl, other⟩) <;> exact absurd other (by decide)
      · exact (oneSigma_eq_iff.1 begins.1).resolve_right alike

/-- Behind the same characters the same sigmas differ. -/
theorem sigmasDiffer_append_left (ls : List Char) {cs ds : List Char} :
    SigmasDiffer (ls ++ cs) (ls ++ ds) ↔ SigmasDiffer cs ds := by
  induction ls with
  | nil => rfl
  | cons l ls ih =>
    rw [List.cons_append, List.cons_append, sigmasDiffer_cons, ih]
    refine or_iff_right ?_
    rintro (⟨rfl, other⟩ | ⟨rfl, other⟩) <;> exact absurd other (by decide)

/-- What follows a text decides for its sigmas only if all of the text behind them is passed over.
-/
theorem meetsCased_append (cs ds : List Char) :
    meetsCased (cs ++ ds) = if cs.all isPassedOver then meetsCased ds else meetsCased cs := by
  induction cs with
  | nil => rfl
  | cons c cs ih =>
    rw [List.cons_append, meetsCased_cons, meetsCased_cons, ih, List.all_cons]
    cases isPassedOver c with
    | true => rfl
    | false => rfl

/-- A text that is passed over meets nothing that has case. -/
theorem meetsCased_eq_false {cs : List Char} (passed : cs.all isPassedOver = true) :
    meetsCased cs = false := by
  have nothing := meetsCased_append cs []
  rw [List.append_nil, if_pos passed] at nothing
  exact nothing

/-- Whether a text that stands behind others ends in the middle of a word just where a sigma would
take the final form: it has a sigma behind something with case, then nothing that is not passed
over, and what follows goes on with something that has case. -/
def CutsWordAfter (before cs rest : List Char) : Prop :=
  ∃ front back, cs = front ++ 'Σ' :: back ∧ meetsCased (front.reverse ++ before) = true ∧
    (∀ c ∈ back, isPassedOver c = true) ∧ meetsCased rest = true

/-- Whether a text ends in the middle of a word just where a sigma would take the final form. -/
def CutsWord (cs rest : List Char) : Prop := CutsWordAfter [] cs rest

/-- A word is cut at the first character or behind it. -/
theorem cutsWordAfter_cons {before cs rest : List Char} {c : Char} :
    CutsWordAfter before (c :: cs) rest ↔
      (c = 'Σ' ∧ meetsCased before = true ∧ (∀ d ∈ cs, isPassedOver d = true) ∧
        meetsCased rest = true) ∨ CutsWordAfter (c :: before) cs rest := by
  constructor
  · rintro ⟨front, back, split, cased, passed, goes_on⟩
    cases front with
    | nil =>
      obtain ⟨rfl, rfl⟩ := List.cons.inj split
      exact .inl ⟨rfl, cased, passed, goes_on⟩
    | cons first front =>
      obtain ⟨rfl, rfl⟩ := List.cons.inj split
      rw [List.reverse_cons, List.append_assoc] at cased
      exact .inr ⟨front, back, rfl, cased, passed, goes_on⟩
  · rintro (⟨rfl, cased, passed, goes_on⟩ | ⟨front, back, rfl, cased, passed, goes_on⟩)
    · exact ⟨[], cs, rfl, cased, passed, goes_on⟩
    · refine ⟨c :: front, back, rfl, ?_, passed, goes_on⟩
      rwa [List.reverse_cons, List.append_assoc]

/-- What follows a text changes one sigma of it exactly if a word is cut there. -/
theorem lowerSigma_append_iff {before cs rest : List Char} :
    (lowerSigma before cs = 'σ' ∧ lowerSigma before (cs ++ rest) = 'ς' ∨
      lowerSigma before cs = 'ς' ∧ lowerSigma before (cs ++ rest) = 'σ') ↔
      meetsCased before = true ∧ (∀ c ∈ cs, isPassedOver c = true) ∧ meetsCased rest = true := by
  unfold lowerSigma
  rw [meetsCased_append, ← List.all_eq_true]
  by_cases passed : cs.all isPassedOver = true
  · rw [if_pos passed, meetsCased_eq_false passed, and_iff_right passed]
    cases meetsCased before <;> cases meetsCased rest <;> simp
  · rw [if_neg passed]
    cases meetsCased before <;> cases meetsCased cs <;> simp [passed]

/-- The beginning of a text has other sigmas there than without the rest exactly if it cuts a word.
-/
theorem sigmasDiffer_lowerAfter_append {before cs rest : List Char} :
    SigmasDiffer (lowerAfter before cs) (lowerAfter before (cs ++ rest)) ↔
      CutsWordAfter before cs rest := by
  induction cs generalizing before with
  | nil => simp [SigmasDiffer, CutsWordAfter, lowerAfter]
  | cons c cs ih =>
    rw [List.cons_append, lowerAfter, lowerAfter, cutsWordAfter_cons, ← ih]
    by_cases sigma : c = 'Σ'
    · rw [if_pos sigma, if_pos sigma, sigmasDiffer_cons, lowerSigma_append_iff,
        and_iff_right sigma]
    · rw [if_neg sigma, if_neg sigma, sigmasDiffer_append_left]
      exact (or_iff_right fun here => sigma here.1).symm

/-- Whether a text in lower case has other sigmas on its own than a title in lower case has there.
-/
def HasOtherSigmas (title wanted : List Char) : Prop :=
  SigmasDiffer (lowercase wanted) (lowercase title)

/-- The beginning of a text has other sigmas on its own exactly if it cuts a word. -/
theorem hasOtherSigmas_append_iff {cs rest : List Char} :
    HasOtherSigmas (cs ++ rest) cs ↔ CutsWord cs rest :=
  sigmasDiffer_lowerAfter_append

/-! ## Beginnings -/

/-- Whether a text begins with another one up to case: a beginning of it is the other text once the
case of both is left aside. -/
def BeginsUpToCase (title wanted : List Char) : Prop :=
  ∃ start, start <+: title ∧ caseless start = caseless wanted

/-- Whether another text is a beginning of a text that is cut in the middle of what U+0130 becomes.
-/
def CutsDotted (title wanted : List Char) : Prop :=
  ∃ start rest, title = start ++ 'İ' :: rest ∧ caseless wanted = caseless start ++ ['i']

/-- A beginning without case is a beginning up to case, or it is cut in a U+0130. -/
theorem exists_of_isPrefix_caseless {title part : List Char} (begins : part <+: caseless title) :
    (∃ start, start <+: title ∧ caseless start = part) ∨
      ∃ start rest, title = start ++ 'İ' :: rest ∧ part = caseless start ++ ['i'] := by
  induction title generalizing part with
  | nil => exact .inl ⟨[], List.nil_prefix, (List.prefix_nil.1 begins).symm⟩
  | cons c title ih =>
    -- What is found in the rest of the text is found in the text.
    have behind : ∀ {tail}, tail <+: caseless title → part = (lowerChar c).map oneSigma ++ tail →
        (∃ start, start <+: c :: title ∧ caseless start = part) ∨
          ∃ start rest, c :: title = start ++ 'İ' :: rest ∧ part = caseless start ++ ['i'] := by
      rintro tail tail_begins rfl
      rcases ih tail_begins with ⟨start, is_start, rfl⟩ | ⟨start, others, rfl, rfl⟩
      · exact .inl ⟨c :: start, List.cons_prefix_cons.2 ⟨rfl, is_start⟩, caseless_cons c start⟩
      · exact .inr ⟨c :: start, others, rfl, by rw [caseless_cons, List.append_assoc]⟩
    rw [caseless_cons] at begins
    rcases lowerChar_cases c with ⟨rfl, lowered⟩ | ⟨-, d, lowered⟩
    · rw [lowered, show ['i', '\u0307'].map oneSigma = ['i', '\u0307'] from rfl] at begins behind
      -- A beginning takes none of the two characters of U+0130, or one of them, or both.
      match part, begins with
      | [], _ => exact .inl ⟨[], List.nil_prefix, rfl⟩
      | [first], begins =>
        obtain ⟨rfl, -⟩ := List.cons_prefix_cons.1 begins
        exact .inr ⟨[], title, rfl, rfl⟩
      | first :: second :: tail, begins =>
        obtain ⟨rfl, second_begins⟩ := List.cons_prefix_cons.1 begins
        obtain ⟨rfl, tail_begins⟩ := List.cons_prefix_cons.1 second_begins
        exact behind tail_begins rfl
    · rw [lowered, List.map_singleton] at begins behind
      match part, begins with
      | [], _ => exact .inl ⟨[], List.nil_prefix, rfl⟩
      | first :: tail, begins =>
        obtain ⟨rfl, tail_begins⟩ := List.cons_prefix_cons.1 begins
        exact behind tail_begins rfl

/-- A beginning without case is a beginning up to case, or it is cut in a U+0130. -/
theorem caseless_isPrefix_iff {title wanted : List Char} :
    caseless wanted <+: caseless title ↔ BeginsUpToCase title wanted ∨ CutsDotted title wanted := by
  constructor
  · intro begins
    rcases exists_of_isPrefix_caseless begins with found | cut
    · exact .inl found
    · exact .inr cut
  · rintro (⟨start, ⟨rest, rfl⟩, same⟩ | ⟨start, rest, rfl, same⟩)
    · rw [← same, caseless_append]
      exact List.prefix_append _ _
    · rw [same, caseless_append, caseless_cons]
      exact (List.prefix_append_right_inj _).2 ⟨'\u0307' :: caseless rest, rfl⟩

/-- A beginning in lower case is one without case that has the same sigmas. -/
theorem lowercase_isPrefix_iff {title wanted : List Char} :
    lowercase wanted <+: lowercase title ↔
      (BeginsUpToCase title wanted ∨ CutsDotted title wanted) ∧ ¬ HasOtherSigmas title wanted := by
  rw [← caseless_isPrefix_iff]
  constructor
  · intro begins
    have alike : caseless wanted <+: caseless title := begins.map oneSigma
    exact ⟨alike, (isPrefix_iff_not_sigmasDiffer alike).1 begins⟩
  · rintro ⟨alike, no_sigma⟩
    exact (isPrefix_iff_not_sigmasDiffer alike).2 no_sigma

example : lowercase "i".toList <+: lowercase "İzmir".toList := by decide +kernel
example : ¬ lowercase "ΟΔΟΣ".toList <+: lowercase "ΟΔΟΣΗΜΑ".toList := by decide +kernel

/-- Whether a text has no sigma and does not end in `i`, up to case. -/
def IsPlain (wanted : List Char) : Prop :=
  'σ' ∉ caseless wanted ∧ (caseless wanted).getLast? ≠ some 'i'

instance (wanted : List Char) : Decidable (IsPlain wanted) := inferInstanceAs (Decidable (_ ∧ _))

/-- A text without sigmas has no others. -/
theorem IsPlain.not_hasOtherSigmas {title wanted : List Char} (plain : IsPlain wanted) :
    ¬ HasOtherSigmas title wanted := by
  rintro ⟨i, here⟩
  obtain ⟨c, small, found⟩ : ∃ c, oneSigma c = 'σ' ∧ (lowercase wanted)[i]? = some c := by
    rcases here with ⟨found, -⟩ | ⟨found, -⟩
    · exact ⟨'σ', rfl, found⟩
    · exact ⟨'ς', rfl, found⟩
  exact plain.1 (List.mem_map.2 ⟨c, List.mem_of_getElem? found, small⟩)

/-- A text that does not end in `i` is not cut in a U+0130. -/
theorem IsPlain.not_cutsDotted {title wanted : List Char} (plain : IsPlain wanted) :
    ¬ CutsDotted title wanted := by
  rintro ⟨start, rest, -, ends⟩
  exact plain.2 (by rw [ends, List.getLast?_concat])

end DraftNits.Text
