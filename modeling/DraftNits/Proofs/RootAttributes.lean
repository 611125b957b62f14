import DraftNits.Proofs.Numerals
import DraftNits.Proofs.SpelledAttributes
import DraftNits.Proofs.StartTags
import DraftNits.RfcXml.Document

/-! # The attributes of the root in malformed documents

A malformed document is searched for the tag of its root line by line, and the whole of such a line
for attributes of the root. An attribute of the tag is thus spelled on the line, at its own place,
but something else on the line may spell it first: the version in an XML declaration, what stands in a
comment or in another tag, or an attribute with a prefix. What stands behind the tag is in the way only
of attributes that the tag does not have.

* `RootAttributes.ofFront_readLines_of_hasTag` — what is saved of the root is what its line spells
  first.
* `spellsAt_own` — the line spells the attributes of the tag at their places.
* `SpelledFirst`, `bind_eq_own_iff` — when the first spelling on a line reads like the attribute of
  the tag.
* `rootAttributes_recovered_iff` — when the attributes that are saved are those of the tag. -/

namespace DraftNits.RfcXml

variable {name : String} {p : Char → Bool} {line : List Char}

/-! ## The line of the root -/

/-- White space is no part of a word. -/
theorem isWord_of_isSpace {c : Char} (space : Xml.isSpace c = true) : Text.isWord c = false := by
  rcases Xml.isSpace_iff.1 space with rfl | rfl | rfl | rfl <;> decide

/-- White space of a tag is white space of a text. -/
theorem isBlank_of_isSpace {c : Char} (space : Xml.isSpace c = true) : Text.isBlank c = true := by
  rcases Xml.isSpace_iff.1 space with rfl | rfl | rfl | rfl <;> decide

/-- A tag that starts in a part of a line starts on the line. -/
theorem hasTag_append {tag : String} {text : List Char} (starts : hasTag tag text = true)
    (before : List Char) : hasTag tag (before ++ text) = true := by
  induction before with
  | nil => exact starts
  | cons c cs ih => rw [List.cons_append, hasTag, ih, Bool.or_true]

/-- The tag of the root is met on its line. -/
theorem hasTag_text (before : List Char) (tag : Xml.RootTag) (after : List Char) :
    hasTag "rfc" (before ++ (tag.text ++ after)) = true := by
  obtain ⟨c, cs, behind, is_stop⟩ := tag.exists_behind_name after
  have no_word : Text.isWord c = false := by
    rcases is_stop with space | rfl | rfl
    · exact isWord_of_isSpace space
    · decide
    · decide
  have parts : tag.text ++ after = '<' :: ("rfc".toList ++ c :: cs) := by
    rw [← behind]
    simp [Xml.RootTag.text]
  have named : afterTagName? "rfc" ('<' :: ("rfc".toList ++ c :: cs)) = some (c :: cs) := by
    have start : Text.afterStart? ('<' :: "rfc".toList) ('<' :: ("rfc".toList ++ c :: cs)) =
        some (c :: cs) := Text.afterStart?_append _ _
    have ends : wordEnds (c :: cs) = true := by simp [wordEnds, no_word]
    simp only [afterTagName?, start, if_pos ends]
  refine hasTag_append ?_ before
  rw [parts, hasTag, named]
  rfl

/-! ## What is saved -/

/-- The attributes of a root among front matter. -/
structure RootAttributes where
  /-- The draft name. -/
  draftName : Option String
  /-- The version of the XML vocabulary. -/
  version : Option String
  /-- The number of an RFC. -/
  number : Option Nat
  deriving DecidableEq

namespace RootAttributes

/-- The attributes of the root in front matter. -/
def ofFront (front : FrontMatter) : RootAttributes :=
  ⟨front.draftName, front.xmlVersion, front.rfcNumber⟩

/-- The attributes of a root without attributes. -/
def empty : RootAttributes := ⟨none, none, none⟩

/-- The attributes that a line spells first. -/
def spelledOn (line : List Char) : RootAttributes where
  draftName := (firstAttribute? "docName" line).map String.ofList
  version := (firstAttribute? "version" line).map String.ofList
  number := (firstNumber? "number" line).bind Text.readUnsigned32?

variable {saved : Recovered} {number : Nat}

/-- A line without the tag of the root leaves its attributes. -/
theorem ofFront_readLine (no_tag : hasTag "rfc" line = false) :
    ofFront (saved.readLine number line).front = ofFront saved.front := by
  simp [ofFront, Recovered.readLine, Recovered.readFront, no_tag]

/-- Of the line with the tag of the root the attributes are taken that it spells first. -/
theorem ofFront_readLine_of_hasTag (nothing : ofFront saved.front = empty)
    (has_tag : hasTag "rfc" line = true) :
    ofFront (saved.readLine number line).front = spelledOn line := by
  obtain ⟨no_name, no_version, no_number⟩ := RootAttributes.mk.inj nothing
  simp only [ofFront, spelledOn, Recovered.readLine, Recovered.readFront, has_tag, if_true,
    Recovered.readRoot]
  cases firstAttribute? "docName" line <;> cases firstNumber? "number" line <;>
    cases firstAttribute? "version" line <;> simp [no_name, no_version, no_number]

/-- Lines without the tag of the root leave its attributes. -/
theorem ofFront_readLines {lines : List (List Char)}
    (no_tag : ∀ other ∈ lines, hasTag "rfc" other = false) :
    ofFront (saved.readLines number lines).front = ofFront saved.front := by
  induction lines generalizing saved number with
  | nil => rfl
  | cons other later ih =>
    rw [List.forall_mem_cons] at no_tag
    rw [Recovered.readLines, ih no_tag.2, ofFront_readLine no_tag.1]

/-- What is saved of the root is what the only line with its tag spells first. -/
theorem ofFront_readLines_of_hasTag (nothing : ofFront saved.front = empty)
    {earlier later : List (List Char)} (has_tag : hasTag "rfc" line = true)
    (no_tag : ∀ other ∈ earlier ++ later, hasTag "rfc" other = false) :
    ofFront (saved.readLines number (earlier ++ line :: later)).front = spelledOn line := by
  rw [List.forall_mem_append] at no_tag
  obtain ⟨none_earlier, none_later⟩ := no_tag
  induction earlier generalizing saved number with
  | nil =>
    rw [List.nil_append, Recovered.readLines, ofFront_readLines none_later,
      ofFront_readLine_of_hasTag nothing has_tag]
  | cons other earlier ih =>
    rw [List.forall_mem_cons] at none_earlier
    rw [List.cons_append, Recovered.readLines]
    exact ih ((ofFront_readLine none_earlier.1).trans nothing) none_earlier.2

end RootAttributes

/-! ## The attributes of the tag -/

/-- Whether a line with a tag `offset` characters from its start spells an attribute of the tag first:
the first spelling on the line is not behind that of the tag and reads like it. The attribute is given
by its place in the tag and its value. One that the tag does not have is spelled first if the first
spelling on the line, if there is one, cannot be read. -/
def SpelledFirst {α : Type} (read : List Char → Option α) (name : String) (p : Char → Bool)
    (line : List Char) (offset : Nat) : Option (Nat × List Char) → Prop
  | some (place, value) => ∃ here ≤ offset + place, ∃ first,
      FirstAt name p line here first ∧ read first = read value
  | none => ∀ here first, FirstAt name p line here first → read first = none

section SpelledFirst

variable {α : Type} {read : List Char → Option α} {offset : Nat}

/-- An attribute that the tag does not have may not be spelled on the line at all if every value can
be read. -/
theorem spelledFirst_none_iff {line : List Char} {write : List Char → α} :
    SpelledFirst (fun value => some (write value)) name isValueChar line offset none ↔
      ∀ place value, ¬ SpellsAt name isValueChar line place value := by
  rw [← firstAttribute?_eq_none_iff]
  constructor
  · intro nothing
    cases found : firstAttribute? name line with
    | none => rfl
    | some first =>
      obtain ⟨here, is_first⟩ := firstAttribute?_eq_some_iff.1 found
      cases nothing here first is_first
  · intro nothing here first is_first
    rw [firstAttribute?_eq_some_iff.2 ⟨here, is_first⟩] at nothing
    cases nothing

/-- The first spelling on a line reads like an attribute exactly where the attribute is spelled
first. The attribute can be read, and no first spelling behind it reads like it. -/
theorem bind_eq_own_iff {own : Option (Nat × List Char)} {found : Option (List Char)}
    (is_first : ∀ first, found = some first ↔ ∃ here, FirstAt name p line here first)
    (reads : ∀ place value, own = some (place, value) → (read value).isSome = true)
    (none_behind : ∀ place value, own = some (place, value) → ∀ here first,
      FirstAt name p line here first → read first = read value → here ≤ offset + place) :
    found.bind read = own.bind (fun part => read part.2) ↔
      SpelledFirst read name p line offset own := by
  cases own with
  | none =>
    rw [Option.bind_none, Option.bind_eq_none_iff]
    constructor
    · intro nothing here first is_here
      exact nothing first ((is_first first).2 ⟨here, is_here⟩)
    · intro nothing first is_found
      obtain ⟨here, is_here⟩ := (is_first first).1 is_found
      exact nothing here first is_here
  | some own =>
    obtain ⟨place, value⟩ := own
    constructor
    · intro same
      obtain ⟨a, is_read⟩ := Option.isSome_iff_exists.1 (reads place value rfl)
      rw [Option.bind_some, is_read, Option.bind_eq_some_iff] at same
      obtain ⟨first, is_found, same⟩ := same
      obtain ⟨here, is_here⟩ := (is_first first).1 is_found
      have alike := same.trans is_read.symm
      exact ⟨here, none_behind place value rfl here first is_here alike, first, is_here, alike⟩
    · rintro ⟨here, -, first, is_here, alike⟩
      rw [(is_first first).2 ⟨here, is_here⟩]
      exact alike

end SpelledFirst

/-- A line with the tag spells the attributes of the tag at their places. -/
theorem spellsAt_own (p : Char → Bool) (before after : List Char) {tag : Xml.RootTag} {place : Nat}
    {value : List Char} (is_own : tag.own? name = some (place, value)) :
    ∃ raw, raw.map Xml.spaceForBreak = value ∧ (∀ c ∈ raw, Xml.isPlainChar c = true) ∧
      (raw ≠ [] → (∀ c ∈ raw, p c = true) →
        SpellsAt name p (before ++ (tag.text ++ after)) (before.length + place) raw) := by
  obtain ⟨front, a, behind, is_text, is_place, is_value, last, is_last, ends⟩ :=
    Xml.RootTag.own?_eq_some is_own
  refine ⟨a.value, is_value, a.valueChars, fun some_value all =>
    ⟨before ++ front, name.toList ++ (a.assignment ++ (behind ++ after)), ?_, ?_, ?_, ?_⟩⟩
  · simp [is_text]
  · rw [List.length_append, is_place]
  · have no_word : Text.isWord last = false := by
      rcases ends with space | rfl
      · exact isWord_of_isSpace space
      · decide
    rw [List.getLast?_append, is_last, Option.some_or]
    exact no_word
  · have is_mark : isQuoteMark a.mark = true := isQuoteMark_iff.2 a.isMark.symm
    refine ⟨a.before, a.after, a.mark, a.mark, behind ++ after, ?_,
      fun c mem => isBlank_of_isSpace (a.beforeSpaces c mem),
      fun c mem => isBlank_of_isSpace (a.afterSpaces c mem), is_mark, is_mark, some_value, all⟩
    simp [Xml.WrittenAttribute.assignment]

/-- A value on one line without quotation marks is one that is looked for. -/
theorem isValueChar_of_isPlainChar {c : Char} (plain : Xml.isPlainChar c = true) :
    isValueChar c = true := by
  simp only [Xml.isPlainChar, Bool.and_eq_true] at plain
  rw [isValueChar, isQuoteMark, Bool.not_or]
  exact Bool.and_eq_true_iff.2 plain.1.1.1.1

/-- An attribute of the tag is saved as the tag has it exactly where the line spells it first. -/
theorem map_firstAttribute?_eq_value?_iff (name : String) (before : List Char) (tag : Xml.RootTag)
    (after : List Char) :
    (firstAttribute? name (before ++ (tag.text ++ after))).map String.ofList = tag.value? name ↔
      SpelledFirst (fun value => some (String.ofList value)) name isValueChar
        (before ++ (tag.text ++ after)) before.length (tag.own? name) := by
  rw [Option.map_eq_bind, Xml.RootTag.value?, Option.map_eq_bind]
  refine bind_eq_own_iff (fun first => firstAttribute?_eq_some_iff) (fun _ _ _ => rfl) ?_
  intro place value is_own here first is_first alike
  obtain rfl : first = value := by simpa using congrArg (Option.map String.toList) alike
  obtain ⟨raw, is_value, plain, spelled⟩ := spellsAt_own isValueChar before after is_own
  -- Nothing is spelled without a value, so the value of the tag is not empty.
  have some_value := is_first.1.value_ne_nil
  refine is_first.le (spelled ?_ fun c mem => isValueChar_of_isPlainChar (plain c mem))
  rintro rfl
  exact some_value is_value.symm

/-! ## Numbers -/

/-- Whether a value is a number in decimal digits that fits 32 bits. -/
def IsNumber32 (value : List Char) : Prop :=
  Json.IsDigits value ∧ Text.digitsValue value < UInt32.size

/-- A number that fits 32 bits is read. -/
theorem readUnsigned32?_of_isNumber32 {value : List Char} (is_number : IsNumber32 value) :
    Text.readUnsigned32? value = some (Text.digitsValue value) :=
  Text.readUnsigned32?_eq_some_iff.2 ⟨value, .inl rfl, is_number.1, rfl, is_number.2⟩

/-- A value that is read as digits is written in them. -/
theorem isDigits_of_map_spaceForBreak {raw : List Char}
    (is_digits : Json.IsDigits (raw.map Xml.spaceForBreak)) : Json.IsDigits raw := by
  refine ⟨fun nothing => is_digits.1 (List.map_eq_nil_iff.2 nothing), fun c mem => ?_⟩
  have digit := is_digits.2 _ (List.mem_map_of_mem mem)
  rw [Xml.spaceForBreak] at digit
  split at digit
  · exact absurd digit (by decide)
  · exact digit

/-- A number of the tag is saved as the tag has it exactly where the line spells it first. -/
theorem bind_firstNumber?_eq_own?_iff {before after : List Char} {tag : Xml.RootTag}
    (is_number : ∀ own ∈ tag.own? name, IsNumber32 own.2) :
    (firstNumber? name (before ++ (tag.text ++ after))).bind Text.readUnsigned32? =
        (tag.own? name).bind (fun own => Text.readUnsigned32? own.2) ↔
      SpelledFirst Text.readUnsigned32? name Text.isDecimalDigit
        (before ++ (tag.text ++ after)) before.length (tag.own? name) := by
  refine bind_eq_own_iff (fun first => firstNumber?_eq_some_iff) ?_ ?_
  · intro place value is_own
    rw [readUnsigned32?_of_isNumber32 (is_number _ is_own)]
    rfl
  · intro place value is_own here first is_first _
    obtain ⟨raw, rfl, -, spelled⟩ := spellsAt_own Text.isDecimalDigit before after is_own
    have digits := isDigits_of_map_spaceForBreak (is_number _ is_own).1
    exact is_first.le (spelled digits.1 fun c mem =>
      Text.isDecimalDigit_of_isAsciiDigit (digits.2 c mem))

/-! ## Malformed documents -/

/-- The number of the tag of the root. -/
def number? (tag : Xml.RootTag) : Option Nat :=
  (tag.own? "number").bind fun own => Text.readUnsigned32? own.2

/-- Whether the tag of the root has a number in decimal digits that fits 32 bits, if it has one. -/
def HasNumber32 (tag : Xml.RootTag) : Prop := ∀ own ∈ tag.own? "number", IsNumber32 own.2

/-- The tree has the number of the tag for that of its root. -/
theorem rfcNumber?_eq_number? {tag : Xml.RootTag} {root : Xml.Node} (fits : HasNumber32 tag)
    (reads : root.attribute? "number" = tag.value? "number") : rfcNumber? root = number? tag := by
  rw [rfcNumber?, reads, Xml.RootTag.value?, number?]
  cases is_own : tag.own? "number" with
  | none => rfl
  | some own => simp [Text.trim_of_isDigits (fits own is_own).1]

/-- Whether the tag of the root stands behind `before` on a line of a text, and on no other line
does such a tag start. -/
structure HasRootLine (text line before : List Char) (tag : Xml.RootTag) : Prop where
  /-- It is the only line with the tag. -/
  only : ∃ earlier later, Text.splitLines text = earlier ++ line :: later ∧
    ∀ other ∈ earlier ++ later, hasTag "rfc" other = false
  /-- The whole tag stands on it. -/
  stands : ∃ after, line = before ++ (tag.text ++ after)

/-- What is saved of the root of a malformed text is what its line spells first. -/
theorem recovered_frontMatter (path : String) {text before : List Char} {tag : Xml.RootTag}
    {error : Xml.SyntaxError} (malformed : Xml.parse text = .error error)
    (has_root : HasRootLine text line before tag) :
    ∃ doc, readDocument path text (Text.splitLines text) = .ok doc ∧
      RootAttributes.ofFront doc.front = RootAttributes.spelledOn line := by
  obtain ⟨earlier, later, is_lines, no_tag⟩ := has_root.only
  obtain ⟨after, rfl⟩ := has_root.stands
  refine ⟨recover path (Text.splitLines text)
    (syntaxDiagnostic (Text.splitLines text).length error), by rw [readDocument, malformed], ?_⟩
  rw [is_lines]
  exact RootAttributes.ofFront_readLines_of_hasTag rfl (hasTag_text before tag after) no_tag

/-- The draft name, the version and the number that are saved of a malformed text are those of the
tag of the root, as the reader of trees finds them in it, exactly where the line of the tag spells
them first: what is first spelled like one of them is not behind it and reads like it, and if the tag
has no such attribute, nothing that can be read is first spelled like one. -/
theorem rootAttributes_recovered_iff (path : String) {text before : List Char} {tag : Xml.RootTag}
    {error : Xml.SyntaxError} (malformed : Xml.parse text = .error error)
    (has_root : HasRootLine text line before tag) :
    (∃ doc, readDocument path text (Text.splitLines text) = .ok doc ∧
      (doc.front.draftName = tag.value? "docName" ↔
        SpelledFirst (fun value => some (String.ofList value)) "docName" isValueChar line
          before.length (tag.own? "docName")) ∧
      (doc.front.xmlVersion = tag.value? "version" ↔
        SpelledFirst (fun value => some (String.ofList value)) "version" isValueChar line
          before.length (tag.own? "version")) ∧
      (HasNumber32 tag → (doc.front.rfcNumber = number? tag ↔
        SpelledFirst Text.readUnsigned32? "number" Text.isDecimalDigit line
          before.length (tag.own? "number")))) ∧
    ∀ {entities levels place rest started tagEnd next},
      Xml.Scan.startTag entities levels Xml.Builder.empty ⟨place, tag.text ++ rest⟩ =
          .ok ((started, tagEnd), next) →
        ∃ root : Xml.Node, started.nodes = [root] ∧ root.hasName "rfc" = true ∧
          (frontMatter root).draftName = tag.value? "docName" ∧
          (frontMatter root).xmlVersion = tag.value? "version" ∧
          (HasNumber32 tag → (frontMatter root).rfcNumber = number? tag) := by
  refine ⟨?_, ?_⟩
  · obtain ⟨doc, is_doc, same⟩ := recovered_frontMatter path malformed has_root
    obtain ⟨same_name, same_version, same_number⟩ := RootAttributes.mk.inj same
    obtain ⟨after, rfl⟩ := has_root.stands
    refine ⟨doc, is_doc, ?_, ?_, fun fits => ?_⟩
    · rw [same_name]
      exact map_firstAttribute?_eq_value?_iff "docName" before tag after
    · rw [same_version]
      exact map_firstAttribute?_eq_value?_iff "version" before tag after
    · rw [same_number]
      exact bind_firstNumber?_eq_own?_iff fits
  · intro entities levels place rest started tagEnd next done
    obtain ⟨-, root, is_root, is_rfc, reads⟩ := tag.reads_own done
    exact ⟨root, is_root, is_rfc, reads "docName" (by decide), reads "version" (by decide),
      fun fits => rfcNumber?_eq_number? fits (reads "number" (by decide))⟩

/-- An XML declaration. -/
def declaration : List Char := "<?xml version=\"1.0\"?>".toList

/-- A tag of a root with a draft name. -/
def draftTag : Xml.RootTag where
  attributes := [{
    gap := [' ']
    name := "docName".toList
    before := []
    after := []
    mark := '"'
    value := "draft-x-y-00".toList
    qname := ⟨"", "docName"⟩
    hasGap := List.cons_ne_nil _ _
    gapSpaces := List.all_eq_true.1 rfl
    isName := by decide +kernel
    nameChars := List.all_eq_true.1 (by decide +kernel)
    beforeSpaces := List.forall_mem_nil _
    afterSpaces := List.forall_mem_nil _
    isMark := .inr rfl
    valueChars := List.all_eq_true.1 (by decide +kernel) }]
  space := []
  closed := false
  isSpaces := List.forall_mem_nil _

example : (Xml.Scan.startTag [] Xml.maxNesting Xml.Builder.empty
    ⟨.start, draftTag.text⟩).isOk = true := by decide +kernel

/-- A malformed text with an XML declaration and the tag of the root on one line. -/
def declaredText : List Char := declaration ++ (draftTag.text ++ "\n<t>\n".toList)

/-- The first line of that text is the one with the tag. -/
theorem hasRootLine_declaredText :
    HasRootLine declaredText (declaration ++ draftTag.text) declaration draftTag where
  only := ⟨[], ["<t>".toList], by decide +kernel, by decide +kernel⟩
  stands := ⟨[], by rw [List.append_nil]⟩

/-- A text that is not read is malformed. -/
theorem exists_parse_eq_error {text : List Char} (failed : (Xml.parse text).isOk = false) :
    ∃ error, Xml.parse text = .error error := by
  cases parsed : Xml.parse text with
  | error error => exact ⟨error, rfl⟩
  | ok nodes =>
    rw [parsed] at failed
    cases failed

/-- That text is malformed. -/
theorem exists_parse_declaredText : ∃ error, Xml.parse declaredText = .error error :=
  exists_parse_eq_error (by decide +kernel)

/-- The tag has no number. -/
theorem hasNumber32_draftTag : HasNumber32 draftTag := by
  have nothing : draftTag.own? "number" = none := by decide +kernel
  intro own is_own
  rw [nothing] at is_own
  cases is_own

/-- The version in the XML declaration is saved for a version of the root, which has none. -/
theorem not_rootAttributes_recovered :
    ¬ ∀ (path : String) (text line before : List Char) (tag : Xml.RootTag) (error : Xml.SyntaxError),
      Xml.parse text = .error error → HasRootLine text line before tag → HasNumber32 tag →
        ∃ doc, readDocument path text (Text.splitLines text) = .ok doc ∧
          doc.front.draftName = tag.value? "docName" ∧
          doc.front.xmlVersion = tag.value? "version" ∧
          doc.front.rfcNumber = number? tag := by
  intro always
  obtain ⟨error, malformed⟩ := exists_parse_declaredText
  obtain ⟨doc, is_doc, -, own_version, -⟩ := always "draft.xml" declaredText _ _ draftTag error
    malformed hasRootLine_declaredText hasNumber32_draftTag
  obtain ⟨same, is_same, saved⟩ :=
    recovered_frontMatter "draft.xml" malformed hasRootLine_declaredText
  obtain rfl : same = doc := Except.ok.inj (is_same.symm.trans is_doc)
  have version : same.front.xmlVersion = some "1.0" := by
    rw [(RootAttributes.mk.inj saved).2.1]
    decide +kernel
  have no_version : draftTag.value? "version" = none := by decide +kernel
  rw [version, no_version] at own_version
  cases own_version

/-- Of that text the draft name of the tag is saved, no number, and a version that is not that of the
tag. -/
theorem rootAttributes_recovered_iff_declared :
    ∃ error doc, Xml.parse declaredText = .error error ∧
      HasRootLine declaredText (declaration ++ draftTag.text) declaration draftTag ∧
      readDocument "draft.xml" declaredText (Text.splitLines declaredText) = .ok doc ∧
      doc.front.draftName = draftTag.value? "docName" ∧
      doc.front.xmlVersion ≠ draftTag.value? "version" ∧
      doc.front.rfcNumber = number? draftTag := by
  obtain ⟨error, malformed⟩ := exists_parse_declaredText
  obtain ⟨⟨doc, is_doc, name_iff, version_iff, number_iff⟩, -⟩ :=
    rootAttributes_recovered_iff "draft.xml" malformed hasRootLine_declaredText
  refine ⟨error, doc, malformed, hasRootLine_declaredText, is_doc, ?_, ?_, ?_⟩
  · refine name_iff.2 ?_
    have is_own : draftTag.own? "docName" = some (5, "draft-x-y-00".toList) := by decide +kernel
    obtain ⟨here, is_first⟩ := firstAttribute?_eq_some_iff.1
      (by decide +kernel : firstAttribute? "docName" (declaration ++ draftTag.text) =
        some "draft-x-y-00".toList)
    have spelled : SpellsAt "docName" isValueChar (declaration ++ draftTag.text)
        (declaration.length + 5) "draft-x-y-00".toList :=
      ⟨declaration ++ "<rfc ".toList, "docName=\"draft-x-y-00\">".toList, by decide +kernel,
        by decide +kernel, by decide +kernel, [], [], '"', '"', ['>'], by decide +kernel,
        List.forall_mem_nil _, List.forall_mem_nil _, rfl, rfl, List.cons_ne_nil _ _,
        List.all_eq_true.1 (by decide +kernel)⟩
    rw [is_own]
    exact ⟨here, is_first.le spelled, _, is_first, rfl⟩
  · have no_own : draftTag.own? "version" = none := by decide +kernel
    obtain ⟨here, is_first⟩ := firstAttribute?_eq_some_iff.1
      (by decide +kernel : firstAttribute? "version" (declaration ++ draftTag.text) =
        some "1.0".toList)
    intro same
    have nothing := version_iff.1 same
    rw [no_own, spelledFirst_none_iff] at nothing
    exact nothing here _ is_first.1
  · refine (number_iff hasNumber32_draftTag).2 ?_
    have no_own : draftTag.own? "number" = none := by decide +kernel
    rw [no_own]
    intro here first is_first
    have found := firstNumber?_eq_some_iff.2 ⟨here, is_first⟩
    have nothing : firstNumber? "number" (declaration ++ draftTag.text) = none := by decide +kernel
    rw [nothing] at found
    cases found

end DraftNits.RfcXml
