import DraftNits.Proofs.JsonParts
import DraftNits.Proofs.XmlTree

/-! # Start tags as they are written

A start tag whose values need no references is read attribute by attribute: each one with its name,
and with its value but for tabs and carriage returns, which are read as spaces. Name spaces are
declared on the way and attributes with prefixes are in name spaces; neither is one of the attributes
that the root is asked for.

* `WrittenAttribute`, `RootTag` — a start tag of the root in its parts.
* `RootTag.own?` — an attribute of the tag, with the place of its name in the tag.
* `Scan.oneAttribute_eq_ok`, `Scan.tagRest_eq_ok` — what the reader of tags takes from the parts.
* `RootTag.reads_own` — where the tag is read, the element has the attributes of the tag. -/

namespace DraftNits.Xml

/-! ## Parts of a tag -/

/-- A character of a value on one line that needs no references: no quotation mark, no line feed, and
none that starts a reference or bounds a tag. -/
def isPlainChar (c : Char) : Bool :=
  c != '"' && c != '\'' && c != '&' && c != '<' && c != '>' && c != '\n'

/-- An attribute in a start tag, with the white space in front of it. -/
structure WrittenAttribute where
  /-- The white space in front of the name. -/
  gap : List Char
  /-- The name. -/
  name : List Char
  /-- The white space in front of the equals sign. -/
  before : List Char
  /-- The white space behind it. -/
  after : List Char
  /-- The quotation mark on either side of the value. -/
  mark : Char
  /-- The value. -/
  value : List Char
  /-- The name in its two parts. -/
  qname : QName
  /-- There is white space in front of the name. -/
  hasGap : gap ≠ []
  /-- It is white space. -/
  gapSpaces : ∀ c ∈ gap, isSpace c = true
  /-- The name has those parts. -/
  isName : QName.ofRun? name = some qname
  /-- It has the characters of a name. -/
  nameChars : ∀ c ∈ name, isNameChar c = true
  /-- White space stands in front of the equals sign. -/
  beforeSpaces : ∀ c ∈ before, isSpace c = true
  /-- White space stands behind it. -/
  afterSpaces : ∀ c ∈ after, isSpace c = true
  /-- The mark is one of the two kinds. -/
  isMark : mark = '\'' ∨ mark = '"'
  /-- The value needs no references. -/
  valueChars : ∀ c ∈ value, isPlainChar c = true

namespace WrittenAttribute

/-- The text of an attribute behind its name. -/
def assignment (a : WrittenAttribute) : List Char :=
  a.before ++ '=' :: (a.after ++ a.mark :: (a.value ++ [a.mark]))

/-- The text of an attribute without the white space in front of it. -/
def body (a : WrittenAttribute) : List Char := a.name ++ a.assignment

/-- The text of an attribute. -/
def text (a : WrittenAttribute) : List Char := a.gap ++ a.body

/-- The value as it is read: tabs and carriage returns are spaces. -/
def reading (a : WrittenAttribute) : List Char := a.value.map spaceForBreak

/-- Whether an attribute has a name and is in no name space. -/
def IsNamed (a : WrittenAttribute) (name : String) : Prop := a.qname = ⟨"", name⟩

instance (a : WrittenAttribute) (name : String) : Decidable (a.IsNamed name) :=
  inferInstanceAs (Decidable (_ = _))

end WrittenAttribute

/-- A start tag of the root. -/
structure RootTag where
  /-- The attributes. -/
  attributes : List WrittenAttribute
  /-- The white space behind them. -/
  space : List Char
  /-- Whether the element is closed at once. -/
  closed : Bool
  /-- It is white space. -/
  isSpaces : ∀ c ∈ space, isSpace c = true

namespace RootTag

/-- The end of a start tag. -/
def ending (tag : RootTag) : List Char :=
  tag.space ++ if tag.closed then ['/', '>'] else ['>']

/-- The text of a start tag. -/
def text (tag : RootTag) : List Char :=
  "<rfc".toList ++ (tag.attributes.flatMap WrittenAttribute.text ++ tag.ending)

/-- The first of some attributes with a name, and the place at which the name starts; the text of the
attributes starts at `place`. The name may have a colon in front of it. -/
def findFrom? (name : String) (place : Nat) : List WrittenAttribute → Option (Nat × WrittenAttribute)
  | [] => none
  | a :: later =>
    if a.IsNamed name then some (place + a.gap.length + (a.name.length - name.toList.length), a)
    else findFrom? name (place + a.text.length) later

/-- The place and the value of the first attribute with a name. -/
def own? (tag : RootTag) (name : String) : Option (Nat × List Char) :=
  (findFrom? name "<rfc".toList.length tag.attributes).map fun found =>
    (found.1, found.2.reading)

/-- The value of the first attribute with a name. -/
def value? (tag : RootTag) (name : String) : Option String :=
  (tag.own? name).map fun own => String.ofList own.2

end RootTag

/-! ## Small readers -/

/-- There are four characters of white space. -/
theorem isSpace_iff {c : Char} : isSpace c = true ↔ c = ' ' ∨ c = '\t' ∨ c = '\n' ∨ c = '\r' := by
  simp [isSpace, or_assoc]

/-- White space ends a name. -/
theorem isNameChar_of_isSpace {c : Char} (space : isSpace c = true) : isNameChar c = false := by
  rcases isSpace_iff.1 space with rfl | rfl | rfl | rfl <;> decide +kernel

namespace Scan

variable {α β : Type} {p : Position} {rest : List Char}

/-- A reader that succeeds hands its value and its cursor on. -/
theorem bind_eq {scan : Scan α} {f : α → Scan β} {cursor between : Cursor} {a : α}
    (done : scan cursor = .ok (a, between)) : (scan >>= f) cursor = f a between := by
  change (scan cursor >>= fun found => f found.1 found.2) = _
  rw [done]
  rfl

/-- A cursor moves over a run of characters in a class. -/
theorem skipWhile_append {class_ : Char → Bool} {taken : List Char}
    (all : ∀ c ∈ taken, class_ c = true) (stop : ∀ c ∈ rest.head?, class_ c = false) :
    Cursor.skipWhile class_ ⟨p, taken ++ rest⟩ = ⟨p.afterAll taken, rest⟩ := by
  simp [Cursor.skipWhile, Cursor.advance, Json.takeWhile_append all stop]

theorem skipSpaces_append {taken : List Char} (all : ∀ c ∈ taken, isSpace c = true)
    (stop : ∀ c ∈ rest.head?, isSpace c = false) :
    skipSpaces ⟨p, taken ++ rest⟩ = .ok ((), ⟨p.afterAll taken, rest⟩) := by
  rw [← skipWhile_append all stop]
  rfl

theorem peek_cons (c : Char) : peek ⟨p, c :: rest⟩ = .ok (c, ⟨p, c :: rest⟩) := rfl

theorem skip_one (c : Char) : skip 1 ⟨p, c :: rest⟩ = .ok ((), ⟨p.after c, rest⟩) := rfl

theorem expect_cons (c : Char) : expect c ⟨p, c :: rest⟩ = .ok ((), ⟨p.after c, rest⟩) := by
  rw [expect, bind_eq (peek_cons c), if_pos rfl, skip_one]

theorem quote_cons {mark : Char} (is_mark : mark = '\'' ∨ mark = '"') :
    quote ⟨p, mark :: rest⟩ = .ok (mark, ⟨p.after mark, rest⟩) := by
  rw [quote, bind_eq (peek_cons mark), if_pos is_mark, bind_eq (skip_one mark)]
  rfl

/-- A name is read up to a character that cannot stand in it. -/
theorem qname_append {run : List Char} {q : QName} (is_name : QName.ofRun? run = some q)
    (chars : ∀ c ∈ run, isNameChar c = true) (stop : ∀ c ∈ rest.head?, isNameChar c = false) :
    qname ⟨p, run ++ rest⟩ = .ok (q, ⟨p.afterAll run, rest⟩) := by
  have taken : takeWhile isNameChar ⟨p, run ++ rest⟩ = .ok (run, ⟨p.afterAll run, rest⟩) := by
    rw [takeWhile_eq_ok, skipWhile_append chars stop, Json.takeWhile_append chars stop]
  rw [qname, bind_eq (position_eq_ok _), bind_eq taken, is_name]
  rfl

/-- A run that is read without an error ends where its class does. -/
theorem run_eq_ok {class_ : Char → Bool} {taken found : List Char} {stop : Char} {next : Cursor}
    (all : ∀ c ∈ taken, class_ c = true) (ends : class_ stop = false)
    (done : run class_ ⟨p, taken ++ stop :: rest⟩ = .ok (found, next)) :
    found = taken ∧ next = ⟨p.afterAll taken, stop :: rest⟩ := by
  have from_here : ∀ (q : Position) (read : List Char),
      runFrom (fun cs => cs.head?.any class_) q read (taken ++ stop :: rest) = .ok (found, next) →
        found = read.reverse ++ taken ∧ next = ⟨q.afterAll taken, stop :: rest⟩ := by
    clear done
    induction taken with
    | nil =>
      intro q read done
      rw [List.nil_append, runFrom] at done
      split at done
      · cases done
      · rw [if_neg (by simp [ends])] at done
        obtain ⟨rfl, rfl⟩ := Prod.mk.inj (Except.ok.inj done)
        exact ⟨by simp, rfl⟩
    | cons c cs ih =>
      intro q read done
      rw [List.cons_append, runFrom] at done
      split at done
      · cases done
      · rw [if_pos (by simpa using all c List.mem_cons_self)] at done
        obtain ⟨same, moved⟩ := ih (fun d mem => all d (List.mem_cons_of_mem c mem)) _ _ done
        exact ⟨by simpa using same, moved⟩
  simpa using from_here p [] done

end Scan

/-! ## Values -/

/-- A value without references and line feeds is read character by character. -/
theorem valueFrom_plain {entities : List Entity} {inside : Bool}
    {follow : Position → Cursor → Nat → Except SyntaxError (List Char × Nat)} {steps expansions : Nat}
    {read value : List Char} {p : Position} (plain : ∀ c ∈ value, isPlainChar c = true)
    (enough : value.length ≤ steps) :
    valueFrom entities inside follow steps expansions read ⟨p, value⟩ =
      .ok (read.reverse ++ value.map spaceForBreak, expansions) := by
  induction value generalizing steps read p with
  | nil => cases steps <;> simp [valueFrom]
  | cons c cs ih =>
    obtain ⟨steps, rfl⟩ := Nat.exists_eq_succ_of_ne_zero (Nat.ne_zero_of_lt enough)
    obtain ⟨here, later⟩ := List.forall_mem_cons.1 plain
    have step : valueFrom entities inside follow (steps + 1) expansions read ⟨p, c :: cs⟩ =
        valueFrom entities inside follow steps expansions (spaceForBreak c :: read)
          ⟨p.after c, cs⟩ := by
      rw [valueFrom]
      split
      next nothing => cases nothing
      next mark =>
        obtain ⟨rfl, -⟩ := List.cons.inj mark
        cases here
      next breaks =>
        obtain ⟨rfl, rfl⟩ := List.cons.inj breaks
        cases (List.forall_mem_cons.1 later).1
      next d tail _ _ same =>
        obtain ⟨rfl, -⟩ := List.cons.inj same
        rfl
    rw [step, ih later (Nat.le_of_succ_le_succ enough)]
    simp

/-- The value of an attribute without references and line feeds. -/
theorem attributeValue_plain {entities : List Entity} {levels expansions : Nat} {value : List Char}
    {p : Position} (plain : ∀ c ∈ value, isPlainChar c = true) :
    attributeValue entities levels expansions ⟨p, value⟩ =
      .ok (value.map spaceForBreak, expansions) := by
  cases levels <;> rw [attributeValue] <;> exact valueFrom_plain plain (Nat.le_refl _)

/-! ## Attributes of an element -/

/-- The value of an attribute among those of an element. -/
def valueOf? (name : String) (attributes : List Attribute) : Option String :=
  (attributes.find? fun a => a.space.isNone && a.name == name).map Attribute.value

/-- The value of an attribute among those that are written in a tag. -/
def rawValueOf? (name : String) (raws : List RawAttribute) : Option String :=
  (raws.find? fun raw => decide (raw.name = ⟨"", name⟩)).map RawAttribute.value

theorem rawValueOf?_cons (name : String) (raw : RawAttribute) (raws : List RawAttribute) :
    rawValueOf? name (raw :: raws) =
      (if raw.name = ⟨"", name⟩ then some raw.value else none).or (rawValueOf? name raws) := by
  by_cases same : raw.name = ⟨"", name⟩ <;> simp [rawValueOf?, same]

namespace Builder

variable {builder : Builder}

/-- What an attribute adds to those of its tag: itself, unless it declares a name space. -/
theorem addAttribute_eq_ok {raw : RawAttribute} {out : Builder}
    (done : builder.addAttribute raw = .ok out) :
    out.finished = builder.finished ∧ out.opened = builder.opened ∧
      ∀ name, name ≠ "xmlns" → rawValueOf? name out.attributes =
        (rawValueOf? name builder.attributes).or
          (if raw.name = ⟨"", name⟩ then some raw.value else none) := by
  unfold addAttribute at done
  split at done
  next is_prefix =>
    obtain ⟨finished, opened, attributes⟩ := declarePrefix_nodes done
    refine ⟨finished, opened, fun name _ => ?_⟩
    have other : raw.name ≠ ⟨"", name⟩ := by
      intro same
      rw [same] at is_prefix
      have no_prefix : "" ≠ "xmlns" := by decide
      exact no_prefix is_prefix
    rw [attributes, if_neg other, Option.or_none]
  split at done
  next is_default =>
    obtain ⟨finished, opened, attributes⟩ := declareDefault_nodes done
    refine ⟨finished, opened, fun name no_declaration => ?_⟩
    have other : raw.name ≠ ⟨"", name⟩ := by
      intro same
      rw [same] at is_default
      exact no_declaration is_default
    rw [attributes, if_neg other, Option.or_none]
  next =>
    cases done
    refine ⟨rfl, rfl, fun name _ => ?_⟩
    by_cases same : raw.name = ⟨"", name⟩ <;> simp [rawValueOf?, List.find?_append, same]

/-- An attribute is in no name space exactly if it has no prefix. -/
theorem isNone_attributeSpace {scope : List Binding} {raw : RawAttribute} {space : Option String}
    (done : attributeSpace scope raw = .ok space) :
    space.isNone = decide (raw.name.qualifier = "") := by
  unfold attributeSpace at done
  split at done
  next is_xml =>
    cases done
    rw [is_xml]
    rfl
  split at done
  next unprefixed =>
    cases done
    rw [decide_eq_true unprefixed]
    rfl
  next prefixed =>
    simp only [resolve, if_neg prefixed] at done
    split at done
    · cases done
      rw [decide_eq_false prefixed]
      rfl
    · cases done

/-- An element has the attributes without prefixes that are written in its tag. -/
theorem valueOf?_resolveAttributes {scope : List Binding} {before found : List Attribute}
    {raws : List RawAttribute} (done : resolveAttributes scope before raws = .ok found)
    (name : String) :
    valueOf? name found = (valueOf? name before).or (rawValueOf? name raws) := by
  induction raws generalizing before with
  | nil =>
    cases done
    simp [rawValueOf?]
  | cons raw raws ih =>
    rw [resolveAttributes] at done
    split at done
    · cases done
    next space resolved =>
      split at done
      · cases done
      · have unprefixed := isNone_attributeSpace resolved
        have same : (space.isNone && raw.name.localName == name) =
            decide (raw.name = ⟨"", name⟩) := by
          obtain ⟨⟨qualifier, localName⟩, value, position⟩ := raw
          rw [unprefixed, Bool.eq_iff_iff]
          simp
        rw [ih done, valueOf?, List.find?_append, Option.map_or, Option.or_assoc, rawValueOf?_cons]
        refine congrArg _ (congrArg (Option.or · _) ?_)
        rw [List.find?_singleton, same]
        by_cases is_named : raw.name = ⟨"", name⟩ <;> simp [is_named]

end Builder

/-! ## Reading a tag -/

namespace WrittenAttribute

/-- A name is not empty. -/
theorem exists_name (a : WrittenAttribute) :
    ∃ c cs, a.name = c :: cs ∧ isNameChar c = true := by
  cases is_empty : a.name with
  | nil =>
    have no_name := a.isName
    rw [is_empty] at no_name
    cases no_name
  | cons c cs => exact ⟨c, cs, rfl, a.nameChars c (is_empty ▸ List.mem_cons_self)⟩

/-- White space and equals signs end a name. -/
theorem name_stop (a : WrittenAttribute) (rest : List Char) :
    ∀ c ∈ (a.before ++ '=' :: rest).head?, isNameChar c = false := by
  cases is_before : a.before with
  | nil =>
    rintro c ⟨⟩
    decide +kernel
  | cons d ds =>
    rintro c ⟨⟩
    exact isNameChar_of_isSpace (a.beforeSpaces d (is_before ▸ List.mem_cons_self))

/-- The value has no quotation mark. -/
theorem value_ne (a : WrittenAttribute) :
    ∀ c ∈ a.value, (c != a.mark && c != '<') = true := by
  intro c mem
  have plain := a.valueChars c mem
  simp only [isPlainChar, Bool.and_eq_true] at plain
  rcases a.isMark with single | double
  · rw [single, plain.1.1.1.1.2, plain.1.1.2]
    rfl
  · rw [double, plain.1.1.1.1.1, plain.1.1.2]
    rfl

end WrittenAttribute

namespace Scan

variable {entities : List Entity} {levels : Nat} {builder : Builder}

/-- A computation that gives a value is read as that value. -/
theorem lift_ok {α : Type} {result : Except SyntaxError α} {a : α} {cursor next : Cursor}
    (done : lift result cursor = .ok (a, next)) : result = .ok a ∧ next = cursor := by
  cases result with
  | error error => cases done
  | ok value =>
    obtain ⟨rfl, rfl⟩ := Prod.mk.inj (Except.ok.inj done)
    exact ⟨rfl, rfl⟩

/-- An attribute is read from its text. -/
theorem oneAttribute_eq_ok (a : WrittenAttribute) {p : Position} {rest : List Char} {out : Builder}
    {next : Cursor}
    (done : oneAttribute entities levels builder ⟨p, a.body ++ rest⟩ = .ok (out, next)) :
    next.rest = rest ∧ builder.addAttribute ⟨a.qname, String.ofList a.reading, p⟩ = .ok out := by
  have parts : a.body ++ rest =
      a.name ++ (a.before ++ '=' :: (a.after ++ a.mark :: (a.value ++ a.mark :: rest))) := by
    simp [WrittenAttribute.body, WrittenAttribute.assignment]
  have mark_stop : ∀ c ∈ (a.mark :: (a.value ++ a.mark :: rest)).head?, isSpace c = false := by
    rintro c ⟨⟩
    rcases a.isMark with single | double
    · rw [single]; decide
    · rw [double]; decide
  have sign_stop : ∀ c ∈ ('=' :: (a.after ++ a.mark :: (a.value ++ a.mark :: rest))).head?,
      isSpace c = false := by
    rintro c ⟨⟩
    decide
  rw [parts, oneAttribute, bind_eq (position_eq_ok _),
    bind_eq (qname_append a.isName a.nameChars (a.name_stop _)),
    bind_eq (skipSpaces_append a.beforeSpaces sign_stop), bind_eq (expect_cons '='),
    bind_eq (skipSpaces_append a.afterSpaces mark_stop), bind_eq (quote_cons a.isMark),
    bind_eq (position_eq_ok _)] at done
  obtain ⟨raw, between, taken, done⟩ := bind_eq_ok_iff.1 done
  obtain ⟨rfl, rfl⟩ := run_eq_ok a.value_ne (by simp) taken
  rw [bind_eq (expect_cons a.mark), attributeValue_plain a.valueChars] at done
  obtain ⟨added, rfl⟩ := lift_ok done
  exact ⟨rfl, added⟩

variable {name : QName} {tag nameAt : Position} {steps : Nat} {p : Position} {rest : List Char}

/-- The reader of a tag at a place where the text goes on. -/
theorem tagRest_eq {text : List Char} {first : Char} (sees : text.head? = some first) :
    tagRest entities levels name tag nameAt (steps + 1) builder ⟨p, text⟩ =
      (do
        skipSpaces
        let c ← peek
        if c = '/' then
          skip 1
          expect '>'
          return (← lift (builder.endStartTag name tag nameAt true), .closed)
        else if c = '>' then
          skip 1
          return (← lift (builder.endStartTag name tag nameAt false), .opened)
        else
          if !isSpace first then failAt .space c
          let builder ← oneAttribute entities levels builder
          tagRest entities levels name tag nameAt steps builder : Scan (Builder × TagEnd))
        ⟨p, text⟩ := by
  cases text with
  | nil => cases sees
  | cons c cs =>
    obtain rfl := Option.some.inj sees
    rw [tagRest]
    rfl

/-- A tag ends with what its end gives. -/
theorem lift_end {result : Except SyntaxError Builder} {tagEnd : TagEnd} {out : Builder × TagEnd}
    {cursor next : Cursor}
    (done : (do return (← lift result, tagEnd) : Scan (Builder × TagEnd)) cursor =
      .ok (out, next)) : next = cursor ∧ result = .ok out.1 := by
  obtain ⟨last, between, lifted, given⟩ := bind_eq_ok_iff.1 done
  obtain ⟨ended, rfl⟩ := lift_ok lifted
  obtain ⟨rfl, rfl⟩ := Prod.mk.inj (Except.ok.inj given)
  exact ⟨rfl, ended⟩

/-- The end of a tag is read behind white space. -/
theorem tagRest_ending {space : List Char} (all : ∀ c ∈ space, isSpace c = true) (closed : Bool)
    {out : Builder × TagEnd} {next : Cursor}
    (done : tagRest entities levels name tag nameAt (steps + 1) builder
      ⟨p, space ++ ((if closed then ['/', '>'] else ['>']) ++ rest)⟩ = .ok (out, next)) :
    next.rest = rest ∧ builder.endStartTag name tag nameAt closed = .ok out.1 := by
  obtain ⟨first, sees⟩ : ∃ first,
      (space ++ ((if closed then ['/', '>'] else ['>']) ++ rest)).head? = some first := by
    cases space <;> cases closed <;> simp
  rw [tagRest_eq sees] at done
  cases closed with
  | true =>
    have stop : ∀ c ∈ ('/' :: '>' :: rest).head?, isSpace c = false := by
      rintro c ⟨⟩
      decide
    rw [if_pos rfl, List.cons_append, List.cons_append, List.nil_append,
      bind_eq (skipSpaces_append all stop), bind_eq (peek_cons '/'), if_pos rfl,
      bind_eq (skip_one '/'), bind_eq (expect_cons '>')] at done
    obtain ⟨rfl, ended⟩ := lift_end done
    exact ⟨rfl, ended⟩
  | false =>
    have stop : ∀ c ∈ ('>' :: rest).head?, isSpace c = false := by
      rintro c ⟨⟩
      decide
    have no_slash : ¬ '>' = '/' := by decide
    rw [if_neg Bool.false_ne_true, List.cons_append, List.nil_append,
      bind_eq (skipSpaces_append all stop), bind_eq (peek_cons '>'), if_neg no_slash, if_pos rfl,
      bind_eq (skip_one '>')] at done
    obtain ⟨rfl, ended⟩ := lift_end done
    exact ⟨rfl, ended⟩

/-- An attribute is read behind white space, and then the rest of the tag. -/
theorem tagRest_attribute (a : WrittenAttribute) {out : Builder × TagEnd} {next : Cursor}
    (done : tagRest entities levels name tag nameAt (steps + 1) builder
      ⟨p, a.text ++ rest⟩ = .ok (out, next)) :
    ∃ added place between,
      builder.addAttribute ⟨a.qname, String.ofList a.reading, place⟩ = .ok added ∧
        between.rest = rest ∧
        tagRest entities levels name tag nameAt steps added between = .ok (out, next) := by
  obtain ⟨c, cs, is_name, name_char⟩ := a.exists_name
  obtain ⟨first, gap, is_gap⟩ := List.exists_cons_of_ne_nil a.hasGap
  have body_starts : a.body ++ rest =
      c :: (cs ++ (a.before ++ '=' :: (a.after ++ a.mark :: (a.value ++ a.mark :: rest)))) := by
    simp [WrittenAttribute.body, WrittenAttribute.assignment, is_name]
  have no_space : isSpace c = false := by
    cases space : isSpace c with
    | false => rfl
    | true =>
      rw [isNameChar_of_isSpace space] at name_char
      cases name_char
  have no_slash : ¬ c = '/' := by
    rintro rfl
    exact absurd name_char (by decide +kernel)
  have no_bracket : ¬ c = '>' := by
    rintro rfl
    exact absurd name_char (by decide +kernel)
  have spaced : isSpace first = true := a.gapSpaces first (is_gap ▸ List.mem_cons_self)
  have sees : (a.text ++ rest).head? = some first := by simp [WrittenAttribute.text, is_gap]
  have stop : ∀ d ∈ (a.body ++ rest).head?, isSpace d = false := by
    rw [body_starts]
    rintro d ⟨⟩
    exact no_space
  have peeks : ∀ q, peek ⟨q, a.body ++ rest⟩ = .ok (c, ⟨q, a.body ++ rest⟩) := by
    rw [body_starts]
    exact fun q => peek_cons c
  rw [tagRest_eq sees, WrittenAttribute.text, List.append_assoc,
    bind_eq (skipSpaces_append a.gapSpaces stop), bind_eq (peeks _), if_neg no_slash,
    if_neg no_bracket, if_neg (by rw [spaced]; decide)] at done
  obtain ⟨added, between, read, done⟩ := bind_eq_ok_iff.1 done
  obtain ⟨is_rest, adds⟩ := oneAttribute_eq_ok a read
  exact ⟨added, _, between, adds, is_rest, done⟩

/-- The attributes of a tag are read one by one, and then the end of the tag. -/
theorem tagRest_eq_ok {attributes : List WrittenAttribute} {space : List Char} {closed : Bool}
    (all : ∀ c ∈ space, isSpace c = true) (enough : attributes.length < steps)
    {out : Builder × TagEnd} {next : Cursor}
    (done : tagRest entities levels name tag nameAt steps builder
      ⟨p, attributes.flatMap WrittenAttribute.text ++
        (space ++ ((if closed then ['/', '>'] else ['>']) ++ rest))⟩ = .ok (out, next)) :
    next.rest = rest ∧ ∃ last : Builder, last.endStartTag name tag nameAt closed = .ok out.1 ∧
      last.finished = builder.finished ∧ last.opened = builder.opened ∧
      ∀ wanted, wanted ≠ "xmlns" → rawValueOf? wanted last.attributes =
        (rawValueOf? wanted builder.attributes).or
          ((attributes.find? fun a => decide (a.IsNamed wanted)).map fun a =>
            String.ofList a.reading) := by
  induction attributes generalizing steps builder p with
  | nil =>
    obtain ⟨steps, rfl⟩ := Nat.exists_eq_succ_of_ne_zero (Nat.ne_zero_of_lt enough)
    obtain ⟨is_rest, ended⟩ := tagRest_ending all closed done
    exact ⟨is_rest, builder, ended, rfl, rfl, fun wanted _ => by simp⟩
  | cons a later ih =>
    obtain ⟨steps, rfl⟩ := Nat.exists_eq_succ_of_ne_zero (Nat.ne_zero_of_lt enough)
    rw [List.flatMap_cons, List.append_assoc] at done
    obtain ⟨added, place, between, adds, is_later, done⟩ := tagRest_attribute a done
    obtain ⟨q, cs⟩ := between
    obtain rfl : cs = _ := is_later
    obtain ⟨is_rest, last, ended, finished, opened, values⟩ :=
      ih (Nat.lt_of_succ_lt_succ enough) done
    obtain ⟨same_finished, same_opened, adds_value⟩ := Builder.addAttribute_eq_ok adds
    refine ⟨is_rest, last, ended, finished.trans same_finished, opened.trans same_opened, ?_⟩
    intro wanted no_declaration
    rw [values wanted no_declaration, adds_value wanted no_declaration, Option.or_assoc]
    refine congrArg _ ?_
    by_cases is_named : a.IsNamed wanted
    · rw [List.find?_cons, decide_eq_true is_named]
      exact congrArg (Option.or · _) (if_pos is_named)
    · rw [List.find?_cons, decide_eq_false is_named]
      exact congrArg (Option.or · _) (if_neg is_named)

end Scan

/-! ## The root -/

/-- An open element as a node, with the children that it has so far. -/
def OpenElement.node (element : OpenElement) : Node :=
  .element element.name.localName element.attributes element.line element.children.reverse

/-- The elements that are open and the nodes outside of all elements. -/
def Builder.nodes (builder : Builder) : List Node :=
  builder.opened.map OpenElement.node ++ builder.finished

/-- The first start tag gives the root, with the attributes that have been read. -/
theorem Builder.endStartTag_root {builder out : Builder} {name : QName} {tag nameAt : Position}
    {closed : Bool} (nothing_finished : builder.finished = []) (nothing_open : builder.opened = [])
    (done : builder.endStartTag name tag nameAt closed = .ok out) :
    ∃ root : Node, out.nodes = [root] ∧ root.hasName name.localName = true ∧
      ∀ wanted, root.attribute? wanted = rawValueOf? wanted builder.attributes := by
  unfold endStartTag at done
  split at done
  · cases done
  next attributes resolved =>
    have values : ∀ wanted, valueOf? wanted attributes = rawValueOf? wanted builder.attributes :=
      fun wanted => (valueOf?_resolveAttributes resolved wanted).trans (Option.none_or ..)
    refine ⟨.element name.localName attributes tag.line [], ?_, BEq.rfl, values⟩
    split at done
    · cases done
    · cases closed <;> cases done <;>
        simp [nodes, OpenElement.node, addNode, nothing_finished, nothing_open]

/-- A name without a prefix is written as it is, or with a colon in front of it. -/
theorem QName.eq_append_of_ofRun? {run : List Char} {name : String}
    (is_name : QName.ofRun? run = some ⟨"", name⟩) :
    ∃ lead, (lead = [] ∨ lead = [':']) ∧ run = lead ++ name.toList := by
  unfold QName.ofRun? at is_name
  split at is_name
  next =>
    split at is_name
    next =>
      obtain rfl := (QName.mk.inj (Option.some.inj is_name)).2
      exact ⟨[], .inl rfl, by simp⟩
    next => cases is_name
  next qualifier localName split_at =>
    split at is_name
    next =>
      obtain ⟨no_qualifier, rfl⟩ := QName.mk.inj (Option.some.inj is_name)
      obtain rfl : qualifier = [] := by simpa using congrArg String.toList no_qualifier
      exact ⟨[':'], .inr rfl, by simp [Text.eq_append_of_splitAt? split_at]⟩
    next => cases is_name

namespace RootTag

/-- The first attribute with a name is found at its place. -/
theorem map_findFrom? (name : String) (place : Nat) (attributes : List WrittenAttribute) :
    (findFrom? name place attributes).map Prod.snd =
      attributes.find? fun a => decide (a.IsNamed name) := by
  induction attributes generalizing place with
  | nil => rfl
  | cons a later ih =>
    rw [findFrom?, List.find?_cons]
    by_cases is_named : a.IsNamed name
    · rw [if_pos is_named, decide_eq_true is_named]
      rfl
    · rw [if_neg is_named, decide_eq_false is_named]
      exact ih _

/-- White space or the end of the tag stands behind the name of the root. -/
theorem exists_behind_name (tag : RootTag) (after : List Char) :
    ∃ c cs, tag.attributes.flatMap WrittenAttribute.text ++ (tag.ending ++ after) = c :: cs ∧
      (isSpace c = true ∨ c = '/' ∨ c = '>') := by
  cases is_attributes : tag.attributes with
  | cons a later =>
    obtain ⟨c, gap, is_gap⟩ := List.exists_cons_of_ne_nil a.hasGap
    refine ⟨c, gap ++ a.body ++ later.flatMap WrittenAttribute.text ++ (tag.ending ++ after), ?_,
      .inl (a.gapSpaces c (is_gap ▸ List.mem_cons_self))⟩
    simp [WrittenAttribute.text, is_gap]
  | nil =>
    rw [List.flatMap_nil, List.nil_append, ending]
    cases is_space : tag.space with
    | cons c cs =>
      exact ⟨c, _, by rw [List.cons_append, List.cons_append],
        .inl (tag.isSpaces c (is_space ▸ List.mem_cons_self))⟩
    | nil =>
      cases tag.closed with
      | true => exact ⟨'/', '>' :: after, rfl, .inr (.inl rfl)⟩
      | false => exact ⟨'>', after, rfl, .inr (.inr rfl)⟩

/-- No tag has more attributes than characters. -/
theorem length_attributes_le (attributes : List WrittenAttribute) :
    attributes.length ≤ (attributes.flatMap WrittenAttribute.text).length := by
  induction attributes with
  | nil => exact Nat.le_refl 0
  | cons a later ih =>
    have some_gap := List.length_pos_iff.2 a.hasGap
    simp only [List.flatMap_cons, List.length_append, List.length_cons, WrittenAttribute.text]
    omega

/-- Where the tag is read first, the root has the attributes of the tag. -/
theorem reads_own (tag : RootTag) {entities : List Entity} {levels : Nat} {place : Position}
    {after : List Char} {started : Builder} {tagEnd : Scan.TagEnd} {next : Cursor}
    (done : Scan.startTag entities levels Builder.empty ⟨place, tag.text ++ after⟩ =
      .ok ((started, tagEnd), next)) :
    next.rest = after ∧ ∃ root : Node, started.nodes = [root] ∧ root.hasName "rfc" = true ∧
      ∀ name, name ≠ "xmlns" → root.attribute? name = tag.value? name := by
  obtain ⟨c, cs, behind, is_stop⟩ := tag.exists_behind_name after
  have name_ends : isNameChar c = false := by
    rcases is_stop with space | rfl | rfl
    · exact isNameChar_of_isSpace space
    · decide +kernel
    · decide +kernel
  have parts : tag.text ++ after = '<' :: ("rfc".toList ++
      (tag.attributes.flatMap WrittenAttribute.text ++ (tag.ending ++ after))) := by
    simp [RootTag.text]
  have is_name : QName.ofRun? "rfc".toList = some ⟨"", "rfc"⟩ := by decide +kernel
  have name_chars : ∀ d ∈ "rfc".toList, isNameChar d = true :=
    List.all_eq_true.1 (by decide +kernel)
  have stop : ∀ d ∈ (tag.attributes.flatMap WrittenAttribute.text ++ (tag.ending ++ after)).head?,
      isNameChar d = false := by
    rw [behind]
    rintro d ⟨⟩
    exact name_ends
  rw [parts, Scan.startTag, Scan.bind_eq (Scan.position_eq_ok _), Scan.bind_eq (Scan.skip_one '<'),
    Scan.bind_eq (Scan.position_eq_ok _),
    Scan.bind_eq (Scan.qname_append is_name name_chars stop)] at done
  have no_prefix : ¬ "" = "xmlns" := by decide
  rw [if_neg no_prefix] at done
  beta_reduce at done
  rw [Scan.bind_eq (Scan.rest_eq_ok _)] at done
  have enough : tag.attributes.length <
      (tag.attributes.flatMap WrittenAttribute.text ++ (tag.ending ++ after)).length + 1 := by
    have bound := length_attributes_le tag.attributes
    rw [List.length_append]
    omega
  dsimp only at done
  generalize (tag.attributes.flatMap WrittenAttribute.text ++ (tag.ending ++ after)).length + 1 =
    steps at done enough
  rw [ending, List.append_assoc] at done
  obtain ⟨is_rest, last, ended, finished, opened, values⟩ :=
    Scan.tagRest_eq_ok tag.isSpaces enough done
  obtain ⟨root, is_root, is_named, reads⟩ := Builder.endStartTag_root finished opened ended
  refine ⟨is_rest, root, is_root, is_named, fun name no_declaration => ?_⟩
  rw [reads name, values name no_declaration, value?, own?, Option.map_map,
    ← map_findFrom? name "<rfc".toList.length, Option.map_map]
  rfl

/-- The text in front of the first attribute with a name ends in white space or in a colon, and that
attribute stands behind it. -/
theorem findFrom?_eq_some {name : String} {attributes : List WrittenAttribute} {start place : Nat}
    {a : WrittenAttribute} (found : findFrom? name start attributes = some (place, a)) :
    ∃ front behind, attributes.flatMap WrittenAttribute.text =
        front ++ (name.toList ++ (a.assignment ++ behind)) ∧
      start + front.length = place ∧
      ∃ c, front.getLast? = some c ∧ (isSpace c = true ∨ c = ':') := by
  induction attributes generalizing start with
  | nil => cases found
  | cons b later ih =>
    rw [findFrom?] at found
    split at found
    next is_named =>
      obtain ⟨rfl, rfl⟩ := Prod.mk.inj (Option.some.inj found)
      obtain ⟨lead, is_lead, is_name⟩ := QName.eq_append_of_ofRun? (is_named ▸ b.isName)
      refine ⟨b.gap ++ lead, later.flatMap WrittenAttribute.text, ?_, ?_, ?_⟩
      · simp [WrittenAttribute.text, WrittenAttribute.body, is_name]
      · simp [is_name, Nat.add_assoc]
      · rcases is_lead with rfl | rfl
        · rw [List.append_nil]
          have is_last := List.getLast?_eq_some_getLast b.hasGap
          exact ⟨_, is_last, .inl (b.gapSpaces _ (List.getLast_mem b.hasGap))⟩
        · exact ⟨':', by simp, .inr rfl⟩
    next =>
      obtain ⟨front, behind, is_text, is_place, c, is_last, ends⟩ := ih found
      refine ⟨b.text ++ front, behind, ?_, ?_, c, ?_, ends⟩
      · simp [is_text]
      · simp [← is_place, Nat.add_assoc]
      · simp [is_last]

/-- An attribute of the tag stands at its place, behind white space or a colon. -/
theorem own?_eq_some {tag : RootTag} {name : String} {place : Nat} {value : List Char}
    (is_own : tag.own? name = some (place, value)) :
    ∃ (front : List Char) (a : WrittenAttribute) (behind : List Char),
      tag.text = front ++ (name.toList ++ (a.assignment ++ behind)) ∧
      front.length = place ∧ a.reading = value ∧
      ∃ c, front.getLast? = some c ∧ (isSpace c = true ∨ c = ':') := by
  obtain ⟨⟨_, a⟩, found, same⟩ := Option.map_eq_some_iff.1 is_own
  obtain ⟨rfl, rfl⟩ := Prod.mk.inj same
  obtain ⟨front, behind, is_text, is_place, c, is_last, ends⟩ := findFrom?_eq_some found
  refine ⟨"<rfc".toList ++ front, a, behind ++ tag.ending, ?_, ?_, rfl, c, ?_, ends⟩
  · simp [text, is_text]
  · rw [List.length_append, is_place]
  · rw [List.getLast?_append, is_last, Option.some_or]

end RootTag

end DraftNits.Xml
