import DraftNits.Proofs.TextDocumentLines
import DraftNits.Proofs.Utf8Text

/-! # What is taken in

The contents of a file say by themselves which error is due, and at most one is
(`IntakeError.IsDue`): bytes that are not UTF-8; then, with one byte order mark left aside, text of
white space only; then text with a NUL character; then well-formed XML with another root than `rfc`.
A document is read exactly if no error is due. Malformed XML is no error: what can be saved of it
makes a document whose only diagnostic is on one of its lines.

* `Xml.exists_root?_of_parse` — a well-formed text has a root.
* `nulLine?_eq_some_iff` — the line of the first NUL character is one more than the line feeds before
  it.
* `readBytes_eq_error_iff_isDue` — reading fails with an error exactly if that error is due. -/

namespace DraftNits

/-! ## The root of a well-formed text -/

namespace Xml

/-- Whether a text is well-formed. -/
def IsWellFormed (text : List Char) : Prop := ∃ nodes, parse text = .ok nodes

/-- Whether an element is the root of a well-formed text. -/
def IsRootOf (text : List Char) (root : Node) : Prop :=
  ∃ nodes, parse text = .ok nodes ∧ root? nodes = some root

namespace Scan

variable {α β : Type}

/-- Whatever a reader starts from, what it gives has a property. -/
def Yields (scan : Scan α) (p : α → Prop) : Prop :=
  Ensures (fun _ => True) scan fun value _ => p value

/-- What comes last decides what is given. -/
theorem Yields.after {scan : Scan α} {f : α → Scan β} {q : β → Prop}
    (last : ∀ a, Yields (f a) q) : Yields (scan >>= f) q :=
  Ensures.bind (fun _ _ _ _ _ => trivial) last

/-- Both readers of a choice yield what the choice does. -/
theorem Yields.ite {c : Prop} [Decidable c] {yes no : Scan α} {p : α → Prop}
    (then_ : Yields yes p) (else_ : Yields no p) : Yields (if c then yes else no) p := by
  by_cases h : c <;> simpa [h]

/-- A reader that is perhaps passed over does not matter if what comes after it decides. -/
theorem Yields.orSkip {c : Prop} [Decidable c] {through past : Scan α} {p : α → Prop}
    (then_ : Yields past p → Yields through p) (after : Yields past p) :
    Yields (if c then through else past) p :=
  Yields.ite (then_ after) after

/-- The nodes of a document have an element among them, since the tree is finished last. -/
theorem document_yields : Yields document fun nodes => nodes.any Node.isElement = true := by
  have finishes : ∀ builder : Builder,
      Yields (lift builder.finish) fun nodes => nodes.any Node.isElement = true := by
    intro builder cursor _ nodes next done
    unfold Builder.finish at done
    split at done
    · split at done
      next some_element =>
        cases done
        rwa [List.any_reverse]
      · cases done
    · cases done
  -- What comes after the element, and after the document type.
  have ending : ∀ builder : Builder, Yields
      (do misc ((← rest).length + 1)
          if !(← atEnd) then fail (.unknownToken (← position))
          lift builder.finish) fun nodes => nodes.any Node.isElement = true := by
    intro builder
    refine Yields.after fun _ => Yields.after fun _ => Yields.after fun _ => Yields.ite ?_ ?_
    · exact Yields.after fun _ => Yields.after fun _ => finishes builder
    · exact finishes builder
  have tree : ∀ entities : List Entity, Yields
      (do skipSpaces
          let mut builder := Builder.empty
          if ← startsWith "<" then builder ← element entities builder
          misc ((← rest).length + 1)
          if !(← atEnd) then fail (.unknownToken (← position))
          lift builder.finish) fun nodes => nodes.any Node.isElement = true := by
    intro entities
    refine Yields.after fun _ => Yields.after fun _ => Yields.ite ?_ (ending Builder.empty)
    exact Yields.after fun builder => ending builder
  refine Yields.after fun _ => Yields.orSkip (fun after => Yields.after fun _ => after) ?_
  refine Yields.after fun _ => Yields.orSkip (fun after => Yields.after fun _ => after) ?_
  refine Yields.after fun _ => Yields.after fun _ => Yields.after fun _ => Yields.after fun _ =>
    Yields.ite ?_ (tree [])
  exact Yields.after fun entities => Yields.after fun _ => Yields.after fun _ => tree entities

end Scan

/-- A well-formed text has a root. -/
theorem exists_root?_of_parse {text : List Char} {nodes : List Node}
    (done : parse text = .ok nodes) : ∃ root, root? nodes = some root ∧ root.isElement = true := by
  unfold parse at done
  cases read : Scan.document (Cursor.ofText text) with
  | error error =>
    rw [read] at done
    cases done
  | ok found =>
    rw [read] at done
    obtain rfl : found.1 = nodes := by simpa [Except.map] using done
    have some_element := Scan.document_yields _ trivial found.1 found.2 read
    have is_found : (found.1.find? Node.isElement).isSome = true :=
      List.find?_isSome.2 (List.any_eq_true.1 some_element)
    obtain ⟨root, is_root⟩ := Option.isSome_iff_exists.1 is_found
    exact ⟨root, is_root, List.find?_some is_root⟩

/-- A well-formed text has one root. -/
theorem IsRootOf.unique {text : List Char} {root other : Node} (is_root : IsRootOf text root)
    (also : IsRootOf text other) : root = other := by
  obtain ⟨nodes, parsed, first⟩ := is_root
  obtain ⟨nodes', parsed', first'⟩ := also
  rw [parsed] at parsed'
  cases parsed'
  rw [first] at first'
  exact Option.some.inj first'

/-- The root that is found in a text is its root. -/
theorem isRootOf_of_bind {text : List Char} {root : Node}
    (found : (parse text).toOption.bind root? = some root) : IsRootOf text root := by
  cases parsed : parse text with
  | error error =>
    rw [parsed] at found
    cases found
  | ok nodes =>
    rw [parsed] at found
    exact ⟨nodes, parsed, found⟩

end Xml

/-- A text with the root `rfc` is read from its root. -/
theorem RfcXml.readDocument_of_isRootOf (path : String) {text : List Char} {root : Xml.Node}
    (is_root : Xml.IsRootOf text root) (is_rfc : root.hasName "rfc" = true)
    (lines : List (List Char)) :
    RfcXml.readDocument path text lines = .ok (RfcXml.ofRoot path lines root) := by
  obtain ⟨nodes, parsed, first⟩ := is_root
  rw [RfcXml.readDocument, parsed]
  dsimp only
  rw [first]
  exact if_pos is_rfc

/-! ## NUL characters -/

/-- Whether the first NUL character of a text is on the line of a number: the lines before it are
those that line feeds have ended. -/
def IsFirstNulLine (text : List Char) (number : Nat) : Prop :=
  ∃ before after, text = before ++ '\x00' :: after ∧ '\x00' ∉ before ∧
    number = before.count '\n' + 1

/-- The line of the first NUL character is found in the text, without looking at its lines. -/
theorem nulLine?_eq_some_iff {text : List Char} {number : Nat} :
    nulLine? (Text.splitLines text) = some number ↔ IsFirstNulLine text number := by
  have found : ∀ before after, '\x00' ∉ before →
      nulLine? (Text.splitLines (before ++ '\x00' :: after)) = some (before.count '\n' + 1) := by
    intro before after first
    rw [nulLine?, Text.splitLines,
      Text.findIdx?_linesFrom (by decide) (by decide) List.not_mem_nil first]
    rfl
  constructor
  · intro is_line
    have some_nul : '\x00' ∈ text := by
      obtain ⟨index, at_index, -⟩ := Option.map_eq_some_iff.1 is_line
      obtain ⟨within, holds, -⟩ := List.findIdx?_eq_some_iff_getElem.1 at_index
      exact (Text.mem_of_mem_splitLines (List.getElem_mem within) (List.contains_iff_mem.1 holds)).1
    obtain ⟨before, after, rfl, first⟩ := List.eq_append_cons_of_mem some_nul
    rw [found before after first] at is_line
    exact ⟨before, after, rfl, first, (Option.some.inj is_line).symm⟩
  · rintro ⟨before, after, rfl, first, rfl⟩
    exact found before after first

/-- No line holds a NUL character exactly if the text holds none. -/
theorem nulLine?_eq_none_iff {text : List Char} :
    nulLine? (Text.splitLines text) = none ↔ '\x00' ∉ text := by
  constructor
  · intro no_line mem
    obtain ⟨before, after, split, first⟩ := List.eq_append_cons_of_mem mem
    have is_line := nulLine?_eq_some_iff.2 ⟨before, after, split, first, rfl⟩
    rw [no_line] at is_line
    cases is_line
  · intro no_nul
    cases is_line : nulLine? (Text.splitLines text) with
    | none => rfl
    | some number =>
      obtain ⟨before, after, rfl, -, -⟩ := nulLine?_eq_some_iff.1 is_line
      exact absurd (List.mem_append_right before List.mem_cons_self) no_nul

/-! ## Malformed XML -/

/-- A malformed XML text is read as a document whose only diagnostic is on one of its lines, and
which has no sections. -/
theorem RfcXml.readDocument_of_not_isWellFormed {path : String} {text : List Char} {doc : Document}
    (malformed : ¬ Xml.IsWellFormed text) (some_char : text ≠ [])
    (done : RfcXml.readDocument path text (Text.splitLines text) = .ok doc) :
    (∃ diagnostic n, doc.diagnostics = [diagnostic] ∧ diagnostic.line = some n ∧ doc.HasLine n) ∧
      doc.sections = [] := by
  unfold RfcXml.readDocument at done
  split at done
  next error failed =>
    cases done
    have some_line := List.length_pos_of_ne_nil (Text.splitLines_ne_nil some_char)
    have placed : (RfcXml.syntaxDiagnostic (Text.splitLines text).length error).line =
        some (min (max error.line 1) (Text.splitLines text).length) := by
      rw [RfcXml.syntaxDiagnostic, Diagnostic.near, if_neg (by omega)]
    refine ⟨⟨_, _, rfl, placed, ?_⟩, rfl⟩
    rw [Document.hasLine_eq rfl]
    exact Diagnostic.near_line placed
  next nodes parsed => exact absurd ⟨nodes, parsed⟩ malformed

/-! ## Errors -/

/-- Whether bytes encode a text, with or without a byte order mark before it. -/
def Contain (bytes : List UInt8) (text : List Char) : Prop :=
  ∃ content, bytes = Text.Utf8.encode content ∧ text = dropMark content

/-- Whether a text holds nothing but white space. -/
def IsBlankText (text : List Char) : Prop := ∀ c ∈ text, Text.isBlank c = true

/-- Whether a text is well-formed XML with another root than `rfc`, which has the given name. -/
def HasOtherRoot (mode : Mode) (text : List Char) (name : String) : Prop :=
  detectFormat mode text = .xml ∧
    ∃ root, Xml.IsRootOf text root ∧ root.name = name ∧ name ≠ "rfc"

namespace IntakeError

/-- Whether an error is due for a text. -/
def IsDueFor (mode : Mode) (text : List Char) : IntakeError → Prop
  | .empty => IsBlankText text
  | .binary line => ¬ IsBlankText text ∧ IsFirstNulLine text line
  | .unsupportedRoot name => ¬ IsBlankText text ∧ '\x00' ∉ text ∧ HasOtherRoot mode text name
  | .notUtf8 _ | .unreadable _ _ => False

/-- Whether an error is due for the contents of a file. -/
def IsDue (mode : Mode) (bytes : List UInt8) : IntakeError → Prop
  | .notUtf8 offset => ¬ Text.Utf8.IsValid bytes ∧ Text.Utf8.IsLongestValid bytes offset
  | error => ∃ text, Contain bytes text ∧ error.IsDueFor mode text

variable {mode : Mode} {text : List Char}

/-- Two errors are not due for one text. -/
theorem IsDueFor.unique {error other : IntakeError} (due : error.IsDueFor mode text)
    (also : other.IsDueFor mode text) : error = other := by
  -- Later errors are due only where the earlier ones are not, so only equal kinds are left.
  cases error <;> cases other <;> simp only [IsDueFor] at due also
  case empty.empty => rfl
  case empty.binary => exact absurd due also.1
  case empty.unsupportedRoot => exact absurd due also.1
  case binary.empty => exact absurd also due.1
  case unsupportedRoot.empty => exact absurd also due.1
  case binary.binary =>
    have same := (nulLine?_eq_some_iff.2 due.2).symm.trans (nulLine?_eq_some_iff.2 also.2)
    rw [Option.some.inj same]
  case binary.unsupportedRoot =>
    obtain ⟨before, after, rfl, -, -⟩ := due.2
    exact absurd (List.mem_append_right before List.mem_cons_self) also.2.1
  case unsupportedRoot.binary =>
    obtain ⟨before, after, rfl, -, -⟩ := also.2
    exact absurd (List.mem_append_right before List.mem_cons_self) due.2.1
  case unsupportedRoot.unsupportedRoot =>
    obtain ⟨-, -, -, root, is_root, rfl, -⟩ := due
    obtain ⟨-, -, -, other, is_other, rfl, -⟩ := also
    rw [is_root.unique is_other]

/-- No error is due for a text with other characters than white space and without NUL characters,
unless it has another root. -/
theorem not_isDueFor (not_blank : ¬ IsBlankText text) (no_nul : '\x00' ∉ text)
    (no_other : ∀ name, ¬ HasOtherRoot mode text name) (error : IntakeError) :
    ¬ error.IsDueFor mode text := by
  intro due
  cases error with
  | unreadable path reason => exact due
  | empty => exact not_blank due
  | notUtf8 offset => exact due
  | binary line =>
    obtain ⟨before, after, rfl, -, -⟩ := due.2
    exact no_nul (List.mem_append_right before List.mem_cons_self)
  | unsupportedRoot name => exact no_other name due.2.2

end IntakeError

/-- The reader of XML refuses a text exactly for another root. -/
theorem RfcXml.readDocument_correct (path : String) (text : List Char) :
    (∃ root, Xml.IsRootOf text root ∧ root.name ≠ "rfc" ∧
        RfcXml.readDocument path text (Text.splitLines text) = .error root.name) ∨
      (∃ doc, RfcXml.readDocument path text (Text.splitLines text) = .ok doc ∧
        ∀ root, Xml.IsRootOf text root → root.name = "rfc") := by
  unfold RfcXml.readDocument
  cases parsed : Xml.parse text with
  | error error =>
    refine .inr ⟨_, rfl, ?_⟩
    rintro root ⟨nodes, parsed', -⟩
    rw [parsed] at parsed'
    cases parsed'
  | ok nodes =>
    obtain ⟨root, is_root, is_element⟩ := Xml.exists_root?_of_parse parsed
    have root_of : Xml.IsRootOf text root := ⟨nodes, parsed, is_root⟩
    have name_iff : root.hasName "rfc" = true ↔ root.name = "rfc" := by
      cases root with
      | text content => cases is_element
      | element name attributes line children => simp [Xml.Node.hasName, Xml.Node.name]
    dsimp only
    rw [is_root]
    dsimp only
    by_cases is_rfc : root.hasName "rfc" = true
    · rw [if_pos is_rfc]
      refine .inr ⟨_, rfl, fun other is_other => ?_⟩
      rw [is_other.unique root_of]
      exact name_iff.1 is_rfc
    · rw [if_neg is_rfc]
      exact .inl ⟨root, root_of, fun is_name => is_rfc (name_iff.2 is_name), rfl⟩

/-- A text is refused with an error that is due, or read, and then no error is. -/
theorem readText_correct (path : String) (mode : Mode) (content : List Char) :
    (∃ error : IntakeError, readText path mode content = .error error ∧
        error.IsDueFor mode (dropMark content)) ∨
      (∃ doc, readText path mode content = .ok doc ∧
        ∀ error : IntakeError, ¬ error.IsDueFor mode (dropMark content)) := by
  unfold readText
  generalize dropMark content = text
  dsimp only
  have blank_iff : Text.isAllBlank text = true ↔ IsBlankText text := List.all_eq_true
  by_cases blank : Text.isAllBlank text = true
  · rw [if_pos blank]
    exact .inl ⟨.empty, rfl, blank_iff.1 blank⟩
  rw [if_neg blank]
  rw [blank_iff] at blank
  cases nul : nulLine? (Text.splitLines text) with
  | some line => exact .inl ⟨.binary line, rfl, blank, nulLine?_eq_some_iff.1 nul⟩
  | none =>
    have no_nul := nulLine?_eq_none_iff.1 nul
    dsimp only
    split
    next is_xml =>
      rcases RfcXml.readDocument_correct path text with
        ⟨root, is_root, not_rfc, refused⟩ | ⟨doc, read, all_rfc⟩
      · rw [refused]
        exact .inl ⟨.unsupportedRoot root.name, rfl, blank, no_nul, is_xml, root, is_root, rfl,
          not_rfc⟩
      · rw [read]
        refine .inr ⟨doc, rfl, IntakeError.not_isDueFor blank no_nul ?_⟩
        rintro name ⟨-, root, is_root, rfl, not_rfc⟩
        exact not_rfc (all_rfc root is_root)
    next not_xml =>
      refine .inr ⟨_, rfl, IntakeError.not_isDueFor blank no_nul ?_⟩
      rintro name ⟨is_xml, -⟩
      exact not_xml is_xml

/-- Bytes contain one text. -/
theorem Contain.unique {bytes : List UInt8} {text other : List Char} (contain : Contain bytes text)
    (also : Contain bytes other) : text = other := by
  obtain ⟨content, encodes, rfl⟩ := contain
  obtain ⟨content', encodes', rfl⟩ := also
  have same := (Text.Utf8.decode_eq_ok_iff.2 encodes).symm.trans
    (Text.Utf8.decode_eq_ok_iff.2 encodes')
  rw [Except.ok.inj same]

/-- Bytes that encode a text are read as that text. -/
theorem readBytes_of_encode {path : String} {mode : Mode} {bytes : List UInt8}
    {content : List Char} (encodes : bytes = Text.Utf8.encode content) :
    readBytes path mode bytes = readText path mode content := by
  rw [readBytes, Text.Utf8.decode_eq_ok_iff.2 encodes]

/-- For bytes that are UTF-8, the errors that are due are those for their text. -/
theorem IntakeError.isDue_iff {mode : Mode} {bytes : List UInt8} {content : List Char}
    (encodes : bytes = Text.Utf8.encode content) {error : IntakeError} :
    error.IsDue mode bytes ↔ error.IsDueFor mode (dropMark content) := by
  have contain : Contain bytes (dropMark content) := ⟨content, encodes, rfl⟩
  have text_iff : (∃ text, Contain bytes text ∧ error.IsDueFor mode text) ↔
      error.IsDueFor mode (dropMark content) := by
    constructor
    · rintro ⟨text, also, due⟩
      rwa [contain.unique also]
    · exact fun due => ⟨_, contain, due⟩
  cases error with
  | notUtf8 offset =>
    constructor
    · rintro ⟨invalid, -⟩
      exact absurd ⟨content, encodes⟩ invalid
    · exact fun due => due.elim
  | unreadable path reason => exact text_iff
  | empty => exact text_iff
  | binary line => exact text_iff
  | unsupportedRoot name => exact text_iff

/-- A file is refused with an error that is due and the only one, or read, and then no error is. -/
theorem readBytes_correct (path : String) (mode : Mode) (bytes : List UInt8) :
    (∃ error : IntakeError, readBytes path mode bytes = .error error ∧
        ∀ other : IntakeError, other.IsDue mode bytes ↔ other = error) ∨
      (∃ doc, readBytes path mode bytes = .ok doc ∧
        ∀ error : IntakeError, ¬ error.IsDue mode bytes) := by
  cases decoded : Text.Utf8.decode bytes with
  | error offset =>
    obtain ⟨invalid, longest⟩ := Text.Utf8.decode_eq_error_iff.1 decoded
    have no_text : ∀ text, ¬ Contain bytes text :=
      fun text contain => invalid ⟨contain.choose, contain.choose_spec.1⟩
    refine .inl ⟨.notUtf8 offset, by rw [readBytes, decoded], fun other => ?_⟩
    constructor
    · intro due
      cases other with
      | notUtf8 n =>
        have same := decoded.symm.trans (Text.Utf8.decode_eq_error_iff.2 due)
        rw [Except.error.inj same]
      | unreadable path reason => exact absurd due.choose_spec.1 (no_text _)
      | empty => exact absurd due.choose_spec.1 (no_text _)
      | binary line => exact absurd due.choose_spec.1 (no_text _)
      | unsupportedRoot name => exact absurd due.choose_spec.1 (no_text _)
    · rintro rfl
      exact ⟨invalid, longest⟩
  | ok content =>
    have encodes := Text.Utf8.decode_eq_ok_iff.1 decoded
    rw [readBytes_of_encode encodes]
    rcases readText_correct path mode content with ⟨error, refused, due⟩ | ⟨doc, read, none_due⟩
    · refine .inl ⟨error, refused, fun other => ?_⟩
      rw [IntakeError.isDue_iff encodes]
      constructor
      · exact fun also => also.unique due
      · rintro rfl
        exact due
    · refine .inr ⟨doc, read, fun error due => none_due error ?_⟩
      exact (IntakeError.isDue_iff encodes).1 due

/-- A file is refused with an error exactly if that error is due, and read as a document exactly if
no error is. In particular every malformed XML text that is neither blank nor holds a NUL character
is read, as a document with one diagnostic, on one of its lines, and without sections. -/
theorem readBytes_recognizes (path : String) (mode : Mode) (bytes : List UInt8) :
    (∀ error : IntakeError, readBytes path mode bytes = .error error ↔ error.IsDue mode bytes) ∧
      ((∃ doc, readBytes path mode bytes = .ok doc) ↔
        ∀ error : IntakeError, ¬ error.IsDue mode bytes) ∧
      ∀ text, Contain bytes text → ¬ IsBlankText text → '\x00' ∉ text →
        detectFormat mode text = .xml → ¬ Xml.IsWellFormed text →
        ∃ doc, readBytes path mode bytes = .ok doc ∧
          (∃ diagnostic n, doc.diagnostics = [diagnostic] ∧ diagnostic.line = some n ∧
            doc.HasLine n) ∧
          doc.sections = [] := by
  refine ⟨fun error => ?_, ?_, ?_⟩
  · rcases readBytes_correct path mode bytes with ⟨found, refused, only⟩ | ⟨doc, read, none_due⟩
    · rw [refused, only error, Except.error.injEq]
      exact ⟨Eq.symm, Eq.symm⟩
    · rw [read]
      exact ⟨fun absurd => (by cases absurd), fun due => absurd due (none_due error)⟩
  · rcases readBytes_correct path mode bytes with ⟨found, refused, only⟩ | ⟨doc, read, none_due⟩
    · rw [refused]
      refine ⟨fun ⟨doc, read⟩ => (by cases read), fun none_due => ?_⟩
      exact absurd ((only found).2 rfl) (none_due found)
    · exact ⟨fun _ => none_due, fun _ => ⟨doc, read⟩⟩
  · rintro text ⟨content, encodes, rfl⟩ not_blank no_nul is_xml malformed
    have some_char : dropMark content ≠ [] := by
      intro empty
      rw [empty] at not_blank
      exact not_blank fun c mem => by cases mem
    -- A malformed text has no root at all, so its root is not what it is refused for.
    have no_other : ∀ name, ¬ HasOtherRoot mode (dropMark content) name := by
      rintro name ⟨-, root, ⟨nodes, parsed, -⟩, -⟩
      exact malformed ⟨nodes, parsed⟩
    rw [readBytes_of_encode encodes]
    rcases readText_correct path mode content with ⟨error, refused, due⟩ | ⟨doc, read, -⟩
    · exact absurd due (IntakeError.not_isDueFor not_blank no_nul no_other error)
    refine ⟨doc, read, ?_⟩
    rcases readText_cases read with ⟨-, from_xml⟩ | ⟨not_xml, -⟩
    · exact RfcXml.readDocument_of_not_isWellFormed malformed some_char from_xml
    · exact absurd is_xml not_xml

/-- The five outcomes on small files: a sequence that is cut off after one byte, a byte order mark
before white space, a NUL character on the second line, another root, and a tag that is not
closed. -/
theorem readBytes_recognizes_small :
    IntakeError.IsDue .normal [0x61, 0xE2, 0x82] (.notUtf8 1) ∧
      IntakeError.IsDue .normal (Text.Utf8.encode "\ufeff \n".toList) .empty ∧
      IntakeError.IsDue .normal (Text.Utf8.encode "a\nb\x00".toList) (.binary 2) ∧
      IntakeError.IsDue .normal (Text.Utf8.encode "<?xml version='1.0'?><svg/>".toList)
        (.unsupportedRoot "svg") ∧
      ∃ doc, readBytes "a.xml" .normal (Text.Utf8.encode "<rfc>".toList) = .ok doc ∧
        (∃ diagnostic n, doc.diagnostics = [diagnostic] ∧ diagnostic.line = some n ∧
          doc.HasLine n) ∧
        doc.sections = [] := by
  refine ⟨?_, ?_, ?_, ?_, ?_⟩
  · exact ((readBytes_recognizes "a" .normal _).1 (.notUtf8 1)).1 (by decide +kernel)
  · exact ((readBytes_recognizes "a" .normal _).1 .empty).1 (by decide +kernel)
  · exact ((readBytes_recognizes "a" .normal _).1 (.binary 2)).1 (by decide +kernel)
  · exact ((readBytes_recognizes "a" .normal _).1 (.unsupportedRoot "svg")).1 (by decide +kernel)
  · refine (readBytes_recognizes "a.xml" .normal _).2.2 "<rfc>".toList ?_ ?_ ?_ ?_ ?_
    · exact ⟨"<rfc>".toList, rfl, by decide +kernel⟩
    · intro blank
      have letter := blank 'r' (by decide)
      revert letter
      decide
    · decide
    · decide +kernel
    · rintro ⟨nodes, parsed⟩
      have failed : (Xml.parse "<rfc>".toList).isOk = false := by decide +kernel
      rw [parsed] at failed
      cases failed

end DraftNits
