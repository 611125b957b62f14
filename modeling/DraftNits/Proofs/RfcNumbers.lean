import DraftNits.Proofs.HeaderBlock
import DraftNits.Proofs.Numerals
import DraftNits.Proofs.Recognition

/-! # Numbers of RFCs

The number of an RFC makes a document an RFC, so a number that cannot be read should not get lost
without a word. In XML it does not: a number of the root is kept, or a diagnostic quotes it. In the
header of a text document the last line that states a number decides; one that is not a number of 32
bits in ASCII digits is dropped, and no diagnostic says so.

* `PlainText.StatesNumber` — the lines of a header that state a number, and its digits.
* `PlainText.Header.rfcNumber_ofBlock` — the last of them decides.
* `PlainText.reports_iff` — the line of a text document that a diagnostic is on.
* `rfcNumber_kept_or_reported` — for texts exactly when the number is kept or its line reported, and
  for XML that it always is. -/

namespace DraftNits

/-- Whether some diagnostic of a document is on a line. -/
def Document.Reports (doc : Document) (number : Nat) : Prop :=
  ∃ d ∈ doc.diagnostics, d.line = some number

namespace PlainText

/-! ## Lines that state a number -/

/-- Whether the left column of a line states a number: the label, perhaps white space, and decimal
digits, with everything up to the first character that is none. -/
def StatesNumber (cs digits : List Char) : Prop :=
  ∃ blanks rest,
    (Columns.ofLine cs).left =
        some ("Request for Comments:".toList ++ (blanks ++ (digits ++ rest))) ∧
      (∀ c ∈ blanks, Text.isBlank c = true) ∧ digits ≠ [] ∧
      (∀ c ∈ digits, Text.isDecimalDigit c = true) ∧ ∀ c ∈ rest.head?, Text.isDecimalDigit c = false

namespace Header

/-- The digits that are read are those of a label with perhaps white space behind it. -/
theorem rfcDigits?_eq_some_iff {left digits : List Char} :
    rfcDigits? left = some digits ↔
      ∃ blanks rest, left = "Request for Comments:".toList ++ (blanks ++ (digits ++ rest)) ∧
        (∀ c ∈ blanks, Text.isBlank c = true) ∧ digits ≠ [] ∧
        (∀ c ∈ digits, Text.isDecimalDigit c = true) ∧
          ∀ c ∈ rest.head?, Text.isDecimalDigit c = false := by
  constructor
  · intro read
    unfold rfcDigits? at read
    split at read
    · cases read
    next behind found =>
      dsimp only at read
      split at read
      · cases read
      next some_digit =>
        obtain rfl := Option.some.inj read
        obtain ⟨blanks, is_behind, all_blank⟩ := Text.exists_trimStart behind
        refine ⟨blanks, (Text.trimStart behind).dropWhile Text.isDecimalDigit, ?_, all_blank,
          ?_, ?_, ?_⟩
        · rw [List.takeWhile_append_dropWhile, ← is_behind, Text.eq_append_of_afterStart? found]
        · exact fun none_there => some_digit (by rw [none_there]; rfl)
        · exact List.all_eq_true.1 List.all_takeWhile
        · intro c first
          simpa [Option.mem_def.1 first] using
            List.head?_dropWhile_not Text.isDecimalDigit (Text.trimStart behind)
  · rintro ⟨blanks, rest, rfl, all_blank, some_digit, all_digits, stop⟩
    obtain ⟨digit, others, rfl⟩ := List.exists_cons_of_ne_nil some_digit
    -- No digit is white space, so what is skipped is exactly the white space in front of them.
    have no_blank := Text.isBlank_of_isDecimalDigit (all_digits digit List.mem_cons_self)
    have taken := Json.takeWhile_append all_digits stop
    rw [rfcDigits?, Text.afterStart?_append]
    dsimp only
    rw [List.cons_append, Text.trimStart_append all_blank no_blank, ← List.cons_append, taken]
    rfl

/-- A number is read on exactly the lines that state it. -/
theorem rfcDigitsOn?_eq_some_iff {cs digits : List Char} :
    rfcDigitsOn? cs = some digits ↔ StatesNumber cs digits := by
  rw [rfcDigitsOn?, Option.bind_eq_some_iff]
  constructor
  · rintro ⟨left, is_left, read⟩
    obtain ⟨blanks, rest, rfl, states⟩ := rfcDigits?_eq_some_iff.1 read
    exact ⟨blanks, rest, is_left, states⟩
  · rintro ⟨blanks, rest, is_left, states⟩
    exact ⟨_, is_left, rfcDigits?_eq_some_iff.2 ⟨blanks, rest, rfl, states⟩⟩

/-! ## The lines of the block -/

variable {header : Header} {number : Nat} {block : List (List Char)}

/-- The lines of a header are read one part after the other. -/
theorem readLines_append (header : Header) (number : Nat) (block others : List (List Char)) :
    header.readLines number (block ++ others) =
      (header.readLines number block).readLines (number + block.length) others := by
  induction block generalizing header number with
  | nil => rfl
  | cons cs rest ih =>
    rw [List.cons_append, readLines, readLines, ih, List.length_cons, Nat.add_right_comm,
      Nat.add_assoc number]

/-- A line of a block is read behind the lines in front of it. -/
theorem ofBlock_append_cons (number : Nat) (before : List (List Char)) (cs : List Char)
    (after : List (List Char)) :
    ofBlock number (before ++ cs :: after) =
      ((ofBlock number before).readLine (number + before.length) cs).readLines
        (number + before.length + 1) after := by
  rw [ofBlock, readLines_append, readLines]
  rfl

/-- Lines that state no number leave the one that is known. -/
theorem rfcNumber_readLines (no_number : ∀ cs ∈ block, ∀ digits, ¬ StatesNumber cs digits) :
    (header.readLines number block).rfcNumber = header.rfcNumber := by
  induction block generalizing header number with
  | nil => rfl
  | cons cs rest ih =>
    rw [List.forall_mem_cons] at no_number
    have none_here : rfcDigitsOn? cs = none := by
      refine Option.eq_none_iff_forall_ne_some.2 fun digits read => ?_
      exact no_number.1 digits (rfcDigitsOn?_eq_some_iff.1 read)
    rw [readLines, ih no_number.2, rfcNumber_readLine, none_here]
    rfl

/-- The last line that states a number decides. -/
theorem rfcNumber_ofBlock {before after : List (List Char)} {cs digits : List Char}
    (states : StatesNumber cs digits)
    (last : ∀ later ∈ after, ∀ other, ¬ StatesNumber later other) :
    (ofBlock number (before ++ cs :: after)).rfcNumber = Text.readUnsigned32? digits := by
  rw [ofBlock_append_cons, rfcNumber_readLines last, rfcNumber_readLine,
    rfcDigitsOn?_eq_some_iff.2 states]
  rfl

/-- A header has no date exactly if none of its lines has one. -/
theorem date_readLines_eq_none_iff :
    (header.readLines number block).date = none ↔
      header.date = none ∧ ∀ cs ∈ block, dateOn? cs = none := by
  -- By induction on the lines: a date on the first one is replaced only by a later one.
  induction block generalizing header number with
  | nil => simp
  | cons cs rest ih =>
    rw [readLines, ih, date_readLine, List.forall_mem_cons]
    cases dateOn? cs with
    | none => simp
    | some d => simp

end Header

/-! ## Diagnostics -/

/-- Of a document with a header block only the first line of the block is ever reported, and that
exactly if the block has no date. -/
theorem reports_iff {path : String} {format : SourceFormat} {lines block : List (List Char)}
    {start number : Nat} (is_block : IsHeaderBlock lines start block) :
    (readDocument path format lines).Reports number ↔
      number = start + 1 ∧ ∀ cs ∈ block, Header.dateOn? cs = none := by
  have no_date : (Header.ofBlock (start + 1) block).date = none ↔
      ∀ cs ∈ block, Header.dateOn? cs = none := by
    rw [Header.ofBlock, Header.date_readLines_eq_none_iff]
    exact and_iff_right rfl
  -- The block starts inside the text, so its first line is not moved to the last line.
  have placed : ∀ message, (Diagnostic.near (start + 1) lines.length message).line =
      some (start + 1) := by
    intro message
    have inside := is_block.start_lt
    rw [Diagnostic.near, if_neg (by omega)]
    simp only [Option.some.injEq]
    omega
  rw [Document.Reports, readDocument, is_block.page.2, ← no_date]
  dsimp only [FrontPage.headerDiagnostics]
  cases (Header.ofBlock (start + 1) block).date with
  | none => simp [placed, eq_comm]
  | some found => simp

end PlainText

/-! ## Documents -/

/-- The number of a line that states one is read exactly if it is a number of 32 bits. -/
theorem PlainText.StatesNumber.read_iff {cs digits : List Char}
    (states : StatesNumber cs digits) :
    Text.readUnsigned32? digits = some (Text.decimalValue digits) ↔
      Text.readUnsigned32? digits ≠ none := by
  constructor
  · intro read nothing
    rw [read] at nothing
    cases nothing
  · intro some_number
    obtain ⟨n, read⟩ := Option.ne_none_iff_exists'.1 some_number
    obtain ⟨behind, is_behind, is_digits, is_value, -⟩ := Text.readUnsigned32?_eq_some_iff.1 read
    obtain ⟨-, -, -, -, -, all_digits, -⟩ := states
    rcases is_behind with rfl | rfl
    · rw [read, Text.decimalValue_of_isDigits is_digits, is_value]
    · exact absurd (all_digits '+' List.mem_cons_self) (by decide)

/-- A number of the root of a well-formed text is kept if it is one of 32 bits, or else quoted by a
diagnostic. -/
theorem RfcXml.rfcNumber_kept_or_quoted (path : String) {text : List Char} {root : Xml.Node}
    {number : String} (is_root : Xml.IsRootOf text root) (is_rfc : root.hasName "rfc" = true)
    (has_number : root.attribute? "number" = some number) :
    ∃ doc, readDocument path text (Text.splitLines text) = .ok doc ∧
      ((∃ n, Text.IsUnsigned32 (Text.trim number.toList) n ∧ doc.front.rfcNumber = some n) ∨
        doc.front.rfcNumber = none ∧
          Diagnostic.near root.line doc.lineCount
            ("Could not parse the RFC number '" ++ number ++ "'") ∈ doc.diagnostics) := by
  refine ⟨ofRoot path (Text.splitLines text) root,
    readDocument_of_isRootOf path is_root is_rfc _, ?_⟩
  have is_number : rfcNumber? root = Text.readUnsigned32? (Text.trim number.toList) := by
    rw [rfcNumber?, has_number]
    rfl
  cases read : Text.readUnsigned32? (Text.trim number.toList) with
  | some n => exact .inl ⟨n, Text.readUnsigned32?_eq_some_iff.1 read, is_number.trans read⟩
  | none =>
    have same_count : (ofRoot path (Text.splitLines text) root).lineCount =
        (Text.splitLines text).length := List.length_map _
    have quoted : numberDiagnostics (Text.splitLines text).length root =
        [diagnosticAt (Text.splitLines text).length root
          ("Could not parse the RFC number '" ++ number ++ "'")] := by
      rw [numberDiagnostics, has_number]
      dsimp only
      rw [is_number, read]
      rfl
    refine .inr ⟨is_number.trans read, List.mem_append_left _ ?_⟩
    rw [same_count, quoted]
    exact List.mem_singleton_self _

/-- The last line of a header block that states a number makes a text an RFC with that number
exactly if it is a number of 32 bits in ASCII digits, and a diagnostic is on that line exactly if it
is the first of a block without a date. The number of the root of a well-formed XML text is always
kept or quoted by a diagnostic. -/
theorem rfcNumber_kept_or_reported (path : String) :
    (∀ (format : SourceFormat) (lines before after : List (List Char)) (start : Nat)
        (cs digits : List Char), PlainText.IsHeaderBlock lines start (before ++ cs :: after) →
      PlainText.StatesNumber cs digits →
      (∀ later ∈ after, ∀ other, ¬ PlainText.StatesNumber later other) →
      ((PlainText.readDocument path format lines).front.rfcNumber =
          some (Text.decimalValue digits) ↔
        Text.IsUnsigned32 digits (Text.decimalValue digits)) ∧
      ((PlainText.readDocument path format lines).kind = .rfc ↔
        Text.IsUnsigned32 digits (Text.decimalValue digits)) ∧
      ((PlainText.readDocument path format lines).Reports (start + before.length + 1) ↔
        before = [] ∧ ∀ line ∈ before ++ cs :: after, PlainText.Header.dateOn? line = none)) ∧
    ∀ (text : List Char) (root : Xml.Node) (number : String), Xml.IsRootOf text root →
      root.hasName "rfc" = true → root.attribute? "number" = some number →
      ∃ doc, RfcXml.readDocument path text (Text.splitLines text) = .ok doc ∧
        ((∃ n, Text.IsUnsigned32 (Text.trim number.toList) n ∧ doc.front.rfcNumber = some n) ∨
          doc.front.rfcNumber = none ∧
            Diagnostic.near root.line doc.lineCount
              ("Could not parse the RFC number '" ++ number ++ "'") ∈ doc.diagnostics) := by
  refine ⟨?_, fun text root number => RfcXml.rfcNumber_kept_or_quoted path⟩
  intro format lines before after start cs digits is_block states last
  have is_number : (PlainText.readDocument path format lines).front.rfcNumber =
      Text.readUnsigned32? digits := by
    show (PlainText.FrontPage.ofLines lines).header.rfcNumber = _
    rw [is_block.page.1]
    exact PlainText.Header.rfcNumber_ofBlock states last
  refine ⟨?_, ?_, ?_⟩
  · rw [is_number]
    exact Text.readUnsigned32?_eq_some_iff
  · have is_kind : (PlainText.readDocument path format lines).kind =
        DocumentKind.ofNumber (Text.readUnsigned32? digits) :=
      congrArg DocumentKind.ofNumber is_number
    rw [is_kind, ← Text.readUnsigned32?_eq_some_iff, states.read_iff]
    cases Text.readUnsigned32? digits with
    | none => simp [DocumentKind.ofNumber]
    | some n => simp [DocumentKind.ofNumber]
  · rw [PlainText.reports_iff is_block]
    refine and_congr_left fun _ => ?_
    rw [← List.length_eq_zero_iff]
    omega

/-- A header whose number does not fit 32 bits. -/
def farNumberHeader : List (List Char) :=
  ["Network Working Group            J. Smith".toList,
    "Request for Comments: 4294967296  March 2024".toList]

/-- It is a header block, and its second line states the number. -/
theorem isHeaderBlock_farNumberHeader :
    PlainText.IsHeaderBlock farNumberHeader 0 farNumberHeader ∧
      PlainText.StatesNumber "Request for Comments: 4294967296  March 2024".toList
        "4294967296".toList := by
  refine ⟨⟨by decide +kernel, List.prefix_rfl, by decide +kernel, by decide +kernel, ?_⟩, ?_⟩
  · exact ⟨_, List.mem_cons_self, by decide +kernel⟩
  · exact PlainText.Header.rfcDigitsOn?_eq_some_iff.1 (by decide +kernel)

/-- The number is dropped without a diagnostic on its line. -/
theorem not_rfcNumber_kept_or_reported :
    ¬ ∀ (path : String) (format : SourceFormat) (lines before after : List (List Char))
        (start : Nat) (cs digits : List Char),
      PlainText.IsHeaderBlock lines start (before ++ cs :: after) →
      PlainText.StatesNumber cs digits →
      (∀ later ∈ after, ∀ other, ¬ PlainText.StatesNumber later other) →
      (PlainText.readDocument path format lines).front.rfcNumber =
          some (Text.decimalValue digits) ∨
        (PlainText.readDocument path format lines).Reports (start + before.length + 1) := by
  intro kept_or_reported
  obtain ⟨is_block, states⟩ := isHeaderBlock_farNumberHeader
  rcases kept_or_reported "draft.txt" .paginated farNumberHeader
    ["Network Working Group            J. Smith".toList] [] 0 _ _ is_block states
    (List.forall_mem_nil _) with kept | ⟨d, mem, -⟩
  · have dropped : (PlainText.readDocument "draft.txt" .paginated
        farNumberHeader).front.rfcNumber = none := by decide +kernel
    rw [dropped] at kept
    cases kept
  · have nothing : (PlainText.readDocument "draft.txt" .paginated
        farNumberHeader).diagnostics = [] := by decide +kernel
    rw [nothing] at mem
    cases mem

/-- An XML text whose number does not fit 32 bits. -/
def farNumberText : List Char := "<rfc number='4294967296'/>".toList

/-- That header makes no RFC and has no diagnostic on the line of the number; that XML text has one
for the number. -/
theorem rfcNumber_kept_or_reported_far :
    (PlainText.readDocument "draft.txt" .paginated farNumberHeader).kind ≠ .rfc ∧
      ¬ (PlainText.readDocument "draft.txt" .paginated farNumberHeader).Reports 2 ∧
      ∃ doc, RfcXml.readDocument "draft.xml" farNumberText (Text.splitLines farNumberText) =
          .ok doc ∧
        doc.front.rfcNumber = none ∧ doc.diagnostics ≠ [] := by
  obtain ⟨is_block, states⟩ := isHeaderBlock_farNumberHeader
  obtain ⟨-, kind_iff, reports_iff⟩ := (rfcNumber_kept_or_reported "draft.txt").1 .paginated
    farNumberHeader ["Network Working Group            J. Smith".toList] [] 0 _ _ is_block states
    (List.forall_mem_nil _)
  have not_read : ¬ Text.IsUnsigned32 "4294967296".toList
      (Text.decimalValue "4294967296".toList) := by
    rw [← Text.readUnsigned32?_eq_some_iff]
    decide +kernel
  refine ⟨fun is_rfc => not_read (kind_iff.1 is_rfc), fun reports => ?_, ?_⟩
  · cases (reports_iff.1 reports).1
  · have read : (Xml.parse farNumberText).toOption.bind (fun nodes => (Xml.root? nodes).map
        fun root => (root.hasName "rfc", root.attribute? "number")) =
          some (true, some "4294967296") := by decide +kernel
    obtain ⟨nodes, is_parsed, is_root⟩ := Option.bind_eq_some_iff.1 read
    obtain ⟨root, first, found⟩ := Option.map_eq_some_iff.1 is_root
    have parsed : Xml.parse farNumberText = .ok nodes := by
      cases outcome : Xml.parse farNumberText with
      | error error =>
        rw [outcome] at is_parsed
        cases is_parsed
      | ok parsed_nodes =>
        rw [outcome] at is_parsed
        exact congrArg Except.ok (Option.some.inj is_parsed)
    obtain ⟨is_rfc, has_number⟩ := Prod.mk.inj found
    obtain ⟨doc, is_doc, ⟨n, is_number, -⟩ | ⟨dropped, quoted⟩⟩ :=
      (rfcNumber_kept_or_reported "draft.xml").2 farNumberText root "4294967296"
        ⟨nodes, parsed, first⟩ is_rfc has_number
    · have not_fit : Text.readUnsigned32? (Text.trim "4294967296".toList) = none := by
        decide +kernel
      rw [Text.readUnsigned32?_eq_some_iff.2 is_number] at not_fit
      cases not_fit
    · exact ⟨doc, is_doc, dropped, List.ne_nil_of_mem quoted⟩

end DraftNits
