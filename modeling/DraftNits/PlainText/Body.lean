import DraftNits.PlainText.Citation
import DraftNits.PlainText.Furniture
import DraftNits.PlainText.Header
import DraftNits.PlainText.Heading

/-! # The body of a text document

The body is walked once from its first line to its last. Page furniture is passed over, a heading
opens a section, and any other line is an ordinary one. Ordinary lines of a references section may
start an entry; those of other sections may hold citations. -/

namespace DraftNits.PlainText

/-! ## Kinds of lines -/

/-- What a line of the body is. -/
inductive BodyLine
  /-- Page furniture. -/
  | furniture
  /-- A heading. -/
  | heading (heading : Heading)
  /-- An ordinary line, without the form feeds at its start. -/
  | ordinary (line : List Char)
  deriving DecidableEq, Repr

/-- The kind of a line. -/
def BodyLine.ofLine (line : List Char) : BodyLine :=
  let line := dropFormFeeds line
  if isFurniture line then .furniture
  else
    match Heading.ofLine? line with
    | some h => .heading h
    | none => .ordinary line

/-! ## Expiry in the text -/

/-- Whether a text is nothing but a full stop, which may be missing, and white space. -/
def isSentenceEnd (cs : List Char) : Bool :=
  match cs with
  | '.' :: rest => Text.isAllBlank rest
  | _ => Text.isAllBlank cs

/-- The shortest beginning, of at least one character, that only the end of a sentence follows. -/
def untilSentenceEnd : List Char → List Char
  | [] => []
  | c :: cs => if isSentenceEnd cs then [c] else c :: untilSentenceEnd cs

/-- The date after the words `will expire on`. It is meant to stand on one line; that is not checked
here, since a line holds no line feed. -/
def willExpireOn? (line : List Char) : Option Date :=
  match Text.splitAt? "will expire on ".toList line with
  | none => none
  | some (_, rest) => Date.ofFrontMatter? (untilSentenceEnd rest)

/-- The expiry after an ordinary line. A date that is known already stays. -/
def Expiry.readText (expiry : Expiry) (number : Nat) (line : List Char) : Expiry :=
  if expiry.date.isSome then expiry
  else
    match willExpireOn? line with
    | some d => ⟨some d, some number, none⟩
    | none => expiry

/-! ## The walk -/

/-- What the body has said so far. The lists hold the latest item first. -/
structure Body where
  /-- Whether the current section lists references. -/
  inReferences : Bool
  /-- Whether those references are normative. -/
  normative : Bool
  /-- The sections. -/
  sections : List Section
  /-- The references. -/
  references : List Reference
  /-- The citations. -/
  citations : List Citation
  /-- Whether there is an abstract. -/
  hasAbstract : Bool
  /-- Whether the lines name BCP 78 and BCP 79. -/
  hasIpr : Bool
  /-- The expiry. -/
  expiry : Expiry
  deriving DecidableEq

namespace Body

/-- A body of which nothing has been read, with the expiry that the header gives. -/
def start (expiry : Expiry) : Body := ⟨false, false, [], [], [], false, false, expiry⟩

/-- The body after a heading. The title decides whether references follow, whether they are
normative, and whether this is the abstract. -/
def readHeading (body : Body) (number : Nat) (heading : Heading) : Body :=
  let title := Text.lowercase heading.title
  { body with
    inReferences := Text.contains "references".toList title
    normative := Text.contains "normative".toList title
    hasAbstract := body.hasAbstract || "abstract".toList.isPrefixOf title
    sections := heading.toSection number :: body.sections }

/-- The reference that starts on a line, with the address in it or in the lines after it. -/
def reference? (normative : Bool) (number : Nat) (line raw : List Char)
    (rest : List (List Char)) : Option Reference :=
  (entryAnchor? line).map fun anchor =>
    ⟨String.ofList anchor, (entryUrl? raw rest).map String.ofList, normative, number⟩

/-- The body after an ordinary line; `raw` is the line with its form feeds, `rest` the lines after
it. -/
def readOrdinary (body : Body) (number : Nat) (line raw : List Char)
    (rest : List (List Char)) : Body :=
  let body := { body with
    hasIpr := body.hasIpr || Text.contains "BCP 78 and BCP 79".toList line
    expiry := body.expiry.readText number line }
  if body.inReferences then
    match reference? body.normative number line raw rest with
    | some reference => { body with references := reference :: body.references }
    | none => body
  else
    { body with
      citations := ((citedAnchors line).map fun anchor => ⟨String.ofList anchor, number⟩).reverse ++
        body.citations }

/-- The body after a line; `rest` holds the lines after it. -/
def readLine (body : Body) (number : Nat) (raw : List Char) (rest : List (List Char)) : Body :=
  match BodyLine.ofLine raw with
  | .furniture => body
  | .heading heading => body.readHeading number heading
  | .ordinary line => body.readOrdinary number line raw rest

/-- The body after lines that are numbered from `number` on. -/
def readLines (body : Body) (number : Nat) : List (List Char) → Body
  | [] => body
  | raw :: rest => (body.readLine number raw rest).readLines (number + 1) rest

@[simp] theorem readLines_nil (body : Body) (number : Nat) : body.readLines number [] = body := rfl

/-- Page furniture leaves the body as it is. -/
theorem readLine_furniture {raw : List Char} (h : BodyLine.ofLine raw = .furniture) (body : Body)
    (number : Nat) (rest : List (List Char)) : body.readLine number raw rest = body := by
  simp [readLine, h]

/-- The body of a document from the line after the first `start` ones on. -/
def ofLines (expiry : Expiry) (start : Nat) (lines : List (List Char)) : Body :=
  (Body.start expiry).readLines (start + 1) (lines.drop start)

end Body

end DraftNits.PlainText
