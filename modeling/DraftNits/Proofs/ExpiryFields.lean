import DraftNits.Proofs.HeaderBlock
import DraftNits.Proofs.Provenance

/-! # The expiry of a text document

A text document may say several times when it expires: on lines of its header block, and then in its
body as long as no date is known. The three fields that keep the expiry fit together after every one
of these lines but one: a header line with a date, after an earlier one without, leaves the text of
the earlier one in place.

* `Document.ExpiryAgrees` — a date or a text but not both, with a line exactly if there is one of
  them, on which the text stands.
* `PlainText.Expiry.Follows.readField` — one expiry of the header;
  `PlainText.Header.follows_readLines` is the run over its lines.
* `PlainText.Expiry.Agrees.readText` — one line of the body.
* `PlainText.expiryAgrees_readDocument_iff` — for the documents of all texts, exactly when the
  fields fit together. -/

namespace DraftNits

/-- Whether what a document says of its expiry fits together. -/
structure Document.ExpiryAgrees (doc : Document) : Prop where
  /-- A date is not kept together with a text. -/
  oneForm : doc.front.expires = none ∨ doc.front.expiresText = none
  /-- There is a line exactly if there is one of them. -/
  hasLine : doc.front.expiresLine.isSome = true ↔
    doc.front.expires.isSome = true ∨ doc.front.expiresText.isSome = true
  /-- A text stands on the line. -/
  shown : ∀ text ∈ doc.front.expiresText, ∃ n, doc.front.expiresLine = some n ∧
    doc.Shows n text.toList

namespace PlainText

variable {stands : Nat → List Char → Prop}

namespace Expiry

/-- Whether an expiry fits together, with its text on a line that stands at a number. -/
structure Agrees (stands : Nat → List Char → Prop) (expiry : Expiry) : Prop where
  /-- A date is not kept together with a text. -/
  oneForm : expiry.date = none ∨ expiry.text = none
  /-- There is a line exactly if there is one of them. -/
  hasLine : expiry.line.isSome = true ↔ expiry.date.isSome = true ∨ expiry.text.isSome = true
  /-- A text stands on the line. -/
  shown : ∀ text ∈ expiry.text, ∃ n, expiry.line = some n ∧ ShownAt stands n text.toList

/-- Whether the last of some values is a date, and one before it is not. -/
def DatedAnew (values : List (List Char)) : Prop :=
  ∃ earlier last, values = earlier ++ [last] ∧ (Date.ofFrontMatter? last).isSome = true ∧
    ∃ value ∈ earlier, Date.ofFrontMatter? value = none

/-! ## The header -/

/-- Whether an expiry is what some values in turn have made of it. -/
structure Follows (stands : Nat → List Char → Prop) (values : List (List Char))
    (expiry : Expiry) : Prop where
  /-- The date is that of the last value. -/
  date : expiry.date = values.getLast?.bind Date.ofFrontMatter?
  /-- There is a text once some value was no date. -/
  text : expiry.text.isSome = true ↔ ∃ value ∈ values, Date.ofFrontMatter? value = none
  /-- There is a line once there was a value. -/
  hasLine : expiry.line.isSome = true ↔ values ≠ []
  /-- Without a date, the text is that of the line. -/
  shown : expiry.date = none → ∀ text ∈ expiry.text, ∃ n, expiry.line = some n ∧
    ShownAt stands n text.toList

namespace Follows

variable {values : List (List Char)} {expiry : Expiry}

/-- Before the first value nothing is known. -/
theorem nil : unknown.Follows stands [] :=
  ⟨rfl, by simp [unknown], by simp [unknown], fun _ text is_text => by cases is_text⟩

/-- A value is read with the line that it stands on. -/
theorem readField (follows : expiry.Follows stands values) {number : Nat} {line value : List Char}
    (here : stands number line) (is_part : value <:+: line) :
    (expiry.readField number value).Follows stands (values ++ [value]) := by
  unfold Expiry.readField
  cases is_date : Date.ofFrontMatter? value with
  | some d =>
    -- The date and the line are replaced, the text of an earlier value stays.
    refine ⟨by simp [is_date], ?_, by simp, fun no_date => by cases no_date⟩
    rw [follows.text]
    simp [List.mem_append, or_and_right, exists_or, is_date]
  | none =>
    refine ⟨by simp [is_date], by simp [is_date], by simp, fun _ text is_text => ?_⟩
    obtain rfl := Option.some.inj is_text
    refine ⟨number, rfl, line, here, ?_⟩
    rw [String.toList_ofList]
    exact (Text.trim_isInfix value).trans is_part

/-- There is a date together with a text exactly if the last value is a date after one that is
none. -/
theorem both_iff (follows : expiry.Follows stands values) :
    expiry.date.isSome = true ∧ expiry.text.isSome = true ↔ DatedAnew values := by
  rw [follows.date, follows.text]
  constructor
  · rintro ⟨dated, value, mem, no_date⟩
    obtain ⟨last, is_last, is_date⟩ : ∃ last, values.getLast? = some last ∧
        (Date.ofFrontMatter? last).isSome = true := by
      cases is_last : values.getLast? with
      | none => simp [is_last] at dated
      | some last => exact ⟨last, rfl, by simpa [is_last] using dated⟩
    obtain ⟨earlier, rfl⟩ := List.getLast?_eq_some_iff.1 is_last
    refine ⟨earlier, last, rfl, is_date, value, ?_, no_date⟩
    -- The value without a date is not the last one.
    rcases List.mem_append.1 mem with before | at_end
    · exact before
    · rw [List.mem_singleton.1 at_end] at no_date
      simp [no_date] at is_date
  · rintro ⟨earlier, last, rfl, is_date, value, mem, no_date⟩
    exact ⟨by simpa using is_date, value, List.mem_append_left _ mem, no_date⟩

/-- There is a line exactly if there is a date or a text. -/
theorem hasLine_iff (follows : expiry.Follows stands values) :
    expiry.line.isSome = true ↔ expiry.date.isSome = true ∨ expiry.text.isSome = true := by
  rw [follows.hasLine, follows.text, follows.date]
  constructor
  · intro some_value
    have is_last := List.getLast?_eq_some_getLast some_value
    cases is_date : Date.ofFrontMatter? (values.getLast some_value) with
    | some d => exact .inl (by simp [is_last, is_date])
    | none => exact .inr ⟨_, List.getLast_mem some_value, is_date⟩
  · rintro (dated | ⟨value, mem, -⟩) rfl
    · simp at dated
    · cases mem

/-- The expiry fits together unless it was dated anew. -/
theorem agrees (follows : expiry.Follows stands values) (not_anew : ¬ DatedAnew values) :
    expiry.Agrees stands := by
  have one_form : expiry.date = none ∨ expiry.text = none := by
    by_contra both
    rw [not_or] at both
    exact not_anew (follows.both_iff.1
      ⟨Option.isSome_iff_ne_none.2 both.1, Option.isSome_iff_ne_none.2 both.2⟩)
  refine ⟨one_form, follows.hasLine_iff, fun text is_text => ?_⟩
  rcases one_form with no_date | no_text
  · exact follows.shown no_date text is_text
  · rw [no_text] at is_text
    cases is_text

end Follows

end Expiry

/-- The value of an expiry is a part of its line. -/
theorem Header.isInfix_of_expiryValue? {cs value : List Char}
    (on_line : Header.expiryValue? cs = some value) : value <:+: cs := by
  obtain ⟨left, is_left, is_value⟩ := Option.bind_eq_some_iff.1 on_line
  have in_left := (Text.isSuffix_of_afterStart? is_value).isInfix
  exact in_left.trans ((Columns.isInfix_ofLine cs).1 left is_left)

/-- A line of the header is read with the value on it, if there is one. -/
theorem Header.follows_readLine {header : Header} {values : List (List Char)} {number : Nat}
    {cs : List Char} (follows : header.expiry.Follows stands values) (here : stands number cs) :
    (header.readLine number cs).expiry.Follows stands
      (values ++ (Header.expiryValue? cs).toList) := by
  rw [Header.expiry_readLine]
  cases on_line : Header.expiryValue? cs with
  | none => simpa using follows
  | some value => exact follows.readField here (Header.isInfix_of_expiryValue? on_line)

/-- The lines of the header are read with the values on them. -/
theorem Header.follows_readLines {header : Header} {values block : List (List Char)} {number : Nat}
    (follows : header.expiry.Follows stands values) (stand : StandFrom stands number block) :
    (header.readLines number block).expiry.Follows stands
      (values ++ block.filterMap Header.expiryValue?) := by
  induction block generalizing header values number with
  | nil => simpa using follows
  | cons cs rest ih =>
    obtain ⟨here, later⟩ := standFrom_cons.1 stand
    have on_lines : (cs :: rest).filterMap Header.expiryValue? =
        (Header.expiryValue? cs).toList ++ rest.filterMap Header.expiryValue? := by
      rw [List.filterMap_cons]
      cases Header.expiryValue? cs <;> rfl
    rw [Header.readLines, on_lines, ← List.append_assoc]
    exact ih (Header.follows_readLine follows here) later

/-- Whether the last expiry in the header block of a text is a date, and one before it is not. -/
def DatesExpiryAnew (lines : List (List Char)) : Prop :=
  ∃ start block, IsHeaderBlock lines start block ∧
    Expiry.DatedAnew (block.filterMap Header.expiryValue?)

/-- The expiry on the first page follows the values in the header block. -/
theorem FrontPage.exists_follows {lines : List (List Char)} (stand : StandFrom stands 1 lines) :
    ∃ values, (FrontPage.ofLines lines).header.expiry.Follows stands values ∧
      (Expiry.DatedAnew values ↔ DatesExpiryAnew lines) := by
  by_cases has_block : ∃ start block, IsHeaderBlock lines start block
  · obtain ⟨start, block, is_block⟩ := has_block
    refine ⟨block.filterMap Header.expiryValue?, ?_, fun anew => ⟨start, block, is_block, anew⟩, ?_⟩
    · have nothing : Header.empty.expiry.Follows stands [] := Expiry.Follows.nil
      rw [is_block.page.1, Nat.add_comm]
      exact Header.follows_readLines nothing (stand.part is_block.follows)
    · rintro ⟨other_start, other, also, anew⟩
      exact (is_block.unique also).2 ▸ anew
  · have no_header := (FrontPage.exists_isHeaderBlock_or lines).resolve_left has_block
    refine ⟨[], no_header ▸ Expiry.Follows.nil, ?_, ?_⟩
    · rintro ⟨earlier, last, nothing, -⟩
      simp at nothing
    · rintro ⟨start, block, is_block, -⟩
      exact absurd ⟨start, block, is_block⟩ has_block

/-! ## The body -/

/-- A date that is known is not looked for again. -/
theorem Expiry.readText_of_date {expiry : Expiry} (dated : expiry.date.isSome = true) (number : Nat)
    (line : List Char) : expiry.readText number line = expiry := by
  rw [Expiry.readText, if_pos dated]

/-- A date in the text takes the place of everything else. -/
theorem Expiry.Agrees.readText {expiry : Expiry} (agrees : expiry.Agrees stands) (number : Nat)
    (line : List Char) : (expiry.readText number line).Agrees stands := by
  unfold Expiry.readText
  split
  · exact agrees
  split
  · exact ⟨.inr rfl, by simp, fun text is_text => by cases is_text⟩
  · exact agrees

/-- Only an ordinary line may change the expiry. -/
theorem Body.expiry_readLine (body : Body) (number : Nat) (raw : List Char)
    (rest : List (List Char)) :
    (body.readLine number raw rest).expiry = body.expiry ∨
      ∃ line, (body.readLine number raw rest).expiry = body.expiry.readText number line := by
  unfold Body.readLine
  cases BodyLine.ofLine raw with
  | furniture => exact .inl rfl
  | heading heading => exact .inl rfl
  | ordinary line =>
    refine .inr ⟨line, ?_⟩
    dsimp only [Body.readOrdinary]
    split
    · split <;> rfl
    · rfl

/-- What one line of a body keeps is kept by all of them. -/
theorem Body.expiry_ofLines {motive : Expiry → Prop} {expiry : Expiry} (before : motive expiry)
    (step : ∀ {expiry : Expiry}, motive expiry → ∀ number line,
      motive (expiry.readText number line)) (start : Nat) (lines : List (List Char)) :
    motive (Body.ofLines expiry start lines).expiry := by
  refine Body.ofLines_induction (motive := fun _ body => motive body.expiry) before ?_
  intro body i raw _ _ kept
  rcases body.expiry_readLine (i + 1) raw (lines.drop (i + 1)) with same | ⟨line, read⟩
  · rwa [same]
  · exact read ▸ step kept (i + 1) line

/-! ## Documents -/

/-- In every text document there is a line for the expiry exactly if there is a date or a text.
There are both exactly if the header block gives a date last, after an expiry that is no date; in all
other documents the fields fit together, and a text that is kept stands on the line that is kept with
it. -/
theorem expiryAgrees_readDocument_iff (path : String) (format : SourceFormat)
    (lines : List (List Char)) :
    ((readDocument path format lines).front.expiresLine.isSome = true ↔
      (readDocument path format lines).front.expires.isSome = true ∨
        (readDocument path format lines).front.expiresText.isSome = true) ∧
    ((readDocument path format lines).front.expires.isSome = true ∧
        (readDocument path format lines).front.expiresText.isSome = true ↔
      DatesExpiryAnew lines) ∧
    ((readDocument path format lines).ExpiryAgrees ↔ ¬ DatesExpiryAnew lines) := by
  have stand : StandFrom (readDocument path format lines).Stands 1 lines :=
    Document.standFrom_lines rfl
  obtain ⟨values, follows, anew_iff⟩ := FrontPage.exists_follows stand
  rw [← anew_iff]
  -- The body leaves a header that was dated anew as it is, and fits together behind any other.
  by_cases anew : Expiry.DatedAnew values
  · have both := follows.both_iff.2 anew
    have same : (Body.ofLines (FrontPage.ofLines lines).header.expiry
        (FrontPage.ofLines lines).bodyStart lines).expiry =
          (FrontPage.ofLines lines).header.expiry := by
      refine Body.expiry_ofLines
        (motive := (· = (FrontPage.ofLines lines).header.expiry)) rfl ?_ _ _
      rintro _ rfl number line
      exact Expiry.readText_of_date both.1 number line
    have dated : (readDocument path format lines).front.expires.isSome = true :=
      (congrArg (fun expiry => expiry.date.isSome) same).trans both.1
    have worded : (readDocument path format lines).front.expiresText.isSome = true :=
      (congrArg (fun expiry => expiry.text.isSome) same).trans both.2
    have lined : (readDocument path format lines).front.expiresLine.isSome = true :=
      (congrArg (fun expiry => expiry.line.isSome) same).trans (follows.hasLine_iff.2 (.inl both.1))
    refine ⟨iff_of_true lined (.inl dated), iff_of_true ⟨dated, worded⟩ anew,
      iff_of_false (fun agrees => ?_) (not_not_intro anew)⟩
    rcases agrees.oneForm with no_date | no_text
    · simp [no_date] at dated
    · simp [no_text] at worded
  · have agrees := Body.expiry_ofLines
      (motive := Expiry.Agrees (readDocument path format lines).Stands) (follows.agrees anew)
      Expiry.Agrees.readText (FrontPage.ofLines lines).bodyStart lines
    refine ⟨agrees.hasLine, iff_of_false (fun both => ?_) anew, iff_of_true ?_ anew⟩
    · rcases agrees.oneForm with no_date | no_text
      · exact absurd both.1 (by simp [readDocument, frontMatter, no_date])
      · exact absurd both.2 (by simp [readDocument, frontMatter, no_text])
    · refine ⟨agrees.oneForm, agrees.hasLine, fun text is_text => ?_⟩
      obtain ⟨n, is_line, shown⟩ := agrees.shown text is_text
      exact ⟨n, is_line, .of_shownAt shown⟩

/-- A header whose second expiry is a date. -/
def redatedHeader : List (List Char) :=
  ["Network Working Group            J. Smith".toList,
    "Expires: someday               March 2024".toList, "Expires: September 2, 2024".toList]

/-- The fields do not fit together in every text document: the text of an expiry stays when a later
line gives a date. -/
theorem not_expiryAgrees_readDocument :
    ¬ ∀ (path : String) (format : SourceFormat) (lines : List (List Char)),
      (readDocument path format lines).ExpiryAgrees := by
  intro all_agree
  have both : (readDocument "draft.txt" .paginated redatedHeader).front.expires.isSome = true ∧
      (readDocument "draft.txt" .paginated redatedHeader).front.expiresText = some "someday" := by
    decide +kernel
  rcases (all_agree "draft.txt" .paginated redatedHeader).oneForm with no_date | no_text
  · simp [no_date] at both
  · simp [no_text] at both

end PlainText

end DraftNits
