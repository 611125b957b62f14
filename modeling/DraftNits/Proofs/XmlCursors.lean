import DraftNits.Proofs.LineCount
import DraftNits.Xml.Markup

/-! # Cursors stay inside the text

A cursor stands in a text if what it sees is a part of the text and its place is the one at which
that part starts (`Cursor.StandsIn`). Every reader keeps its cursor in the text, and the entities of
a document type stand in it too.

* `Scan.Ensures` — what a reader that succeeds does to a cursor; it is composed along the reader.
* `Cursor.StandsIn.line_le` — the place of a character is on a line of the text.
* `Scan.documentType_gives` — entities stand where their values are written. -/

namespace DraftNits.Xml

/-! ## Cursors -/

/-- Whether a cursor stands in a text, at the place at which what it sees starts. -/
def Cursor.StandsIn (text : List Char) (cursor : Cursor) : Prop :=
  ∃ before after, text = before ++ (cursor.rest ++ after) ∧
    cursor.position = Position.start.afterAll before

namespace Cursor

variable {text : List Char} {cursor : Cursor}

/-- The cursor at the start of a text stands in it. -/
theorem standsIn_ofText (text : List Char) : (ofText text).StandsIn text :=
  ⟨[], [], by simp [ofText], rfl⟩

/-- What a cursor sees may be cut off at any place. -/
theorem StandsIn.prefix (stands : cursor.StandsIn text) {part : List Char}
    (is_start : part <+: cursor.rest) : StandsIn text ⟨cursor.position, part⟩ := by
  obtain ⟨before, after, split, place⟩ := stands
  obtain ⟨rest, same⟩ := is_start
  exact ⟨before, rest ++ after, by rw [split, ← same, List.append_assoc], place⟩

/-- A cursor that has moved over a part of what it sees stands in the text. -/
theorem StandsIn.move (stands : cursor.StandsIn text) {taken rest : List Char}
    (split : cursor.rest = taken ++ rest) :
    StandsIn text ⟨cursor.position.afterAll taken, rest⟩ := by
  obtain ⟨before, after, is_text, place⟩ := stands
  refine ⟨before ++ taken, after, by simp [is_text, split], ?_⟩
  rw [place, Position.afterAll_append]

/-- A cursor that moves over some characters stays in the text. -/
theorem StandsIn.advance (stands : cursor.StandsIn text) (n : Nat) :
    (cursor.advance n).StandsIn text :=
  stands.move (List.take_append_drop n cursor.rest).symm

/-- A cursor that moves over a run of characters stays in the text. -/
theorem StandsIn.skipWhile (stands : cursor.StandsIn text) (p : Char → Bool) :
    (cursor.skipWhile p).StandsIn text :=
  stands.advance _

/-- The place of a character is on a line of the text. -/
theorem StandsIn.line_le (stands : cursor.StandsIn text) (sees : cursor.rest ≠ []) :
    1 ≤ cursor.position.line ∧ cursor.position.line ≤ (Text.splitLines text).length := by
  obtain ⟨before, after, split, place⟩ := stands
  obtain ⟨c, rest, is_rest⟩ := List.exists_cons_of_ne_nil sees
  -- The place counts the line feeds before it, and the character that is seen is on a line too.
  have inside := Text.count_newline_lt_length_splitLines before c (rest ++ after)
  have line : cursor.position.line = 1 + before.count '\n' := by
    rw [place, Position.line_afterAll, Position.start]
  rw [is_rest, List.cons_append] at split
  rw [line, split]
  omega

end Cursor

/-! ## What a reader does -/

namespace Scan

variable {α β : Type}

/-- From a cursor with `pre`, a reader that succeeds ends with a value and a cursor with `post`. -/
def Ensures (pre : Cursor → Prop) (scan : Scan α) (post : α → Cursor → Prop) : Prop :=
  ∀ cursor, pre cursor → ∀ value next, scan cursor = .ok (value, next) → post value next

/-- A reader keeps its cursor in a text and gives a value with a property. -/
def Gives (text : List Char) (scan : Scan α) (p : α → Prop) : Prop :=
  Ensures (Cursor.StandsIn text) scan fun value next => p value ∧ next.StandsIn text

/-- A reader keeps its cursor in a text. -/
def Stays (text : List Char) (scan : Scan α) : Prop := Gives text scan fun _ => True

/-- A reader after another succeeds exactly if both do. -/
theorem bind_eq_ok_iff {scan : Scan α} {f : α → Scan β} {cursor next : Cursor} {value : β} :
    (scan >>= f) cursor = .ok (value, next) ↔
      ∃ first between, scan cursor = .ok (first, between) ∧
        f first between = .ok (value, next) := by
  change (scan cursor >>= fun found => f found.1 found.2) = _ ↔ _
  cases scan cursor with
  | error error => simp [bind, Except.bind]
  | ok found => simp [bind, Except.bind, Prod.ext_iff]

variable {pre : Cursor → Prop} {text : List Char} {p : α → Prop} {q : β → Prop}

/-- What a reader ensures is what the reader after it may rely on. -/
theorem Ensures.bind {scan : Scan α} {f : α → Scan β} {mid : α → Cursor → Prop}
    {post : β → Cursor → Prop} (first : Ensures pre scan mid)
    (then_ : ∀ a, Ensures (mid a) (f a) post) : Ensures pre (scan >>= f) post := by
  intro cursor starts value next done
  obtain ⟨a, between, first_done, then_done⟩ := bind_eq_ok_iff.1 done
  exact then_ a between (first cursor starts a between first_done) value next then_done

/-- What a reader gives is what the reader after it may rely on. -/
theorem Gives.bind {scan : Scan α} {f : α → Scan β} (first : Gives text scan p)
    (then_ : ∀ a, p a → Gives text (f a) q) : Gives text (scan >>= f) q :=
  Ensures.bind first fun a cursor holds => then_ a holds.1 cursor holds.2

/-- A reader after one that stays in the text. -/
theorem Stays.bind {scan : Scan α} {f : α → Scan β} (first : Stays text scan)
    (then_ : ∀ a, Gives text (f a) q) : Gives text (scan >>= f) q :=
  Gives.bind first fun a _ => then_ a

/-- A reader that gives a value stays in the text. -/
theorem Gives.stays {scan : Scan α} (gives : Gives text scan p) : Stays text scan :=
  fun cursor stands value next done => ⟨trivial, (gives cursor stands value next done).2⟩

/-- A value that is given without reading. -/
theorem gives_pure {a : α} (h : p a) : Gives text (pure a) p := by
  intro cursor stands value next done
  have same : (a, cursor) = (value, next) := Except.ok.inj done
  cases same
  exact ⟨h, stands⟩

/-- Without a value to give, nothing is read. -/
theorem stays_pure (a : α) : Stays text (pure a) := gives_pure trivial

/-- A failure gives nothing. -/
theorem gives_fail {error : SyntaxError} : Gives text (fail error) p := fun _ _ _ _ done => by
  cases done

/-- Nothing comes after a failure. -/
theorem gives_fail_bind {error : SyntaxError} {f : α → Scan β} :
    Gives text (fail error >>= f) q :=
  (gives_fail (p := fun _ => False)).bind fun _ absurd => absurd.elim

/-- A choice between two readers. -/
theorem gives_ite {c : Prop} [Decidable c] {yes no : Scan α} (then_ : Gives text yes p)
    (else_ : Gives text no p) : Gives text (if c then yes else no) p := by
  by_cases h : c <;> simpa [h]

/-- A reader that is perhaps passed over, where what comes after it is the same in both cases. -/
theorem gives_orSkip {c : Prop} [Decidable c] {through past : Scan α}
    (then_ : Gives text past p → Gives text through p) (after : Gives text past p) :
    Gives text (if c then through else past) p :=
  gives_ite (then_ after) after

/-- The cursor may be looked at. -/
theorem get_ensures : Ensures pre get fun value next => value = next ∧ pre next := by
  intro cursor starts value next done
  have same : (cursor, cursor) = (value, next) := Except.ok.inj done
  cases same
  exact ⟨rfl, starts⟩

/-- The cursor that is looked at stands in the text. -/
theorem get_gives : Gives text get (Cursor.StandsIn text) := by
  intro cursor stands value next done
  obtain ⟨rfl, holds⟩ := get_ensures cursor stands value next done
  exact ⟨holds, holds⟩

/-- A cursor that is moved inside the text stays there. -/
theorem modify_stays {f : Cursor → Cursor}
    (h : ∀ cursor, Cursor.StandsIn text cursor → (f cursor).StandsIn text) :
    Stays text (modify f) := by
  intro cursor stands value next done
  have same : ((), f cursor) = (value, next) := Except.ok.inj done
  cases same
  exact ⟨trivial, h cursor stands⟩

/-! ## The smallest readers

A reader stays in the text because each reader that it is made of does. -/

/-- The place is that of the cursor. -/
theorem position_eq_ok (cursor : Cursor) : position cursor = .ok (cursor.position, cursor) := rfl

/-- The text is what the cursor sees. -/
theorem rest_eq_ok (cursor : Cursor) : rest cursor = .ok (cursor.rest, cursor) := rfl

/-- Whether a text starts is seen without moving. -/
theorem startsWith_eq_ok (start : String) (cursor : Cursor) :
    startsWith start cursor = .ok (start.toList.isPrefixOf cursor.rest, cursor) := rfl

/-- The longest run of characters is moved over and given. -/
theorem takeWhile_eq_ok (class_ : Char → Bool) (cursor : Cursor) :
    takeWhile class_ cursor = .ok (cursor.rest.takeWhile class_, cursor.skipWhile class_) := rfl

theorem position_stays : Stays text position := get_gives.bind fun _ _ => stays_pure _

theorem rest_stays : Stays text rest := get_gives.bind fun _ _ => stays_pure _

theorem atEnd_stays : Stays text atEnd := get_gives.bind fun _ _ => stays_pure _

theorem startsWith_stays (start : String) : Stays text (startsWith start) :=
  get_gives.bind fun _ _ => stays_pure _

theorem peek_stays : Stays text peek := by
  refine get_gives.bind fun cursor _ => ?_
  cases cursor.rest with
  | nil => exact gives_fail
  | cons c _ => exact stays_pure c

theorem skip_stays (n : Nat) : Stays text (skip n) := modify_stays fun _ stands => stands.advance n

theorem skipSpaces_stays : Stays text skipSpaces := modify_stays fun _ stands => stands.skipWhile _

theorem takeWhile_stays (class_ : Char → Bool) : Stays text (takeWhile class_) :=
  get_gives.bind fun _ _ => (modify_stays fun _ stands => stands.skipWhile class_).bind fun _ =>
    stays_pure _

theorem failAt_gives {expected : Expected} {found : Char} : Gives text (failAt expected found) p :=
  position_stays.bind fun _ => gives_fail

theorem expect_stays (c : Char) : Stays text (expect c) :=
  peek_stays.bind fun _ => gives_ite (skip_stays 1) failAt_gives

theorem expectText_stays (wanted : String) : Stays text (expectText wanted) :=
  (startsWith_stays wanted).bind fun _ =>
    gives_ite (skip_stays _) (position_stays.bind fun _ => gives_fail)

theorem spaces_stays : Stays text spaces :=
  peek_stays.bind fun _ => gives_ite skipSpaces_stays failAt_gives

theorem quote_stays : Stays text quote :=
  peek_stays.bind fun found =>
    gives_ite ((skip_stays 1).bind fun _ => stays_pure found) failAt_gives

theorem nameOrEnd_stays : Stays text nameOrEnd := by
  refine get_gives.bind fun cursor _ => ?_
  cases cursor.rest with
  | nil => exact stays_pure []
  | cons c _ =>
    exact gives_ite (takeWhile_stays isNameChar) (position_stays.bind fun _ => gives_fail)

theorem name_stays : Stays text name :=
  position_stays.bind fun _ => nameOrEnd_stays.bind fun found =>
    gives_ite gives_fail (stays_pure found)

theorem qname_stays : Stays text qname := by
  refine position_stays.bind fun _ => (takeWhile_stays isNameChar).bind fun run => ?_
  cases QName.ofRun? run with
  | none => exact gives_fail
  | some q => exact stays_pure q

/-- A run of characters is what the cursor has moved over. -/
theorem runFrom_eq_ok {goesOn : List Char → Bool} {start : Position} {read cs found : List Char}
    {next : Cursor} (done : runFrom goesOn start read cs = .ok (found, next)) :
    ∃ taken, cs = taken ++ next.rest ∧ next.position = start.afterAll taken ∧
      found = read.reverse ++ taken := by
  induction cs generalizing start read with
  | nil =>
    obtain ⟨rfl, rfl⟩ : read.reverse = found ∧ ⟨start, []⟩ = next := by simpa [runFrom] using done
    exact ⟨[], rfl, rfl, by simp⟩
  | cons c cs ih =>
    rw [runFrom] at done
    split at done
    · -- A character that XML does not allow ends the run with an error.
      cases done
    split at done
    · obtain ⟨taken, split, place, same⟩ := ih done
      exact ⟨c :: taken, by rw [split]; rfl, place, by simp [same]⟩
    · obtain ⟨rfl, rfl⟩ : read.reverse = found ∧ ⟨start, c :: cs⟩ = next := by simpa using done
      exact ⟨[], rfl, rfl, by simp⟩

/-- A run of characters keeps the cursor in the text, whatever ends it. -/
theorem runFrom_stays (goesOn : List Char → Bool) :
    Stays text fun cursor => runFrom goesOn cursor.position [] cursor.rest := by
  intro cursor stands value next done
  obtain ⟨taken, split, place, -⟩ := runFrom_eq_ok done
  refine ⟨trivial, ?_⟩
  have moved := stands.move split
  rwa [← place] at moved

theorem untilText_stays (stop : String) : Stays text (untilText stop) := runFrom_stays _

theorem run_stays (class_ : Char → Bool) : Stays text (run class_) := runFrom_stays _

/-! ## Markup -/

theorem comment_stays : Stays text comment :=
  position_stays.bind fun _ => (skip_stays 4).bind fun _ => (untilText_stays _).bind fun _ =>
    (expectText_stays _).bind fun _ => gives_ite gives_fail (stays_pure ())

theorem instruction_stays : Stays text instruction := by
  refine (startsWith_stays _).bind fun _ =>
    gives_ite (position_stays.bind fun _ => gives_fail_bind) ?_
  exact (skip_stays 2).bind fun _ => name_stays.bind fun _ => skipSpaces_stays.bind fun _ =>
    (untilText_stays _).bind fun _ => expectText_stays _

theorem misc_stays (steps : Nat) : Stays text (misc steps) := by
  induction steps with
  | zero => exact stays_pure ()
  | succ steps ih =>
    rw [misc]
    refine skipSpaces_stays.bind fun _ => (startsWith_stays _).bind fun _ => ?_
    refine gives_ite (comment_stays.bind fun _ => ih) ((startsWith_stays _).bind fun _ => ?_)
    exact gives_ite (instruction_stays.bind fun _ => ih) (stays_pure ())

theorem declarationSpaces_stays : Stays text declarationSpaces := by
  refine get_gives.bind fun cursor _ => ?_
  cases cursor.rest with
  | nil => exact stays_pure ()
  | cons c _ =>
    exact gives_ite skipSpaces_stays ((startsWith_stays _).bind fun _ =>
      gives_ite failAt_gives (stays_pure ()))

theorem declarationItem_stays : Stays text declarationItem :=
  qname_stays.bind fun _ => skipSpaces_stays.bind fun _ => (expect_stays _).bind fun _ =>
    skipSpaces_stays.bind fun _ => quote_stays.bind fun _ => (run_stays _).bind fun _ =>
      expect_stays _

theorem declaration_stays : Stays text declaration := by
  refine (skip_stays 5).bind fun _ => declarationSpaces_stays.bind fun _ =>
    (startsWith_stays _).bind fun _ =>
    gives_orSkip (fun after => (expectText_stays _).bind fun _ => after) ?_
  refine declarationItem_stays.bind fun _ => declarationSpaces_stays.bind fun _ =>
    (startsWith_stays _).bind fun _ => gives_orSkip (fun after => declarationItem_stays.bind
      fun _ => declarationSpaces_stays.bind fun _ => after) ?_
  exact (startsWith_stays _).bind fun _ => gives_orSkip
    (fun after => declarationItem_stays.bind fun _ => after)
    (skipSpaces_stays.bind fun _ => expectText_stays _)

/-! ## Entities -/

/-- A quoted text stands where it is written. -/
theorem literal_gives : Gives text literal (Cursor.StandsIn text) := by
  refine quote_stays.bind fun mark => ?_
  -- The value is a cursor made of two readings, so the run is taken apart and not composed.
  intro cursor stands value next done
  obtain ⟨start, between, looked, done⟩ := bind_eq_ok_iff.1 done
  rw [position_eq_ok] at looked
  cases looked
  obtain ⟨quoted, after, taken, done⟩ := bind_eq_ok_iff.1 done
  rw [takeWhile_eq_ok] at taken
  cases taken
  have quoted_stands := stands.prefix (List.takeWhile_prefix fun c => c != mark)
  exact ((expect_stays mark).bind fun _ => gives_pure quoted_stands) _ (stands.skipWhile _) value
    next done

theorem externalId_stays : Stays text externalId := by
  refine (startsWith_stays _).bind fun _ => gives_ite ?_ ((startsWith_stays _).bind fun _ =>
    gives_ite ?_ (stays_pure false))
  · exact (skip_stays 6).bind fun _ => spaces_stays.bind fun _ =>
      literal_gives.stays.bind fun _ => stays_pure true
  · exact (skip_stays 6).bind fun _ => spaces_stays.bind fun _ =>
      literal_gives.stays.bind fun _ => spaces_stays.bind fun _ =>
      literal_gives.stays.bind fun _ => stays_pure true

/-- What an entity stands for, if it is kept, stands in the text. -/
theorem entityDefinition_gives (general : Bool) :
    Gives text (entityDefinition general) fun value? =>
      ∀ value, value? = some value → value.StandsIn text := by
  -- External entities are read over and not kept.
  have nothing : Gives text (pure none) fun value? : Option Cursor =>
      ∀ value, value? = some value → value.StandsIn text := gives_pure (by simp)
  refine peek_stays.bind fun c => gives_ite ?_ (gives_ite ?_ failAt_gives)
  · exact literal_gives.bind fun value stands => gives_pure (by simpa using stands)
  · refine externalId_stays.bind fun _ => gives_ite ?_ (position_stays.bind fun _ => gives_fail)
    refine gives_orSkip (fun after => skipSpaces_stays.bind fun _ => (startsWith_stays _).bind
      fun _ => gives_orSkip (fun after => ?_) after) nothing
    exact (skip_stays 5).bind fun _ => spaces_stays.bind fun _ => nameOrEnd_stays.bind fun _ =>
      after

/-- An entity that is kept stands in the text. -/
theorem entityDeclaration_gives :
    Gives text entityDeclaration fun entity? =>
      ∀ entity, entity? = some entity → entity.value.StandsIn text := by
  refine (skip_stays 8).bind fun _ => spaces_stays.bind fun _ => (startsWith_stays _).bind
    fun parameter => ?_
  refine gives_orSkip
    (fun after => (skip_stays 1).bind fun _ => spaces_stays.bind fun _ => after) ?_
  refine name_stays.bind fun _ => spaces_stays.bind fun _ =>
    (entityDefinition_gives _).bind fun value? stands => ?_
  refine skipSpaces_stays.bind fun _ => (expect_stays _).bind fun _ => gives_pure ?_
  intro entity is_entity
  obtain ⟨value, is_value, rfl⟩ := Option.map_eq_some_iff.1 is_entity
  exact stands value is_value

theorem otherDeclaration_stays (start : Position) : Stays text (otherDeclaration start) :=
  (takeWhile_stays _).bind fun _ => atEnd_stays.bind fun _ => gives_ite gives_fail (skip_stays 1)

/-- The entities of the declarations stand in the text if those before them do. -/
theorem declarations_gives (start : Position) (steps : Nat) {read : List Entity}
    (before : ∀ entity ∈ read, entity.value.StandsIn text) :
    Gives text (declarations start steps read) fun entities =>
      ∀ entity ∈ entities, entity.value.StandsIn text := by
  have done : Gives text (pure read.reverse) fun entities : List Entity =>
      ∀ entity ∈ entities, entity.value.StandsIn text :=
    gives_pure fun entity mem => before entity (List.mem_reverse.1 mem)
  induction steps generalizing read with
  | zero => exact done
  | succ steps ih =>
    -- All declarations but those of entities go on with the entities that were read.
    have goesOn := ih before done
    rw [declarations]
    refine atEnd_stays.bind fun _ => gives_ite done ?_
    refine skipSpaces_stays.bind fun _ => (startsWith_stays _).bind fun _ => gives_ite ?_ ?_
    · refine entityDeclaration_gives.bind fun entity? stands => ?_
      cases entity? with
      | none => exact goesOn
      | some entity =>
        have all : ∀ e ∈ entity :: read, e.value.StandsIn text :=
          List.forall_mem_cons.2 ⟨stands entity rfl, before⟩
        exact ih all (gives_pure fun e mem => all e (List.mem_reverse.1 mem))
    refine (startsWith_stays _).bind fun _ => gives_ite (comment_stays.bind fun _ => goesOn) ?_
    refine (startsWith_stays _).bind fun _ => gives_ite (instruction_stays.bind fun _ => goesOn) ?_
    refine (startsWith_stays _).bind fun _ => gives_ite ?_ ?_
    · exact (skip_stays 1).bind fun _ => skipSpaces_stays.bind fun _ =>
        (expect_stays _).bind fun _ => done
    refine (startsWith_stays _).bind fun _ => (startsWith_stays _).bind fun _ =>
      (startsWith_stays _).bind fun _ => gives_ite ?_ (position_stays.bind fun _ => gives_fail)
    exact (otherDeclaration_stays start).bind fun _ => goesOn

/-- The entities of a document type stand in the text. -/
theorem documentType_gives :
    Gives text documentType fun entities => ∀ entity ∈ entities, entity.value.StandsIn text := by
  refine position_stays.bind fun start => (skip_stays 9).bind fun _ => spaces_stays.bind fun _ =>
    nameOrEnd_stays.bind fun _ => skipSpaces_stays.bind fun _ => externalId_stays.bind fun _ =>
    skipSpaces_stays.bind fun _ => peek_stays.bind fun c => ?_
  refine gives_ite ((skip_stays 1).bind fun _ => gives_pure (by simp)) (gives_ite ?_ failAt_gives)
  exact (skip_stays 1).bind fun _ => rest_stays.bind fun _ => declarations_gives start _ (by simp)

end Scan

end DraftNits.Xml
