import DraftNits.Proofs.JsonParts

/-! # Reading the JSON notation

The reader of JSON gives a value for a text exactly if the text writes that value. So a text writes
one value at most, and whoever reads by the notation reads what this reader does.

* `Json.readItems?_comma`, `Json.readMembers?_comma` — one item or member is read; the runs over all
  of them follow in `Json.reads`, by induction on the value.
* `Json.sound` — nothing is read but what has been written, by induction on the steps of the reader.
* `Json.parse?_eq_some_iff` — whole texts. -/

namespace DraftNits.Json

/-! ## Values -/

/-- Whether a text may go without the white space in front of it, and what is left is of some form and
shows by its first character that it has begun. -/
def Trims (form : List Char → Prop) (cs : List Char) : Prop :=
  ∃ trimmed, (∀ rest, skipSpace (cs ++ rest) = trimmed ++ rest) ∧ Starts trimmed ∧ form trimmed ∧
    trimmed.length ≤ cs.length

/-- What comes after the white space may go on. -/
theorem Trims.append {form whole : List Char → Prop} {cs : List Char} (trims : Trims form cs)
    (later : List Char) (goes_on : ∀ trimmed, form trimmed → whole (trimmed ++ later)) :
    Trims whole (cs ++ later) := by
  obtain ⟨trimmed, skipped, ⟨c, tail, is_text, begun⟩, is_form, shorter⟩ := trims
  refine ⟨trimmed ++ later, fun rest => ?_, ?_, goes_on trimmed is_form, by simpa using shorter⟩
  · rw [List.append_assoc, skipped, List.append_assoc]
  · exact ⟨c, tail ++ later, by rw [is_text]; rfl, begun⟩

/-- Whatever may have white space around it may go without that in front. -/
theorem IsPadded.trims {form : List Char → Prop} {cs : List Char}
    (starts : ∀ text, form text → Starts text) (padded : IsPadded form cs) :
    Trims (IsPadded form) cs := by
  obtain ⟨before, text, after, rfl, spaces, is_form, spaces_after⟩ := padded
  have text_trims : Trims form (before ++ text) := by
    refine ⟨text, fun rest => ?_, starts text is_form, is_form, by simp⟩
    rw [List.append_assoc, skipSpace_append spaces, (starts text is_form).skipSpace]
  exact text_trims.append after fun trimmed h =>
    ⟨[], trimmed, after, rfl, isSpaces_nil, h, spaces_after⟩

/-- After white space a comma or the end of a list or an object ends what stands before. -/
theorem ends_append {after : List Char} (spaces : IsSpaces after) {c : Char}
    (mark : c = ',' ∨ c = ']' ∨ c = '\x7d') (rest : List Char) : Ends (after ++ c :: rest) := by
  intro d is_next
  cases after with
  | nil =>
    obtain rfl : c = d := Option.some.inj is_next
    exact .inr mark
  | cons space after =>
    obtain rfl : space = d := Option.some.inj is_next
    exact .inl (spaces space List.mem_cons_self)

/-- A mark after white space is found. -/
theorem skipSpace_mark {after : List Char} (spaces : IsSpaces after) {c : Char}
    (no_space : isSpace c = false) (rest : List Char) :
    skipSpace (after ++ c :: rest) = c :: rest := by
  rw [skipSpace_append spaces, skipSpace, List.dropWhile_cons, no_space]
  rfl

/-- Whether a number of steps is enough to read a value as its texts have it, wherever it stands. -/
def Reads (steps : Nat) (v : Json) : Prop :=
  ∀ {before text rest : List Char}, IsSpaces before → Writes v text → Ends rest →
    text.length ≤ steps → readValue? steps (before ++ (text ++ rest)) = some (v, rest)

/-- A value with white space around it is read up to the mark after it. -/
theorem Reads.padded {steps : Nat} {v : Json} (reads : Reads steps v) {cs : List Char}
    (writes : IsPadded (Writes v) cs) (enough : cs.length ≤ steps) {c : Char}
    (mark : c = ',' ∨ c = ']' ∨ c = '\x7d') (rest : List Char) :
    ∃ after, readValue? steps (cs ++ c :: rest) = some (v, after) ∧ skipSpace after = c :: rest := by
  obtain ⟨before, text, after, rfl, spaces, writes_text, spaces_after⟩ := writes
  have no_space : isSpace c = false := by
    rcases mark with rfl | rfl | rfl <;> decide
  refine ⟨after ++ c :: rest, ?_, skipSpace_mark spaces_after no_space rest⟩
  rw [List.append_assoc, List.append_assoc]
  refine reads spaces writes_text (ends_append spaces_after mark rest) ?_
  simp only [List.length_append] at enough
  omega

/-- One item is read, and then the items after the comma. -/
theorem readItems?_comma {steps : Nat} {v : Json} (reads : Reads steps v) {cs : List Char}
    (writes : IsPadded (Writes v) cs) (enough : cs.length ≤ steps) (read : List Json)
    (rest : List Char) :
    readItems? (steps + 1) read (cs ++ ',' :: rest) = readItems? steps (v :: read) rest := by
  obtain ⟨after, is_value, is_mark⟩ := reads.padded writes enough (.inl rfl) rest
  simp only [readItems?, is_value, is_mark]

/-- One item is read, and the list ends after it. -/
theorem readItems?_end {steps : Nat} {v : Json} (reads : Reads steps v) {cs : List Char}
    (writes : IsPadded (Writes v) cs) (enough : cs.length ≤ steps) (read : List Json)
    (rest : List Char) :
    readItems? (steps + 1) read (cs ++ ']' :: rest) = some ((v :: read).reverse, rest) := by
  obtain ⟨after, is_value, is_mark⟩ := reads.padded writes enough (.inr (.inl rfl)) rest
  simp only [readItems?, is_value, is_mark]

/-- The name of a member is read, and its colon. What is done then depends on the mark after its
value. -/
theorem readMembers?_name {steps : Nat} {name : String} {form : List Char → Prop}
    {cs : List Char} (writes : WritesMember name form cs) (read : List (String × Json))
    (rest : List Char) :
    ∃ value, IsPadded form value ∧ value.length ≤ cs.length ∧
      ∀ {v : Json} {after : List Char}, readValue? steps (value ++ rest) = some (v, after) →
        (∀ later, skipSpace after = ',' :: later →
          readMembers? (steps + 1) read (cs ++ rest) = readMembers? steps ((name, v) :: read) later) ∧
        (∀ later, skipSpace after = '\x7d' :: later →
          readMembers? (steps + 1) read (cs ++ rest) =
            some (((name, v) :: read).reverse, later)) := by
  obtain ⟨name_text, value, rfl, named, valued⟩ := writes
  refine ⟨value, valued, by simp; omega, fun {v after} is_value => ?_⟩
  obtain ⟨before, text, between, rfl, spaces, ⟨body, rfl, writes_name⟩, spaces_after⟩ := named
  have whole : before ++ '"' :: (body ++ ['"']) ++ between ++ ':' :: value ++ rest =
      before ++ '"' :: (body ++ '"' :: (between ++ ':' :: (value ++ rest))) := by simp
  have opened := skipSpace_mark spaces (c := '"') (by decide)
    (body ++ '"' :: (between ++ ':' :: (value ++ rest)))
  have colon := skipSpace_mark spaces_after (c := ':') (by decide) (value ++ rest)
  have enough : body.length <
      (before ++ '"' :: (body ++ '"' :: (between ++ ':' :: (value ++ rest)))).length := by
    simp only [List.length_append, List.length_cons]
    omega
  have name_read := readText?_append writes_name (between ++ ':' :: (value ++ rest)) enough []
  rw [List.reverse_nil, List.nil_append, String.ofList_toList] at name_read
  rw [whole, readMembers?]
  refine ⟨fun later comma => ?_, fun later ending => ?_⟩
  · simp only [opened, name_read, colon, is_value, comma]
  · simp only [opened, name_read, colon, is_value, ending]

/-- One member is read, and then the members after the comma. -/
theorem readMembers?_comma {steps : Nat} {v : Json} (reads : Reads steps v) {name : String}
    {cs : List Char} (writes : WritesMember name (Writes v) cs) (enough : cs.length ≤ steps)
    (read : List (String × Json)) (rest : List Char) :
    readMembers? (steps + 1) read (cs ++ ',' :: rest) =
      readMembers? steps ((name, v) :: read) rest := by
  obtain ⟨value, padded, shorter, named⟩ :=
    @readMembers?_name steps _ _ _ writes read (',' :: rest)
  obtain ⟨after, is_value, is_mark⟩ :=
    reads.padded padded (Nat.le_trans shorter enough) (.inl rfl) rest
  exact (named is_value).1 rest is_mark

/-- One member is read, and the object ends after it. -/
theorem readMembers?_end {steps : Nat} {v : Json} (reads : Reads steps v) {name : String}
    {cs : List Char} (writes : WritesMember name (Writes v) cs) (enough : cs.length ≤ steps)
    (read : List (String × Json)) (rest : List Char) :
    readMembers? (steps + 1) read (cs ++ '\x7d' :: rest) =
      some (((name, v) :: read).reverse, rest) := by
  obtain ⟨value, padded, shorter, named⟩ :=
    @readMembers?_name steps _ _ _ writes read ('\x7d' :: rest)
  obtain ⟨after, is_value, is_mark⟩ :=
    reads.padded padded (Nat.le_trans shorter enough) (.inr (.inr rfl)) rest
  exact (named is_value).2 rest is_mark

/-- A member may go without the white space in front of its name. -/
theorem WritesMember.trims {name : String} {form : List Char → Prop} {cs : List Char}
    (writes : WritesMember name form cs) : Trims (WritesMember name form) cs := by
  obtain ⟨named, valued, rfl, padded, is_value⟩ := writes
  exact (padded.trims fun _ => IsQuoted.starts).append (':' :: valued) fun trimmed h =>
    ⟨trimmed, valued, rfl, h, is_value⟩

/-- The items of a list may go without the white space in front of them. -/
theorem WritesItems.trims {item : Json} {items : List Json} {body : List Char}
    (writes : WritesItems (item :: items) body) : Trims (WritesItems (item :: items)) body := by
  cases items with
  | nil =>
    have only : WritesItems [item] = IsPadded (Writes item) :=
      funext fun _ => propext writesItems_singleton
    rw [only] at writes ⊢
    exact writes.trims fun _ => starts_of_writes
  | cons next items =>
    obtain ⟨first, later, rfl, padded, writes_later⟩ := writesItems_cons_cons.1 writes
    exact (padded.trims fun _ => starts_of_writes).append (',' :: later) fun trimmed h =>
      writesItems_cons_cons.2 ⟨trimmed, later, rfl, h, writes_later⟩

/-- The members of an object may go without the white space in front of them. -/
theorem WritesMembers.trims {name : String} {value : Json} {members : List (String × Json)}
    {body : List Char} (writes : WritesMembers ((name, value) :: members) body) :
    Trims (WritesMembers ((name, value) :: members)) body := by
  cases members with
  | nil =>
    have only : WritesMembers [(name, value)] = WritesMember name (Writes value) :=
      funext fun _ => propext writesMembers_singleton
    rw [only] at writes ⊢
    exact WritesMember.trims writes
  | cons next members =>
    obtain ⟨first, later, rfl, member, writes_later⟩ := writesMembers_cons_cons.1 writes
    exact member.trims.append (',' :: later) fun trimmed h =>
      writesMembers_cons_cons.2 ⟨trimmed, later, rfl, h, writes_later⟩

/-! ## Whatever writes a value is read -/

/-- A number is read in as many steps as it has characters. -/
theorem reads_of_writesNumber {v : Json} (number : ∀ {text}, Writes v text → WritesNumber v text)
    (steps : Nat) : Reads steps v := by
  intro before text rest spaces writes ends enough
  have skipped : skipSpace (before ++ (text ++ rest)) = text ++ rest := by
    rw [skipSpace_append spaces, (number writes).starts.skipSpace]
  obtain ⟨parts, valid, rfl, rfl⟩ := number writes
  obtain ⟨c, tail, is_text, first⟩ := valid.starts
  cases steps with
  | zero =>
    rw [is_text] at enough
    cases enough
  | succ steps =>
    have read : readValue? (steps + 1) (before ++ (parts.text ++ rest)) =
        readNumber? (parts.text ++ rest) := by
      rw [readValue?, skipped, is_text, List.cons_append]
      -- A number starts with a sign or a digit, and no other value does.
      split
      all_goals first
        | rfl
        | (rename_i is_other
           obtain ⟨rfl, -⟩ := List.cons.inj is_other
           exact absurd first (by decide))
    rw [read]
    exact readNumber?_append valid ends

section Dispatch

variable {steps : Nat} {cs inner : List Char}

/-- A quote starts a text. -/
theorem readValue?_quote (skipped : skipSpace cs = '"' :: inner) :
    readValue? (steps + 1) cs =
      (readText? cs.length [] inner).map fun found => (.str found.1, found.2) := by
  rw [readValue?, skipped]
  rfl

/-- A bracket starts a list, which ends at once or has items. -/
theorem readValue?_list (skipped : skipSpace cs = '[' :: inner) :
    readValue? (steps + 1) cs =
      if (skipSpace inner).head? = some ']' then some (.arr [], (skipSpace inner).tail)
      else (readItems? steps [] (skipSpace inner)).map fun found => (.arr found.1, found.2) := by
  simp only [readValue?, skipped]
  split
  next is_end =>
    rw [is_end]
    rfl
  next no_end =>
    rw [if_neg]
    intro is_end
    obtain ⟨rest, is_cons⟩ := List.head?_eq_some_iff.1 is_end
    exact no_end rest is_cons

/-- A brace starts an object, which ends at once or has members. -/
theorem readValue?_object (skipped : skipSpace cs = '\x7b' :: inner) :
    readValue? (steps + 1) cs =
      if (skipSpace inner).head? = some '\x7d' then some (.obj [], (skipSpace inner).tail)
      else (readMembers? steps [] (skipSpace inner)).map fun found => (.obj found.1, found.2) := by
  simp only [readValue?, skipped]
  split
  next is_end =>
    rw [is_end]
    rfl
  next no_end =>
    rw [if_neg]
    intro is_end
    obtain ⟨rest, is_cons⟩ := List.head?_eq_some_iff.1 is_end
    exact no_end rest is_cons

end Dispatch

/-- A value that starts with a character of its own is read in at least one step, by what comes after
white space. -/
theorem reads_of_succ {v : Json}
    (reads : ∀ {before text rest : List Char} {steps : Nat}, Writes v text →
      skipSpace (before ++ (text ++ rest)) = text ++ rest → text.length ≤ steps + 1 →
        readValue? (steps + 1) (before ++ (text ++ rest)) = some (v, rest))
    (steps : Nat) : Reads steps v := by
  intro before text rest spaces writes _ enough
  have starts := starts_of_writes writes
  have skipped : skipSpace (before ++ (text ++ rest)) = text ++ rest := by
    rw [skipSpace_append spaces, starts.skipSpace]
  cases steps with
  | zero =>
    obtain ⟨c, tail, rfl, -⟩ := starts
    cases enough
  | succ steps => exact reads writes skipped enough

mutual

/-- A value is read in as many steps as its text has characters. The induction is on the value; for
a list or an object it goes through the items or the members, each of which takes a step. -/
theorem reads (steps : Nat) : (v : Json) → Reads steps v
  | .null => reads_of_succ (fun writes skipped _ => by
      rw [Writes] at writes
      subst writes
      rw [readValue?, skipped]
      rfl) steps
  | .bool true => reads_of_succ (fun writes skipped _ => by
      rw [Writes] at writes
      subst writes
      rw [readValue?, skipped]
      rfl) steps
  | .bool false => reads_of_succ (fun writes skipped _ => by
      rw [Writes] at writes
      subst writes
      rw [readValue?, skipped]
      rfl) steps
  | .int n => reads_of_writesNumber (fun writes => by rwa [Writes] at writes) steps
  | .number literal => reads_of_writesNumber (fun writes => by rwa [Writes] at writes) steps
  | .str s => by
    refine reads_of_succ (fun writes skipped _ => ?_) steps
    rw [Writes] at writes
    obtain ⟨body, rfl, writes_text⟩ := writes
    rw [List.cons_append, List.append_assoc, List.singleton_append] at skipped ⊢
    rw [readValue?_quote skipped, readText?_append writes_text _ (by simp; omega),
      List.reverse_nil, List.nil_append, String.ofList_toList]
    rfl
  | .arr items => by
    refine reads_of_succ (fun writes skipped enough => ?_) steps
    rw [Writes] at writes
    obtain ⟨body, rfl, writes_items⟩ := writes
    simp only [List.length_cons, List.length_append, List.length_nil] at enough
    rw [List.cons_append, List.append_assoc, List.singleton_append] at skipped ⊢
    rw [readValue?_list skipped]
    cases items with
    | nil =>
      rw [WritesItems] at writes_items
      rw [skipSpace_mark writes_items (by decide)]
      rfl
    | cons item items =>
      -- The reader skips what the first item has in front, so the items are read without it.
      obtain ⟨trimmed, inner, ⟨c, tail, is_text, _, no_end, _⟩, writes_trimmed, shorter⟩ :=
        writes_items.trims
      rw [inner, if_neg (by rw [is_text]; exact fun is_end => no_end (Option.some.inj is_end)),
        readItems?_of_writes (item :: items) (List.cons_ne_nil _ _) writes_trimmed (by omega)]
      rfl
  | .obj members => by
    refine reads_of_succ (fun writes skipped enough => ?_) steps
    rw [Writes] at writes
    obtain ⟨body, rfl, writes_members⟩ := writes
    simp only [List.length_cons, List.length_append, List.length_nil] at enough
    rw [List.cons_append, List.append_assoc, List.singleton_append] at skipped ⊢
    rw [readValue?_object skipped]
    cases members with
    | nil =>
      rw [WritesMembers] at writes_members
      rw [skipSpace_mark writes_members (by decide)]
      rfl
    | cons member members =>
      obtain ⟨trimmed, inner, ⟨c, tail, is_text, _, _, no_end⟩, writes_trimmed, shorter⟩ :=
        writes_members.trims
      rw [inner, if_neg (by rw [is_text]; exact fun is_end => no_end (Option.some.inj is_end)),
        readMembers?_of_writes (member :: members) (List.cons_ne_nil _ _) writes_trimmed (by omega)]
      rfl

/-- The items of a list are read up to its end. -/
theorem readItems?_of_writes : (items : List Json) → items ≠ [] →
    ∀ {body : List Char} {steps : Nat}, WritesItems items body → body.length < steps →
      ∀ (read : List Json) (rest : List Char),
        readItems? steps read (body ++ ']' :: rest) = some (read.reverse ++ items, rest)
  | [], none_there, _, _, _, _, _, _ => absurd rfl none_there
  | [item], _, body, steps, writes, enough, read, rest => by
    obtain ⟨steps, rfl⟩ := Nat.exists_eq_add_one_of_ne_zero (Nat.ne_zero_of_lt enough)
    rw [writesItems_singleton] at writes
    rw [readItems?_end (reads steps item) writes (Nat.le_of_lt_succ enough)]
    simp
  | item :: next :: items, _, body, steps, writes, enough, read, rest => by
    obtain ⟨steps, rfl⟩ := Nat.exists_eq_add_one_of_ne_zero (Nat.ne_zero_of_lt enough)
    obtain ⟨first, later, rfl, padded, writes_later⟩ := writesItems_cons_cons.1 writes
    simp only [List.length_append, List.length_cons] at enough
    rw [List.append_assoc, List.cons_append,
      readItems?_comma (reads steps item) padded (by omega),
      readItems?_of_writes (next :: items) (List.cons_ne_nil _ _) writes_later (by omega)]
    simp

/-- The members of an object are read up to its end. -/
theorem readMembers?_of_writes : (members : List (String × Json)) → members ≠ [] →
    ∀ {body : List Char} {steps : Nat}, WritesMembers members body → body.length < steps →
      ∀ (read : List (String × Json)) (rest : List Char),
        readMembers? steps read (body ++ '\x7d' :: rest) = some (read.reverse ++ members, rest)
  | [], none_there, _, _, _, _, _, _ => absurd rfl none_there
  | [(name, value)], _, body, steps, writes, enough, read, rest => by
    obtain ⟨steps, rfl⟩ := Nat.exists_eq_add_one_of_ne_zero (Nat.ne_zero_of_lt enough)
    rw [writesMembers_singleton] at writes
    rw [readMembers?_end (reads steps value) writes (Nat.le_of_lt_succ enough)]
    simp
  | (name, value) :: next :: members, _, body, steps, writes, enough, read, rest => by
    obtain ⟨steps, rfl⟩ := Nat.exists_eq_add_one_of_ne_zero (Nat.ne_zero_of_lt enough)
    obtain ⟨first, later, rfl, member, writes_later⟩ := writesMembers_cons_cons.1 writes
    simp only [List.length_append, List.length_cons] at enough
    rw [List.append_assoc, List.cons_append,
      readMembers?_comma (reads steps value) member (by omega),
      readMembers?_of_writes (next :: members) (List.cons_ne_nil _ _) writes_later (by omega)]
    simp

end

/-! ## Whatever is read has been written -/

/-- White space may be put in front of what may stand in white space. -/
theorem IsPadded.pad {form : List Char → Prop} {cs spaces : List Char} (padded : IsPadded form cs)
    (is_spaces : IsSpaces spaces) : IsPadded form (spaces ++ cs) := by
  obtain ⟨before, text, after, rfl, spaces_before, is_form, spaces_after⟩ := padded
  refine ⟨spaces ++ before, text, after, by simp, ?_, is_form, spaces_after⟩
  exact List.forall_mem_append.2 ⟨is_spaces, spaces_before⟩

/-- White space may be put in front of a member. -/
theorem WritesMember.pad {name : String} {form : List Char → Prop} {cs spaces : List Char}
    (writes : WritesMember name form cs) (is_spaces : IsSpaces spaces) :
    WritesMember name form (spaces ++ cs) := by
  obtain ⟨before, after, rfl, named, valued⟩ := writes
  exact ⟨spaces ++ before, after, by simp, named.pad is_spaces, valued⟩

/-- White space may be put in front of items. -/
theorem WritesItems.pad {items : List Json} (some_item : items ≠ []) {body spaces : List Char}
    (writes : WritesItems items body) (is_spaces : IsSpaces spaces) :
    WritesItems items (spaces ++ body) := by
  match items with
  | [] => exact absurd rfl some_item
  | [item] =>
    rw [writesItems_singleton] at writes ⊢
    exact writes.pad is_spaces
  | item :: next :: items =>
    obtain ⟨first, later, rfl, padded, writes_later⟩ := writesItems_cons_cons.1 writes
    rw [← List.append_assoc]
    exact writesItems_cons_cons.2 ⟨_, later, rfl, padded.pad is_spaces, writes_later⟩

/-- White space may be put in front of members. -/
theorem WritesMembers.pad {members : List (String × Json)} (some_member : members ≠ [])
    {body spaces : List Char} (writes : WritesMembers members body) (is_spaces : IsSpaces spaces) :
    WritesMembers members (spaces ++ body) := by
  match members with
  | [] => exact absurd rfl some_member
  | [(name, value)] =>
    rw [writesMembers_singleton] at writes ⊢
    exact writes.pad is_spaces
  | (name, value) :: next :: members =>
    obtain ⟨first, later, rfl, member, writes_later⟩ := writesMembers_cons_cons.1 writes
    rw [← List.append_assoc]
    exact writesMembers_cons_cons.2 ⟨_, later, rfl, member.pad is_spaces, writes_later⟩

/-- An item may be put in front of others, with a comma between. -/
theorem writesItems_cons {item : Json} {items : List Json} (some_item : items ≠ [])
    {first later : List Char} (padded : IsPadded (Writes item) first)
    (writes : WritesItems items later) : WritesItems (item :: items) (first ++ ',' :: later) := by
  obtain ⟨next, items, rfl⟩ := List.exists_cons_of_ne_nil some_item
  exact writesItems_cons_cons.2 ⟨first, later, rfl, padded, writes⟩

/-- A member may be put in front of others, with a comma between. -/
theorem writesMembers_cons {name : String} {value : Json} {members : List (String × Json)}
    (some_member : members ≠ []) {first later : List Char}
    (member : WritesMember name (Writes value) first) (writes : WritesMembers members later) :
    WritesMembers ((name, value) :: members) (first ++ ',' :: later) := by
  obtain ⟨next, members, rfl⟩ := List.exists_cons_of_ne_nil some_member
  exact writesMembers_cons_cons.2 ⟨first, later, rfl, member, writes⟩

/-- The value of a number is one that is written as a number. -/
theorem WritesNumber.writes {v : Json} {text : List Char} (number : WritesNumber v text) :
    Writes v text := by
  obtain ⟨parts, -, -, is_value⟩ := id number
  unfold NumberParts.value at is_value
  split at is_value <;> subst is_value <;> rwa [Writes]

/-- Whether all that is read in a number of steps has been written: a value after white space, items
up to the end of their list, and members up to the end of their object. -/
structure Sound (steps : Nat) : Prop where
  /-- A value. -/
  value : ∀ {cs rest : List Char} {v : Json}, readValue? steps cs = some (v, rest) →
    ∃ before text, cs = before ++ (text ++ rest) ∧ IsSpaces before ∧ Writes v text
  /-- Some items. -/
  items : ∀ {read found : List Json} {cs rest : List Char},
    readItems? steps read cs = some (found, rest) →
      ∃ new body, found = read.reverse ++ new ∧ new ≠ [] ∧ cs = body ++ ']' :: rest ∧
        WritesItems new body
  /-- Some members. -/
  members : ∀ {read found : List (String × Json)} {cs rest : List Char},
    readMembers? steps read cs = some (found, rest) →
      ∃ new body, found = read.reverse ++ new ∧ new ≠ [] ∧ cs = body ++ '\x7d' :: rest ∧
        WritesMembers new body

namespace Sound

variable {steps : Nat}

/-- What is read as a value, after the white space in front of it. -/
theorem text_of_readValue? (sound : Sound steps) {cs rest : List Char} {v : Json}
    (done : readValue? (steps + 1) cs = some (v, rest)) :
    ∃ text, skipSpace cs = text ++ rest ∧ Writes v text := by
  rw [readValue?] at done
  split at done
  next is_null =>
    cases done
    exact ⟨"null".toList, is_null, by rw [Writes]⟩
  next is_true =>
    cases done
    exact ⟨"true".toList, is_true, by rw [Writes]⟩
  next is_false =>
    cases done
    exact ⟨"false".toList, is_false, by rw [Writes]⟩
  next inner is_quote =>
    obtain ⟨⟨s, after⟩, read, same⟩ := Option.map_eq_some_iff.1 done
    cases same
    obtain ⟨new, body, is_text, split, writes⟩ := sound_of_readText? read
    refine ⟨'"' :: (body ++ ['"']), by rw [is_quote, split]; simp, ?_⟩
    rw [Writes, is_text]
    refine ⟨body, rfl, ?_⟩
    rwa [List.reverse_nil, List.nil_append, String.toList_ofList]
  next inner is_list =>
    -- White space after the bracket is all there is in an empty list; else it belongs to an item.
    obtain ⟨spaces, split_inner, is_spaces⟩ := exists_skipSpace inner
    split at done
    next is_end =>
      cases done
      rw [is_end] at split_inner
      refine ⟨'[' :: (spaces ++ [']']), by rw [is_list, split_inner]; simp, ?_⟩
      rw [Writes]
      exact ⟨spaces, rfl, by rwa [WritesItems]⟩
    next =>
      obtain ⟨⟨found, after⟩, read, same⟩ := Option.map_eq_some_iff.1 done
      cases same
      obtain ⟨new, body, is_new, some_item, split, writes⟩ := sound.items read
      rw [split] at split_inner
      refine ⟨'[' :: (spaces ++ body ++ [']']), by rw [is_list, split_inner]; simp, ?_⟩
      rw [Writes, is_new, List.reverse_nil, List.nil_append]
      exact ⟨spaces ++ body, rfl, writes.pad some_item is_spaces⟩
  next inner is_object =>
    obtain ⟨spaces, split_inner, is_spaces⟩ := exists_skipSpace inner
    split at done
    next is_end =>
      cases done
      rw [is_end] at split_inner
      refine ⟨'\x7b' :: (spaces ++ ['\x7d']), by rw [is_object, split_inner]; simp, ?_⟩
      rw [Writes]
      exact ⟨spaces, rfl, by rwa [WritesMembers]⟩
    next =>
      obtain ⟨⟨found, after⟩, read, same⟩ := Option.map_eq_some_iff.1 done
      cases same
      obtain ⟨new, body, is_new, some_member, split, writes⟩ := sound.members read
      rw [split] at split_inner
      refine ⟨'\x7b' :: (spaces ++ body ++ ['\x7d']), by rw [is_object, split_inner]; simp, ?_⟩
      rw [Writes, is_new, List.reverse_nil, List.nil_append]
      exact ⟨spaces ++ body, rfl, writes.pad some_member is_spaces⟩
  next =>
    obtain ⟨text, split, writes⟩ := sound_of_readNumber? done
    exact ⟨text, split, writes.writes⟩

/-- What is read as a value, with the white space around it. -/
theorem padded (sound : Sound steps) {cs after : List Char} {v : Json}
    (done : readValue? steps cs = some (v, after)) :
    ∃ first, cs = first ++ skipSpace after ∧ IsPadded (Writes v) first := by
  obtain ⟨before, text, split_cs, spaces_before, writes⟩ := sound.value done
  -- The reader has not yet skipped the white space after the value, which goes with it.
  obtain ⟨spaces, split_after, is_spaces⟩ := exists_skipSpace after
  refine ⟨before ++ text ++ spaces, ?_, before, text, spaces, rfl, spaces_before, writes, is_spaces⟩
  calc cs = before ++ (text ++ (spaces ++ skipSpace after)) := by rw [split_cs, ← split_after]
    _ = before ++ text ++ spaces ++ skipSpace after := by simp

/-- What is read as items, the first of them as a value. -/
theorem items_succ (sound : Sound steps) {read found : List Json} {cs rest : List Char}
    (done : readItems? (steps + 1) read cs = some (found, rest)) :
    ∃ new body, found = read.reverse ++ new ∧ new ≠ [] ∧ cs = body ++ ']' :: rest ∧
      WritesItems new body := by
  rw [readItems?] at done
  split at done
  · cases done
  next item after value_read =>
    obtain ⟨first, split_cs, padded⟩ := sound.padded value_read
    split at done
    next rest' comma =>
      obtain ⟨new, body, is_new, some_item, rfl, writes⟩ := sound.items done
      refine ⟨item :: new, first ++ ',' :: body, by simp [is_new], List.cons_ne_nil _ _, ?_,
        writesItems_cons some_item padded writes⟩
      rw [split_cs, comma]
      simp
    next rest' ending =>
      cases done
      refine ⟨[item], first, by simp, List.cons_ne_nil _ _, ?_, writesItems_singleton.2 padded⟩
      rw [split_cs, ending]
    · cases done

/-- What is read as members, the name of the first of them as a text and what follows its colon as a
value. -/
theorem members_succ (sound : Sound steps) {read found : List (String × Json)}
    {cs rest : List Char} (done : readMembers? (steps + 1) read cs = some (found, rest)) :
    ∃ new body, found = read.reverse ++ new ∧ new ≠ [] ∧ cs = body ++ '\x7d' :: rest ∧
      WritesMembers new body := by
  rw [readMembers?] at done
  split at done
  next inner quote =>
    split at done
    · cases done
    next name after name_read =>
      obtain ⟨spaces, split_cs, is_spaces⟩ := exists_skipSpace cs
      obtain ⟨new_name, body, is_name, split_inner, writes_name⟩ := sound_of_readText? name_read
      obtain ⟨spaces', split_after, is_spaces'⟩ := exists_skipSpace after
      have named : IsPadded (IsQuoted name) (spaces ++ '"' :: (body ++ ['"']) ++ spaces') := by
        refine ⟨spaces, '"' :: (body ++ ['"']), spaces', rfl, is_spaces, ⟨body, rfl, ?_⟩, is_spaces'⟩
        rw [is_name, List.reverse_nil, List.nil_append, String.toList_ofList]
        exact writes_name
      split at done
      next valued colon =>
        split at done
        · cases done
        next value after' value_read =>
          obtain ⟨first, is_first, padded⟩ := sound.padded value_read
          have member : WritesMember name (Writes value)
              (spaces ++ '"' :: (body ++ ['"']) ++ spaces' ++ ':' :: first) :=
            ⟨_, first, rfl, named, padded⟩
          have whole : cs = spaces ++ '"' :: (body ++ ['"']) ++ spaces' ++ ':' :: first ++
              skipSpace after' := by
            rw [split_cs, quote, split_inner, split_after, colon, is_first]
            simp
          split at done
          next rest' comma =>
            obtain ⟨new, others, is_new, some_member, rfl, writes⟩ := sound.members done
            refine ⟨(name, value) :: new, _, by simp [is_new], List.cons_ne_nil _ _, ?_,
              writesMembers_cons some_member member writes⟩
            rw [whole, comma]
            simp
          next rest' ending =>
            cases done
            refine ⟨[(name, value)], _, by simp, List.cons_ne_nil _ _, ?_,
              writesMembers_singleton.2 member⟩
            rw [whole, ending]
          · cases done
      · cases done
  · cases done

end Sound

/-- The reader reads nothing but what has been written. The induction is on the steps. -/
theorem sound (steps : Nat) : Sound steps := by
  induction steps with
  | zero =>
    refine ⟨?_, ?_, ?_⟩
    · intro cs rest v done
      cases done
    · intro read found cs rest done
      cases done
    · intro read found cs rest done
      cases done
  | succ steps ih =>
    refine ⟨?_, ih.items_succ, ih.members_succ⟩
    intro cs rest v done
    obtain ⟨text, is_text, writes⟩ := ih.text_of_readValue? done
    obtain ⟨spaces, split, is_spaces⟩ := exists_skipSpace cs
    exact ⟨spaces, text, is_text ▸ split, is_spaces, writes⟩

/-! ## Whole texts -/

/-- A text is read as a value exactly if it writes that value. -/
theorem parse?_eq_some_iff {text : String} {v : Json} : parse? text = some v ↔ IsTextOf text v := by
  unfold parse?
  dsimp only
  constructor
  · intro done
    split at done
    next found rest read =>
      obtain ⟨before, body, split, spaces, writes⟩ := (sound _).value read
      split at done
      next is_end =>
        cases done
        obtain ⟨after, split_rest, is_spaces⟩ := exists_skipSpace rest
        rw [List.isEmpty_iff.1 is_end, List.append_nil] at split_rest
        refine ⟨before, body, after, ?_, spaces, writes, is_spaces⟩
        rw [split, split_rest, List.append_assoc]
      · cases done
    · cases done
  · rintro ⟨before, body, after, split, spaces, writes, is_spaces⟩
    have ends : Ends after := by
      intro c is_next
      cases after with
      | nil => cases is_next
      | cons space after =>
        obtain rfl : space = c := Option.some.inj is_next
        exact .inl (is_spaces space List.mem_cons_self)
    have whole : text.toList = before ++ (body ++ after) := by rw [split, List.append_assoc]
    have enough : body.length ≤ text.toList.length + 1 := by
      rw [whole, List.length_append, List.length_append]
      omega
    have nothing_left : skipSpace after = [] := by
      rw [← List.append_nil after, skipSpace_append is_spaces]
      rfl
    have read := reads (text.toList.length + 1) v spaces writes ends enough
    rw [← whole] at read
    rw [read]
    dsimp only
    rw [nothing_left]
    rfl

/-- A text writes one value at most. -/
theorem IsTextOf.unique {text : String} {v other : Json} (writes : IsTextOf text v)
    (also : IsTextOf text other) : v = other := by
  have read := parse?_eq_some_iff.2 writes
  rw [parse?_eq_some_iff.2 also] at read
  exact (Option.some.inj read).symm

end DraftNits.Json
