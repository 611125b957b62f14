import DraftNits.PlainText.Heading
import DraftNits.Proofs.DraftNames
import DraftNits.Proofs.Layout
import DraftNits.Proofs.MonthNames

/-! # Numbered headings

How a heading with a number is written: the number, perhaps a dot, white space and the title. The
number is one or more groups of digits with dots between them; in an appendix the first of them is a
capital letter, and the word `Appendix` stands in front. A dot after the number could be one of its
own, the white space could belong to the title, and the title could go on with the white space at
the end of the line, but only one of these readings is a heading.

* `PlainText.Heading.Spells` — the lines that are written so, with their numbers and titles.
* `PlainText.Heading.isNumberAndTitle_iff` — where number, dot, white space and title come apart.
* `PlainText.Heading.ofLine?_eq_some_iff` — the headings with a number are the lines that spell one.
* `PlainText.Heading.ofLine?_exact` — a heading is read back as it was written, whatever white space
  follows it; what is read was written so; and no heading is indented. -/

namespace DraftNits.PlainText.Heading

variable {number title line cs : List Char}

/-! ## Numbers -/

/-- Whether a text is one or two decimal digits. -/
def IsGroup (cs : List Char) : Prop :=
  (cs.length = 1 ∨ cs.length = 2) ∧ ∀ c ∈ cs, Text.isDecimalDigit c = true

/-- Whether a text is one or more groups with dots between them. -/
def IsGroups (cs : List Char) : Prop :=
  ∃ groups, groups ≠ [] ∧ (∀ group ∈ groups, IsGroup group) ∧ cs = ['.'].intercalate groups

/-- Whether a text is a capital letter A to Z and then groups, with dots between all of them. There
may be no group. -/
def IsLettered (cs : List Char) : Prop :=
  ∃ letter groups, Text.isAsciiUpper letter = true ∧ (∀ group ∈ groups, IsGroup group) ∧
    cs = ['.'].intercalate ([letter] :: groups)

/-- Groups are recognized. -/
theorem isGroup_iff : isGroup cs = true ↔ IsGroup cs := by
  simp [isGroup, IsGroup]

instance (cs : List Char) : Decidable (IsGroup cs) := decidable_of_iff _ isGroup_iff

/-- No dot is a digit, and so none is in a group. -/
theorem IsGroup.dot_notMem (is_group : IsGroup cs) : '.' ∉ cs := fun mem =>
  absurd (is_group.2 '.' mem) (by decide)

/-- Cut at its dots, a text gives groups exactly if it was joined from some. -/
theorem isGroups_iff : isGroups cs = true ↔ IsGroups cs := by
  simp only [isGroups, List.all_eq_true, isGroup_iff]
  constructor
  · intro all_groups
    exact ⟨cs.splitOn '.', List.splitOn_ne_nil '.' cs, all_groups,
      (List.intercalate_splitOn '.').symm⟩
  · rintro ⟨groups, some_group, all_groups, rfl⟩
    have no_dot : ∀ group ∈ groups, '.' ∉ group :=
      fun group mem => (all_groups group mem).dot_notMem
    rwa [List.splitOn_intercalate '.' no_dot some_group]

/-- Groups are not empty. -/
theorem IsGroups.ne_nil (is_groups : IsGroups cs) : cs ≠ [] := by
  rintro rfl
  exact absurd (isGroups_iff.2 is_groups) (by decide)

/-- Groups are made of characters of a number. -/
theorem IsGroups.isNumberChar (is_groups : IsGroups cs) : ∀ c ∈ cs, isNumberChar c = true := by
  obtain ⟨groups, -, all_groups, rfl⟩ := is_groups
  intro c mem
  rcases Text.mem_intercalate mem with is_dot | ⟨group, among, mem⟩
  · simp [Heading.isNumberChar, List.mem_singleton.1 is_dot]
  · simp [Heading.isNumberChar, (all_groups group among).2 c mem]

/-- Groups end in a digit, not in a dot. -/
theorem IsGroups.getLast?_ne (is_groups : IsGroups cs) : cs.getLast? ≠ some '.' := by
  obtain ⟨groups, some_group, all_groups, rfl⟩ := is_groups
  induction groups with
  | nil => exact absurd rfl some_group
  | cons group rest ih =>
    rw [List.forall_mem_cons] at all_groups
    cases rest with
    | nil =>
      rw [List.intercalate_singleton]
      exact fun last => all_groups.1.dot_notMem (List.mem_of_getLast? last)
    | cons next rest =>
      -- The last character is that of the groups behind the first one, which are not empty.
      have later := ih (List.cons_ne_nil next rest) all_groups.2
      have not_empty : ['.'].intercalate (next :: rest) ≠ [] :=
        IsGroups.ne_nil ⟨_, List.cons_ne_nil next rest, all_groups.2, rfl⟩
      rwa [List.intercalate_cons_cons, List.getLast?_append_of_ne_nil _ not_empty]

/-- A letter stands first. -/
theorem IsLettered.exists_cons (is_lettered : IsLettered cs) :
    ∃ letter behind, cs = letter :: behind ∧ Text.isAsciiUpper letter = true := by
  obtain ⟨letter, groups, capital, -, rfl⟩ := is_lettered
  cases groups with
  | nil => exact ⟨letter, [], rfl, capital⟩
  | cons group rest =>
    rw [List.intercalate_cons_cons]
    exact ⟨letter, _, rfl, capital⟩

/-- Behind the letter of a number stands nothing, or a dot and groups. -/
theorem isLettered_cons_iff {letter : Char} :
    IsLettered (letter :: cs) ↔
      Text.isAsciiUpper letter = true ∧
        (cs = [] ∨ ∃ groups, cs = '.' :: groups ∧ IsGroups groups) := by
  constructor
  · rintro ⟨first, groups, capital, all_groups, joined⟩
    cases groups with
    | nil =>
      rw [List.intercalate_singleton] at joined
      obtain ⟨rfl, rfl⟩ := List.cons.inj joined
      exact ⟨capital, .inl rfl⟩
    | cons group rest =>
      rw [List.intercalate_cons_cons] at joined
      obtain ⟨rfl, rfl⟩ := List.cons.inj joined
      exact ⟨capital, .inr ⟨_, rfl, group :: rest, List.cons_ne_nil group rest, all_groups, rfl⟩⟩
  · rintro ⟨capital, rfl | ⟨groups, rfl, parts, some_part, all_groups, rfl⟩⟩
    · exact ⟨letter, [], capital, List.forall_mem_nil _, rfl⟩
    · refine ⟨letter, parts, capital, all_groups, ?_⟩
      cases parts with
      | nil => exact absurd rfl some_part
      | cons part rest =>
        rw [List.intercalate_cons_cons]
        rfl

/-- What stands behind the letter of a number is recognized. -/
theorem isSubgroups_iff :
    isSubgroups cs = true ↔ cs = [] ∨ ∃ groups, cs = '.' :: groups ∧ IsGroups groups := by
  cases cs with
  | nil => simp [isSubgroups]
  | cons c rest =>
    simp only [isSubgroups, Bool.and_eq_true, beq_iff_eq, isGroups_iff]
    constructor
    · rintro ⟨rfl, is_groups⟩
      exact .inr ⟨rest, rfl, is_groups⟩
    · rintro (nothing | ⟨groups, same, is_groups⟩)
      · cases nothing
      · obtain ⟨rfl, rfl⟩ := List.cons.inj same
        exact ⟨rfl, is_groups⟩

/-- It is made of characters of a number and does not end in a dot either. -/
theorem isNumberChar_of_isSubgroups (is_subgroups : isSubgroups cs = true) :
    (∀ c ∈ cs, isNumberChar c = true) ∧ cs.getLast? ≠ some '.' := by
  rcases isSubgroups_iff.1 is_subgroups with rfl | ⟨groups, rfl, is_groups⟩
  · simp
  · refine ⟨List.forall_mem_cons.2 ⟨by decide, is_groups.isNumberChar⟩, ?_⟩
    obtain ⟨c, rest, rfl⟩ := List.exists_cons_of_ne_nil is_groups.ne_nil
    rw [List.getLast?_cons_cons]
    exact is_groups.getLast?_ne

/-! ## Number and title -/

/-- Whether a text can be a title: it is on one line, its first character is in a class, and it has
no white space at its end. -/
structure IsTitle (first : Char → Bool) (title : List Char) : Prop where
  /-- It starts with a character of the class. -/
  starts : ∃ c ∈ title.head?, first c = true
  /-- It is on one line. -/
  oneLine : '\n' ∉ title
  /-- It does not end in white space. -/
  last : ∀ c ∈ title.getLast?, Text.isBlank c = false

/-- Whether a text is a number, perhaps a dot, white space and a title, whose first character is in
a class. -/
def IsNumberAndTitle (first : Char → Bool) (number title cs : List Char) : Prop :=
  ∃ dot blanks, cs = number ++ (dot ++ (blanks ++ title)) ∧ (dot = [] ∨ dot = ['.']) ∧
    blanks ≠ [] ∧ (∀ c ∈ blanks, Text.isBlank c = true) ∧ IsTitle first title

/-- Whether a line is a heading with a number and a title: a numbered one, whose title starts with a
capital letter A to Z, or an appendix. -/
inductive Spells (number title : List Char) : List Char → Prop
  /-- Groups of digits. -/
  | numbered {line : List Char} (is_number : IsGroups number)
      (written : IsNumberAndTitle Text.isAsciiUpper number title line) : Spells number title line
  /-- An appendix, whose title starts with any character that is not white space. -/
  | lettered {gap behind : List Char} (some_gap : gap ≠ [])
      (all_blank : ∀ c ∈ gap, Text.isBlank c = true) (is_number : IsLettered number)
      (written : IsNumberAndTitle (fun c => !Text.isBlank c) number title behind) :
      Spells number title ("Appendix".toList ++ (gap ++ behind))

/-- White space ends a number. -/
theorem isNumberChar_of_isBlank {c : Char} (blank : Text.isBlank c = true) :
    isNumberChar c = false := by
  by_contra in_number
  simp only [isNumberChar, Bool.or_eq_false_iff, not_and_or, Bool.not_eq_false,
    beq_eq_false_iff_ne, ne_eq, not_not] at in_number
  rcases in_number with digit | rfl
  · exact absurd blank (by simp [Text.isBlank_of_isDecimalDigit digit])
  · exact absurd blank (by decide)

/-- White space in front of a text that starts with another character is all there is at its
start. -/
theorem title?_append {first : Char → Bool} {blanks : List Char} (some_blank : blanks ≠ [])
    (all_blank : ∀ c ∈ blanks, Text.isBlank c = true)
    (starts : ∃ c ∈ title.head?, first c = true ∧ Text.isBlank c = false)
    (one_line : '\n' ∉ title) : title? first (blanks ++ title) = some title := by
  obtain ⟨c, is_first, in_class, no_blank⟩ := starts
  cases title with
  | nil => cases is_first
  | cons d rest =>
    obtain rfl : d = c := Option.some.inj is_first
    obtain ⟨blank, others, rfl⟩ := List.exists_cons_of_ne_nil some_blank
    have starts_blank : Text.startsBlank (blank :: others ++ d :: rest) = true :=
      all_blank blank List.mem_cons_self
    rw [title?, Text.trimStart_append all_blank no_blank]
    refine if_pos ?_
    simp only [starts_blank, in_class, Bool.true_and, Bool.not_eq_true', List.contains_eq_mem,
      decide_eq_false_iff_not]
    exact one_line

/-- A title that is found stands behind white space. -/
theorem exists_of_title? {first : Char → Bool} (found : title? first cs = some title) :
    ∃ blanks, cs = blanks ++ title ∧ blanks ≠ [] ∧ (∀ c ∈ blanks, Text.isBlank c = true) ∧
      (∃ c ∈ title.head?, first c = true ∧ Text.isBlank c = false) ∧ '\n' ∉ title := by
  unfold title? at found
  split at found
  next => cases found
  next c rest trimmed =>
    split at found
    next accepted =>
      obtain rfl := Option.some.inj found
      simp only [Bool.and_eq_true, Bool.not_eq_true', List.contains_eq_mem,
        decide_eq_false_iff_not] at accepted
      obtain ⟨⟨starts_blank, in_class⟩, one_line⟩ := accepted
      obtain ⟨blanks, is_text, some_blank, all_blank⟩ :=
        Text.exists_trimStart_of_startsBlank starts_blank
      have no_blank : Text.isBlank c = false := Text.isBlank_trimStart cs c (by rw [trimmed]; rfl)
      rw [trimmed] at is_text
      exact ⟨blanks, is_text, some_blank, all_blank, ⟨c, rfl, in_class, no_blank⟩, one_line⟩
    next => cases found

/-- Where a text ends in no white space, a number in it, whose characters are known and do not end
in a dot, and a title behind it are found exactly if the text is written so. -/
theorem isNumberAndTitle_iff {first starts : Char → Bool}
    (class_iff : ∀ c, starts c = true ↔ first c = true ∧ Text.isBlank c = false)
    (all_number : ∀ c ∈ number, isNumberChar c = true) (no_dot : number.getLast? ≠ some '.')
    (last : ∀ c ∈ cs.getLast?, Text.isBlank c = false) :
    dropFinalDot (cs.takeWhile isNumberChar) = number ∧
        title? first (cs.dropWhile isNumberChar) = some title ↔
      IsNumberAndTitle starts number title cs := by
  constructor
  · rintro ⟨is_number, found⟩
    obtain ⟨blanks, is_rest, some_blank, all_blank, ⟨c, is_first, in_class⟩, one_line⟩ :=
      exists_of_title? found
    have split_text := List.takeWhile_append_dropWhile (p := isNumberChar) (l := cs)
    rw [is_rest] at split_text
    have is_title : IsTitle starts title := by
      refine ⟨⟨c, is_first, (class_iff c).2 in_class⟩, one_line, fun d is_last => last d ?_⟩
      -- The title is the end of the text.
      rw [← split_text, List.getLast?_append, List.getLast?_append, Option.mem_def.1 is_last]
      rfl
    -- A dot that the number does not end in was taken off.
    obtain ⟨dot, is_run, is_dot⟩ : ∃ dot, cs.takeWhile isNumberChar = number ++ dot ∧
        (dot = [] ∨ dot = ['.']) := by
      rw [← is_number, dropFinalDot]
      split
      next ends_in_dot =>
        exact ⟨['.'], (List.dropLast_append_getLast? '.' ends_in_dot).symm, .inr rfl⟩
      next => exact ⟨[], (List.append_nil _).symm, .inl rfl⟩
    refine ⟨dot, blanks, ?_, is_dot, some_blank, all_blank, is_title⟩
    rw [← split_text, is_run, List.append_assoc]
  · rintro ⟨dot, blanks, rfl, is_dot, some_blank, all_blank, is_title⟩
    obtain ⟨c, is_first, in_class⟩ := is_title.starts
    have is_run : ∀ d ∈ number ++ dot, isNumberChar d = true := by
      intro d mem
      rcases List.mem_append.1 mem with in_number | in_dot
      · exact all_number d in_number
      · rcases is_dot with rfl | rfl
        · cases in_dot
        · simp [isNumberChar, List.mem_singleton.1 in_dot]
    -- The run of number characters ends where the white space begins.
    obtain ⟨blank, others, rfl⟩ := List.exists_cons_of_ne_nil some_blank
    have stop := isNumberChar_of_isBlank (all_blank blank List.mem_cons_self)
    have split_run := takeWhile_dropWhile_append is_run stop (others ++ title)
    rw [List.append_assoc] at split_run
    refine ⟨?_, ?_⟩
    · rw [List.cons_append, split_run.1, dropFinalDot]
      rcases is_dot with rfl | rfl
      · rw [List.append_nil, if_neg no_dot]
      · rw [if_pos (List.getLast?_concat ..), List.dropLast_concat]
    · rw [List.cons_append, split_run.2]
      exact title?_append (List.cons_ne_nil blank others) all_blank
        ⟨c, is_first, (class_iff c).1 in_class⟩ is_title.oneLine

/-! ## Headings -/

/-- A numbered heading is groups with a title behind them. -/
theorem numbered?_eq_some_iff (last : ∀ c ∈ line.getLast?, Text.isBlank c = false) :
    numbered? line = some ⟨some number, title⟩ ↔
      IsGroups number ∧ IsNumberAndTitle Text.isAsciiUpper number title line := by
  have class_iff : ∀ c, Text.isAsciiUpper c = true ↔
      Text.isAsciiUpper c = true ∧ Text.isBlank c = false := fun c =>
    ⟨fun upper => ⟨upper, Text.isBlank_of_isAsciiUpper upper⟩, And.left⟩
  have split_iff : IsGroups number →
      (dropFinalDot (line.takeWhile isNumberChar) = number ∧
          title? Text.isAsciiUpper (line.dropWhile isNumberChar) = some title ↔
        IsNumberAndTitle Text.isAsciiUpper number title line) := fun is_groups =>
    isNumberAndTitle_iff class_iff is_groups.isNumberChar is_groups.getLast?_ne last
  unfold numbered?
  simp only [Option.ite_none_right_eq_some, Option.map_eq_some_iff, Heading.mk.injEq,
    Option.some.injEq, isGroups_iff]
  constructor
  · rintro ⟨is_groups, _, found, rfl, rfl⟩
    exact ⟨is_groups, (split_iff is_groups).1 ⟨rfl, found⟩⟩
  · rintro ⟨is_groups, written⟩
    obtain ⟨rfl, found⟩ := (split_iff is_groups).2 written
    exact ⟨is_groups, title, found, rfl, rfl⟩

/-- The heading of an appendix is a capital letter and groups with a title behind them. -/
theorem lettered?_eq_some_iff (last : ∀ c ∈ cs.getLast?, Text.isBlank c = false) :
    lettered? cs = some ⟨some number, title⟩ ↔
      IsLettered number ∧ IsNumberAndTitle (fun c => !Text.isBlank c) number title cs := by
  cases cs with
  | nil =>
    refine iff_of_false (by simp [lettered?]) ?_
    rintro ⟨-, dot, blanks, nothing, -, some_blank, -⟩
    simp [some_blank] at nothing
  | cons letter rest =>
    -- Everything behind the letter is read as behind the number of a numbered heading.
    have split_iff : ∀ {tail}, isSubgroups tail = true →
        (dropFinalDot (rest.takeWhile isNumberChar) = tail ∧
            title? (fun _ => true) (rest.dropWhile isNumberChar) = some title ↔
          IsNumberAndTitle (fun c => !Text.isBlank c) tail title rest) := by
      intro tail is_subgroups
      obtain ⟨all_number, no_dot⟩ := isNumberChar_of_isSubgroups is_subgroups
      refine isNumberAndTitle_iff (by simp) all_number no_dot fun c is_last => last c ?_
      rw [← List.singleton_append, List.getLast?_append, Option.mem_def.1 is_last]
      rfl
    have cons_iff : ∀ tail,
        IsNumberAndTitle (fun c => !Text.isBlank c) (letter :: tail) title (letter :: rest) ↔
          IsNumberAndTitle (fun c => !Text.isBlank c) tail title rest := by
      intro tail
      simp [IsNumberAndTitle]
    unfold lettered?
    simp only [Option.ite_none_right_eq_some, Option.map_eq_some_iff, Heading.mk.injEq,
      Option.some.injEq, Bool.and_eq_true]
    constructor
    · rintro ⟨⟨capital, is_subgroups⟩, _, found, rfl, rfl⟩
      exact ⟨isLettered_cons_iff.2 ⟨capital, isSubgroups_iff.1 is_subgroups⟩,
        (cons_iff _).2 ((split_iff is_subgroups).1 ⟨rfl, found⟩)⟩
    · rintro ⟨is_lettered, written⟩
      obtain ⟨first, tail, rfl, -⟩ := is_lettered.exists_cons
      obtain rfl : letter = first := by
        obtain ⟨dot, blanks, same, -⟩ := written
        exact (List.cons.inj same).1
      obtain ⟨capital, is_subgroups⟩ := isLettered_cons_iff.1 is_lettered
      rw [← isSubgroups_iff] at is_subgroups
      obtain ⟨rfl, found⟩ := (split_iff is_subgroups).2 ((cons_iff tail).1 written)
      exact ⟨⟨capital, is_subgroups⟩, title, found, rfl, rfl⟩

/-- An appendix is the word, white space and a letter with groups and a title behind them. -/
theorem appendix?_eq_some_iff (last : ∀ c ∈ line.getLast?, Text.isBlank c = false) :
    appendix? line = some ⟨some number, title⟩ ↔
      ∃ gap behind, line = "Appendix".toList ++ (gap ++ behind) ∧ gap ≠ [] ∧
        (∀ c ∈ gap, Text.isBlank c = true) ∧ IsLettered number ∧
          IsNumberAndTitle (fun c => !Text.isBlank c) number title behind := by
  -- What stands at the end of a line ends like the line.
  have last_behind : ∀ {front behind : List Char}, line = front ++ behind →
      ∀ c ∈ behind.getLast?, Text.isBlank c = false := by
    rintro front behind rfl c is_last
    refine last c ?_
    rw [List.getLast?_append, Option.mem_def.1 is_last]
    rfl
  constructor
  · intro found
    unfold appendix? at found
    split at found
    next => cases found
    next rest starts =>
      split at found
      next starts_blank =>
        obtain ⟨gap, is_rest, some_gap, all_blank⟩ :=
          Text.exists_trimStart_of_startsBlank starts_blank
        have is_line : line = "Appendix".toList ++ (gap ++ Text.trimStart rest) := by
          rw [← is_rest]
          exact Text.eq_append_of_afterStart? starts
        have ends := last_behind (is_line.trans (List.append_assoc _ _ _).symm)
        obtain ⟨is_number, written⟩ := (lettered?_eq_some_iff ends).1 found
        exact ⟨gap, _, is_line, some_gap, all_blank, is_number, written⟩
      next => cases found
  · rintro ⟨gap, behind, is_line, some_gap, all_blank, is_number, written⟩
    have ends := last_behind (is_line.trans (List.append_assoc _ _ _).symm)
    have found := (lettered?_eq_some_iff ends).2 ⟨is_number, written⟩
    -- The white space ends at the letter.
    obtain ⟨letter, tail, rfl, capital⟩ := is_number.exists_cons
    obtain ⟨dot, blanks, rfl, -⟩ := written
    have starts_blank : Text.startsBlank (gap ++ (letter :: tail ++ (dot ++ (blanks ++ title)))) =
        true := by
      obtain ⟨c, others, rfl⟩ := List.exists_cons_of_ne_nil some_gap
      exact all_blank c List.mem_cons_self
    rw [appendix?, is_line, Text.afterStart?_append]
    dsimp only
    rw [if_pos starts_blank, List.cons_append,
      Text.trimStart_append all_blank (Text.isBlank_of_isAsciiUpper capital)]
    exact found

/-- A title without a number is none with one. -/
theorem fixed?_ne : fixed? line ≠ some ⟨some number, title⟩ := by
  unfold fixed?
  split <;> simp

/-- An appendix is no numbered heading. -/
theorem numbered?_appendix (behind : List Char) :
    numbered? ("Appendix".toList ++ behind) = none := by
  have no_number : ("Appendix".toList ++ behind).takeWhile isNumberChar = [] := by
    rw [List.takeWhile_append]
    rfl
  rw [numbered?, no_number]
  rfl

/-- The headings with a number are the lines that spell one, less the white space at their ends, and
do not start with white space. -/
theorem ofLine?_eq_some_iff : ofLine? line = some ⟨some number, title⟩ ↔
    Text.startsBlank line = false ∧ Spells number title (Text.trimEnd line) := by
  by_cases indented : Text.startsBlank line = true
  · simp [ofLine?_of_startsBlank indented, indented]
  rw [Bool.not_eq_true] at indented
  have last : ∀ c ∈ (Text.trimEnd line).getLast?, Text.isBlank c = false :=
    Text.stop_dropEndWhile Text.isBlank line
  rw [ofLine?, if_neg (by simp [indented])]
  simp only [indented, true_and, Option.or_eq_some_iff, fixed?_ne, and_false, or_false,
    numbered?_eq_some_iff last, appendix?_eq_some_iff last]
  constructor
  · rintro (⟨is_number, written⟩ |
      ⟨-, gap, behind, is_line, some_gap, all_blank, is_number, written⟩)
    · exact .numbered is_number written
    · rw [is_line]
      exact .lettered some_gap all_blank is_number written
  · intro spells
    generalize Text.trimEnd line = text at spells
    cases spells with
    | numbered is_number written => exact .inl ⟨is_number, written⟩
    | lettered some_gap all_blank is_number written =>
      exact .inr ⟨numbered?_appendix _, _, _, rfl, some_gap, all_blank, is_number, written⟩

/-- A number and a title end like the title. -/
theorem IsNumberAndTitle.last {first : Char → Bool}
    (written : IsNumberAndTitle first number title cs) :
    ∀ c ∈ cs.getLast?, Text.isBlank c = false := by
  obtain ⟨dot, blanks, rfl, -, -, -, is_title⟩ := written
  obtain ⟨c, is_first, -⟩ := is_title.starts
  have some_title : title ≠ [] := by
    rintro rfl
    cases is_first
  rw [List.getLast?_append_of_ne_nil _ (by simp [some_title]),
    List.getLast?_append_of_ne_nil _ (by simp [some_title]),
    List.getLast?_append_of_ne_nil _ some_title]
  exact is_title.last

/-- What spells a heading has white space neither at its end nor at its start. -/
theorem Spells.ends (spells : Spells number title line) :
    (∀ c ∈ line.getLast?, Text.isBlank c = false) ∧
      ∀ behind, Text.startsBlank (line ++ behind) = false := by
  cases spells with
  | numbered is_number written =>
    refine ⟨written.last, fun behind => ?_⟩
    -- The first character is one of the number.
    obtain ⟨c, rest, rfl⟩ := List.exists_cons_of_ne_nil is_number.ne_nil
    have in_number := is_number.isNumberChar c List.mem_cons_self
    obtain ⟨dot, blanks, rfl, -⟩ := written
    by_contra indented
    rw [isNumberChar_of_isBlank (by simpa [Text.startsBlank] using indented)] at in_number
    cases in_number
  | lettered some_gap all_blank is_number written =>
    refine ⟨fun c is_last => ?_, fun behind => rfl⟩
    obtain ⟨letter, tail, rfl, -⟩ := is_number.exists_cons
    obtain ⟨dot, blanks, rfl, -⟩ := id written
    rw [List.getLast?_append_of_ne_nil _ (by simp), List.getLast?_append_of_ne_nil _ (by simp)]
      at is_last
    exact written.last c is_last

/-- A line that spells a number and a title is the heading of just that number and title, whatever
white space follows it; a line that is a heading with a number spells it, less the white space at
its end; and a line that starts with white space is no heading. -/
theorem ofLine?_exact :
    (∀ number title text trailing : List Char, Spells number title text →
      (∀ c ∈ trailing, Text.isBlank c = true) →
        ofLine? (text ++ trailing) = some ⟨some number, title⟩) ∧
    (∀ line number title : List Char, ofLine? line = some ⟨some number, title⟩ →
      Spells number title (Text.trimEnd line)) ∧
    ∀ line : List Char, Text.startsBlank line = true → ofLine? line = none := by
  refine ⟨fun number title text trailing spells all_blank => ?_,
    fun line number title found => (ofLine?_eq_some_iff.1 found).2,
    fun line => ofLine?_of_startsBlank⟩
  obtain ⟨last, not_indented⟩ := spells.ends
  have trimmed : Text.trimEnd (text ++ trailing) = text :=
    Text.dropEndWhile_append all_blank last
  exact ofLine?_eq_some_iff.2 ⟨not_indented trailing, trimmed.symm ▸ spells⟩

/-- A number of three groups with a dot behind it, and that of an appendix without one. -/
theorem ofLine?_exact_deep :
    ofLine? "12.3.45.  A. Title \t".toList = some ⟨some "12.3.45".toList, "A. Title".toList⟩ ∧
      ofLine? "Appendix B.2 why".toList = some ⟨some "B.2".toList, "why".toList⟩ ∧
      Text.startsBlank " 1. Title".toList = true ∧ ofLine? " 1. Title".toList = none := by
  refine ⟨?_, ?_, rfl, ofLine?_exact.2.2 _ rfl⟩
  · have is_number : IsGroups "12.3.45".toList := isGroups_iff.1 (by decide +kernel)
    have is_title : IsTitle Text.isAsciiUpper "A. Title".toList :=
      ⟨⟨'A', rfl, rfl⟩, by decide, by rintro _ ⟨⟩; rfl⟩
    have two_blanks : ∀ c ∈ [' ', ' '], Text.isBlank c = true := List.all_eq_true.1 (by decide)
    exact ofLine?_exact.1 _ _ "12.3.45.  A. Title".toList " \t".toList
      (.numbered is_number ⟨['.'], [' ', ' '], rfl, .inr rfl, by decide, two_blanks, is_title⟩)
      (List.all_eq_true.1 (by decide))
  · have is_number : IsLettered "B.2".toList := ⟨'B', [['2']], rfl, by decide, rfl⟩
    have is_title : IsTitle (fun c => !Text.isBlank c) "why".toList :=
      ⟨⟨'w', rfl, rfl⟩, by decide, by rintro _ ⟨⟩; rfl⟩
    have one_blank : ∀ c ∈ [' '], Text.isBlank c = true := List.all_eq_true.1 (by decide)
    exact ofLine?_exact.1 _ _ "Appendix B.2 why".toList []
      (.lettered (List.cons_ne_nil _ _) one_blank is_number
        ⟨[], [' '], rfl, .inl rfl, by decide, one_blank, is_title⟩)
      (List.forall_mem_nil _)

end DraftNits.PlainText.Heading
