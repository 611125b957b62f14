import DraftNits.Text.CharClass

/-! # Trimming, words and substrings

Operations on texts seen as lists of characters: white space taken off the ends, the words
between white space, and the search for a text inside another. -/

namespace DraftNits.Text

/-! ## Ends -/

/-- The text without its longest ending of characters in a class. -/
def dropEndWhile (p : Char → Bool) (cs : List Char) : List Char :=
  (cs.reverse.dropWhile p).reverse

/-- The text without leading white space. -/
def trimStart (cs : List Char) : List Char := cs.dropWhile isBlank

/-- The text without trailing white space. -/
def trimEnd (cs : List Char) : List Char := dropEndWhile isBlank cs

/-- The text without white space at either end. -/
def trim (cs : List Char) : List Char := trimEnd (trimStart cs)

/-- Whether a text starts with white space. -/
def startsBlank : List Char → Bool
  | [] => false
  | c :: _ => isBlank c

/-- Whether a text holds nothing but white space. -/
def isAllBlank (cs : List Char) : Bool := cs.all isBlank

@[simp] theorem dropEndWhile_nil (p : Char → Bool) : dropEndWhile p [] = [] := rfl

/-- What is taken off the end is a text of characters in the class. -/
theorem exists_dropEndWhile_append (p : Char → Bool) (cs : List Char) :
    ∃ tail, cs = dropEndWhile p cs ++ tail ∧ ∀ c ∈ tail, p c = true := by
  refine ⟨(cs.reverse.takeWhile p).reverse, ?_, ?_⟩
  · rw [dropEndWhile, ← List.reverse_append, List.takeWhile_append_dropWhile, List.reverse_reverse]
  · intro c h
    have all : (cs.reverse.takeWhile p).all p = true := List.all_takeWhile
    exact List.all_eq_true.1 all c (List.mem_reverse.1 h)

/-- Nothing is taken off in front of a character that is not in the class. -/
theorem exists_dropEndWhile_eq {p : Char → Bool} {c : Char} (before behind : List Char)
    (stop : p c = false) :
    ∃ kept, dropEndWhile p (before ++ c :: behind) = before ++ c :: kept := by
  obtain ⟨tail, is_text, all⟩ := exists_dropEndWhile_append p (before ++ c :: behind)
  have not_taken : c ∉ tail := by
    intro mem
    rw [all c mem] at stop
    cases stop
  rcases List.append_eq_append_iff.1 is_text with ⟨kept, is_kept, is_rest⟩ | ⟨cut, -, is_tail⟩
  · cases kept with
    | nil =>
      obtain rfl : c :: behind = tail := is_rest
      exact absurd List.mem_cons_self not_taken
    | cons d kept =>
      obtain ⟨rfl, -⟩ := List.cons.inj is_rest
      exact ⟨kept, is_kept⟩
  · rw [is_tail] at not_taken
    simp at not_taken

/-- White space in front of another character is taken off. -/
theorem trimStart_append {spaces rest : List Char} {c : Char}
    (all : ∀ d ∈ spaces, isBlank d = true) (stop : isBlank c = false) :
    trimStart (spaces ++ c :: rest) = c :: rest := by
  rw [trimStart, List.dropWhile_append_of_pos all, List.dropWhile_cons, stop]
  rfl

/-- White space is taken off in front of what is left. -/
theorem exists_trimStart (cs : List Char) :
    ∃ spaces, cs = spaces ++ trimStart cs ∧ ∀ c ∈ spaces, isBlank c = true :=
  ⟨cs.takeWhile isBlank, List.takeWhile_append_dropWhile.symm,
    List.all_eq_true.1 List.all_takeWhile⟩

/-- White space is taken off behind what is left. -/
theorem exists_trimEnd (cs : List Char) :
    ∃ spaces, cs = trimEnd cs ++ spaces ∧ ∀ c ∈ spaces, isBlank c = true :=
  exists_dropEndWhile_append isBlank cs

/-- What is left starts with another character. -/
theorem isBlank_trimStart (cs : List Char) : ∀ c ∈ (trimStart cs).head?, isBlank c = false := by
  intro c first
  have stop := List.head?_dropWhile_not isBlank cs
  rw [← trimStart, Option.mem_def.1 first] at stop
  simpa using stop

/-- A text that starts with white space has some in front of what is left. -/
theorem exists_trimStart_of_startsBlank {cs : List Char} (starts : startsBlank cs = true) :
    ∃ spaces, cs = spaces ++ trimStart cs ∧ spaces ≠ [] ∧ ∀ c ∈ spaces, isBlank c = true := by
  obtain ⟨spaces, is_text, all⟩ := exists_trimStart cs
  refine ⟨spaces, is_text, ?_, all⟩
  -- If nothing were taken off, the text would not start with white space.
  rintro rfl
  rw [List.nil_append] at is_text
  cases cs with
  | nil => cases starts
  | cons c rest =>
    have stop := isBlank_trimStart (c :: rest) c (by rw [← is_text]; rfl)
    rw [show isBlank c = true from starts] at stop
    cases stop

/-- What is left of a text ends outside of the class that was taken off. -/
theorem stop_dropEndWhile (p : Char → Bool) (cs : List Char) :
    ∀ c ∈ (dropEndWhile p cs).getLast?, p c = false := by
  intro c last
  have stop := List.head?_dropWhile_not p cs.reverse
  rw [dropEndWhile, List.getLast?_reverse] at last
  rw [Option.mem_def.1 last] at stop
  simpa using stop

/-- A longest ending in a class is taken off behind a character that is not in it. -/
theorem dropEndWhile_append {p : Char → Bool} {cs tail : List Char} (all : ∀ d ∈ tail, p d = true)
    (stop : ∀ c ∈ cs.getLast?, p c = false) : dropEndWhile p (cs ++ tail) = cs := by
  have backwards : ∀ d ∈ tail.reverse, p d = true := fun d mem => all d (List.mem_reverse.1 mem)
  rw [dropEndWhile, List.reverse_append, List.dropWhile_append_of_pos backwards]
  rw [← List.head?_reverse] at stop
  cases is_reverse : cs.reverse with
  | nil => exact (List.reverse_eq_nil_iff.1 is_reverse).symm
  | cons c others =>
    rw [is_reverse] at stop
    rw [List.dropWhile_cons, stop c rfl, ← is_reverse]
    exact List.reverse_reverse cs

/-- Trimming takes off white space up to the first and last character that are none. -/
theorem trim_append {before cs after : List Char} (front : ∀ c ∈ before, isBlank c = true)
    (back : ∀ c ∈ after, isBlank c = true) (first : ∀ c ∈ cs.head?, isBlank c = false)
    (last : ∀ c ∈ cs.getLast?, isBlank c = false) : trim (before ++ (cs ++ after)) = cs := by
  rw [trim, trimStart, List.dropWhile_append_of_pos front]
  cases cs with
  | nil =>
    have nothing : after.dropWhile isBlank = [] := by
      rw [← List.append_nil after, List.dropWhile_append_of_pos back]
      rfl
    rw [List.nil_append, nothing]
    rfl
  | cons c others =>
    rw [List.cons_append, List.dropWhile_cons, first c rfl]
    exact dropEndWhile_append back last

/-- Trimming takes off white space at both ends. -/
theorem exists_trim (cs : List Char) :
    ∃ before after, cs = before ++ (trim cs ++ after) ∧ (∀ c ∈ before, isBlank c = true) ∧
      ∀ c ∈ after, isBlank c = true := by
  obtain ⟨before, is_text, front⟩ := exists_trimStart cs
  obtain ⟨after, is_rest, back⟩ := exists_dropEndWhile_append isBlank (trimStart cs)
  exact ⟨before, after, is_text.trans (congrArg (before ++ ·) is_rest), front, back⟩

/-- A trimmed text neither begins nor ends with white space. -/
theorem isBlank_trim (cs : List Char) :
    (∀ c ∈ (trim cs).head?, isBlank c = false) ∧
      ∀ c ∈ (trim cs).getLast?, isBlank c = false := by
  refine ⟨fun c first => ?_, stop_dropEndWhile isBlank (trimStart cs)⟩
  obtain ⟨after, is_rest, -⟩ := exists_dropEndWhile_append isBlank (trimStart cs)
  apply isBlank_trimStart cs c
  rw [is_rest, List.head?_append, ← trimEnd, ← trim, Option.mem_def.1 first]
  rfl

/-- A text that neither begins nor ends with white space is left as it is. -/
theorem trim_eq_self {cs : List Char} (first : ∀ c ∈ cs.head?, isBlank c = false)
    (last : ∀ c ∈ cs.getLast?, isBlank c = false) : trim cs = cs := by
  have kept := trim_append (List.forall_mem_nil _) (List.forall_mem_nil _) first last
  rwa [List.nil_append, List.append_nil] at kept

/-- Trimming takes off everything at once. -/
theorem trim_trim (cs : List Char) : trim (trim cs) = trim cs :=
  trim_eq_self (isBlank_trim cs).1 (isBlank_trim cs).2

/-- Nothing is left of white space, and something of everything else. -/
theorem trim_eq_nil_iff {cs : List Char} : trim cs = [] ↔ ∀ c ∈ cs, isBlank c = true := by
  constructor
  · intro nothing c mem
    obtain ⟨before, after, is_text, front, back⟩ := exists_trim cs
    rw [is_text, nothing, List.nil_append] at mem
    exact (List.mem_append.1 mem).elim (front c) (back c)
  · intro all_blank
    have nothing : ∀ c ∈ ([] : List Char).head?, isBlank c = false := fun c first => by cases first
    have taken := trim_append all_blank (List.forall_mem_nil _) nothing nothing
    rwa [List.nil_append, List.append_nil] at taken

/-! ## Words -/

/-- The maximal runs of characters that are not white space, in order. -/
def words : List Char → List (List Char)
  | [] => []
  | c :: cs =>
    if isBlank c then words cs
    else if startsBlank cs then [c] :: words cs
    else match words cs with
      | [] => [[c]]
      | word :: rest => (c :: word) :: rest

/-- The words of a text joined by single spaces. -/
def collapse (cs : List Char) : List Char := [' '].intercalate (words cs)

@[simp] theorem words_nil : words [] = [] := rfl

/-- Leading white space holds no word. -/
theorem words_cons_blank {c : Char} (h : isBlank c = true) (cs : List Char) :
    words (c :: cs) = words cs := by
  simp [words, h]

/-! ## Search -/

/-- The text after a given beginning, if it begins so. -/
def afterStart? (start cs : List Char) : Option (List Char) :=
  if start.isPrefixOf cs then some (cs.drop start.length) else none

/-- The text on either side of the first occurrence of another text. -/
def splitAt? (needle : List Char) : List Char → Option (List Char × List Char)
  | [] => if needle.isEmpty then some ([], []) else none
  | c :: cs =>
    if needle.isPrefixOf (c :: cs) then some ([], (c :: cs).drop needle.length)
    else (splitAt? needle cs).map fun (before, after) => (c :: before, after)

/-- Whether a text occurs inside another. -/
def contains (needle cs : List Char) : Bool := (splitAt? needle cs).isSome

/-- A text that begins with another is that text and the rest. -/
theorem eq_append_of_afterStart? {start cs rest : List Char}
    (h : afterStart? start cs = some rest) : cs = start ++ rest := by
  unfold afterStart? at h
  split at h
  next is_start =>
    obtain ⟨rest', rfl⟩ := List.isPrefixOf_iff_prefix.1 is_start
    simpa using h
  next => simp at h

/-- The text after a beginning is the rest. -/
theorem afterStart?_append (start rest : List Char) :
    afterStart? start (start ++ rest) = some rest := by
  rw [afterStart?, if_pos (List.isPrefixOf_iff_prefix.2 (List.prefix_append _ _)), List.drop_left]

/-- Putting the needle back between the two sides gives the text again. -/
theorem eq_append_of_splitAt? {needle cs before after : List Char}
    (h : splitAt? needle cs = some (before, after)) : cs = before ++ needle ++ after := by
  induction cs generalizing before after with
  | nil =>
    simp only [splitAt?] at h
    split at h <;> simp_all
  | cons c cs ih =>
    simp only [splitAt?] at h
    split at h
    next found =>
      obtain ⟨rest, is_rest⟩ := List.isPrefixOf_iff_prefix.1 found
      rw [← is_rest] at h ⊢
      simp at h
      simp [h]
    next =>
      obtain ⟨⟨before', after'⟩, found, is_split⟩ := Option.map_eq_some_iff.1 h
      simp only [Prod.mk.injEq] at is_split
      obtain ⟨rfl, rfl⟩ := is_split
      rw [ih found]
      simp

example : trim " \u00a0a b\t".toList = "a b".toList := by decide +kernel
example : collapse "  one\n two ".toList = "one two".toList := by decide +kernel

end DraftNits.Text
