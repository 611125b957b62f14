import DraftNits.Proofs.CurrentSection

/-! # Addresses of references

The address of a reference is looked for on the line of its entry and on the lines after it, up to a
blank line or the next entry. The search tells entries by the raw lines, the walk over the body by the
lines without the form feeds in front of them. An entry that the walk records is one for the search
too, so no reference takes the address of another one.

* `PlainText.IsUrl`, `PlainText.urlHere?_eq_some_iff` — the addresses in angle brackets.
* `PlainText.exists_of_entryUrl?` — where the address of an entry stands.
* `PlainText.entryAnchor?_of_dropFormFeeds` — the walk and the search tell entries alike.
* `PlainText.ReadsEntry`, `PlainText.readsEntries_readDocument` — the lines that a reference was read
  from.
* `Document.IsTargetOf`, `PlainText.exists_isTargetOf` — every target is that of its own reference. -/

namespace DraftNits

namespace PlainText

/-! ## Addresses -/

/-- Whether a text is an address. -/
structure IsUrl (url : List Char) : Prop where
  /-- It starts with `http://` or `https://` and goes on behind that. -/
  scheme : ∃ scheme rest, (scheme = "http://".toList ∨ scheme = "https://".toList) ∧ rest ≠ [] ∧
    url = scheme ++ rest
  /-- It has no white space and no closing angle bracket. -/
  chars : ∀ c ∈ url, Text.isBlank c = false ∧ c ≠ '>'

/-- A text in angle brackets. -/
def angled (cs : List Char) : List Char := '<' :: (cs ++ ['>'])

variable {cs url : List Char}

/-- The characters of an address are those that are no white space and no closing angle bracket. -/
theorem isUrlChar_iff {c : Char} : isUrlChar c = true ↔ Text.isBlank c = false ∧ c ≠ '>' := by
  simp [isUrlChar, and_comm]

/-- Behind its scheme an address goes on up to a closing angle bracket. -/
theorem urlHere?_append {scheme : List Char}
    (is_scheme : scheme = "http://".toList ∨ scheme = "https://".toList) (rest : List Char) :
    urlHere? (scheme ++ rest) =
      if rest.takeWhile isUrlChar ≠ [] ∧
          (rest.dropWhile isUrlChar).head? = some '>' then
        some (scheme ++ rest.takeWhile isUrlChar)
      else none := by
  have chosen : (if "https://".toList.isPrefixOf (scheme ++ rest) then "https://".toList
      else if "http://".toList.isPrefixOf (scheme ++ rest) then "http://".toList else []) =
        scheme := by
    have starts : scheme.isPrefixOf (scheme ++ rest) = true :=
      List.isPrefixOf_iff_prefix.2 (List.prefix_append _ _)
    rcases is_scheme with rfl | rfl
    · have no_https : "https://".toList.isPrefixOf ("http://".toList ++ rest) = false := rfl
      rw [no_https, if_neg Bool.false_ne_true, if_pos starts]
    · rw [if_pos starts]
  have some_scheme : scheme ≠ [] := by rcases is_scheme with rfl | rfl <;> decide
  unfold urlHere?
  dsimp only
  rw [chosen, List.drop_left]
  simp only [some_scheme, ne_eq, not_false_eq_true, true_and]

/-- Only behind one of the schemes there is an address. -/
theorem exists_scheme_of_urlHere? (found : urlHere? cs = some url) :
    ∃ scheme rest, (scheme = "http://".toList ∨ scheme = "https://".toList) ∧ cs = scheme ++ rest := by
  by_cases https : "https://".toList.isPrefixOf cs = true
  · obtain ⟨rest, is_text⟩ := List.isPrefixOf_iff_prefix.1 https
    exact ⟨_, rest, .inr rfl, is_text.symm⟩
  by_cases http : "http://".toList.isPrefixOf cs = true
  · obtain ⟨rest, is_text⟩ := List.isPrefixOf_iff_prefix.1 http
    exact ⟨_, rest, .inl rfl, is_text.symm⟩
  rw [urlHere?, if_neg https, if_neg http] at found
  simp at found

/-- The address that is found is the one that stands in front of a closing angle bracket. -/
theorem urlHere?_eq_some_iff : urlHere? cs = some url ↔ IsUrl url ∧ url ++ ['>'] <+: cs := by
  constructor
  · intro found
    obtain ⟨scheme, rest, is_scheme, rfl⟩ := exists_scheme_of_urlHere? found
    rw [urlHere?_append is_scheme] at found
    split at found
    next goes_on =>
      obtain rfl := Option.some.inj found
      have all_scheme : scheme.all isUrlChar = true := by rcases is_scheme with rfl | rfl <;> decide
      refine ⟨⟨⟨scheme, _, is_scheme, goes_on.1, rfl⟩, List.forall_mem_append.2 ⟨?_, ?_⟩⟩, ?_⟩
      · exact fun c mem => isUrlChar_iff.1 (List.all_eq_true.1 all_scheme c mem)
      · exact fun c mem => isUrlChar_iff.1 (List.all_eq_true.1 List.all_takeWhile c mem)
      · rw [List.append_assoc, List.prefix_append_right_inj]
        exact Text.takeWhile_concat_isPrefix goes_on.2
    next => cases found
  · rintro ⟨⟨⟨scheme, rest, is_scheme, some_rest, rfl⟩, chars⟩, behind, rfl⟩
    have all : ∀ c ∈ rest, isUrlChar c = true :=
      fun c mem => isUrlChar_iff.2 (chars c (List.mem_append_right _ mem))
    have closing : isUrlChar '>' = false := by decide
    obtain ⟨taken, dropped⟩ := takeWhile_dropWhile_append all closing behind
    rw [List.append_assoc, List.append_assoc, List.singleton_append, urlHere?_append is_scheme, taken,
      dropped, if_pos ⟨some_rest, rfl⟩]

/-- The address that is found on a line stands on it in angle brackets. -/
theorem of_url?_eq_some (found : url? cs = some url) : IsUrl url ∧ angled url <:+: cs := by
  induction cs with
  | nil => cases found
  | cons c cs ih =>
    have behind : url? cs = some url → IsUrl url ∧ angled url <:+: c :: cs :=
      fun later => (ih later).imp_right List.infix_cons
    rw [url?] at found
    split at found
    next opens =>
      subst opens
      split at found
      next here =>
        obtain rfl := Option.some.inj found
        obtain ⟨is_url, stands⟩ := urlHere?_eq_some_iff.1 here
        exact ⟨is_url, (List.cons_prefix_cons.2 ⟨rfl, stands⟩).isInfix⟩
      next => exact behind found
    next => exact behind found

/-- Where no address is found, none stands. -/
theorem not_isInfix_of_url?_eq_none (not_found : url? cs = none) (is_url : IsUrl url) :
    ¬ angled url <:+: cs := by
  induction cs with
  | nil => simp [angled]
  | cons c cs ih =>
    rw [url?] at not_found
    rw [List.infix_cons_iff, not_or]
    split at not_found
    next opens =>
      subst opens
      split at not_found
      next => cases not_found
      next none_here =>
        refine ⟨fun starts => ?_, ih not_found⟩
        have here := urlHere?_eq_some_iff.2 ⟨is_url, (List.cons_prefix_cons.1 starts).2⟩
        rw [none_here] at here
        cases here
    next other =>
      exact ⟨fun starts => other (List.cons_prefix_cons.1 starts).1.symm, ih not_found⟩

/-! ## Entries -/

/-- The address of an entry is the first one on the first of its lines that has any. Behind the first
line of the entry no line up to that one is blank or looks like an entry. -/
theorem exists_of_entryUrl? {line : List Char} {rest : List (List Char)}
    (found : entryUrl? line rest = some url) :
    ∃ j : Nat, (∃ here, (line :: rest)[j]? = some here ∧ url? here = some url) ∧
      (∀ k < j, ∀ earlier, (line :: rest)[k]? = some earlier → url? earlier = none) ∧
      ∀ k < j, ∀ inside, rest[k]? = some inside →
        Text.isAllBlank inside = false ∧ entryAnchor? inside = none := by
  obtain ⟨before, here, after, split, is_url, none_before⟩ := List.findSome?_eq_some_iff.1 found
  -- The lines that are searched are the first ones of the text.
  have searched := List.takeWhile_prefix (l := rest)
    fun l => !Text.isAllBlank l && (entryAnchor? l).isNone
  have from_line := (List.prefix_cons_inj line).2 searched
  refine ⟨before.length, ⟨here, getElem?_of_prefix from_line ?_, is_url⟩, ?_, ?_⟩
  · rw [split, List.getElem?_append_right (Nat.le_refl _), Nat.sub_self]
    rfl
  · intro k earlier line_before at_line
    have at_before : before[k]? = some before[k] := List.getElem?_eq_getElem earlier
    have also_at := getElem?_of_prefix from_line
      (split ▸ getElem?_of_prefix (List.prefix_append before _) at_before)
    obtain rfl := Option.some.inj (also_at.symm.trans at_line)
    exact none_before _ (List.getElem_mem earlier)
  · intro k inside_entry inside at_line
    have long := congrArg List.length split
    rw [List.length_cons, List.length_append, List.length_cons] at long
    have below : k < (rest.takeWhile
        fun l => !Text.isAllBlank l && (entryAnchor? l).isNone).length := by omega
    have also_at := getElem?_of_prefix searched (List.getElem?_eq_getElem below)
    obtain rfl := Option.some.inj (also_at.symm.trans at_line)
    simpa using List.all_eq_true.1 List.all_takeWhile _ (List.getElem_mem below)

/-- A line that is an entry without the form feeds in front of it is one with them. -/
theorem entryAnchor?_of_dropFormFeeds {line anchor : List Char}
    (entry : entryAnchor? (dropFormFeeds line) = some anchor) : entryAnchor? line = some anchor := by
  have is_line : line.takeWhile (· == '\x0c') ++ dropFormFeeds line = line :=
    List.takeWhile_append_dropWhile
  have all_blank : ∀ c ∈ line.takeWhile (· == '\x0c'), Text.isBlank c = true := by
    intro c mem
    obtain rfl : c = '\x0c' := by simpa using List.all_eq_true.1 List.all_takeWhile c mem
    rfl
  -- Form feeds are white space, so they only make the run in front of the bracket longer.
  have longer : ((dropFormFeeds line).takeWhile Text.isBlank).length ≤
      (line.takeWhile Text.isBlank).length := by
    conv_rhs => rw [← is_line, List.takeWhile_append_of_pos all_blank]
    rw [List.length_append]
    exact Nat.le_add_left _ _
  have trimmed : Text.trimStart line = Text.trimStart (dropFormFeeds line) := by
    conv_lhs => rw [← is_line, Text.trimStart, List.dropWhile_append_of_pos all_blank]
    rfl
  rw [entryAnchor?] at entry ⊢
  split at entry
  · cases entry
  next wide =>
    rw [if_neg (by omega), trimmed]
    exact entry

/-! ## The walk -/

/-- Whether a reference was read from the entry on some line: from the line without form feeds in
front of it, and its target from the raw line and those behind it. -/
def ReadsEntry (lines : List (List Char)) (r : Reference) : Prop :=
  ∃ i raw, r.line = i + 1 ∧ lines[i]? = some raw ∧ (entryAnchor? (dropFormFeeds raw)).isSome ∧
    r.target = (entryUrl? raw (lines.drop (i + 1))).map String.ofList

/-- A line adds at most one reference, which it reads from its entry. -/
theorem Body.readsEntries_readLine {lines : List (List Char)} {body : Body} {i : Nat}
    {raw : List Char} (at_line : lines[i]? = some raw)
    (all : ∀ r ∈ body.references, ReadsEntry lines r) :
    ∀ r ∈ (body.readLine (i + 1) raw (lines.drop (i + 1))).references, ReadsEntry lines r := by
  unfold Body.readLine
  cases kind : BodyLine.ofLine raw with
  | furniture => exact all
  | heading heading => exact all
  | ordinary line =>
    rw [references_readOrdinary]
    intro r mem
    rcases List.mem_append.1 mem with new | old
    · split at new
      next =>
        obtain ⟨anchor, is_entry, rfl⟩ := Option.map_eq_some_iff.1 (Option.mem_toList.1 new)
        rw [← BodyLine.ordinary_eq kind] at is_entry
        exact ⟨i, raw, rfl, at_line, Option.isSome_iff_exists.2 ⟨anchor, is_entry⟩, rfl⟩
      next => cases new
    · exact all r old

/-- The references of a text document were read from its entries. -/
theorem readsEntries_readDocument (path : String) (format : SourceFormat)
    (lines : List (List Char)) :
    ∀ r ∈ (readDocument path format lines).references, ReadsEntry lines r := by
  intro r mem
  have in_body := List.mem_reverse.1 mem
  exact Body.ofLines_induction (motive := fun _ body => ∀ r ∈ body.references, ReadsEntry lines r)
    (List.forall_mem_nil _) (fun _ at_line kept => Body.readsEntries_readLine at_line kept) r in_body

end PlainText

/-- Whether a text is the address of a reference, on a line with a number: it stands there in angle
brackets, and between the line of the reference and this one there is no blank line, no other
reference and no address before it. -/
structure Document.IsTargetOf (doc : Document) (r : Reference) (number : Nat)
    (target : List Char) : Prop where
  /-- The line is that of the reference or stands behind it. -/
  le : r.line ≤ number
  /-- The text is an address. -/
  isUrl : PlainText.IsUrl target
  /-- It stands on the line. -/
  stands : doc.Shows number (PlainText.angled target)
  /-- No line up to it is blank. -/
  filled : ∀ k, r.line < k → k ≤ number → ∀ line, doc.lineAt? k = some line →
    Text.isAllBlank line.toList = false
  /-- No line up to it is that of another reference. -/
  own : ∀ s ∈ doc.references, ¬ (r.line < s.line ∧ s.line ≤ number)
  /-- No line before it has an address. -/
  first : ∀ k, r.line ≤ k → k < number → ∀ url, PlainText.IsUrl url →
    ¬ doc.Shows k (PlainText.angled url)

namespace PlainText

/-- What a line of a text document shows is a part of the line of the text. -/
theorem shows_readDocument_iff {path : String} {format : SourceFormat} {lines : List (List Char)}
    {n : Nat} {text : List Char} :
    (readDocument path format lines).Shows (n + 1) text ↔
      ∃ line, lines[n]? = some line ∧ text <:+: line := by
  simp [Document.Shows, readDocument]

/-- The target of a reference is its own. In every document that is read from plain text it stands in
angle brackets on the line of the reference or behind it, it is an address with one of the two
schemes and without white space and closing angle brackets, and from the line of the reference up to
that one there is no blank line, no line of another reference, and no address on an earlier line. -/
theorem exists_isTargetOf (path : String) (format : SourceFormat) (lines : List (List Char))
    {r : Reference} (listed : r ∈ (readDocument path format lines).references) {target : String}
    (is_target : r.target = some target) :
    ∃ number, (readDocument path format lines).IsTargetOf r number target.toList := by
  obtain ⟨i, raw, is_line, at_line, -, reads⟩ :=
    readsEntries_readDocument path format lines r listed
  obtain ⟨url, found, rfl⟩ := Option.map_eq_some_iff.1 (reads.symm.trans is_target)
  obtain ⟨j, ⟨here, at_here, is_url⟩, none_before, inside⟩ := exists_of_entryUrl? found
  have is_rest : raw :: lines.drop (i + 1) = lines.drop i := by
    obtain ⟨below, rfl⟩ := List.getElem?_eq_some_iff.1 at_line
    exact (List.drop_eq_getElem_cons below).symm
  simp only [is_rest, List.getElem?_drop] at at_here none_before inside
  obtain ⟨url_is_one, stands⟩ := of_url?_eq_some is_url
  have behind : ∀ m, i < m → m ≤ i + j → ∀ line, lines[m]? = some line →
      Text.isAllBlank line = false ∧ entryAnchor? line = none := by
    intro m after upto line line_at
    refine inside (m - (i + 1)) (by omega) line ?_
    rwa [Nat.add_sub_cancel' after]
  refine ⟨i + j + 1, ?_, ?_, ?_, ?_, ?_, ?_⟩
  · omega
  · rwa [String.toList_ofList]
  · rw [String.toList_ofList, shows_readDocument_iff]
    exact ⟨here, at_here, stands⟩
  · intro k after upto line line_at
    obtain ⟨m, rfl⟩ := Nat.exists_eq_succ_of_ne_zero (Nat.ne_zero_of_lt after)
    rw [Document.lineAt?_succ, readDocument, List.getElem?_map] at line_at
    obtain ⟨written, written_at, rfl⟩ := Option.map_eq_some_iff.1 line_at
    rw [String.toList_ofList]
    exact (behind m (by omega) (by omega) written written_at).1
  · -- The line of another reference is an entry for the search too, which would have ended there.
    rintro s also ⟨after, upto⟩
    obtain ⟨m, other, is_other, other_at, is_entry, -⟩ :=
      readsEntries_readDocument path format lines s also
    obtain ⟨anchor, is_entry⟩ := Option.isSome_iff_exists.1 is_entry
    have no_entry := (behind m (by omega) (by omega) other other_at).2
    rw [entryAnchor?_of_dropFormFeeds is_entry] at no_entry
    cases no_entry
  · intro k after before other is_url
    obtain ⟨m, rfl⟩ := Nat.exists_eq_succ_of_ne_zero (n := k) (by omega)
    rw [Nat.succ_eq_add_one, shows_readDocument_iff]
    rintro ⟨line, line_at, is_part⟩
    have none_here := none_before (m - i) (by omega) line (by rwa [Nat.add_sub_cancel' (by omega)])
    exact not_isInfix_of_url?_eq_none none_here is_url is_part

/-- A text with two references, a form feed in front of the second one, which alone has an address. -/
def addressedText : List (List Char) :=
  ["1. References".toList, [], "   [A]  First".toList, "\x0c   [B]  Second, <ftp://b>".toList,
    "        <https://example.org/b>".toList]

/-- The first reference has no target. That of the second one stands on the line behind it. -/
theorem exists_isTargetOf_formFeed :
    ∃ first second, (readDocument "draft.txt" .paginated addressedText).references =
        [first, second] ∧
      first.target = none ∧ second.target = some "https://example.org/b" ∧
      ∃ number, (readDocument "draft.txt" .paginated addressedText).IsTargetOf second number
        "https://example.org/b".toList := by
  have references : (readDocument "draft.txt" .paginated addressedText).references =
      [⟨"A", none, false, 3⟩, ⟨"B", some "https://example.org/b", false, 4⟩] := by decide +kernel
  have listed : (⟨"B", some "https://example.org/b", false, 4⟩ : Reference) ∈
      (readDocument "draft.txt" .paginated addressedText).references := by simp [references]
  exact ⟨_, _, references, rfl, rfl, exists_isTargetOf "draft.txt" .paginated _ listed rfl⟩

end PlainText

end DraftNits
