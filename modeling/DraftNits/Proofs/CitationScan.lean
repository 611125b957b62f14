import DraftNits.Proofs.CurrentSection

/-! # Which citations are recorded

A citation may stand at the start of a line or behind a character that is neither a word character
nor an opening bracket. The scan of a line needs that character for itself, and where the character
closes the citation before it has been used already. So of several citations that stand directly
next to each other every second one is passed over, and all others are recorded.

* `PlainText.CitesAt` — where a citation stands on a line, without any scan.
* `PlainText.occurrences` — all citations of a line by their places, from left to right.
* `PlainText.recorded` — those of them that do not stand directly behind a recorded one.
* `PlainText.citedAnchors_eq_recorded` — the scan of a line finds these.
* `PlainText.citations_complete_iff` — a line of the body loses no citation exactly if no two of them
  stand directly next to each other. -/

namespace DraftNits

/-- The anchors of the citations on a line of a document, in order. -/
def Document.anchorsOn (doc : Document) (number : Nat) : List String :=
  (doc.citations.filter fun c => c.line == number).map Citation.anchor

namespace PlainText

/-! ## Places of citations -/

/-- Whether a text is the anchor of a citation: an ASCII letter or digit and then characters of an
anchor. -/
def IsAnchor (anchor : List Char) : Prop :=
  ∃ c cs, anchor = c :: cs ∧ Text.isAsciiAlnum c = true ∧ ∀ d ∈ cs, isAnchorChar d = true

/-- Whether a citation of an anchor stands on a line behind the first `place` characters, of which
the last one, if there is one, is neither a word character nor an opening bracket. -/
structure CitesAt (line : List Char) (place : Nat) (anchor : List Char) : Prop where
  /-- The anchor is one. -/
  isAnchor : IsAnchor anchor
  /-- It stands there in its brackets. -/
  stands : ∃ before after, line = before ++ bracketed anchor ++ after ∧ before.length = place ∧
    ∀ c ∈ before.getLast?, endsWord c = true

/-- The place behind a citation. -/
def endOf (citation : Nat × List Char) : Nat := citation.1 + (citation.2.length + 2)

/-- The citations of a text, each with its place, if the text starts at a place; `free` says whether a
citation may stand there. -/
def occurrencesFrom (free : Bool) (place : Nat) : List Char → List (Nat × List Char)
  | [] => []
  | c :: cs =>
    (if free && c == '[' then (anchor? cs).toList.map fun anchor => (place, anchor) else []) ++
      occurrencesFrom (endsWord c) (place + 1) cs

/-- The citations of a line with their places, from left to right. -/
def occurrences (line : List Char) : List (Nat × List Char) := occurrencesFrom true 0 line

/-- The closing bracket is no character of an anchor. -/
theorem isAnchorChar_bracket : isAnchorChar ']' = false := by decide

/-- A letter or a digit is a character of an anchor. -/
theorem IsAnchor.isAnchorChar {anchor : List Char} (is_anchor : IsAnchor anchor) :
    ∀ c ∈ anchor, isAnchorChar c = true := by
  obtain ⟨c, cs, rfl, first, others⟩ := is_anchor
  refine List.forall_mem_cons.2 ⟨?_, others⟩
  simp [PlainText.isAnchorChar, first]

/-- The anchor that is found is the one that stands in front of a closing bracket. -/
theorem anchor?_eq_some_iff {cs anchor : List Char} :
    anchor? cs = some anchor ↔ IsAnchor anchor ∧ anchor ++ [']'] <+: cs := by
  constructor
  · intro found
    refine ⟨?_, anchor?_isPrefix found⟩
    cases cs with
    | nil => cases found
    | cons c cs =>
      rw [anchor?] at found
      split at found
      next is_anchor =>
        obtain rfl := Option.some.inj found
        exact ⟨c, _, rfl, (Bool.and_eq_true_iff.1 is_anchor).1,
          List.all_eq_true.1 List.all_takeWhile⟩
      next => cases found
  · rintro ⟨⟨c, cs, rfl, first, others⟩, rest, rfl⟩
    simp [anchor?, first, List.takeWhile_append_of_pos others, List.dropWhile_append_of_pos others,
      isAnchorChar_bracket]

/-- The citations of a text are those that stand in it, the first of them perhaps at its start. -/
theorem mem_occurrencesFrom {free : Bool} {start place : Nat} {cs anchor : List Char} :
    (place, anchor) ∈ occurrencesFrom free start cs ↔ IsAnchor anchor ∧
      ∃ before after, cs = before ++ bracketed anchor ++ after ∧ start + before.length = place ∧
        (before.getLast?.map endsWord).getD free = true := by
  induction cs generalizing free start with
  | nil => simp [occurrencesFrom, bracketed]
  | cons c cs ih =>
    have here : (place, anchor) ∈ (if free && c == '[' then
        (anchor? cs).toList.map fun anchor => (start, anchor) else []) ↔
        start = place ∧ free = true ∧ c = '[' ∧ IsAnchor anchor ∧ anchor ++ [']'] <+: cs := by
      rw [← anchor?_eq_some_iff]
      split
      next opens =>
        obtain ⟨is_free, is_bracket⟩ := Bool.and_eq_true_iff.1 opens
        simp [is_free, eq_of_beq is_bracket, and_comm]
      next closed =>
        simp only [List.not_mem_nil, false_iff]
        rintro ⟨-, is_free, rfl, -⟩
        simp [is_free] at closed
    rw [occurrencesFrom, List.mem_append, here, ih]
    constructor
    · rintro (⟨rfl, is_free, rfl, is_anchor, rest, rfl⟩ |
        ⟨is_anchor, before, after, rfl, rfl, may_follow⟩)
      · exact ⟨is_anchor, [], rest, by simp [bracketed], rfl, by simpa using is_free⟩
      · refine ⟨is_anchor, c :: before, after, rfl, by simp [Nat.add_right_comm, Nat.add_assoc], ?_⟩
        simpa [List.getLast?_cons] using may_follow
    · rintro ⟨is_anchor, before, after, split, is_place, may_follow⟩
      cases before with
      | nil =>
        obtain ⟨rfl, rfl⟩ := List.cons.inj split
        exact .inl ⟨is_place, may_follow, rfl, is_anchor, after, rfl⟩
      | cons d before =>
        obtain ⟨rfl, rfl⟩ := List.cons.inj split
        refine .inr ⟨is_anchor, before, after, rfl, ?_, ?_⟩
        · rw [← is_place, List.length_cons]
          omega
        · simpa [List.getLast?_cons] using may_follow

/-- The citations of a line are those that stand on it. -/
theorem mem_occurrences_iff {line anchor : List Char} {place : Nat} :
    (place, anchor) ∈ occurrences line ↔ CitesAt line place anchor := by
  have may_follow : ∀ before : List Char, (before.getLast?.map endsWord).getD true = true ↔
      ∀ c ∈ before.getLast?, endsWord c = true := by
    intro before
    cases before.getLast? <;> simp
  simp only [occurrences, mem_occurrencesFrom, Nat.zero_add, may_follow]
  exact ⟨fun ⟨is_anchor, stands⟩ => ⟨is_anchor, stands⟩,
    fun cites => ⟨cites.isAnchor, cites.stands⟩⟩

/-- Between the brackets of a citation no other one starts. -/
theorem occurrencesFrom_inside {anchor : List Char} (inside : ∀ c ∈ anchor, isAnchorChar c = true)
    (free : Bool) (place : Nat) (rest : List Char) :
    occurrencesFrom free place (anchor ++ ']' :: rest) =
      occurrencesFrom true (place + (anchor.length + 1)) rest := by
  induction anchor generalizing free place with
  | nil =>
    have behind : endsWord ']' = true := by decide +kernel
    simp [occurrencesFrom, behind]
  | cons c cs ih =>
    have no_bracket : c ≠ '[' := by
      rintro rfl
      exact absurd (inside '[' List.mem_cons_self) (by decide)
    rw [List.cons_append, occurrencesFrom,
      ih fun d mem => inside d (List.mem_cons_of_mem c mem)]
    simp [no_bracket, Nat.add_assoc, Nat.add_comm]

/-- No citation starts in front of the text. -/
theorem le_of_mem_occurrencesFrom {free : Bool} {place : Nat} {cs : List Char} :
    ∀ citation ∈ occurrencesFrom free place cs, place ≤ citation.1 := by
  rintro ⟨found, anchor⟩ mem
  obtain ⟨-, before, after, -, is_place, -⟩ := mem_occurrencesFrom.1 mem
  exact is_place ▸ Nat.le_add_right place before.length

/-- A citation starts behind the end of those in front of it. -/
theorem pairwise_occurrencesFrom {free : Bool} {place : Nat} {cs : List Char} :
    (occurrencesFrom free place cs).Pairwise fun a b => endOf a ≤ b.1 := by
  induction cs generalizing free place with
  | nil => exact .nil
  | cons c cs ih =>
    rw [occurrencesFrom]
    split
    next =>
      cases found : anchor? cs with
      | none => simpa using ih
      | some anchor =>
        refine List.pairwise_cons.2 ⟨fun citation mem => ?_, ih⟩
        obtain ⟨is_anchor, rest, is_text⟩ := anchor?_eq_some_iff.1 found
        rw [← is_text, List.append_assoc, List.singleton_append,
          occurrencesFrom_inside is_anchor.isAnchorChar] at mem
        have behind := le_of_mem_occurrencesFrom citation mem
        rw [endOf]
        dsimp only
        omega
    next => exact ih

/-! ## What the scan records -/

/-- The citations that do not stand directly behind a recorded one, if the last one of these ends at
a place. -/
def recorded (ended : Option Nat) : List (Nat × List Char) → List (Nat × List Char)
  | [] => []
  | citation :: later =>
    if ended = some citation.1 then recorded none later
    else citation :: recorded (some (endOf citation)) later

/-- A citation is passed over as a whole. -/
theorem citationsFrom_skip (fresh : Bool) (anchor rest : List Char) (c : Char) :
    citationsFrom fresh (anchor.length + 1) (anchor ++ c :: rest) = citationsFrom false 0 rest := by
  induction anchor generalizing fresh with
  | nil => rfl
  | cons d cs ih => exact ih false

/-- The scan of a text records what it should. A citation may start where one is free to stand, but
not where the last recorded one has ended. -/
theorem citationsFrom_eq_recorded {cs : List Char} (free : Bool) (place : Nat) (ended : Option Nat)
    (passed : ∀ e ∈ ended, e ≤ place) :
    citationsFrom (free && decide (ended ≠ some place)) 0 cs =
      (recorded ended (occurrencesFrom free place cs)).map Prod.snd := by
  induction size : cs.length using Nat.strongRecOn generalizing cs free place ended with
  | _ n ih =>
    subst size
    cases cs with
    | nil => rfl
    | cons c cs =>
      -- Behind the character the scan goes on with what has been recorded, or with nothing.
      have go_on : ∀ {ended' : Option Nat}, (∀ e ∈ ended', e ≤ place) →
          citationsFrom (endsWord c) 0 cs =
            (recorded ended' (occurrencesFrom (endsWord c) (place + 1) cs)).map Prod.snd := by
        intro ended' passed'
        have not_here : ended' ≠ some (place + 1) := fun is_next =>
          absurd (passed' _ is_next) (Nat.not_succ_le_self place)
        rw [← ih cs.length (Nat.lt_succ_self _) (endsWord c) (place + 1) ended'
            (fun e mem => Nat.le_succ_of_le (passed' e mem)) rfl,
          decide_eq_true not_here, Bool.and_true]
      rw [citationsFrom, occurrencesFrom]
      by_cases opens : (free && c == '[') = true
      · obtain ⟨is_free, is_bracket⟩ := Bool.and_eq_true_iff.1 opens
        obtain rfl : c = '[' := eq_of_beq is_bracket
        have opening : endsWord '[' = false := by decide +kernel
        rw [opening] at go_on
        rw [if_pos opens, opening]
        by_cases used : ended = some place
        · -- The bracket stands directly behind a recorded citation.
          simp only [used, is_free, ne_eq, not_true_eq_false, decide_false, Bool.and_false,
            Bool.false_and, Bool.false_eq_true, if_false]
          cases anchor? cs with
          | none => exact go_on (by simp)
          | some anchor =>
            rw [Option.toList_some, List.map_singleton, List.singleton_append, recorded, if_pos rfl]
            exact go_on (by simp)
        · simp only [used, is_free, ne_eq, not_false_eq_true, decide_true, Bool.and_true,
            beq_self_eq_true, if_true]
          cases found : anchor? cs with
          | none => exact go_on passed
          | some anchor =>
            obtain ⟨is_anchor, rest, is_text⟩ := anchor?_eq_some_iff.1 found
            rw [List.append_assoc, List.singleton_append] at is_text
            rw [Option.toList_some, List.map_singleton, List.singleton_append, recorded,
              if_neg used, List.map_cons]
            refine congrArg (List.cons anchor) ?_
            rw [← is_text, citationsFrom_skip, occurrencesFrom_inside is_anchor.isAnchorChar]
            -- The citation ends where the rest of the text starts.
            have is_end : place + 1 + (anchor.length + 1) = endOf (place, anchor) := by
              simp only [endOf]
              omega
            have shorter : rest.length < (('[' :: cs) : List Char).length := by
              rw [← is_text]
              simp
              omega
            have later := ih rest.length shorter true (endOf (place, anchor))
              (some (endOf (place, anchor))) (by simp) rfl
            rw [is_end, ← later]
            simp
      · have not_opening : ((free && decide (ended ≠ some place)) && c == '[') = false := by
          rw [Bool.and_right_comm, Bool.eq_false_iff.2 opens, Bool.false_and]
        rw [if_neg opens, not_opening]
        exact go_on passed

/-- The scan of a line records the citations that do not stand directly behind a recorded one. -/
theorem citedAnchors_eq_recorded (line : List Char) :
    citedAnchors line = (recorded none (occurrences line)).map Prod.snd :=
  citationsFrom_eq_recorded true 0 none (by simp)

/-- Nothing is recorded that is no citation, and nothing out of its order. -/
theorem recorded_sublist (ended : Option Nat) (citations : List (Nat × List Char)) :
    (recorded ended citations).Sublist citations := by
  induction citations generalizing ended with
  | nil => exact .slnil
  | cons citation later ih =>
    rw [recorded]
    split
    · exact (ih none).cons citation
    · exact (ih _).cons_cons citation

/-- A citation is not empty. -/
theorem lt_endOf (citation : Nat × List Char) : citation.1 < endOf citation := by
  rw [endOf]
  omega

/-- All citations are recorded exactly if none of them starts where another one ends. -/
theorem recorded_eq_self_iff (ended : Option Nat) {citations : List (Nat × List Char)}
    (ordered : citations.Pairwise fun a b => endOf a ≤ b.1)
    (passed : ∀ e ∈ ended, ∀ b ∈ citations, e ≤ b.1) :
    recorded ended citations = citations ↔
      (∀ e ∈ ended, ∀ b ∈ citations, e ≠ b.1) ∧ ∀ a ∈ citations, ∀ b ∈ citations, endOf a ≠ b.1 := by
  induction citations generalizing ended with
  | nil => simp [recorded]
  | cons citation later ih =>
    obtain ⟨behind, ordered_later⟩ := List.pairwise_cons.1 ordered
    have not_empty := lt_endOf citation
    have rest_iff := ih (some (endOf citation)) ordered_later (by simpa using behind)
    rw [recorded]
    by_cases used : ended = some citation.1
    · rw [if_pos used]
      constructor
      · intro same
        have shorter := (recorded_sublist none later).length_le
        rw [same, List.length_cons] at shorter
        omega
      · rintro ⟨apart, -⟩
        exact absurd rfl (apart citation.1 used citation List.mem_cons_self)
    · rw [if_neg used, List.cons_inj_right, rest_iff]
      constructor
      · rintro ⟨apart, apart_later⟩
        refine ⟨fun e mem => List.forall_mem_cons.2 ⟨?_, fun b in_later => ?_⟩, ?_⟩
        · rintro rfl
          exact used mem
        · have := passed e mem citation List.mem_cons_self
          have := behind b in_later
          omega
        · refine List.forall_mem_cons.2 ⟨List.forall_mem_cons.2 ⟨Nat.ne_of_gt not_empty, ?_⟩, ?_⟩
          · exact apart _ rfl
          · intro a in_later
            refine List.forall_mem_cons.2 ⟨?_, apart_later a in_later⟩
            have := behind a in_later
            have := lt_endOf a
            omega
      · rintro ⟨-, apart⟩
        refine ⟨?_, fun a in_later b also => ?_⟩
        · rintro e ⟨⟩ b in_later
          exact apart citation List.mem_cons_self b (List.mem_cons_of_mem _ in_later)
        · exact apart a (List.mem_cons_of_mem _ in_later) b (List.mem_cons_of_mem _ also)

/-- Whether two citations stand on a line with nothing between them. -/
def HasNeighbours (line : List Char) : Prop :=
  ∃ before a b after, line = before ++ bracketed a ++ bracketed b ++ after ∧ IsAnchor a ∧
    IsAnchor b ∧ ∀ c ∈ before.getLast?, endsWord c = true

theorem length_bracketed (cs : List Char) : (bracketed cs).length = cs.length + 2 := by
  simp [bracketed]

/-- Citations have nothing between them exactly if one starts where the other ends. -/
theorem hasNeighbours_iff {line : List Char} : HasNeighbours line ↔
    ∃ a ∈ occurrences line, ∃ b ∈ occurrences line, endOf a = b.1 := by
  constructor
  · rintro ⟨before, a, b, after, is_line, is_a, is_b, may_follow⟩
    have behind : ∀ c ∈ (before ++ bracketed a).getLast?, endsWord c = true := by
      have closing : endsWord ']' = true := by decide +kernel
      have last : before ++ bracketed a = (before ++ '[' :: a) ++ [']'] := by simp [bracketed]
      rw [last, List.getLast?_concat]
      rintro c ⟨⟩
      exact closing
    refine ⟨(before.length, a), mem_occurrences_iff.2 ⟨is_a, before, bracketed b ++ after, ?_, rfl,
        may_follow⟩, ((before ++ bracketed a).length, b), mem_occurrences_iff.2 ⟨is_b,
        before ++ bracketed a, after, is_line, rfl, behind⟩, ?_⟩
    · rw [is_line, List.append_assoc _ (bracketed b) after]
    · rw [endOf, List.length_append, length_bracketed]
  · rintro ⟨⟨place, a⟩, cites_a, ⟨place', b⟩, cites_b, meet⟩
    obtain ⟨is_a, before, after, is_line, rfl, may_follow⟩ := mem_occurrences_iff.1 cites_a
    obtain ⟨is_b, before', after', is_line', rfl, -⟩ := mem_occurrences_iff.1 cites_b
    have same_length : (before ++ bracketed a).length = before'.length := by
      rw [List.length_append, length_bracketed]
      exact meet
    -- Up to the place where they meet the two readings of the line are the same.
    rw [is_line, List.append_assoc before' (bracketed b) after'] at is_line'
    obtain ⟨-, rfl⟩ := List.append_inj is_line' same_length
    exact ⟨before, a, b, after', by rw [is_line, List.append_assoc _ (bracketed b) after'], is_a, is_b,
      may_follow⟩

/-- The scan of a line loses no citation exactly if none has another one directly next to it. -/
theorem citedAnchors_complete_iff (line : List Char) :
    citedAnchors line = (occurrences line).map Prod.snd ↔ ¬ HasNeighbours line := by
  have ordered : (occurrences line).Pairwise fun a b => endOf a ≤ b.1 := pairwise_occurrencesFrom
  have whole := recorded_eq_self_iff none ordered (by simp)
  rw [citedAnchors_eq_recorded, hasNeighbours_iff]
  constructor
  · intro same
    have no_fewer := congrArg List.length same
    rw [List.length_map, List.length_map] at no_fewer
    have all := (recorded_sublist none (occurrences line)).eq_of_length no_fewer
    rintro ⟨a, is_a, b, is_b, meet⟩
    exact (whole.1 all).2 a is_a b is_b meet
  · intro apart
    rw [whole.2 ⟨by simp, fun a is_a b is_b meet => apart ⟨a, is_a, b, is_b, meet⟩⟩]

/-! ## Lines of the body -/

namespace Body

variable {body : Body} {number : Nat} {line raw : List Char} {rest : List (List Char)}

/-- The anchors of the citations on a line, as far as the body has been read. -/
def anchorsOn (body : Body) (number : Nat) : List String :=
  (body.citations.reverse.filter fun c => c.line == number).map Citation.anchor

/-- A line does not stand before itself or an earlier one. -/
theorem sectionBefore?_readLine {n : Nat} (upto : n ≤ number) :
    (body.readLine number raw rest).sectionBefore? n = body.sectionBefore? n := by
  unfold readLine
  cases BodyLine.ofLine raw with
  | furniture => rfl
  | heading heading => exact sectionBefore?_readHeading heading upto
  | ordinary line =>
    exact sectionBefore?_congr (body.fields_readOrdinary number line raw rest).1 n

/-- A line adds no citations to other lines. -/
theorem anchorsOn_readLine_of_ne {n : Nat} (other : n ≠ number) :
    (body.readLine number raw rest).anchorsOn n = body.anchorsOn n := by
  unfold readLine
  cases BodyLine.ofLine raw with
  | furniture => rfl
  | heading heading => rfl
  | ordinary line =>
    rw [anchorsOn, citations_readOrdinary, List.reverse_append, List.filter_append]
    split
    · simp [anchorsOn]
    · simp [anchorsOn, List.filter_map, Function.comp_def, Ne.symm other]

/-- An ordinary line outside a references section adds its citations. -/
theorem anchorsOn_readLine (tracks : body.TracksSections number)
    (ordinary : BodyLine.ofLine raw = .ordinary line)
    (outside : ∀ s, body.sectionBefore? number = some s → ¬ s.Mentions "references") :
    (body.readLine number raw rest).anchorsOn number = (citedAnchors line).map String.ofList := by
  have unlisted : body.inReferences = false := by
    by_contra listed
    rw [Bool.not_eq_false] at listed
    obtain ⟨s, latest, mentions⟩ := tracks.inReferences.1 listed
    exact outside s ((sectionBefore?_next tracks.earlier).trans latest) mentions
  have none_before : body.citations.reverse.filter (fun c => c.line == number) = [] := by
    refine List.filter_eq_nil_iff.2 fun c mem => ?_
    have earlier := (tracks.citations c (List.mem_reverse.1 mem)).1
    simpa using Nat.ne_of_lt earlier
  rw [readLine, ordinary]
  simp only [anchorsOn, citations_readOrdinary, unlisted, Bool.false_eq_true, if_false,
    List.reverse_append, List.reverse_reverse, List.filter_append, none_before, List.nil_append]
  simp [List.filter_map, Function.comp_def]

/-- Whether a body holds the citations of all ordinary lines outside references sections that have
been read, from the line after the first `start` ones up to the one before `next`. -/
structure RecordsCitations (lines : List (List Char)) (start next : Nat) (body : Body) : Prop where
  /-- What the body holds agrees with its headings. -/
  tracks : body.TracksSections next
  /-- The citations on a line are those that the scan finds. -/
  scanned : ∀ i raw line, start ≤ i → i + 1 < next → lines[i]? = some raw →
    BodyLine.ofLine raw = .ordinary line →
    (∀ s, body.sectionBefore? (i + 1) = some s → ¬ s.Mentions "references") →
    body.anchorsOn (i + 1) = (citedAnchors line).map String.ofList

/-- The citations of the next line come to those of the lines before. -/
theorem RecordsCitations.readLine {lines : List (List Char)} {start : Nat}
    (records : body.RecordsCitations lines start number) (here : lines[number - 1]? = some raw)
    (rest : List (List Char)) :
    (body.readLine number raw rest).RecordsCitations lines start (number + 1) where
  tracks := records.tracks.readLine raw rest
  scanned := by
    intro i raw' line after before at_line ordinary outside
    rw [sectionBefore?_readLine (by omega)] at outside
    by_cases is_next : i + 1 = number
    · subst is_next
      obtain rfl : raw = raw' := Option.some.inj (here.symm.trans at_line)
      exact anchorsOn_readLine records.tracks ordinary outside
    · rw [anchorsOn_readLine_of_ne is_next]
      exact records.scanned i raw' line after (by omega) at_line ordinary outside

/-- The body of a document holds the citations of all its lines. -/
theorem recordsCitations_ofLines (expiry : Expiry) (start : Nat) (lines : List (List Char)) :
    (Body.ofLines expiry start lines).RecordsCitations lines start
      (start + 1 + (lines.drop start).length) := by
  have nothing : (Body.start expiry).RecordsCitations lines start (start + 1) :=
    ⟨.start expiry (start + 1), fun i _ _ after before => by omega⟩
  exact ofLines_induction nothing fun _ at_line records => records.readLine at_line _

end Body

/-! ## Documents -/

/-- The anchors of some citations. -/
def anchorsOf (citations : List (Nat × List Char)) : List String :=
  citations.map fun citation => String.ofList citation.2

/-- Where citations come out, they come out as they are written. -/
theorem anchorsOf_eq_iff {line : List Char} :
    (citedAnchors line).map String.ofList = anchorsOf (occurrences line) ↔
      citedAnchors line = (occurrences line).map Prod.snd := by
  have same : anchorsOf (occurrences line) =
      ((occurrences line).map Prod.snd).map String.ofList := by
    rw [anchorsOf, List.map_map]
    rfl
  rw [same]
  exact (List.map_injective_iff.2 fun _ _ => String.ofList_injective).eq_iff

/-- On a line of the body that is no page furniture, no heading and in no references section, the
citations are those that the scan finds. -/
theorem anchorsOn_readDocument (path : String) (format : SourceFormat) {lines : List (List Char)}
    {i : Nat} {raw : List Char} (at_line : lines[i]? = some raw)
    (in_body : (FrontPage.ofLines lines).bodyStart ≤ i)
    (no_furniture : isFurniture (dropFormFeeds raw) = false)
    (no_heading : Heading.ofLine? (dropFormFeeds raw) = none)
    (outside : ∀ s, (readDocument path format lines).sectionBefore? (i + 1) = some s →
      ¬ s.Mentions "references") :
    (readDocument path format lines).anchorsOn (i + 1) =
      (citedAnchors (dropFormFeeds raw)).map String.ofList := by
  have ordinary : BodyLine.ofLine raw = .ordinary (dropFormFeeds raw) := by
    simp [BodyLine.ofLine, no_furniture, no_heading]
  have within : i < lines.length := (List.getElem?_eq_some_iff.1 at_line).1
  have records := Body.recordsCitations_ofLines (FrontPage.ofLines lines).header.expiry
    (FrontPage.ofLines lines).bodyStart lines
  refine records.scanned i raw _ in_body ?_ at_line ordinary fun s latest => ?_
  · rw [List.length_drop]
    omega
  · exact outside s ((sectionBefore?_readDocument ..).trans latest)

/-- On every line of the body that is scanned for citations, which is one that is no page furniture,
no heading and in no references section, the citations that are recorded are those that do not stand
directly behind a recorded one. These are all citations of the line exactly if no two of them stand
directly next to each other. -/
theorem citations_complete_iff (path : String) (format : SourceFormat) {lines : List (List Char)}
    {i : Nat} {raw : List Char} (at_line : lines[i]? = some raw)
    (in_body : (FrontPage.ofLines lines).bodyStart ≤ i)
    (no_furniture : isFurniture (dropFormFeeds raw) = false)
    (no_heading : Heading.ofLine? (dropFormFeeds raw) = none)
    (outside : ∀ s, (readDocument path format lines).sectionBefore? (i + 1) = some s →
      ¬ s.Mentions "references") :
    (∀ place anchor, (place, anchor) ∈ occurrences (dropFormFeeds raw) ↔
      CitesAt (dropFormFeeds raw) place anchor) ∧
    (occurrences (dropFormFeeds raw)).Pairwise (fun a b => a.1 < b.1) ∧
    (readDocument path format lines).anchorsOn (i + 1) =
      anchorsOf (recorded none (occurrences (dropFormFeeds raw))) ∧
    ((readDocument path format lines).anchorsOn (i + 1) =
      anchorsOf (occurrences (dropFormFeeds raw)) ↔ ¬ HasNeighbours (dropFormFeeds raw)) := by
  have scanned := anchorsOn_readDocument path format at_line in_body no_furniture no_heading outside
  refine ⟨fun _ _ => mem_occurrences_iff, ?_, ?_, ?_⟩
  · exact pairwise_occurrencesFrom.imp fun ends => Nat.lt_of_lt_of_le (lt_endOf _) ends
  · rw [scanned, citedAnchors_eq_recorded, List.map_map]
    rfl
  · rw [scanned, anchorsOf_eq_iff, citedAnchors_complete_iff]

/-- A text with citations directly next to each other. -/
def crowdedText : List (List Char) :=
  ["1. Introduction".toList, [], "\x0cSee [A][B][C] [D].".toList]

/-- Of four citations the second one stands directly behind the first, and only it is lost. -/
theorem citations_complete_iff_crowded : (FrontPage.ofLines crowdedText).bodyStart ≤ 2 ∧
    (readDocument "draft.txt" .paginated crowdedText).sectionBefore? 3 =
      some ⟨some "1", "Introduction", 1⟩ ∧
    (readDocument "draft.txt" .paginated crowdedText).anchorsOn 3 = ["A", "C", "D"] ∧
    anchorsOf (occurrences "See [A][B][C] [D].".toList) = ["A", "B", "C", "D"] ∧
    HasNeighbours "See [A][B][C] [D].".toList := by
  have in_body : (FrontPage.ofLines crowdedText).bodyStart ≤ 2 := by decide +kernel
  have heading : (readDocument "draft.txt" .paginated crowdedText).sectionBefore? 3 =
      some ⟨some "1", "Introduction", 1⟩ := by decide +kernel
  have outside : ∀ s, (readDocument "draft.txt" .paginated crowdedText).sectionBefore? 3 = some s →
      ¬ s.Mentions "references" := by
    intro s latest
    rw [heading] at latest
    cases latest
    rw [Section.Mentions, ← Text.contains_iff]
    decide +kernel
  have recorded_here : (readDocument "draft.txt" .paginated crowdedText).anchorsOn 3 =
      ["A", "C", "D"] := by decide +kernel
  have written : anchorsOf (occurrences "See [A][B][C] [D].".toList) = ["A", "B", "C", "D"] := by
    decide +kernel
  have at_line : crowdedText[2]? = some "\x0cSee [A][B][C] [D].".toList := rfl
  have on_line := citations_complete_iff "draft.txt" .paginated at_line in_body (by decide +kernel)
    (by decide +kernel) outside
  have no_form_feed : dropFormFeeds "\x0cSee [A][B][C] [D].".toList =
      "See [A][B][C] [D].".toList := by decide +kernel
  rw [no_form_feed] at on_line
  refine ⟨in_body, heading, recorded_here, written, ?_⟩
  by_contra apart
  have complete := on_line.2.2.2.2 apart
  rw [written] at complete
  exact absurd (recorded_here.symm.trans complete) (by decide)

/-- Not all citations of all lines are recorded: of two that stand directly next to each other the
second one is lost. -/
theorem not_citations_complete :
    ¬ ∀ (path : String) (format : SourceFormat) (lines : List (List Char)) (i : Nat)
      (raw : List Char), lines[i]? = some raw → (FrontPage.ofLines lines).bodyStart ≤ i →
      isFurniture (dropFormFeeds raw) = false → Heading.ofLine? (dropFormFeeds raw) = none →
      (∀ s, (readDocument path format lines).sectionBefore? (i + 1) = some s →
        ¬ s.Mentions "references") →
      (readDocument path format lines).anchorsOn (i + 1) =
        anchorsOf (occurrences (dropFormFeeds raw)) := by
  intro complete
  have no_section : (readDocument "draft.txt" .paginated
      ["See [A][B].".toList]).sectionBefore? 1 = none := by decide +kernel
  have both := complete "draft.txt" .paginated ["See [A][B].".toList] 0 "See [A][B].".toList rfl
    (by decide +kernel) (by decide +kernel) (by decide +kernel) fun s latest => by
      rw [no_section] at latest
      cases latest
  exact absurd both (by decide +kernel)

end PlainText

end DraftNits
