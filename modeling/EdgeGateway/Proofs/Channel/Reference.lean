import EdgeGateway.Proofs.Channel.Textual

/-!
# Two readings of the reference

The grammar reads the reference of a channel from its position, handlers and manifests read it by
searching for the last `/r/`. The search walks over the tokens of the channel as well: it ends
behind the last token that spells the marker, has a token in front of it and is followed by another
(`afterLast?_intercalate`). In a well-formed channel that is the marker of the reference itself, or
a segment of the reference that is not its last one. So keys do not matter, and neither does a
delimiter at the end.
-/

namespace EdgeGateway

/-- What stands in a list behind the last occurrence of a marker that something follows. -/
def behindLast? {Token : Type} [DecidableEq Token] (marker : Token) :
    List Token → Option (List Token)
  | [] => none
  | token :: later =>
    match behindLast? marker later with
    | some found => some found
    | none => if token = marker ∧ later ≠ [] then some later else none

section BehindLast

variable {Token : Type} [DecidableEq Token] {marker : Token} {tokens found : List Token}

/-- Nothing stands behind a marker exactly if there is none in front of the last token. -/
theorem behindLast?_eq_none_iff : behindLast? marker tokens = none ↔ marker ∉ tokens.dropLast := by
  induction tokens with
  | nil => simp [behindLast?]
  | cons token later inductionHypothesis =>
    by_cases last : later = []
    · simp [behindLast?, last]
    · rw [List.dropLast_cons_of_ne_nil last, List.mem_cons, not_or, ← inductionHypothesis,
        behindLast?]
      cases behindLast? marker later with
      | none => simp [last, eq_comm]
      | some found => simp

/-- What stands behind the last marker is what follows a marker and has no other one in front of
its own last token. -/
theorem behindLast?_eq_some_iff :
    behindLast? marker tokens = some found ↔
      (∃ before, tokens = before ++ marker :: found) ∧ found ≠ [] ∧ marker ∉ found.dropLast := by
  induction tokens with
  | nil => simp [behindLast?]
  | cons token later inductionHypothesis =>
    rw [behindLast?]
    cases behind : behindLast? marker later with
    | none =>
      rw [behind] at inductionHypothesis
      have unmarked := behindLast?_eq_none_iff.1 behind
      constructor
      · intro here
        dsimp only at here
        obtain ⟨⟨rfl, followed⟩, same⟩ := Option.ite_none_right_eq_some.1 here
        cases same
        exact ⟨⟨[], rfl⟩, followed, unmarked⟩
      · rintro ⟨⟨before, whole⟩, followed, inner⟩
        cases before with
        | nil =>
          obtain ⟨rfl, rfl⟩ := List.cons.inj whole
          simp [followed]
        | cons first before =>
          obtain ⟨-, rfl⟩ := List.cons.inj whole
          exact absurd (inductionHypothesis.2 ⟨⟨before, rfl⟩, followed, inner⟩) (by simp)
    | some other =>
      rw [behind] at inductionHypothesis
      constructor
      · intro same
        obtain ⟨⟨before, whole⟩, rest⟩ := inductionHypothesis.1 same
        exact ⟨⟨token :: before, congrArg (token :: ·) whole⟩, rest⟩
      · rintro ⟨⟨before, whole⟩, followed, inner⟩
        cases before with
        | nil =>
          -- There is a marker further on, so this one is not the last.
          obtain ⟨-, rfl⟩ := List.cons.inj whole
          rw [behindLast?_eq_none_iff.2 inner] at behind
          cases behind
        | cons first before =>
          obtain ⟨-, rfl⟩ := List.cons.inj whole
          exact inductionHypothesis.2 ⟨⟨before, rfl⟩, followed, inner⟩

/-- Tokens may be renamed. -/
theorem behindLast?_map {Other : Type} [DecidableEq Other] {rename : Token → Other}
    (injective : Function.Injective rename) (marker : Token) (tokens : List Token) :
    behindLast? (rename marker) (tokens.map rename) =
      (behindLast? marker tokens).map (List.map rename) := by
  induction tokens with
  | nil => rfl
  | cons token later inductionHypothesis =>
    rw [List.map_cons, behindLast?, behindLast?, inductionHypothesis]
    cases behindLast? marker later with
    | some found => rfl
    | none =>
      by_cases here : token = marker ∧ later ≠ []
      · simp [here]
      · simp [here, injective.eq_iff]

end BehindLast

namespace Text

/-- A marker that begins with a delimiter does not begin inside a part. -/
theorem afterLast?_append_of_not_mem {delimiter : Char} {part : List Char}
    (plain : delimiter ∉ part) (marker text : List Char) :
    afterLast? (delimiter :: marker) (part ++ text) = afterLast? (delimiter :: marker) text := by
  induction part with
  | nil => rfl
  | cons character part inductionHypothesis =>
    obtain ⟨different, plainLater⟩ := List.ne_and_not_mem_of_not_mem_cons plain
    rw [List.cons_append, afterLast?, inductionHypothesis plainLater]
    cases afterLast? (delimiter :: marker) text with
    | some rest => rfl
    | none => simp [dropPrefix?, different]

/-- A word with a delimiter behind it stands in front of parts in a row exactly if it is the first
part and another one follows. -/
theorem dropPrefix?_intercalate {delimiter : Char} {word part : List Char}
    (plainWord : delimiter ∉ word) (plain : delimiter ∉ part) (later : List (List Char)) :
    dropPrefix? (word ++ [delimiter]) ([delimiter].intercalate (part :: later)) =
      if part = word ∧ later ≠ [] then some ([delimiter].intercalate later) else none := by
  refine Option.ext fun rest => ?_
  rw [dropPrefix?_eq_some_iff, List.append_assoc, List.singleton_append,
    Option.ite_none_right_eq_some, Option.some_inj]
  cases later with
  | nil =>
    constructor
    · intro front
      rw [List.intercalate_singleton] at front
      exact absurd (front ▸ List.mem_append_right _ List.mem_cons_self) plain
    · rintro ⟨⟨-, followed⟩, -⟩
      exact absurd rfl followed
  | cons next others =>
    rw [List.intercalate_cons_cons, List.append_assoc, List.singleton_append]
    constructor
    · intro same
      have parts := congrArg (List.splitOn delimiter) same
      rw [List.splitOn_append_cons_self_of_not_mem plain,
        List.splitOn_append_cons_self_of_not_mem plainWord] at parts
      obtain ⟨rfl, -⟩ := List.cons.inj parts
      exact ⟨⟨rfl, List.cons_ne_nil _ _⟩, (List.cons.inj (List.append_cancel_left same)).2⟩
    · rintro ⟨⟨rfl, -⟩, rfl⟩
      rfl

/-- Searching parts in a row for the last word between delimiters finds the parts behind the last
one that is this word and is neither the first part nor the last. -/
theorem afterLast?_intercalate {delimiter : Char} {word first : List Char}
    {later : List (List Char)} (plainWord : delimiter ∉ word)
    (plain : ∀ part ∈ first :: later, delimiter ∉ part) :
    afterLast? (delimiter :: (word ++ [delimiter])) ([delimiter].intercalate (first :: later)) =
      (behindLast? word later).map [delimiter].intercalate := by
  induction later generalizing first with
  | nil =>
    have skipped := afterLast?_append_of_not_mem (plain first List.mem_cons_self)
      (word ++ [delimiter]) []
    rw [List.append_nil] at skipped
    rw [List.intercalate_singleton, skipped]
    rfl
  | cons part later inductionHypothesis =>
    obtain ⟨plainFirst, plainLater⟩ := List.forall_mem_cons.1 plain
    rw [List.intercalate_cons_cons, List.append_assoc, List.singleton_append,
      afterLast?_append_of_not_mem plainFirst, afterLast?, inductionHypothesis plainLater,
      behindLast?]
    cases behindLast? word later with
    | some found => rfl
    | none =>
      have front := dropPrefix?_intercalate plainWord (plainLater part List.mem_cons_self) later
      simp only [dropPrefix?, if_true, front, Option.map_none]
      split <;> rfl

end Text

namespace Address

/-- The segments of the reference of an address. -/
def segments (address : Address) : List String :=
  (address.reference.toList.splitOn delimiter).map String.ofList

/-- Segments in a row are the segments of the reference that they make. -/
theorem segments_eq_of_reference {address : Address} {parts : List String} (nonempty : parts ≠ [])
    (plain : ∀ part ∈ parts, delimiter ∉ part.toList)
    (reference : address.reference = "/".intercalate parts) : address.segments = parts :=
  (Text.splitOn_eq_iff rfl).2 ⟨nonempty, plain, congrArg String.toList reference⟩

/-- A reference is its segments in a row. -/
theorem intercalate_segments (address : Address) :
    "/".intercalate address.segments = address.reference := by
  have slash : "/".toList = [delimiter] := rfl
  obtain ⟨-, -, joined⟩ := (Text.splitOn_eq_iff slash).1 (Eq.refl address.segments)
  exact (String.toList_inj.1 joined).symm

/-- A valid address has segments, and each of them obeys the rule for keys. -/
theorem Valid.segments {address : Address} (valid : address.Valid) :
    address.segments ≠ [] ∧ ∀ segment ∈ address.segments, IsKey segment := by
  obtain ⟨parts, nonempty, keys, reference⟩ := valid.reference
  rw [segments_eq_of_reference nonempty (fun part member => (keys part member).2) reference]
  exact ⟨nonempty, keys⟩

/-- A reference as a search of a channel finds it: what stands behind the last segment that spells
the marker, if another one follows, and otherwise the whole. -/
def searched (segments : List String) : List String :=
  (behindLast? referenceMarker segments).getD segments

/-- A search does not get behind the marker of the reference, unless a segment leads it there. -/
theorem behindLast?_append_segments (front : List String) {segments : List String}
    (nonempty : segments ≠ []) :
    behindLast? referenceMarker (front ++ referenceMarker :: segments) =
      some (searched segments) := by
  rw [behindLast?_eq_some_iff, searched]
  cases behind : behindLast? referenceMarker segments with
  | none => exact ⟨⟨front, rfl⟩, nonempty, behindLast?_eq_none_iff.1 behind⟩
  | some found =>
    obtain ⟨⟨before, rfl⟩, rest⟩ := behindLast?_eq_some_iff.1 behind
    refine ⟨⟨front ++ referenceMarker :: before, ?_⟩, rest⟩
    rw [Option.getD_some, List.append_assoc, List.cons_append]

/-- A search of a well-formed channel finds what it would find in the reference. -/
theorem textualReference_of_spells {channel : String} {address : Address}
    (spells : Spells channel address) :
    textualReference channel = "/".intercalate (searched address.segments) := by
  obtain ⟨-, -, -, segments, nonempty, -, reference, tokens⟩ :=
    ofTokens?_eq_some_iff.1 (ofChannel?_eq_some_iff.2 spells)
  obtain ⟨-, plain, text⟩ := tokens_eq_iff.1 tokens
  have plainSegments := (plain_spelling_iff.1 plain).2.2
  have joined : ("/".intercalate (address.spelling segments)).toList =
      [delimiter].intercalate ((address.spelling segments).map String.toList) := by
    simp [delimiter]
  have plainParts : ∀ part ∈ (address.spelling segments).map String.toList, delimiter ∉ part := by
    simpa using plain
  have marked := behindLast?_append_segments
    (address.kind.token :: (pairTokens gatewayMarker address.addressing.gateway
      ++ pairTokens deviceMarker address.addressing.device)) nonempty
  have plainMarker : delimiter ∉ referenceMarker.toList := by decide
  have search := Text.afterLast?_intercalate plainMarker plainParts
  rw [List.cons_append] at marked
  rw [behindLast?_map fun _ _ => String.toList_inj.1, marked] at search
  rw [segments_eq_of_reference nonempty plainSegments reference, textualReference, text, joined]
  have found := congrArg (fun found => String.ofList (found.getD [])) search
  refine found.trans (String.toList_inj.1 ?_)
  simp [delimiter]

/-- Searches of channels with one reference find the same. -/
theorem textualReference_congr {channel other : String} {address otherAddress : Address}
    (spells : Spells channel address) (spellsOther : Spells other otherAddress)
    (same : otherAddress.reference = address.reference) :
    textualReference other = textualReference channel := by
  rw [textualReference_of_spells spells, textualReference_of_spells spellsOther, segments, segments,
    same]

/-! ## The reference that is found -/

/-- A reference is not empty. -/
theorem IsReference.ne_empty {reference : String} (valid : IsReference reference) :
    reference ≠ "" := by
  rintro rfl
  obtain ⟨final, last, -⟩ := valid.exists_final
  cases last

/-- A search finds all segments exactly if none of them spells the marker and is followed by
another. -/
theorem searched_eq_self_iff {segments : List String} :
    searched segments = segments ↔ referenceMarker ∉ segments.dropLast := by
  rw [searched]
  cases behind : behindLast? referenceMarker segments with
  | none => simp [behindLast?_eq_none_iff.1 behind]
  | some found =>
    obtain ⟨⟨before, rfl⟩, followed, -⟩ := behindLast?_eq_some_iff.1 behind
    have marked : referenceMarker ∈ (before ++ referenceMarker :: found).dropLast := by
      rw [List.dropLast_append_cons, List.dropLast_cons_of_ne_nil followed]
      exact List.mem_append_right _ List.mem_cons_self
    refine iff_of_false (fun same => ?_) (not_not_intro marked)
    have lengths := congrArg List.length same
    simp at lengths
    omega

/-- A segment in front of the last one is not the marker if no such segment is. -/
theorem getElem?_ne_of_not_mem_dropLast {segments : List String}
    (unmarked : referenceMarker ∉ segments.dropLast) {index : Nat}
    (inner : index + 1 < segments.length) : segments[index]? ≠ some referenceMarker := by
  intro marked
  have member : segments.dropLast[index]? = some referenceMarker := by
    rw [List.getElem?_dropLast, if_pos (by omega), marked]
  exact unmarked (List.mem_of_getElem? member)

/-- A search finds the segments from an index on: the greatest one that has a marker in front of it
and is in range, or zero. -/
theorem exists_index_searched {segments : List String} (nonempty : segments ≠ []) :
    ∃ index < segments.length, searched segments = segments.drop index ∧
      (index = 0 ∨ segments[index - 1]? = some referenceMarker) ∧
      ∀ later < segments.length, index < later →
        segments[later - 1]? ≠ some referenceMarker := by
  rw [searched]
  cases behind : behindLast? referenceMarker segments with
  | none =>
    have unmarked := behindLast?_eq_none_iff.1 behind
    refine ⟨0, List.length_pos_of_ne_nil nonempty, rfl, .inl rfl, fun later inRange above => ?_⟩
    exact getElem?_ne_of_not_mem_dropLast unmarked (by omega)
  | some found =>
    obtain ⟨⟨before, rfl⟩, followed, unmarked⟩ := behindLast?_eq_some_iff.1 behind
    have filled := List.length_pos_of_ne_nil followed
    have length : (before ++ referenceMarker :: found).length =
        before.length + (found.length + 1) := by
      rw [List.length_append, List.length_cons]
    refine ⟨before.length + 1, by omega, ?_, .inr (by simp), fun later inRange above => ?_⟩
    · rw [Option.getD_some, List.drop_length_add_append]
      rfl
    · rw [List.getElem?_append_right (by omega), List.getElem?_cons, if_neg (by omega)]
      exact getElem?_ne_of_not_mem_dropLast unmarked (by omega)

/-- A search finds one or more whole segments at the end of the reference. -/
theorem exists_index_textualReference {channel : String} {address : Address}
    (spells : Spells channel address) :
    ∃ index < address.segments.length,
      textualReference channel = "/".intercalate (address.segments.drop index) := by
  obtain ⟨index, inRange, suffix, -⟩ := exists_index_searched spells.1.segments.1
  exact ⟨index, inRange, by rw [textualReference_of_spells spells, suffix]⟩

/-- **What a search of a channel finds** of the reference that the grammar reads, for every channel
that is well formed. Let `t₁/…/tₙ` be the reference. The search finds `tᵢ₊₁/…/tₙ`, where `i` is the
greatest index below `n` at which the segment is `r`, and zero if there is none. So it finds one or
more whole segments at the end, it finds all of them exactly if no segment but the last is `r`, and
nothing else about the channel matters. -/
theorem search_finds_segments {channel : String} {address : Address}
    (parsed : parse channel = .ok address) :
    let segments := address.segments
    ("/".intercalate segments = address.reference ∧ segments ≠ [] ∧
        ∀ segment ∈ segments, IsKey segment) ∧
      (∃ index < segments.length,
        textualReference channel = "/".intercalate (segments.drop index) ∧
        (index = 0 ∨ segments[index - 1]? = some referenceMarker) ∧
        ∀ later < segments.length, index < later →
          segments[later - 1]? ≠ some referenceMarker) ∧
      textualReference channel ≠ "" ∧
      (textualReference channel = address.reference ↔ referenceMarker ∉ segments.dropLast) ∧
      ∀ other otherAddress, parse other = .ok otherAddress →
        otherAddress.reference = address.reference →
        textualReference other = textualReference channel := by
  intro segments
  have spells := parse_eq_ok_iff.1 parsed
  have found := textualReference_of_spells spells
  obtain ⟨nonempty, keys⟩ := spells.1.segments
  obtain ⟨index, inRange, suffix, marked, last⟩ := exists_index_searched nonempty
  refine ⟨⟨address.intercalate_segments, nonempty, keys⟩, ⟨index, inRange, ?_, marked, last⟩,
    (isReference_textualReference spells).ne_empty, ?_, ?_⟩
  · rw [found, suffix]
  · rw [found, ← searched_eq_self_iff]
    constructor
    · intro same
      have left : segments.drop index ≠ [] := by
        rw [Ne, List.drop_eq_nil_iff]
        exact Nat.not_le.2 inRange
      rw [suffix] at same ⊢
      refine (segments_eq_of_reference left (fun segment member => ?_) same.symm).symm
      exact (keys segment (List.mem_of_mem_drop member)).2
    · intro whole
      rw [whole, address.intercalate_segments]
  · intro other otherAddress otherParsed same
    exact textualReference_congr spells (parse_eq_ok_iff.1 otherParsed) same

/-- The markers are keys and segments here. Two segments that spell the marker lead the search past
the front of the reference, and the last one does not. -/
theorem search_finds_segments_among_markers :
    parse "p2d/actuator_set/g/r/d/r/r/r/r/a/r/" =
        .ok ⟨.fromPlatform, .actuatorSet, ⟨some "r", some "r"⟩, "r/r/a/r"⟩ ∧
      textualReference "p2d/actuator_set/g/r/d/r/r/r/r/a/r/" ≠ "r/r/a/r" ∧
      textualReference "d2p/events/d/x/r/r/r/a/r" =
        textualReference "p2d/actuator_set/g/r/d/r/r/r/r/a/r/" := by
  have parsed : parse "p2d/actuator_set/g/r/d/r/r/r/r/a/r/" =
      .ok ⟨.fromPlatform, .actuatorSet, ⟨some "r", some "r"⟩, "r/r/a/r"⟩ := by decide +kernel
  have other : parse "d2p/events/d/x/r/r/r/a/r" =
      .ok ⟨.toPlatform, .alarm, ⟨none, some "x"⟩, "r/r/a/r"⟩ := by decide +kernel
  obtain ⟨-, -, -, whole, alike⟩ := search_finds_segments parsed
  exact ⟨parsed, fun same => whole.1 same (by decide +kernel), alike _ _ other rfl⟩

/-- What it finds is `a/r`. -/
example : textualReference "p2d/actuator_set/g/r/d/r/r/r/r/a/r/" = "a/r" := by
  decide +kernel

end Address

end EdgeGateway
