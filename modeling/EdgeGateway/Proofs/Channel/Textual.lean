import EdgeGateway.Channel.Textual
import EdgeGateway.Proofs.Channel.Grammar

/-!
# What a search of a channel finds

Searching a channel for its reference may find less than the grammar does, since a segment may spell
the marker of references. What it finds in a well-formed channel is still a reference
(`isReference_textualReference`), so a gateway can answer a command on the reference under which it
has handled it.
-/

namespace EdgeGateway

namespace Text

/-- What stands behind the last occurrence of a marker ends the text. -/
theorem eq_append_of_afterLast? {marker text rest : List Char}
    (found : afterLast? marker text = some rest) : ∃ before, text = before ++ (marker ++ rest) := by
  induction text with
  | nil =>
    have front : [] = marker ++ rest := dropPrefix?_eq_some_iff.1 found
    exact ⟨[], front⟩
  | cons character text inductionHypothesis =>
    simp only [afterLast?] at found
    split at found
    · rename_i later _ behind
      obtain rfl := Option.some.inj found
      obtain ⟨before, rfl⟩ := inductionHypothesis behind
      exact ⟨character :: before, rfl⟩
    · have front : character :: text = marker ++ rest := dropPrefix?_eq_some_iff.1 found
      exact ⟨[], front⟩

/-- A marker that is there is found. -/
theorem isSome_afterLast? (marker before rest : List Char) :
    (afterLast? marker (before ++ (marker ++ rest))).isSome := by
  induction before with
  | nil =>
    have front : dropPrefix? marker (marker ++ rest) = some rest := dropPrefix?_eq_some_iff.2 rfl
    rw [List.nil_append]
    cases whole : marker ++ rest with
    | nil =>
      rw [whole] at front
      simp [afterLast?, front]
    | cons character text =>
      rw [whole] at front
      simp only [afterLast?]
      split
      · rfl
      · simp [front]
  | cons character before inductionHypothesis =>
    obtain ⟨found, behind⟩ := Option.isSome_iff_exists.1 inductionHypothesis
    simp [afterLast?, behind]

/-- The parts of a text around a delimiter are those on either side of it. -/
theorem splitOn_append_delimiter (delimiter : Char) (before rest : List Char) :
    (before ++ delimiter :: rest).splitOn delimiter =
      before.splitOn delimiter ++ rest.splitOn delimiter := by
  induction before with
  | nil => simp [List.splitOn_cons_eq_if_modifyHead]
  | cons character before inductionHypothesis =>
    rw [List.cons_append, List.splitOn_cons_eq_if_modifyHead, List.splitOn_cons_eq_if_modifyHead,
      inductionHypothesis]
    split
    · rfl
    · obtain ⟨first, others, parts⟩ :=
        List.exists_cons_of_ne_nil (List.splitOn_ne_nil delimiter before)
      rw [parts]
      rfl

end Text

namespace Address

/-- A text whose parts between delimiters are not empty is a reference. -/
theorem isReference_of_splitOn {text : List Char} (filled : [] ∉ text.splitOn delimiter) :
    IsReference (String.ofList text) := by
  have slash : "/".toList = [delimiter] := rfl
  obtain ⟨nonempty, plain, joined⟩ :=
    (Text.splitOn_eq_iff slash).1 (Eq.refl ((text.splitOn delimiter).map String.ofList))
  refine ⟨_, nonempty, fun segment member => ⟨?_, plain segment member⟩, ?_⟩
  · obtain ⟨part, split, rfl⟩ := List.mem_map.1 member
    have characters : part ≠ [] := ne_of_mem_of_not_mem split filled
    simpa using characters
  · exact String.toList_inj.1 (String.toList_ofList.trans joined)

/-- No token of a well-formed channel is empty. -/
theorem Spells.filled_tokens {channel : String} {address : Address}
    (spells : Spells channel address) : "" ∉ tokens channel := by
  obtain ⟨-, gateway, device, segments, -, filled, -, spelled⟩ :=
    ofTokens?_eq_some_iff.1 (ofChannel?_eq_some_iff.2 spells)
  have direction : address.direction.token ≠ "" := by cases address.direction <;> decide
  have kind : address.kind.token ≠ "" := by cases address.kind <;> decide
  rw [spelled]
  obtain ⟨_, _, ⟨_ | gatewayKey, _ | deviceKey⟩, _⟩ := address <;>
    simp_all [spelling, pairTokens, gatewayMarker, deviceMarker, referenceMarker, Ne.symm]

/-- A channel that spells an address is what is written for it, once a final delimiter is
dropped. -/
theorem Spells.dropFinal_eq {channel : String} {address : Address}
    (spells : Spells channel address) :
    Text.dropFinal delimiter channel.toList = address.channel.toList := by
  obtain ⟨valid, spelled⟩ := spells
  rw [Text.dropFinal_eq_iff valid.getLast?_channel_ne]
  refine spelled.imp (congrArg String.toList) fun longer => ?_
  simp [longer, delimiter]

/-- The marker of the reference stands in what is written for an address. -/
theorem exists_marked (address : Address) :
    ∃ front, address.channel.toList =
      front ++ (['/', 'r', '/'] ++ address.reference.toList) := by
  obtain ⟨direction, kind, ⟨gateway, device⟩, reference⟩ := address
  refine ⟨(direction.token ++ "/" ++ kind.token ++ gateway.elim "" ("/g/" ++ ·)
    ++ device.elim "" ("/d/" ++ ·)).toList, ?_⟩
  cases gateway <;> cases device <;>
    simp [channel, pairText, gatewayMarker, deviceMarker, referenceMarker]

/-- What a search of a well-formed channel finds is a reference. -/
theorem isReference_textualReference {channel : String} {address : Address}
    (spells : Spells channel address) : IsReference (textualReference channel) := by
  have filled := spells.filled_tokens
  have text := spells.dropFinal_eq
  obtain ⟨front, marked⟩ := address.exists_marked
  have present := Text.isSome_afterLast? ['/', 'r', '/'] front address.reference.toList
  rw [← marked, ← text] at present
  obtain ⟨rest, found⟩ := Option.isSome_iff_exists.1 present
  obtain ⟨before, whole⟩ := Text.eq_append_of_afterLast? found
  unfold textualReference
  rw [found, Option.getD_some]
  refine isReference_of_splitOn fun blank => filled ?_
  have parts : (before ++ (['/', 'r', '/'] ++ rest)).splitOn delimiter =
      before.splitOn delimiter ++ (['r'].splitOn delimiter ++ rest.splitOn delimiter) := by
    rw [← Text.splitOn_append_delimiter, ← Text.splitOn_append_delimiter]
    rfl
  unfold tokens
  rw [whole, parts]
  exact List.mem_map.2 ⟨[], by simp [blank], rfl⟩

end Address

end EdgeGateway
