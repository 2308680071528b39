import EdgeGateway.Channel.Address
import Mathlib.Data.List.Basic

/-!
# The grammar of channels

`Valid` says which addresses the grammar knows, `Spells` which channels spell an address: the one
that is written for it, with or without one more delimiter at its end. The positional reader
accepts exactly what is spelled.

Markers, keys and segments are words over one alphabet, so nothing but their positions tells them
apart. The two halves of the argument meet in the list of tokens: `tokens_eq_iff` relates a channel
to its tokens, `ofTokens?_eq_some_iff` the tokens to an address.
-/

namespace EdgeGateway

namespace Text

/-- No part of a split text contains the delimiter. -/
theorem not_mem_of_mem_splitOn {delimiter : Char} {text part : List Char}
    (member : part ∈ text.splitOn delimiter) : delimiter ∉ part := by
  induction text generalizing part with
  | nil =>
    rw [List.splitOn_nil, List.mem_singleton] at member
    simp [member]
  | cons character text inductionHypothesis =>
    rw [List.splitOn_cons_eq_if_modifyHead] at member
    split at member
    · rcases List.mem_cons.1 member with rfl | later
      · exact List.not_mem_nil
      · exact inductionHypothesis later
    · rename_i different
      obtain ⟨first, others, parts⟩ :=
        List.exists_cons_of_ne_nil (List.splitOn_ne_nil delimiter text)
      rw [parts, List.modifyHead_cons] at member
      rcases List.mem_cons.1 member with rfl | later
      · have unequal : character ≠ delimiter := by simpa using different
        have plain := inductionHypothesis (parts ▸ List.mem_cons_self)
        exact List.not_mem_cons_of_ne_of_not_mem (Ne.symm unequal) plain
      · exact inductionHypothesis (parts ▸ List.mem_cons_of_mem first later)

/-- A text is split into given parts exactly if it is these parts joined and none of them contains
the delimiter. -/
theorem splitOn_eq_iff {delimiter : Char} {separator : String}
    (single : separator.toList = [delimiter]) {text : List Char} {parts : List String} :
    (text.splitOn delimiter).map String.ofList = parts ↔
      parts ≠ [] ∧ (∀ part ∈ parts, delimiter ∉ part.toList) ∧
        text = (separator.intercalate parts).toList := by
  have joined : (separator.intercalate parts).toList =
      [delimiter].intercalate (parts.map String.toList) := by
    simp [single]
  rw [joined]
  constructor
  · rintro rfl
    refine ⟨by simp [List.splitOn_ne_nil], fun part member => ?_, ?_⟩
    · obtain ⟨characters, split, rfl⟩ := List.mem_map.1 member
      simpa using not_mem_of_mem_splitOn split
    · simp [Function.comp_def]
  · rintro ⟨nonempty, plain, rfl⟩
    rw [List.splitOn_intercalate]
    · simp [Function.comp_def]
    · simpa using plain
    · simpa using nonempty

/-- Dropping a final delimiter takes at most one off the end. -/
theorem eq_or_eq_append_of_dropFinal {delimiter : Char} {text rest : List Char}
    (dropped : dropFinal delimiter text = rest) : text = rest ∨ text = rest ++ [delimiter] := by
  unfold dropFinal at dropped
  split at dropped
  · rename_i final
    right
    rw [← dropped]
    exact (List.dropLast_append_getLast? delimiter final).symm
  · exact .inl dropped

/-- Behind a text that does not end with the delimiter, one delimiter or none is dropped. -/
theorem dropFinal_eq_iff {delimiter : Char} {text rest : List Char}
    (unended : rest.getLast? ≠ some delimiter) :
    dropFinal delimiter text = rest ↔ text = rest ∨ text = rest ++ [delimiter] := by
  constructor
  · exact eq_or_eq_append_of_dropFinal
  · rintro (rfl | rfl)
    · exact dropFinal_of_getLast?_ne unended
    · exact dropFinal_append_singleton delimiter rest

end Text

namespace Address

/-- A reference is one or more segments in a row. A segment obeys the same rule as a key. -/
def IsReference (reference : String) : Prop :=
  ∃ segments : List String, segments ≠ [] ∧ (∀ segment ∈ segments, IsKey segment) ∧
    reference = "/".intercalate segments

/-- An address that the grammar knows. -/
structure Valid (address : Address) : Prop where
  /-- There is an address pair. -/
  addressed : address.addressing.gateway.isSome ∨ address.addressing.device.isSome
  gateway : ∀ key, address.addressing.gateway = some key → IsKey key
  device : ∀ key, address.addressing.device = some key → IsKey key
  reference : IsReference address.reference

/-- A channel spells an address: it is what is written for a valid address, or that with one more
delimiter. -/
def Spells (channel : String) (address : Address) : Prop :=
  address.Valid ∧ (channel = address.channel ∨ channel = address.channel ++ "/")

/-! ## Channels and tokens -/

/-- The tokens of an optional address pair. -/
def pairTokens (marker : String) : Option String → List String
  | none => []
  | some key => [marker, key]

/-- The tokens of an address whose reference has the given segments. -/
def spelling (address : Address) (segments : List String) : List String :=
  address.direction.token :: address.kind.token ::
    (pairTokens gatewayMarker address.addressing.gateway
      ++ pairTokens deviceMarker address.addressing.device
      ++ referenceMarker :: segments)

/-- The channel of an address is its tokens in a row. -/
theorem channel_eq_intercalate {address : Address} {segments : List String}
    (nonempty : segments ≠ []) (reference : address.reference = "/".intercalate segments) :
    address.channel = "/".intercalate (address.spelling segments) := by
  obtain ⟨direction, kind, ⟨gateway, device⟩, _⟩ := address
  obtain ⟨first, later, rfl⟩ := List.exists_cons_of_ne_nil nonempty
  simp only at reference
  subst reference
  cases gateway <;> cases device <;>
    simp [channel, spelling, pairText, pairTokens, String.append_assoc]

/-- A channel has given tokens exactly when these are its parts between delimiters, a final one
left out. -/
theorem tokens_eq_iff {channel : String} {parts : List String} :
    tokens channel = parts ↔
      parts ≠ [] ∧ (∀ part ∈ parts, delimiter ∉ part.toList) ∧
        Text.dropFinal delimiter channel.toList = ("/".intercalate parts).toList :=
  Text.splitOn_eq_iff rfl

/-! ## Tokens and addresses -/

/-- An address pair is read off the front of the tokens exactly if its marker and a non-empty key
stand there, and none is read exactly if another token or nothing stands there. -/
theorem takePair?_eq_some_iff {marker : String} {tokens rest : List String}
    {pair : Option String} :
    takePair? marker tokens = some (pair, rest) ↔
      tokens = pairTokens marker pair ++ rest ∧ (∀ key, pair = some key → key ≠ "") ∧
        (pair = none → rest.head? ≠ some marker) := by
  constructor
  · intro taken
    unfold takePair? at taken
    split at taken
    · cases taken
      simp [pairTokens]
    · split at taken
      · rename_i marked
        subst marked
        split at taken
        · cases taken
        · split at taken
          · cases taken
          · rename_i filled
            cases taken
            simpa [pairTokens] using filled
      · rename_i unmarked
        cases taken
        simpa [pairTokens] using unmarked
  · rintro ⟨rfl, filled, unmarked⟩
    cases pair with
    | none =>
      cases rest with
      | nil => rfl
      | cons token rest =>
        have different : token ≠ marker := by simpa using unmarked rfl
        simp [pairTokens, takePair?, different]
    | some key => simp [pairTokens, takePair?, filled key rfl]

/-- A reference is read exactly if its marker and one or more non-empty segments stand there. -/
theorem takeReference?_eq_some_iff {tokens : List String} {reference : String} :
    takeReference? tokens = some reference ↔
      ∃ segments, tokens = referenceMarker :: segments ∧ segments ≠ [] ∧ "" ∉ segments ∧
        reference = "/".intercalate segments := by
  cases tokens with
  | nil => simp [takeReference?]
  | cons token segments =>
    simp only [takeReference?]
    constructor
    · intro taken
      split at taken
      · rename_i parts
        cases taken
        exact ⟨segments, by rw [parts.1], parts.2.1, parts.2.2, rfl⟩
      · cases taken
    · rintro ⟨segments, spelled, nonempty, filled, rfl⟩
      cases spelled
      simp [nonempty, filled]

/-- A list of tokens is read as an address exactly if it is the address's spelling, there is an
address pair, and no key or segment is empty. -/
theorem ofTokens?_eq_some_iff {tokens : List String} {address : Address} :
    ofTokens? tokens = some address ↔
      (address.addressing.gateway.isSome ∨ address.addressing.device.isSome) ∧
        (∀ key, address.addressing.gateway = some key → key ≠ "") ∧
        (∀ key, address.addressing.device = some key → key ≠ "") ∧
        ∃ segments, segments ≠ [] ∧ "" ∉ segments ∧
          address.reference = "/".intercalate segments ∧ tokens = address.spelling segments := by
  constructor
  · intro read
    unfold ofTokens? at read
    split at read
    · rename_i directionToken kindToken rest
      simp only [Option.bind_eq_bind, Option.bind_eq_some_iff, Option.pure_def, guard] at read
      obtain ⟨direction, directionRead, kind, kindRead, ⟨gateway, afterGateway⟩, gatewayRead,
        ⟨device, afterDevice⟩, deviceRead, _, addressed, reference, referenceRead, built⟩ := read
      obtain ⟨rfl, gatewayFilled, _⟩ := takePair?_eq_some_iff.1 gatewayRead
      obtain ⟨rfl, deviceFilled, _⟩ := takePair?_eq_some_iff.1 deviceRead
      obtain ⟨segments, rfl, nonempty, filled, rfl⟩ := takeReference?_eq_some_iff.1 referenceRead
      cases built
      have spelledDirection := Direction.ofToken?_eq_some_iff.1 directionRead
      have spelledKind := MessageKind.ofToken?_eq_some_iff.1 kindRead
      refine ⟨?_, gatewayFilled, deviceFilled, segments, nonempty, filled, rfl, ?_⟩
      · by_contra unaddressed
        simp [unaddressed] at addressed
      · simp [spelling, spelledDirection, spelledKind]
    · cases read
  · rintro ⟨addressed, gatewayFilled, deviceFilled, segments, nonempty, filled, reference, rfl⟩
    obtain ⟨direction, kind, ⟨gateway, device⟩, _⟩ := address
    simp only at addressed gatewayFilled deviceFilled reference
    subst reference
    have directionRead := Direction.ofToken?_eq_some_iff.2 (Eq.refl direction.token)
    have kindRead := MessageKind.ofToken?_eq_some_iff.2 (Eq.refl kind.token)
    -- Behind a missing pair stands the marker of what comes next, never its own.
    have gatewayRead :
        takePair? gatewayMarker (pairTokens gatewayMarker gateway
          ++ (pairTokens deviceMarker device ++ referenceMarker :: segments)) =
          some (gateway, pairTokens deviceMarker device ++ referenceMarker :: segments) := by
      refine takePair?_eq_some_iff.2 ⟨rfl, gatewayFilled, fun _ => ?_⟩
      cases device <;> simp [pairTokens, deviceMarker, referenceMarker, gatewayMarker]
    have deviceRead :
        takePair? deviceMarker (pairTokens deviceMarker device ++ referenceMarker :: segments) =
          some (device, referenceMarker :: segments) := by
      refine takePair?_eq_some_iff.2 ⟨rfl, deviceFilled, fun _ => ?_⟩
      simp [referenceMarker, deviceMarker]
    have referenceRead :
        takeReference? (referenceMarker :: segments) = some ("/".intercalate segments) :=
      takeReference?_eq_some_iff.2 ⟨segments, rfl, nonempty, filled, rfl⟩
    simp [ofTokens?, spelling, List.append_assoc, directionRead, kindRead, gatewayRead, deviceRead,
      referenceRead, addressed, guard]

/-! ## Channels and addresses -/

/-- The tokens of an address are free of delimiters if its keys and segments are. -/
theorem plain_spelling_iff {address : Address} {segments : List String} :
    (∀ part ∈ address.spelling segments, delimiter ∉ part.toList) ↔
      (∀ key, address.addressing.gateway = some key → delimiter ∉ key.toList) ∧
        (∀ key, address.addressing.device = some key → delimiter ∉ key.toList) ∧
        ∀ segment ∈ segments, delimiter ∉ segment.toList := by
  obtain ⟨direction, kind, ⟨gateway, device⟩, _⟩ := address
  have plainDirection : delimiter ∉ direction.token.toList := by cases direction <;> decide
  have plainKind : delimiter ∉ kind.token.toList := by cases kind <;> decide
  have plainMarkers : delimiter ∉ gatewayMarker.toList ∧ delimiter ∉ deviceMarker.toList ∧
      delimiter ∉ referenceMarker.toList := by decide
  cases gateway <;> cases device <;>
    simp [spelling, pairTokens, plainDirection, plainKind, plainMarkers]

/-- A reference ends with a character of its last segment. -/
theorem IsReference.exists_final {reference : String} (valid : IsReference reference) :
    ∃ final, reference.toList.getLast? = some final ∧ final ≠ delimiter := by
  obtain ⟨segments, nonempty, keys, rfl⟩ := valid
  induction segments with
  | nil => exact absurd rfl nonempty
  | cons segment segments inductionHypothesis =>
    cases segments with
    | nil =>
      obtain ⟨filled, plain⟩ := keys segment List.mem_cons_self
      have characters : segment.toList ≠ [] := by simpa using filled
      refine ⟨segment.toList.getLast characters, ?_, ?_⟩
      · simp [List.getLast?_eq_getLast_of_ne_nil characters]
      · intro slash
        exact plain (slash ▸ List.getLast_mem characters)
    | cons next later =>
      obtain ⟨final, last, different⟩ := inductionHypothesis (List.cons_ne_nil next later)
        fun part member => keys part (List.mem_cons_of_mem segment member)
      refine ⟨final, ?_, different⟩
      rw [String.intercalate_cons_cons, String.toList_append, List.getLast?_append, last]
      rfl

/-- What is written for a valid address does not end with the delimiter. -/
theorem Valid.getLast?_channel_ne {address : Address} (valid : address.Valid) :
    address.channel.toList.getLast? ≠ some delimiter := by
  obtain ⟨final, last, different⟩ := valid.reference.exists_final
  rw [channel, String.toList_append, List.getLast?_append, last]
  simpa using different

/-- What is written for a valid address spells it. -/
theorem Valid.spells_channel {address : Address} (valid : address.Valid) :
    Spells address.channel address :=
  ⟨valid, .inl rfl⟩

/-- No channel that is written is empty. -/
theorem channel_ne_empty (address : Address) : address.channel ≠ "" := by
  obtain ⟨direction, kind, addressing, reference⟩ := address
  cases direction <;> simp [channel, Direction.token]

/-- No channel that spells an address is empty. -/
theorem Spells.ne_empty {channel : String} {address : Address} (spells : Spells channel address) :
    channel ≠ "" := by
  rintro rfl
  obtain ⟨-, written | longer⟩ := spells
  · exact address.channel_ne_empty written.symm
  · simpa using congrArg String.toList longer

/-- A channel is read as an address exactly if it spells the address. -/
theorem ofChannel?_eq_some_iff {channel : String} {address : Address} :
    ofChannel? channel = some address ↔ Spells channel address := by
  rw [ofChannel?, ofTokens?_eq_some_iff]
  constructor
  · rintro ⟨addressed, gateway, device, segments, nonempty, filled, reference, tokens⟩
    obtain ⟨_, plain, text⟩ := tokens_eq_iff.1 tokens
    obtain ⟨plainGateway, plainDevice, plainSegments⟩ := plain_spelling_iff.1 plain
    rw [← channel_eq_intercalate nonempty reference] at text
    refine ⟨⟨addressed, ?_, ?_, segments, nonempty, ?_, reference⟩, ?_⟩
    · exact fun key present => ⟨gateway key present, plainGateway key present⟩
    · exact fun key present => ⟨device key present, plainDevice key present⟩
    · exact fun segment member =>
        ⟨ne_of_mem_of_not_mem member filled, plainSegments segment member⟩
    · refine (Text.eq_or_eq_append_of_dropFinal text).imp (fun same => ?_) (fun longer => ?_)
      · exact String.toList_inj.1 same
      · exact String.toList_inj.1 (by simpa [delimiter] using longer)
  · rintro ⟨valid, spelled⟩
    obtain ⟨segments, nonempty, keys, reference⟩ := valid.reference
    refine ⟨valid.addressed, fun key present => (valid.gateway key present).1,
      fun key present => (valid.device key present).1, segments, nonempty,
      fun blank => (keys "" blank).1 rfl, reference, tokens_eq_iff.2 ⟨?_, ?_, ?_⟩⟩
    · exact List.cons_ne_nil _ _
    · exact plain_spelling_iff.2 ⟨fun key present => (valid.gateway key present).2,
        fun key present => (valid.device key present).2, fun segment member =>
          (keys segment member).2⟩
    · rw [← channel_eq_intercalate nonempty reference,
        Text.dropFinal_eq_iff valid.getLast?_channel_ne]
      refine spelled.imp (congrArg String.toList) fun longer => ?_
      simp [longer, delimiter]

/-- A channel spells one address at most. -/
theorem Spells.eq {channel : String} {first second : Address} (spellsFirst : Spells channel first)
    (spellsSecond : Spells channel second) : first = second := by
  have read := ofChannel?_eq_some_iff.2 spellsFirst
  rw [ofChannel?_eq_some_iff.2 spellsSecond] at read
  exact (Option.some.inj read).symm

/-- Parsing gives an address exactly if the channel spells it. -/
theorem parse_eq_ok_iff {channel : String} {address : Address} :
    parse channel = .ok address ↔ Spells channel address := by
  rw [← ofChannel?_eq_some_iff, parse]
  cases ofChannel? channel <;> simp

/-- Parsing fails exactly if the channel spells no address. The error names the channel. -/
theorem parse_eq_error_iff {channel : String} {cause : RoutingError} :
    parse channel = .error cause ↔
      (∀ address, ¬ Spells channel address) ∧ cause = .malformedChannel channel := by
  simp only [← ofChannel?_eq_some_iff, parse]
  cases ofChannel? channel with
  | none => simp [eq_comm]
  | some address => simp

/-- Reading and writing channels are inverse. A channel is accepted exactly if it is what is
written for a valid address, or that with one more delimiter, and every other channel is refused
under its own name. So every valid address survives being written and read, and no channel has two
readings. -/
theorem parse_inverts_channel (channel : String) :
    (∀ address, parse channel = .ok address ↔
      address.Valid ∧ (channel = address.channel ∨ channel = address.channel ++ "/")) ∧
    (∀ address : Address, address.Valid →
      parse address.channel = .ok address ∧ parse (address.channel ++ "/") = .ok address) ∧
    (∀ first second : Address, Spells channel first → Spells channel second → first = second) ∧
    (parse channel = .error (.malformedChannel channel) ↔ ∀ address, ¬ Spells channel address) ∧
    ∀ cause, parse channel = .error cause → cause = .malformedChannel channel := by
  refine ⟨fun address => parse_eq_ok_iff, fun address valid => ⟨?_, ?_⟩, ?_, ?_, ?_⟩
  · exact parse_eq_ok_iff.2 ⟨valid, .inl rfl⟩
  · exact parse_eq_ok_iff.2 ⟨valid, .inr rfl⟩
  · intro first second spellsFirst spellsSecond
    have read := ofChannel?_eq_some_iff.2 spellsFirst
    rw [ofChannel?_eq_some_iff.2 spellsSecond] at read
    exact (Option.some.inj read).symm
  · rw [parse_eq_error_iff]
    exact and_iff_left rfl
  · exact fun cause refused => (parse_eq_error_iff.1 refused).2

/-- The markers may be keys and segments. -/
example : parse "p2d/actuator_set/g/d/d/g/r/r/d/r/" =
    .ok ⟨.fromPlatform, .actuatorSet, ⟨some "d", some "g"⟩, "r/d/r"⟩ := by
  decide +kernel

end Address

end EdgeGateway
