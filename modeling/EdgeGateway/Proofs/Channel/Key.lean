import EdgeGateway.Proofs.Channel.Opening
import EdgeGateway.Proofs.Channel.Reference
import EdgeGateway.Proofs.Router.Table

/-!
# Two readings of the key

The grammar reads the keys of a channel from their positions. A search takes the text behind the
first `/d/`, and behind the first `/g/` where there is no such marker. It walks over the tokens of
the channel: it ends at the first token that spells the marker, has a token in front of it and is
followed by another (`afterFirst?_intercalate`). Unlike the grammar it does not drop a delimiter at
the end of the channel, so the last segment may be followed by an empty token.

A gateway called `d` therefore hides what stands behind its key, and a segment `d` of a reference
hides the gateway's key. Nothing else makes the two readings differ (`search_finds_key`).
-/

namespace EdgeGateway

/-- What stands in a list next to the first occurrence of a marker that something follows. -/
def nextToFirst? {Token : Type} [DecidableEq Token] (marker : Token) : List Token → Option Token
  | [] => none
  | token :: later =>
    if token = marker ∧ later ≠ [] then later.head? else nextToFirst? marker later

section NextToFirst

variable {Token : Type} [DecidableEq Token] {marker : Token} {tokens : List Token}

/-- Nothing stands next to a marker exactly if there is none in front of the last token. -/
theorem nextToFirst?_eq_none_iff :
    nextToFirst? marker tokens = none ↔ marker ∉ tokens.dropLast := by
  induction tokens with
  | nil => simp [nextToFirst?]
  | cons token later inductionHypothesis =>
    by_cases last : later = []
    · simp [nextToFirst?, last]
    · rw [List.dropLast_cons_of_ne_nil last, List.mem_cons, not_or, ← inductionHypothesis,
        nextToFirst?]
      by_cases here : token = marker
      · simp [here, last]
      · simp [here, Ne.symm here]

/-- The token next to a marker is found if no marker stands before that one. -/
theorem nextToFirst?_append {before after : List Token} (unmarked : marker ∉ before)
    (next : Token) : nextToFirst? marker (before ++ marker :: next :: after) = some next := by
  induction before with
  | nil => simp [nextToFirst?]
  | cons token before inductionHypothesis =>
    obtain ⟨different, rest⟩ := List.ne_and_not_mem_of_not_mem_cons unmarked
    rw [List.cons_append, nextToFirst?, if_neg fun here => different here.1.symm]
    exact inductionHypothesis rest

/-- A token that is not the marker is passed over. -/
theorem nextToFirst?_cons_of_ne {token : Token} (different : token ≠ marker)
    (later : List Token) : nextToFirst? marker (token :: later) = nextToFirst? marker later := by
  rw [nextToFirst?, if_neg fun here => different here.1]

/-- Tokens may be renamed. -/
theorem nextToFirst?_map {Other : Type} [DecidableEq Other] {rename : Token → Other}
    (injective : Function.Injective rename) (marker : Token) (tokens : List Token) :
    nextToFirst? (rename marker) (tokens.map rename) =
      (nextToFirst? marker tokens).map rename := by
  induction tokens with
  | nil => rfl
  | cons token later inductionHypothesis =>
    rw [List.map_cons, nextToFirst?, nextToFirst?, inductionHypothesis]
    by_cases here : token = marker ∧ later ≠ []
    · simp [here]
    · simp [here, injective.eq_iff]

end NextToFirst

namespace Text

/-- A marker that begins with a delimiter does not begin inside a part. -/
theorem afterFirst?_append_of_not_mem {delimiter : Char} {part : List Char}
    (plain : delimiter ∉ part) (marker text : List Char) :
    afterFirst? (delimiter :: marker) (part ++ text) = afterFirst? (delimiter :: marker) text := by
  induction part with
  | nil => rfl
  | cons character part inductionHypothesis =>
    obtain ⟨different, plainLater⟩ := List.ne_and_not_mem_of_not_mem_cons plain
    have elsewhere : dropPrefix? (delimiter :: marker) (character :: (part ++ text)) = none := by
      simp [dropPrefix?, different]
    rw [List.cons_append, afterFirst?, elsewhere]
    exact inductionHypothesis plainLater

/-- Parts in a row are taken up to the first delimiter as their first part. -/
theorem takeWhile_intercalate {delimiter : Char} {part : List Char} (plain : delimiter ∉ part)
    (later : List (List Char)) :
    ([delimiter].intercalate (part :: later)).takeWhile (· ≠ delimiter) = part := by
  have inside : ∀ character ∈ part, decide (character ≠ delimiter) = true := by
    intro character member
    exact decide_eq_true (ne_of_mem_of_not_mem member plain)
  cases later with
  | nil =>
    have whole : (part ++ []).takeWhile (· ≠ delimiter) = part ++ [].takeWhile (· ≠ delimiter) :=
      List.takeWhile_append_of_pos inside
    simpa using whole
  | cons next others =>
    rw [List.intercalate_cons_cons, List.append_assoc, List.singleton_append,
      List.takeWhile_append_of_pos inside]
    simp

/-- Searching parts in a row for the first word between delimiters, and taking what follows up to
the next delimiter, finds the part next to the first one that is this word and is neither the first
part nor the last. -/
theorem afterFirst?_intercalate {delimiter : Char} {word first : List Char}
    {later : List (List Char)} (plainWord : delimiter ∉ word)
    (plain : ∀ part ∈ first :: later, delimiter ∉ part) :
    (afterFirst? (delimiter :: (word ++ [delimiter])) ([delimiter].intercalate (first :: later))).map
        (List.takeWhile (· ≠ delimiter)) = nextToFirst? word later := by
  induction later generalizing first with
  | nil =>
    have skipped := afterFirst?_append_of_not_mem (plain first List.mem_cons_self)
      (word ++ [delimiter]) []
    rw [List.append_nil] at skipped
    rw [List.intercalate_singleton, skipped]
    rfl
  | cons part later inductionHypothesis =>
    obtain ⟨plainFirst, plainLater⟩ := List.forall_mem_cons.1 plain
    have plainPart := plainLater part List.mem_cons_self
    have front : dropPrefix? (delimiter :: (word ++ [delimiter]))
        (delimiter :: [delimiter].intercalate (part :: later)) =
          if part = word ∧ later ≠ [] then some ([delimiter].intercalate later) else none := by
      rw [← dropPrefix?_intercalate plainWord plainPart, dropPrefix?, if_pos rfl]
    rw [List.intercalate_cons_cons, List.append_assoc, List.singleton_append,
      afterFirst?_append_of_not_mem plainFirst, afterFirst?, front, nextToFirst?]
    by_cases here : part = word ∧ later ≠ []
    · obtain ⟨next, others, rfl⟩ := List.exists_cons_of_ne_nil here.2
      have plainNext : delimiter ∉ next := plainLater next (by simp)
      rw [if_pos here, if_pos here]
      simp only [Option.map_some, List.head?_cons, takeWhile_intercalate plainNext]
    · rw [if_neg here, if_neg here]
      exact inductionHypothesis plainLater

end Text

namespace Address

/-- What a channel has behind the last segment: a delimiter at its end leaves an empty text. -/
def closing (channel : String) : List String :=
  if channel.toList.getLast? = some delimiter then [""] else []

/-- No part that closes a channel contains the delimiter. -/
theorem plain_closing {channel : String} :
    ∀ part ∈ closing channel, delimiter ∉ part.toList := by
  intro part member
  unfold closing at member
  split at member
  · rw [List.mem_singleton.1 member]
    exact List.not_mem_nil
  · cases member

/-- A channel is what is written for its address, with what closes it as further segments. -/
theorem Spells.channel_eq_written {channel : String} {address : Address}
    (spells : Spells channel address) :
    channel = { address with
      reference := "/".intercalate (address.segments ++ closing channel) : Address }.channel := by
  obtain ⟨valid, written | longer⟩ := spells
  · have unclosed : closing channel = [] := by
      rw [closing, if_neg (written ▸ valid.getLast?_channel_ne)]
    rw [unclosed, List.append_nil, address.intercalate_segments]
    exact written
  · have closed : closing channel = [""] := by
      rw [closing, if_pos (by simp [longer, delimiter])]
    have reference : "/".intercalate (address.segments ++ [""]) = address.reference ++ "/" := by
      rw [String.intercalate_append_of_ne_nil valid.segments.1 (List.cons_ne_nil _ _),
        address.intercalate_segments]
      simp
    rw [closed, reference, longer]
    simp [Address.channel, String.append_assoc]

/-- A search of parts in a row for the key behind a marker finds the part next to the first one that
spells the marker and is neither the first part nor the last. -/
theorem keyAfter?_intercalate {marker first : String} {later : List String}
    (plainMarker : delimiter ∉ marker.toList)
    (plain : ∀ part ∈ first :: later, delimiter ∉ part.toList) :
    keyAfter? (delimiter :: (marker.toList ++ [delimiter])) ("/".intercalate (first :: later)) =
      nextToFirst? marker later := by
  have joined : ("/".intercalate (first :: later)).toList =
      [delimiter].intercalate (first.toList :: later.map String.toList) := by
    simp [delimiter]
  have plainParts : ∀ part ∈ first.toList :: later.map String.toList, delimiter ∉ part := by
    simpa using plain
  have search := Text.afterFirst?_intercalate plainMarker plainParts
  rw [nextToFirst?_map fun _ _ => String.toList_inj.1] at search
  rw [keyAfter?, joined]
  have found := congrArg (Option.map String.ofList) search
  simpa [Function.comp_def] using found

/-- The key as a search of a channel finds it, by the address that the grammar reads and the parts
that stand behind the marker of the reference. -/
def searchedKey (addressing : Addressing) (parts : List String) : String :=
  match addressing with
  | ⟨none, none⟩ => ""
  | ⟨none, some device⟩ => device
  | ⟨some gateway, some device⟩ => if gateway = deviceMarker then deviceMarker else device
  | ⟨some gateway, none⟩ =>
    if gateway = deviceMarker then referenceMarker
    else (nextToFirst? deviceMarker parts).getD gateway

/-- No kind spells the marker of an address pair. -/
theorem kind_token_ne (kind : MessageKind) :
    kind.token ≠ deviceMarker ∧ kind.token ≠ gatewayMarker := by
  cases kind <;> decide

/-- Searching the tokens of an address for the device marker, and for the gateway marker where there
is none, finds the key that a search of its channel finds. -/
theorem nextToFirst?_spelling (address : Address)
    (addressed : address.addressing.gateway.isSome ∨ address.addressing.device.isSome)
    (parts : List String) :
    (((nextToFirst? deviceMarker (address.spelling parts).tail).or
      (nextToFirst? gatewayMarker (address.spelling parts).tail)).getD "") =
        searchedKey address.addressing parts := by
  obtain ⟨direction, kind, ⟨gateway, device⟩, reference⟩ := address
  obtain ⟨kindDevice, kindGateway⟩ := kind_token_ne kind
  have gatewayDevice : gatewayMarker ≠ deviceMarker := by decide
  have referenceDevice : referenceMarker ≠ deviceMarker := by decide
  simp only [spelling, List.tail_cons, nextToFirst?_cons_of_ne kindDevice,
    nextToFirst?_cons_of_ne kindGateway]
  cases gateway with
  | none =>
    cases device with
    | none => simp at addressed
    | some device => simp [pairTokens, nextToFirst?, searchedKey]
  | some gateway =>
    cases device with
    | some device =>
      by_cases hidden : gateway = deviceMarker
      · simp [pairTokens, nextToFirst?, searchedKey, hidden, gatewayDevice]
      · simp [pairTokens, nextToFirst?, searchedKey, hidden, gatewayDevice]
    | none =>
      by_cases hidden : gateway = deviceMarker
      · simp [pairTokens, nextToFirst?, searchedKey, hidden, gatewayDevice]
      · have passed : nextToFirst? deviceMarker (gatewayMarker :: gateway :: referenceMarker :: parts)
            = nextToFirst? deviceMarker parts := by
          rw [nextToFirst?_cons_of_ne gatewayDevice, nextToFirst?_cons_of_ne hidden,
            nextToFirst?_cons_of_ne referenceDevice]
        have fallback : nextToFirst? gatewayMarker
            (gatewayMarker :: gateway :: referenceMarker :: parts) = some gateway :=
          nextToFirst?_append List.not_mem_nil gateway
        simp only [pairTokens, List.append_nil, List.cons_append, List.nil_append, passed, fallback,
          searchedKey, hidden, if_false]
        cases nextToFirst? deviceMarker parts <;> rfl

/-- A search of a well-formed channel for its key finds what its address pairs and the segments of
its reference decide. -/
theorem textualKey_of_spells {channel : String} {address : Address}
    (spells : Spells channel address) :
    textualKey channel =
      searchedKey address.addressing (address.segments ++ closing channel) := by
  have written := spells.channel_eq_written
  obtain ⟨addressed, gatewayKey, deviceKey, -⟩ := spells.1
  obtain ⟨nonempty, keys⟩ := spells.1.segments
  have plainParts : ∀ part ∈ address.segments ++ closing channel, delimiter ∉ part.toList := by
    intro part member
    rcases List.mem_append.1 member with segment | closes
    · exact (keys part segment).2
    · exact plain_closing part closes
  have filled : address.segments ++ closing channel ≠ [] := by simp [nonempty]
  generalize address.segments ++ closing channel = parts at written plainParts filled
  have plain := plain_spelling_iff.2 ⟨fun key present => (gatewayKey key present).2,
    fun key present => (deviceKey key present).2, plainParts⟩
  have tokens : { address with reference := "/".intercalate parts : Address }.channel =
      "/".intercalate (address.spelling parts) := channel_eq_intercalate filled rfl
  rw [← nextToFirst?_spelling address addressed parts, written, tokens]
  have device := keyAfter?_intercalate plain_markers.2.1 plain
  have gateway := keyAfter?_intercalate plain_markers.1 plain
  exact congrArg₂ (fun first second => (first.or second).getD "") device gateway

end Address

/-! ## The key that is found -/

/-- Data that claims gateway addressing is refused under the key that a search finds. -/
theorem Decision.toPlatform_of_gatewayData {gatewayKey : String} {manifests : Manifests}
    {message : Message} {address : Address} (data : address.kind.isData = true)
    (behind : address.addressing.gateway.isSome = true) :
    toPlatform gatewayKey manifests address message =
      .error (.mismatchedKey message.channel (Address.textualKey message.channel)) := by
  obtain ⟨direction, kind, ⟨gateway, device⟩, reference⟩ := address
  obtain ⟨key, rfl⟩ := Option.isSome_iff_exists.1 behind
  simp only at data
  cases device <;> simp [toPlatform, data, Address.depth, Addressing.depth?]

namespace Address

/-- **What a search of a channel finds** for the key, for every channel that is well formed.

* In front of a device pair alone it finds the key of the device, as the grammar does.
* Behind both pairs it finds the key of the device as well, unless the gateway is called `d`: then it
  finds `d`.
* Behind a gateway pair alone it finds `r` if the gateway is called `d`. Otherwise it goes by the
  reference as it stands in the channel, where a delimiter at the end leaves an empty part: it finds
  what stands next to the first part that is `d` and has another behind it, and the gateway's key if
  there is none.

This is the key under which data that claims gateway addressing is refused. -/
theorem search_finds_key {channel : String} {address : Address}
    (parsed : parse channel = .ok address) :
    let parts := address.segments ++ closing channel
    channel = { address with reference := "/".intercalate parts : Address }.channel ∧
      (∀ device, address.addressing = ⟨none, some device⟩ → textualKey channel = device) ∧
      (∀ gateway device, address.addressing = ⟨some gateway, some device⟩ →
        (gateway ≠ "d" → textualKey channel = device) ∧
        (gateway = "d" → textualKey channel = "d")) ∧
      (∀ gateway, address.addressing = ⟨some gateway, none⟩ →
        (gateway = "d" → textualKey channel = "r") ∧
        (gateway ≠ "d" →
          (∀ before next after, parts = before ++ "d" :: next :: after → "d" ∉ before →
            textualKey channel = next) ∧
          ("d" ∉ parts.dropLast → textualKey channel = gateway))) ∧
      ∀ (router : Router) (World : Type) (callees : Callees World) (payload : String)
        (world : World), address.direction = .toPlatform → address.kind.isData = true →
        address.addressing.gateway.isSome = true →
          router.route callees { channel, payload } world =
            (.dropped (.mismatchedKey channel (textualKey channel)), world) := by
  intro parts
  have spells := parse_eq_ok_iff.1 parsed
  have found := textualKey_of_spells spells
  refine ⟨spells.channel_eq_written, ?_, ?_, ?_, ?_⟩
  · intro device pairs
    rw [found, pairs]
    rfl
  · intro gateway device pairs
    rw [found, pairs]
    exact ⟨fun other => if_neg other, fun hidden => if_pos hidden⟩
  · intro gateway pairs
    rw [found, pairs]
    refine ⟨fun hidden => if_pos hidden, fun other => ?_⟩
    have visible : searchedKey ⟨some gateway, none⟩ parts =
        (nextToFirst? deviceMarker parts).getD gateway := if_neg other
    refine ⟨?_, fun unmarked => ?_⟩
    · intro before next after whole unmarked
      have marked : nextToFirst? deviceMarker parts = some next := by
        rw [whole]
        exact nextToFirst?_append unmarked next
      rw [visible, marked, Option.getD_some]
    · have absent : nextToFirst? deviceMarker parts = none := nextToFirst?_eq_none_iff.2 unmarked
      rw [visible, absent, Option.getD_none]
  · intro router World callees payload world direction data behind
    have decided : Decision.ofMessage router.profile.gatewayKey router.manifests
        { channel, payload } = .error (.mismatchedKey channel (textualKey channel)) := by
      rw [Decision.ofMessage_of_toPlatform spells direction,
        Decision.toPlatform_of_gatewayData data behind]
    simp only [Router.route, decided]

/-- The gateway's key is hidden by a segment `d`, and what follows that is the empty text at the end
of the channel. An alarm that comes in on it is dropped under the empty key. -/
theorem search_finds_key_among_markers :
    parse "d2p/events/g/d2p/r/x/d/" =
        .ok ⟨.toPlatform, .alarm, ⟨some "d2p", none⟩, "x/d"⟩ ∧
      textualKey "d2p/events/g/d2p/r/x/d/" = "" ∧
      ({ profile := { gatewayKey := "d2p" } } : Router).route
          { publish := fun _ _ world => (true, world), handle := fun _ world => world }
          ⟨"d2p/events/g/d2p/r/x/d/", "[]"⟩ () =
        (.dropped (.mismatchedKey "d2p/events/g/d2p/r/x/d/"
          (textualKey "d2p/events/g/d2p/r/x/d/")), ()) := by
  have parsed : parse "d2p/events/g/d2p/r/x/d/" =
      .ok ⟨.toPlatform, .alarm, ⟨some "d2p", none⟩, "x/d"⟩ := by decide +kernel
  obtain ⟨-, -, -, gateway, dropped⟩ := search_finds_key parsed
  obtain ⟨-, visible⟩ := gateway "d2p" rfl
  obtain ⟨next, -⟩ := visible (by decide)
  refine ⟨parsed, next ["x"] "" [] (by decide +kernel) (by decide), ?_⟩
  exact dropped _ Unit _ "[]" () rfl rfl rfl

end Address

end EdgeGateway
