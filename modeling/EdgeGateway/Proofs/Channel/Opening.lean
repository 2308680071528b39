import EdgeGateway.Proofs.Channel.Grammar

/-!
# How a channel that is written down begins

Keys and references that come from outside may be any text, and the channel that is written with
them need not spell the address that was meant. Its first tokens are still known: a part without
delimiters that is followed by one is a token. `opening_of_spells_channel` says what this fixes for
every address that such a channel spells; with proper keys it is everything but the reference
(`addressing_of_spells_channel`).
-/

namespace EdgeGateway

namespace Text

/-- Dropping a final delimiter behind a delimiter leaves what stands before them, with the delimiter
if anything follows it. -/
theorem dropFinal_append_cons (delimiter : Char) (text rest : List Char) :
    dropFinal delimiter (text ++ delimiter :: rest) =
      if rest = [] then text else text ++ delimiter :: dropFinal delimiter rest := by
  cases rest with
  | nil => exact dropFinal_append_singleton delimiter text
  | cons character rest =>
    have last : (text ++ delimiter :: character :: rest).getLast? =
        (character :: rest).getLast? := by
      rw [List.getLast?_append_cons, List.getLast?_cons_cons]
    unfold dropFinal
    rw [last]
    split
    · simp [List.dropLast_append_of_ne_nil]
    · rfl

end Text

namespace Address

/-- A part without delimiters is the first token of a channel in which a delimiter follows it. What
stands behind the delimiter gives the other tokens. -/
theorem tokens_append {part rest : String} (plain : delimiter ∉ part.toList) :
    tokens (part ++ "/" ++ rest) = part :: if rest = "" then [] else tokens rest := by
  have slash : (part ++ "/" ++ rest).toList = part.toList ++ delimiter :: rest.toList := by
    simp [delimiter]
  unfold tokens
  rw [slash, Text.dropFinal_append_cons]
  by_cases last : rest = ""
  · have split : ([delimiter].intercalate [part.toList]).splitOn delimiter = [part.toList] :=
      List.splitOn_intercalate delimiter (by simpa using plain) (List.cons_ne_nil _ _)
    rw [List.intercalate_singleton] at split
    simp [last, split]
  · simp [last, List.splitOn_append_cons_self_of_not_mem plain]

/-- The address pairs and the reference of an address as they stand in its channel. -/
def body (address : Address) : String :=
  pairText gatewayMarker address.addressing.gateway
    ++ (pairText deviceMarker address.addressing.device
      ++ (referenceMarker ++ "/" ++ address.reference))

/-- The markers contain no delimiter. -/
theorem plain_markers : delimiter ∉ gatewayMarker.toList ∧ delimiter ∉ deviceMarker.toList ∧
    delimiter ∉ referenceMarker.toList := by
  decide

/-- The first token of a reference with its marker is the marker. -/
theorem tokens_reference (reference : String) :
    ∃ segments, tokens (referenceMarker ++ "/" ++ reference) = referenceMarker :: segments :=
  ⟨_, tokens_append plain_markers.2.2⟩

/-- Behind an address pair something follows in every channel. -/
theorem append_reference_ne_empty (front reference : String) :
    front ++ (referenceMarker ++ "/" ++ reference) ≠ "" := by
  simp [referenceMarker]

/-- An address pair with a proper key is two tokens, and an absent one none. -/
theorem tokens_pairText {marker rest : String} {pair : Option String}
    (plain : delimiter ∉ marker.toList) (keys : ∀ key, pair = some key → IsKey key)
    (more : rest ≠ "") :
    tokens (pairText marker pair ++ rest) = pairTokens marker pair ++ tokens rest := by
  cases pair with
  | none => simp [pairText, pairTokens]
  | some key =>
    have proper : IsKey key := keys key rfl
    have written : pairText marker (some key) ++ rest = marker ++ "/" ++ (key ++ "/" ++ rest) := by
      simp [pairText, String.append_assoc]
    rw [written, tokens_append plain, if_neg (by simp), tokens_append proper.2, if_neg more]
    rfl

/-- The first token behind direction and kind says whether a gateway pair follows. -/
theorem head?_tokens_body (address : Address) :
    (tokens address.body).head? = some gatewayMarker ↔
      address.addressing.gateway.isSome = true := by
  obtain ⟨plainGateway, plainDevice, plainReference⟩ := plain_markers
  obtain ⟨direction, kind, ⟨gateway, device⟩, reference⟩ := address
  cases gateway with
  | some key =>
    have written : body ⟨direction, kind, ⟨some key, device⟩, reference⟩ =
        gatewayMarker ++ "/" ++ (key ++ "/" ++ (pairText deviceMarker device
          ++ (referenceMarker ++ "/" ++ reference))) := by
      simp [body, pairText, String.append_assoc]
    rw [written, tokens_append plainGateway]
    simp
  | none =>
    cases device with
    | some key =>
      have written : body ⟨direction, kind, ⟨none, some key⟩, reference⟩ =
          deviceMarker ++ "/" ++ (key ++ "/" ++ (referenceMarker ++ "/" ++ reference)) := by
        simp [body, pairText, String.append_assoc]
      rw [written, tokens_append plainDevice]
      simp [deviceMarker, gatewayMarker]
    | none =>
      have written : body ⟨direction, kind, ⟨none, none⟩, reference⟩ =
          referenceMarker ++ "/" ++ reference := by
        simp [body, pairText]
      rw [written, tokens_append plainReference]
      simp [referenceMarker, gatewayMarker]

/-- Direction and kind are the first tokens of the channel of an address. -/
theorem tokens_channel (address : Address) :
    tokens address.channel =
      address.direction.token :: address.kind.token :: tokens address.body := by
  have plainDirection : delimiter ∉ address.direction.token.toList := by
    cases address.direction <;> decide
  have plainKind : delimiter ∉ address.kind.token.toList := by
    cases address.kind <;> decide
  have filled : address.body ≠ "" := by
    unfold body
    rw [← String.append_assoc]
    exact append_reference_ne_empty _ _
  have written : address.channel =
      address.direction.token ++ "/" ++ (address.kind.token ++ "/" ++ address.body) := by
    simp [channel, body, String.append_assoc]
  rw [written, tokens_append plainDirection, if_neg (by simp), tokens_append plainKind,
    if_neg filled]

/-- The tokens of a channel that spells an address are the spelling of the address. -/
theorem Spells.exists_spelling {channel : String} {address : Address}
    (spells : Spells channel address) :
    ∃ segments, tokens channel = address.spelling segments := by
  obtain ⟨-, -, -, segments, -, -, -, tokens⟩ :=
    ofTokens?_eq_some_iff.1 (ofChannel?_eq_some_iff.2 spells)
  exact ⟨segments, tokens⟩

/-- Whatever keys and reference a channel is written with, an address that it spells has the
direction and the kind that were meant, and a gateway pair exactly if one was meant. -/
theorem opening_of_spells_channel {address found : Address}
    (spells : Spells address.channel found) :
    found.direction = address.direction ∧ found.kind = address.kind ∧
      found.addressing.gateway.isSome = address.addressing.gateway.isSome := by
  obtain ⟨segments, spelling⟩ := spells.exists_spelling
  rw [tokens_channel] at spelling
  obtain ⟨direction, rest⟩ := List.cons.inj spelling
  obtain ⟨kind, pairs⟩ := List.cons.inj rest
  have sameDirection : found.direction = address.direction := by
    have read := Direction.ofToken?_eq_some_iff.2 direction
    rw [Direction.ofToken?_eq_some_iff.2 rfl] at read
    exact Option.some.inj read
  have sameKind : found.kind = address.kind := by
    have read := MessageKind.ofToken?_eq_some_iff.2 kind
    rw [MessageKind.ofToken?_eq_some_iff.2 rfl] at read
    exact Option.some.inj read
  refine ⟨sameDirection, sameKind, ?_⟩
  rw [Bool.eq_iff_iff, ← head?_tokens_body address, pairs]
  obtain ⟨_, _, ⟨gateway, device⟩, _⟩ := found
  cases gateway <;> cases device <;>
    simp [pairTokens, gatewayMarker, deviceMarker, referenceMarker]

/-- Tokens of address pairs in front of a reference marker belong to one pair of pairs. -/
theorem addressing_of_pairTokens {first second : Addressing} {others segments : List String}
    (same : pairTokens gatewayMarker first.gateway
        ++ (pairTokens deviceMarker first.device ++ referenceMarker :: others) =
      pairTokens gatewayMarker second.gateway ++ pairTokens deviceMarker second.device
        ++ referenceMarker :: segments) : second = first := by
  obtain ⟨gateway, device⟩ := first
  obtain ⟨otherGateway, otherDevice⟩ := second
  cases gateway <;> cases device <;> cases otherGateway <;> cases otherDevice <;>
    simp_all [pairTokens, gatewayMarker, deviceMarker, referenceMarker]

/-- A channel that is written with proper keys spells no other address pairs, whatever its
reference. -/
theorem addressing_of_spells_channel {address found : Address}
    (gateway : ∀ key, address.addressing.gateway = some key → IsKey key)
    (device : ∀ key, address.addressing.device = some key → IsKey key)
    (spells : Spells address.channel found) : found.addressing = address.addressing := by
  obtain ⟨plainGateway, plainDevice, -⟩ := plain_markers
  obtain ⟨segments, spelling⟩ := spells.exists_spelling
  obtain ⟨others, reference⟩ := tokens_reference address.reference
  rw [tokens_channel, body, tokens_pairText plainGateway gateway (append_reference_ne_empty _ _),
    tokens_pairText plainDevice device (by simp [referenceMarker]), reference] at spelling
  exact addressing_of_pairTokens (List.cons.inj (List.cons.inj spelling).2).2

end Address

end EdgeGateway
