import EdgeGateway.Channel.Readdress
import EdgeGateway.Proofs.Channel.Reference

/-!
# Re-addressing and back

A `Transform` is one of the four ways to re-address a channel. What it does is said of addresses:
`Applies` when it can be used, `pairs` what it makes of the address pairs. Everything else about an
address stays, and so does the reference that a search of the channel finds
(`readdressing_is_reversible`).

The transforms come in two couples that undo each other. None can be used twice in a row: the depth
of an address that it has edited is not one that it edits.
-/

namespace EdgeGateway

namespace Channel

variable {edit : Addressing → Option Addressing} {channel : String} {address : Address}
  {pairs : Addressing}

/-- Where an edit applies, re-addressing gives what is written for the edited address. -/
theorem readdress_of_spells (spells : Address.Spells channel address)
    (edited : edit address.addressing = some pairs) :
    readdress edit channel = Address.channel { address with addressing := pairs } := by
  simp only [readdress, Address.ofChannel?_eq_some_iff.2 spells, edited]

/-- Re-addressing gives a channel exactly if the channel is well formed and the edit applies. -/
theorem readdress_ne_empty_iff :
    readdress edit channel ≠ "" ↔
      ∃ address pairs, Address.Spells channel address ∧ edit address.addressing = some pairs := by
  constructor
  · intro filled
    unfold readdress at filled
    split at filled
    · exact absurd rfl filled
    · rename_i address parsed
      split at filled
      · exact absurd rfl filled
      · rename_i pairs edited
        exact ⟨address, pairs, Address.ofChannel?_eq_some_iff.1 parsed, edited⟩
  · rintro ⟨address, pairs, spells, edited⟩
    rw [readdress_of_spells spells edited]
    exact Address.channel_ne_empty _

end Channel

/-- The ways to re-address a channel. -/
inductive Transform where
  /-- Drops the gateway's own pair in front of a device pair. -/
  | toDevice
  /-- Puts the gateway's own pair in front of a device pair. -/
  | throughGateway
  /-- Turns a device channel into the gateway channel of the same key. -/
  | collapse
  /-- Turns a gateway channel into the device channel of the same key. -/
  | expand
  deriving DecidableEq, Repr

namespace Transform

/-- A channel re-addressed, for a gateway with a key. -/
def apply (gatewayKey : String) : Transform → String → String
  | toDevice, channel => Channel.toDevice channel gatewayKey
  | throughGateway, channel => Channel.throughGateway channel gatewayKey
  | collapse, channel => Channel.collapse channel
  | expand, channel => Channel.expand channel

/-- The transform that undoes a transform. -/
def inverse : Transform → Transform
  | toDevice => throughGateway
  | throughGateway => toDevice
  | collapse => expand
  | expand => collapse

/-- Whether a transform can be used on an address. -/
def Applies (gatewayKey : String) (address : Address) : Transform → Prop
  | toDevice => address.depth = .gatewayDevice ∧ address.addressing.gateway = some gatewayKey
  | throughGateway => address.depth = .device
  | collapse => address.depth = .device
  | expand => address.depth = .gateway

/-- What becomes of the address pairs. -/
def pairs (gatewayKey : String) (addressing : Addressing) : Transform → Addressing
  | toDevice => ⟨none, addressing.device⟩
  | throughGateway => ⟨some gatewayKey, addressing.device⟩
  | collapse => ⟨addressing.device, none⟩
  | expand => ⟨none, addressing.gateway⟩

/-- The address with its pairs edited. -/
def edited (gatewayKey : String) (transform : Transform) (address : Address) : Address :=
  { address with addressing := transform.pairs gatewayKey address.addressing }

/-- The edit of the address pairs that a transform makes where it can. -/
def edit? (gatewayKey : String) : Transform → Addressing → Option Addressing
  | toDevice => Addressing.toDevice? gatewayKey
  | throughGateway => Addressing.throughGateway? gatewayKey
  | collapse => Addressing.collapse?
  | expand => Addressing.expand?

variable {gatewayKey : String} {transform : Transform} {address : Address} {channel : String}

/-- Transforms differ in nothing but their edits. -/
theorem apply_eq_readdress :
    transform.apply gatewayKey channel =
      Channel.readdress (transform.edit? gatewayKey) channel := by
  cases transform <;> rfl

/-- The edit applies where the transform does, and gives the pairs that it should. -/
theorem edit?_eq_some_iff (key : gatewayKey ≠ "") (valid : address.Valid) {found : Addressing} :
    transform.edit? gatewayKey address.addressing = some found ↔
      transform.Applies gatewayKey address ∧
        found = transform.pairs gatewayKey address.addressing := by
  have addressed := valid.addressed
  obtain ⟨direction, kind, ⟨gateway, device⟩, reference⟩ := address
  cases transform <;> cases gateway <;> cases device <;>
    simp_all [edit?, Applies, pairs, Address.depth, Addressing.depth?, Addressing.toDevice?,
      Addressing.throughGateway?, Addressing.collapse?, Addressing.expand?, eq_comm]

/-- An edited address is valid. -/
theorem valid_edited (key : Address.IsKey gatewayKey) (valid : address.Valid)
    (applies : transform.Applies gatewayKey address) :
    (transform.edited gatewayKey address).Valid := by
  obtain ⟨addressed, gateway, device, isReference⟩ := valid
  obtain ⟨direction, kind, ⟨gatewayPair, devicePair⟩, reference⟩ := address
  refine ⟨?_, ?_, ?_, isReference⟩ <;>
    cases transform <;> cases gatewayPair <;> cases devicePair <;>
      simp_all [edited, Applies, pairs, Address.depth, Addressing.depth?]

/-- The inverse of a transform can be used on an address that the transform has edited. -/
theorem applies_inverse (valid : address.Valid) (applies : transform.Applies gatewayKey address) :
    transform.inverse.Applies gatewayKey (transform.edited gatewayKey address) := by
  have addressed := valid.addressed
  obtain ⟨direction, kind, ⟨gateway, device⟩, reference⟩ := address
  cases transform <;> cases gateway <;> cases device <;>
    simp_all [edited, inverse, Applies, pairs, Address.depth, Addressing.depth?]

/-- It gives the address back. -/
theorem edited_inverse (valid : address.Valid) (applies : transform.Applies gatewayKey address) :
    transform.inverse.edited gatewayKey (transform.edited gatewayKey address) = address := by
  have addressed := valid.addressed
  obtain ⟨direction, kind, ⟨gateway, device⟩, reference⟩ := address
  cases transform <;> cases gateway <;> cases device <;>
    simp_all [edited, inverse, Applies, pairs, Address.depth, Addressing.depth?]

/-- A transform cannot be used on an address that it has edited itself. -/
theorem not_applies_edited (valid : address.Valid)
    (applies : transform.Applies gatewayKey address) :
    ¬ transform.Applies gatewayKey (transform.edited gatewayKey address) := by
  have addressed := valid.addressed
  obtain ⟨direction, kind, ⟨gateway, device⟩, reference⟩ := address
  cases transform <;> cases gateway <;> cases device <;>
    simp_all [edited, Applies, pairs, Address.depth, Addressing.depth?]

/-- Where a transform can be used, it gives what is written for the edited address. -/
theorem apply_of_applies (key : gatewayKey ≠ "") (spells : Address.Spells channel address)
    (applies : transform.Applies gatewayKey address) :
    transform.apply gatewayKey channel = (transform.edited gatewayKey address).channel := by
  rw [apply_eq_readdress]
  exact Channel.readdress_of_spells spells ((edit?_eq_some_iff key spells.1).2 ⟨applies, rfl⟩)

/-- A transform gives a channel exactly for a well-formed channel on which it can be used. -/
theorem apply_ne_empty_iff (key : gatewayKey ≠ "") :
    transform.apply gatewayKey channel ≠ "" ↔
      ∃ address, Address.Spells channel address ∧ transform.Applies gatewayKey address := by
  rw [apply_eq_readdress, Channel.readdress_ne_empty_iff]
  constructor
  · rintro ⟨address, pairs, spells, edited⟩
    exact ⟨address, spells, ((edit?_eq_some_iff key spells.1).1 edited).1⟩
  · rintro ⟨address, spells, applies⟩
    exact ⟨address, _, spells, (edit?_eq_some_iff key spells.1).2 ⟨applies, rfl⟩⟩

/-- The edited address is what the new channel spells. -/
theorem spells_apply (key : Address.IsKey gatewayKey) (spells : Address.Spells channel address)
    (applies : transform.Applies gatewayKey address) :
    Address.Spells (transform.apply gatewayKey channel) (transform.edited gatewayKey address) :=
  ⟨valid_edited key spells.1 applies, .inl (apply_of_applies key.1 spells applies)⟩

/-- A transform finds nothing to do in what it has given. -/
theorem apply_apply (key : Address.IsKey gatewayKey) (transform : Transform) (channel : String) :
    transform.apply gatewayKey (transform.apply gatewayKey channel) = "" := by
  by_contra filled
  obtain ⟨found, spellsFound, appliesFound⟩ := (apply_ne_empty_iff key.1).1 filled
  obtain ⟨address, spells, applies⟩ := (apply_ne_empty_iff key.1).1 spellsFound.ne_empty
  obtain rfl := spellsFound.eq (spells_apply key spells applies)
  exact not_applies_edited spells.1 applies appliesFound

/-- **Re-addressing is reversible** and touches nothing but the address pairs, for every channel
and every proper key of the gateway.

* A transform gives a channel exactly for a well-formed channel on which it can be used.
* That channel is well formed, for the address with its pairs edited: direction, kind and reference
  are those of the channel that came in. So is the reference that a search of the channel finds.
* The transform that undoes it gives back the channel that came in, without the delimiter that may
  stand at its end.
* A transform finds nothing to do in what it has given itself. -/
theorem readdressing_is_reversible {gatewayKey : String} (key : Address.IsKey gatewayKey)
    (channel : String) (transform : Transform) :
    (transform.apply gatewayKey channel ≠ "" ↔
        ∃ address, Address.parse channel = .ok address ∧ transform.Applies gatewayKey address) ∧
      (∀ address, Address.parse channel = .ok address → transform.Applies gatewayKey address →
        Address.parse (transform.apply gatewayKey channel) =
          .ok { address with addressing := transform.pairs gatewayKey address.addressing } ∧
        Address.textualReference (transform.apply gatewayKey channel) =
          Address.textualReference channel ∧
        transform.inverse.apply gatewayKey (transform.apply gatewayKey channel) =
          String.ofList (Text.dropFinal Address.delimiter channel.toList)) ∧
      transform.apply gatewayKey (transform.apply gatewayKey channel) = "" := by
  refine ⟨?_, fun address parsed applies => ?_, apply_apply key transform channel⟩
  · simp only [Address.parse_eq_ok_iff]
    exact apply_ne_empty_iff key.1
  · have spells := Address.parse_eq_ok_iff.1 parsed
    have spellsEdited := spells_apply key spells applies
    refine ⟨Address.parse_eq_ok_iff.2 spellsEdited,
      Address.textualReference_congr spells spellsEdited rfl, ?_⟩
    · rw [apply_of_applies key.1 spellsEdited (applies_inverse spells.1 applies),
        edited_inverse spells.1 applies, spells.dropFinal_eq, String.ofList_toList]

/-- A command for the device `g` of the gateway `r`. Its reference begins with the marker of
references, and the channel ends with a delimiter. -/
theorem readdressing_is_reversible_among_markers :
    Address.IsKey "r" ∧
      toDevice.apply "r" "p2d/actuator_set/g/r/d/g/r/r/d/" ≠ "" ∧
      Address.parse (toDevice.apply "r" "p2d/actuator_set/g/r/d/g/r/r/d/") =
        .ok ⟨.fromPlatform, .actuatorSet, ⟨none, some "g"⟩, "r/d"⟩ ∧
      throughGateway.apply "r" (toDevice.apply "r" "p2d/actuator_set/g/r/d/g/r/r/d/") =
        "p2d/actuator_set/g/r/d/g/r/r/d" ∧
      toDevice.apply "r" (toDevice.apply "r" "p2d/actuator_set/g/r/d/g/r/r/d/") = "" := by
  have key : Address.IsKey "r" := by decide
  have parsed : Address.parse "p2d/actuator_set/g/r/d/g/r/r/d/" =
      .ok ⟨.fromPlatform, .actuatorSet, ⟨some "r", some "g"⟩, "r/d"⟩ := by decide +kernel
  have applies : toDevice.Applies "r"
      ⟨.fromPlatform, .actuatorSet, ⟨some "r", some "g"⟩, "r/d"⟩ := ⟨rfl, rfl⟩
  obtain ⟨filled, reversed, twice⟩ :=
    readdressing_is_reversible key "p2d/actuator_set/g/r/d/g/r/r/d/" toDevice
  obtain ⟨edited, -, back⟩ := reversed _ parsed applies
  exact ⟨key, filled.2 ⟨_, parsed, applies⟩, edited, back.trans (by decide +kernel), twice⟩

end Transform

end EdgeGateway
