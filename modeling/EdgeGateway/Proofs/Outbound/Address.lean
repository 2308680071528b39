import EdgeGateway.Outbound
import EdgeGateway.Proofs.Channel.Opening

/-!
# What an outbound message is addressed to

A message is built if its channel is well formed and its payload can be written
(`message_eq_ok_iff`). With proper keys such a channel spells the direction, the kind and the
address pairs that were meant, whatever the reference is. It spells the reference as well, but for
one delimiter at its end: the grammar tolerates a final delimiter and takes that one for it
(`reference_of_spells`).

So a message is read as addressed to what it was built for (`message_parses_back`), unless its
reference ends with a delimiter: then it shares its address with the message for the reference
without that delimiter (`final_delimiter_is_lost`).
-/

namespace EdgeGateway

namespace Address

variable {address found : Address}

/-- A channel that is written with proper keys spells nothing but the address that it is written
for, except that it may leave one delimiter at the end of the reference to the channel. -/
theorem reference_of_spells_channel
    (gateway : ∀ key, address.addressing.gateway = some key → IsKey key)
    (device : ∀ key, address.addressing.device = some key → IsKey key)
    (spells : Spells address.channel found) :
    found = { address with reference := found.reference } ∧
      (address.reference = found.reference ∨ address.reference = found.reference ++ "/") := by
  obtain ⟨direction, kind, -⟩ := opening_of_spells_channel spells
  have pairs := addressing_of_spells_channel gateway device spells
  have same : found = { address with reference := found.reference } := by
    rw [← direction, ← kind, ← pairs]
  refine ⟨same, ?_⟩
  obtain ⟨-, written | longer⟩ := spells
  · left
    rw [same] at written
    simpa [channel, String.append_assoc] using written
  · right
    rw [same] at longer
    simpa [channel, String.append_assoc] using longer

end Address

namespace Outbound

/-- The address for which a message is built. -/
def address (kind : MessageKind) (addressing : Addressing) (reference : String) : Address :=
  { direction := .toPlatform, kind, addressing, reference }

section Message

variable {kind : MessageKind} {addressing : Addressing} {reference : String}
  {payload : Except PayloadError String} {message : Message}

/-- A message is built exactly if its channel spells an address and its payload can be written. -/
theorem message_eq_ok_iff :
    Outbound.message kind addressing reference payload = .ok message ↔
      (∃ found, Address.Spells (address kind addressing reference).channel found) ∧
        message.channel = (address kind addressing reference).channel ∧
        payload = .ok message.payload := by
  simp only [← Address.parse_eq_ok_iff, Outbound.message, Outbound.channel, address]
  obtain ⟨channel, text⟩ := message
  split
  · rename_i found parsed
    cases payload with
    | error cause => simp [bind, Except.bind]
    | ok payload => simp [bind, Except.bind, parsed, eq_comm]
  · rename_i cause refused
    simp [bind, Except.bind, refused]

/-- A message that is built has the channel of its address. -/
theorem channel_of_message
    (built : Outbound.message kind addressing reference payload = .ok message) :
    message.channel = (address kind addressing reference).channel :=
  (message_eq_ok_iff.1 built).2.1

end Message

/-- What a message towards the platform carries. -/
inductive Content where
  | readings (reference : String) (batch : List Reading)
  | alarms (reference : String) (batch : List Alarm)
  | status (status : ActuatorStatus)
  | configuration (item : ConfigurationItem)

namespace Content

/-- The kind of message that carries a content. -/
def kind : Content → MessageKind
  | .readings _ _ => .sensorReading
  | .alarms _ _ => .alarm
  | .status _ => .actuatorStatus
  | .configuration _ => .configurationGet

/-- The reference for which a content is meant. -/
def reference : Content → String
  | .readings reference _ | .alarms reference _ => reference
  | .status actuator => actuator.reference
  | .configuration item => item.key

/-- The payload of a content. -/
def payload : Content → Except PayloadError String
  | .readings _ batch => Payload.ofReadings batch
  | .alarms _ batch => Payload.ofAlarms batch
  | .status actuator => Payload.ofStatus actuator
  | .configuration item => Payload.ofConfiguration item

/-- The message of a content. -/
def message (addressing : Addressing) : Content → Except BuildError Message
  | .readings reference batch => Outbound.readings addressing reference batch
  | .alarms reference batch => Outbound.alarms addressing reference batch
  | .status actuator => Outbound.status addressing actuator
  | .configuration item => Outbound.configuration addressing item

/-- Contents differ in nothing but their kind, their reference and their payload. -/
theorem message_eq (addressing : Addressing) (content : Content) :
    content.message addressing =
      Outbound.message content.kind addressing content.reference content.payload := by
  cases content <;> rfl

end Content

/-- Whether the keys of the address pairs that are there obey the rule for keys. -/
def Keyed (addressing : Addressing) : Prop :=
  (∀ key, addressing.gateway = some key → Address.IsKey key) ∧
    ∀ key, addressing.device = some key → Address.IsKey key

variable {addressing : Addressing} {content : Content} {message : Message}

/-- A message that is built is read as addressed to its kind and its pairs, and to its reference but
for a final delimiter. -/
theorem exists_parse_of_message (keyed : Keyed addressing)
    (built : content.message addressing = .ok message) :
    ∃ reference, Address.parse message.channel = .ok (address content.kind addressing reference) ∧
      (content.reference = reference ∨ content.reference = reference ++ "/") := by
  rw [Content.message_eq] at built
  obtain ⟨⟨found, spells⟩, channel, -⟩ := message_eq_ok_iff.1 built
  obtain ⟨same, reference⟩ := Address.reference_of_spells_channel keyed.1 keyed.2 spells
  refine ⟨found.reference, ?_, reference⟩
  rw [channel, Address.parse_eq_ok_iff]
  rwa [same] at spells

/-- **An outbound message is read as addressed to what it was built for**, for all address pairs with
proper keys, every content and whatever its reference is.

* Direction, kind and address pairs are those that were meant. The reference is the one that was
  meant, or that without one delimiter at its end.
* A reference that does not end with a delimiter is read exactly.
* Two messages that are read as one address are of one kind and for the same pairs, and their
  references are the same but for a delimiter at the end of one of them. -/
theorem message_parses_back (keyed : Keyed addressing)
    (built : content.message addressing = .ok message) :
    (∃ reference, Address.parse message.channel = .ok (address content.kind addressing reference) ∧
      (content.reference = reference ∨ content.reference = reference ++ "/")) ∧
    (content.reference.toList.getLast? ≠ some '/' →
      Address.parse message.channel = .ok (address content.kind addressing content.reference)) ∧
    ∀ (otherAddressing : Addressing) (other : Content) (otherMessage : Message),
      Keyed otherAddressing → other.message otherAddressing = .ok otherMessage →
      Address.parse otherMessage.channel = Address.parse message.channel →
        other.kind = content.kind ∧ otherAddressing = addressing ∧
          (other.reference = content.reference ∨ other.reference = content.reference ++ "/" ∨
            content.reference = other.reference ++ "/") := by
  obtain ⟨reference, parsed, meant⟩ := exists_parse_of_message keyed built
  refine ⟨⟨reference, parsed, meant⟩, fun unended => ?_, ?_⟩
  · rcases meant with same | longer
    · rwa [same]
    · exact absurd (by simp [longer]) unended
  · intro otherAddressing other otherMessage otherKeyed otherBuilt same
    obtain ⟨otherReference, otherParsed, otherMeant⟩ := exists_parse_of_message otherKeyed otherBuilt
    rw [otherParsed, parsed, Except.ok.injEq] at same
    simp only [address, Address.mk.injEq, true_and] at same
    obtain ⟨kind, pairs, rfl⟩ := same
    refine ⟨kind, pairs, ?_⟩
    rcases meant with meant | meant <;> rcases otherMeant with otherMeant | otherMeant <;>
      simp [meant, otherMeant]

/-- A status of the point `g/d/r` of a device behind a gateway. The pairs and the reference spell the
markers, and the message is read as what was meant. -/
theorem message_parses_back_among_markers :
    Keyed ⟨some "d", some "r"⟩ ∧
      Content.message ⟨some "d", some "r"⟩ (.status ⟨"g/d/r", "1", .ready⟩) =
        .ok ⟨"d2p/actuator_status/g/d/d/r/r/g/d/r",
          "\x7b\"status\":\"READY\",\"value\":\"1\"\x7d"⟩ ∧
      Address.parse "d2p/actuator_status/g/d/d/r/r/g/d/r" =
        .ok (address .actuatorStatus ⟨some "d", some "r"⟩ "g/d/r") := by
  have keyed : Keyed ⟨some "d", some "r"⟩ := by
    constructor <;> rintro key ⟨⟩ <;> decide
  have built : Content.message ⟨some "d", some "r"⟩ (.status ⟨"g/d/r", "1", .ready⟩) =
      .ok ⟨"d2p/actuator_status/g/d/d/r/r/g/d/r",
        "\x7b\"status\":\"READY\",\"value\":\"1\"\x7d"⟩ := by decide +kernel
  obtain ⟨-, exact, -⟩ := message_parses_back keyed built
  exact ⟨keyed, built, exact (by decide)⟩

/-- A final delimiter of a reference is lost: readings for `T/` make a message, but what they are
read for is `T`, and readings for `T` make another message that is read as the same address. -/
theorem final_delimiter_is_lost :
    Outbound.readings ⟨some "GW", none⟩ "T/" [⟨"T/", ["1"], 0⟩] =
        .ok ⟨"d2p/sensor_reading/g/GW/r/T/", "[\x7b\"data\":\"1\"\x7d]"⟩ ∧
      Address.parse "d2p/sensor_reading/g/GW/r/T/" ≠
        .ok (address .sensorReading ⟨some "GW", none⟩ "T/") ∧
      Outbound.readings ⟨some "GW", none⟩ "T" [⟨"T", ["1"], 0⟩] =
        .ok ⟨"d2p/sensor_reading/g/GW/r/T", "[\x7b\"data\":\"1\"\x7d]"⟩ ∧
      Address.parse "d2p/sensor_reading/g/GW/r/T/" = Address.parse "d2p/sensor_reading/g/GW/r/T" := by
  decide +kernel

end Outbound

end EdgeGateway
