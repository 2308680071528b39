import EdgeGateway.Proofs.Channel.Opening
import EdgeGateway.Proofs.Router.Table
import EdgeGateway.Proofs.Session.Reference

/-!
# What leaves a gateway

A `Departure` is a message that was offered to a sink, with the reason for it. `Sends` lists the
four ways in which a gateway addresses what it offers, whatever its key is: values that wait in a
lane, data of its own points, data of a device behind it, and a command for such a device.

Everything that routing decides to forward (`Decision.sends_of_ofMessage`) and every message that is
built of a batch (`sends_of_batchMessage`) is addressed in one of these ways.
-/

namespace EdgeGateway

/-- Why a message is offered to a sink. -/
inductive Origin where
  /-- It is what becomes of an inbound message. -/
  | inbound (message : Message)
  /-- It carries pending values. -/
  | backlog
  deriving DecidableEq, Repr

/-- A message that was offered to the sink of a side. -/
structure Departure where
  origin : Origin
  side : Side
  message : Message
  /-- Whether the sink accepted it. -/
  accepted : Bool
  deriving DecidableEq, Repr

/-- How a gateway with a key addresses what it sends to a side, by the reason for it. -/
inductive Sends (gatewayKey : String) : Origin → Side → Address → Prop where
  /-- Pending values of a lane go to the platform under the gateway's pair. Their reference may be
  any text, so the channel is sent only if it is well formed. -/
  | values {lane : Lane} {address found : Address} (direction : address.direction = .toPlatform)
      (kind : address.kind = lane.kind) (addressing : address.addressing = ⟨some gatewayKey, none⟩)
      (spells : Address.Spells address.channel found) :
      Sends gatewayKey .backlog .platform address
  /-- Data of the gateway's own points goes to the platform with its pair turned. -/
  | ownData {inbound : Message} {address : Address}
      (spells : Address.Spells inbound.channel address) (reports : address.ReportsDevice gatewayKey) :
      Sends gatewayKey (.inbound inbound) .platform
        { address with addressing := ⟨some gatewayKey, none⟩ }
  /-- Data of another device goes to the platform behind the gateway's pair. -/
  | deviceData {inbound : Message} {address : Address} {device : String}
      (spells : Address.Spells inbound.channel address) (reports : address.ReportsDevice device)
      (other : device ≠ gatewayKey) :
      Sends gatewayKey (.inbound inbound) .platform
        { address with addressing := ⟨some gatewayKey, some device⟩ }
  /-- A command for another device goes to the devices without the gateway's pair. -/
  | deviceCommand {inbound : Message} {address : Address} {device : String}
      (spells : Address.Spells inbound.channel address)
      (commands : address.CommandsGateway gatewayKey)
      (named : address.addressing.device = some device) (other : device ≠ gatewayKey) :
      Sends gatewayKey (.inbound inbound) .devices
        { address with addressing := ⟨none, some device⟩ }

/-- Whether a departure is addressed in one of the ways in which a gateway sends. -/
def Departure.Sent (gatewayKey : String) (departure : Departure) : Prop :=
  ∃ address, Sends gatewayKey departure.origin departure.side address ∧
    departure.message.channel = address.channel

/-! ## Routing and building -/

namespace Decision

variable {gatewayKey : String} {manifests : Manifests} {message sent : Message} {side chosen : Side}
  {address : Address}

/-- What is forwarded after a readdressing is on the channel that is written for the edited
address. -/
theorem forwarded_of_readdress {edit : Addressing → Option Addressing}
    (spells : Address.Spells message.channel address)
    (forwarded : forwarding side message (Channel.readdress edit message.channel) =
      .ok (.forward chosen sent)) :
    chosen = side ∧ ∃ addressing, edit address.addressing = some addressing ∧
      sent.channel = Address.channel { address with addressing } := by
  unfold forwarding Channel.readdress at forwarded
  rw [Address.ofChannel?_eq_some_iff.2 spells] at forwarded
  cases edited : edit address.addressing with
  | none => simp [edited] at forwarded
  | some addressing =>
    simp only [edited, Address.channel_ne_empty, if_false] at forwarded
    cases forwarded
    exact ⟨rfl, addressing, rfl, rfl⟩

/-- What is forwarded from the platform is a command for another device. -/
theorem sends_of_fromPlatform (spells : Address.Spells message.channel address)
    (direction : address.direction = .fromPlatform)
    (decided : fromPlatform gatewayKey address message = .ok (.forward side sent)) :
    ∃ address, Sends gatewayKey (.inbound message) side address ∧
      sent.channel = address.channel := by
  have unhandled : (Command.ofMessage address.kind message).map handle ≠ .ok (.forward side sent) := by
    cases Command.ofMessage address.kind message <;> exact fun same => nomatch same
  unfold fromPlatform at decided
  split at decided
  · cases decided
  · rename_i command
    split at decided
    · cases decided
    · split at decided
      · exact absurd decided unhandled
      · split at decided
        · exact absurd decided unhandled
        · rename_i other
          obtain ⟨rfl, addressing, edited, channel⟩ := forwarded_of_readdress spells decided
          -- The edit applies only to a pair of the gateway in front of a device pair.
          unfold Addressing.toDevice? at edited
          split at edited
          · rename_i key device pairs
            split at edited
            · rename_i own
              cases edited
              rw [pairs] at other
              refine ⟨_, .deviceCommand spells ⟨direction, by simpa using command, ?_⟩ ?_ ?_,
                channel⟩
              · rw [pairs, own]
              · rw [pairs]
              · simpa using other
            · cases edited
          · cases edited
      · cases decided

/-- What is forwarded towards the platform is data of the gateway's own points or of another
device. -/
theorem sends_of_toPlatform (spells : Address.Spells message.channel address)
    (direction : address.direction = .toPlatform)
    (decided : toPlatform gatewayKey manifests address message = .ok (.forward side sent)) :
    ∃ address, Sends gatewayKey (.inbound message) side address ∧
      sent.channel = address.channel := by
  unfold toPlatform at decided
  split at decided
  · cases decided
  · rename_i data
    split at decided
    · rename_i device depth named
      have reports : address.ReportsDevice device := ⟨direction, by simpa using data, depth, named⟩
      have pairs := reports.addressing_eq
      split at decided
      · rename_i own
        subst own
        obtain ⟨rfl, addressing, edited, channel⟩ := forwarded_of_readdress spells decided
        rw [pairs] at edited
        cases edited
        exact ⟨_, .ownData spells reports, channel⟩
      · rename_i other
        split at decided
        · cases decided
        · simp only at decided
          split at decided
          · obtain ⟨rfl, addressing, edited, channel⟩ := forwarded_of_readdress spells decided
            rw [pairs] at edited
            simp only [Addressing.throughGateway?] at edited
            split at edited
            · cases edited
            · cases edited
              exact ⟨_, .deviceData spells reports other, channel⟩
          · cases decided
    · cases decided

/-- What is forwarded is addressed in one of the ways in which a gateway sends. -/
theorem sends_of_ofMessage
    (decided : ofMessage gatewayKey manifests message = .ok (.forward side sent)) :
    ∃ address, Sends gatewayKey (.inbound message) side address ∧
      sent.channel = address.channel := by
  cases parsed : Address.parse message.channel with
  | error cause =>
    rw [ofMessage, parsed] at decided
    cases decided
  | ok address =>
    have spells : Address.Spells message.channel address := Address.parse_eq_ok_iff.1 parsed
    cases direction : address.direction with
    | fromPlatform =>
      rw [ofMessage_of_fromPlatform spells direction] at decided
      exact sends_of_fromPlatform spells direction decided
    | toPlatform =>
      rw [ofMessage_of_toPlatform spells direction] at decided
      exact sends_of_toPlatform spells direction decided

end Decision

/-- The message of a batch is addressed as pending values are. -/
theorem sends_of_batchMessage {profile : Profile} {lane : Lane} {key : String}
    {batch : List lane.Value} {message : Message}
    (built : profile.batchMessage lane key batch = .ok message) :
    ∃ address, Sends profile.gatewayKey .backlog .platform address ∧
      message.channel = address.channel := by
  have sent : ∀ {reference payload},
      Outbound.message lane.kind profile.ownAddressing reference payload = .ok message →
        ∃ address, Sends profile.gatewayKey .backlog .platform address ∧
          message.channel = address.channel := by
    intro reference payload built
    obtain ⟨⟨found, spells⟩, channel, -⟩ := Outbound.message_eq_ok_iff.1 built
    exact ⟨_, .values rfl rfl rfl spells, channel⟩
  cases lane with
  | readings =>
    have message : Outbound.readings profile.ownAddressing key batch = .ok message := built
    exact sent message
  | alarms =>
    have message : Outbound.alarms profile.ownAddressing key batch = .ok message := built
    exact sent message
  | statuses =>
    simp only [Profile.batchMessage] at built
    split at built
    · exact sent built
    · cases built
  | configurations =>
    simp only [Profile.batchMessage] at built
    split at built
    · exact sent built
    · cases built

end EdgeGateway
