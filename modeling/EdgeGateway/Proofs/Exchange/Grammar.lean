import EdgeGateway.Proofs.Exchange.Basic
import EdgeGateway.Settings.Basic

/-!
# What leaves a gateway is in the grammar

A gateway with valid settings has a proper key. What becomes of an inbound message then has a valid
address (`Sends.valid_of_inbound`), since its other parts were read from a channel. A channel that
is written for pending values may hold any reference, but it is sent only if it is well formed, and
then it spells the address pairs that were meant (`Sends.exists_spells_of_backlog`). So every
channel parses, to an address of its side (`departures_in_grammar`).
-/

namespace EdgeGateway

/-- The key of valid settings is a key. -/
theorem Settings.isKey_of_validate {settings : Settings} (valid : settings.validate = .ok ()) :
    Address.IsKey settings.gatewayKey := by
  by_contra improper
  simp [validate, checkKey, improper, bind, Except.bind] at valid

/-- The values of every lane travel as data. -/
theorem Lane.isData_kind (lane : Lane) : lane.kind.isData = true := by
  cases lane <;> rfl

/-- A channel that is written for pending values spells an address with the direction, the kind and
the address pairs that were meant, if the gateway's key is proper. -/
theorem Sends.exists_spells_of_backlog {gatewayKey : String} {side : Side} {address : Address}
    (sends : Sends gatewayKey .backlog side address)
    (proper : Address.IsKey gatewayKey) :
    ∃ found, Address.Spells address.channel found ∧ found.direction = .toPlatform ∧
      found.kind.isData = true ∧ found.addressing = ⟨some gatewayKey, none⟩ := by
  obtain ⟨direction, kind, addressing, spells⟩ := sends
  rename_i lane found
  obtain ⟨sameDirection, sameKind, -⟩ := Address.opening_of_spells_channel spells
  have data : found.kind.isData = true := by
    rw [sameKind, kind]
    exact lane.isData_kind
  refine ⟨found, spells, sameDirection.trans direction, data, ?_⟩
  rw [← addressing]
  refine Address.addressing_of_spells_channel ?_ ?_ spells
  · rw [addressing]
    rintro key ⟨⟩
    exact proper
  · rw [addressing]
    nofun

/-- What becomes of an inbound message has a valid address if the gateway's key is proper: the key
of the device and the reference are those that came in. -/
theorem Sends.valid_of_inbound {gatewayKey : String} {inbound : Message} {side : Side}
    {address : Address} (sends : Sends gatewayKey (.inbound inbound) side address)
    (proper : Address.IsKey gatewayKey) : address.Valid := by
  cases sends with
  | ownData spells reports =>
    refine ⟨.inl rfl, ?_, nofun, spells.1.reference⟩
    rintro key ⟨⟩
    exact proper
  | deviceData spells reports other =>
    refine ⟨.inl rfl, ?_, ?_, spells.1.reference⟩
    · rintro key ⟨⟩
      exact proper
    · rintro key ⟨⟩
      exact spells.1.device _ reports.device
  | deviceCommand spells commands named other =>
    refine ⟨.inr rfl, nofun, ?_, spells.1.reference⟩
    rintro key ⟨⟩
    exact spells.1.device _ named

namespace Exchange

variable {Backlog : Type → Type} [Store Backlog]

/-- **Everything that leaves a gateway is in the grammar.** Take a gateway with valid settings, over
queues or over journals, with any handlers and whatever may already wait in its outbox, and let
anything be done with it. Whether or not a sink accepts what it is offered, its channel is well
formed:

* what is offered to the platform's sink is data towards the platform with the gateway's key in the
  gateway pair. There is no device pair, or the message is what became of data that came in from
  that device, which has another key;
* what is offered to the devices' sink is a command from the platform with a device pair only, and
  the key in it is not the gateway's. -/
theorem departures_in_grammar {settings : Settings} (valid : settings.validate = .ok ())
    (handlers : Handlers) (outbox : Outbox Backlog) (moves : List Move) :
    let router : Router := ⟨settings.profile, handlers, settings.manifests⟩
    ∀ departure ∈ (run router outbox moves).departures,
      (departure.side = .platform → ∃ found,
        Address.parse departure.message.channel = .ok found ∧
          found.direction = .toPlatform ∧ found.kind.isData = true ∧
          (found.addressing = ⟨some settings.gatewayKey, none⟩ ∨
            ∃ inbound device, departure.origin = .inbound inbound ∧
              device ≠ settings.gatewayKey ∧
              Address.parse inbound.channel =
                .ok { found with addressing := ⟨none, some device⟩ } ∧
              found.addressing = ⟨some settings.gatewayKey, some device⟩)) ∧
      (departure.side = .devices → ∃ found device,
        Address.parse departure.message.channel = .ok found ∧
          found.direction = .fromPlatform ∧ found.kind.isCommand = true ∧
          found.addressing = ⟨none, some device⟩ ∧ device ≠ settings.gatewayKey) := by
  intro router departure departed
  have proper := Settings.isKey_of_validate valid
  obtain ⟨address, sends, channel⟩ : departure.Sent settings.gatewayKey := sent_of_run departed
  have parsed : ∀ {found}, Address.Spells address.channel found →
      Address.parse departure.message.channel = .ok found := by
    intro found spells
    rw [channel]
    exact Address.parse_eq_ok_iff.2 spells
  obtain ⟨origin, side, message, accepted⟩ := departure
  cases origin with
  | backlog =>
    obtain ⟨found, spells, direction, kind, addressing⟩ := sends.exists_spells_of_backlog proper
    cases sends
    exact ⟨fun _ => ⟨found, parsed spells, direction, kind, .inl addressing⟩, nofun⟩
  | inbound inbound =>
    have whole := parsed ⟨sends.valid_of_inbound proper, .inl rfl⟩
    cases sends with
    | ownData spells reports =>
      exact ⟨fun _ => ⟨_, whole, reports.direction, reports.kind, .inl rfl⟩, nofun⟩
    | @deviceData _ before device spells reports other =>
      have came : Address.parse inbound.channel =
          .ok { before with addressing := ⟨none, some device⟩ } := by
        rw [← reports.addressing_eq]
        exact Address.parse_eq_ok_iff.2 spells
      exact ⟨fun _ => ⟨_, whole, reports.direction, reports.kind,
        .inr ⟨inbound, device, rfl, other, came, rfl⟩⟩, nofun⟩
    | deviceCommand spells commands named other =>
      exact ⟨nofun, fun _ => ⟨_, _, whole, commands.direction, commands.kind, rfl, other⟩⟩

/-- Settings with one bound device. -/
def pumpSettings : Settings where
  gatewayKey := "GW"
  devices := [{ key := "pump", sensors := ["flow"] }]

/-- The device reports, is sent a command, and a reading of the gateway itself is published. Its
reference does not end as it should, and the sink refuses it. -/
def pumpMoves : List Move :=
  [.route { channel := "d2p/sensor_reading/d/pump/r/flow", payload := "1" } true,
    .route { channel := "p2d/actuator_set/g/GW/d/pump/r/speed", payload := "2" } true] ++
  List.map .depot
    [.put .readings "g/d/" ⟨"g/d/", ["3"], 0⟩, .call 0 [.readings], .drain 0 true, .drain 0 true,
      .drain 0 true, .drain 0 false]

/-- What is offered to the sinks, and what the channel of the reading spells. -/
theorem departures_in_grammar_of_pumpMoves :
    pumpSettings.validate = .ok () ∧
      ((run ⟨pumpSettings.profile, {}, pumpSettings.manifests⟩ (.fresh : Outbox Queues)
          pumpMoves).departures.map fun departure =>
            (departure.side, departure.message.channel, departure.accepted)) =
        [(.platform, "d2p/sensor_reading/g/GW/d/pump/r/flow", true),
          (.devices, "p2d/actuator_set/d/pump/r/speed", true),
          (.platform, "d2p/sensor_reading/g/GW/r/g/d/", false)] ∧
      ∃ found, Address.parse "d2p/sensor_reading/g/GW/r/g/d/" = .ok found ∧
        found.direction = .toPlatform ∧ found.kind.isData = true := by
  have valid : pumpSettings.validate = .ok () := by decide +kernel
  have departed : ∃ departure ∈ (run ⟨pumpSettings.profile, {}, pumpSettings.manifests⟩
      (.fresh : Outbox Queues) pumpMoves).departures, departure.side = .platform ∧
        departure.message.channel = "d2p/sensor_reading/g/GW/r/g/d/" := by
    decide +kernel
  refine ⟨valid, by decide +kernel, ?_⟩
  obtain ⟨departure, member, side, channel⟩ := departed
  obtain ⟨found, parsed, direction, kind, -⟩ :=
    (departures_in_grammar valid {} .fresh pumpMoves departure member).1 side
  exact ⟨found, channel ▸ parsed, direction, kind⟩

end Exchange

end EdgeGateway
