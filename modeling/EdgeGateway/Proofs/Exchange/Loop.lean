import EdgeGateway.Proofs.Exchange.Basic

/-!
# No message comes back

A gateway is addressed by commands that carry its pair and by data that carries a device pair only.
What it sends is never addressed like that: its data carries its own pair, and its commands carry
none (`Sends.outgoing`). The first tokens of a channel decide which of the two it is, whatever the
keys and the reference are, so a channel that has been sent is refused when a message comes in on it
(`departures_are_dropped`). Which devices are bound does not matter.
-/

namespace EdgeGateway

/-- Whether an address is one that messages have when a gateway has sent them: data behind a gateway
pair, or a command without one. -/
def Address.Outgoing (address : Address) : Prop :=
  match address.direction with
  | .toPlatform => address.addressing.gateway.isSome = true
  | .fromPlatform => address.addressing.gateway.isSome = false

/-- Everything that a gateway sends is addressed as outgoing. -/
theorem Sends.outgoing {gatewayKey : String} {origin : Origin} {side : Side} {address : Address}
    (sends : Sends gatewayKey origin side address) : address.Outgoing := by
  unfold Address.Outgoing
  cases sends with
  | values direction kind addressing spells =>
    rw [direction, addressing]
    rfl
  | ownData spells reports =>
    simp only [reports.direction]
    rfl
  | deviceData spells reports other =>
    simp only [reports.direction]
    rfl
  | deviceCommand spells commands named other =>
    simp only [commands.direction]
    rfl

/-- A channel that was written for an outgoing address spells no other address than an outgoing
one. -/
theorem Address.Outgoing.of_spells {address found : Address} (outgoing : address.Outgoing)
    (spells : Address.Spells address.channel found) : found.Outgoing := by
  obtain ⟨direction, -, gateway⟩ := Address.opening_of_spells_channel spells
  unfold Address.Outgoing
  rw [direction, gateway]
  exact outgoing

namespace Decision

variable {gatewayKey : String} {manifests : Manifests} {message : Message} {address : Address}

/-- A command without a gateway pair is refused, also by a gateway with an empty key. -/
theorem fromPlatform_of_no_gateway (absent : address.addressing.gateway = none) :
    ∃ cause, fromPlatform gatewayKey address message = .error cause := by
  unfold fromPlatform
  split
  · exact ⟨_, rfl⟩
  · split
    · exact ⟨_, rfl⟩
    · have depth : address.depth = .device := by
        obtain ⟨direction, kind, ⟨gateway, device⟩, reference⟩ := address
        simp only at absent
        subst absent
        cases device <;> rfl
      rw [depth]
      exact ⟨_, rfl⟩

/-- Data behind a gateway pair is refused. -/
theorem toPlatform_of_gateway (present : address.addressing.gateway.isSome = true) :
    ∃ cause, toPlatform gatewayKey manifests address message = .error cause := by
  unfold toPlatform
  split
  · exact ⟨_, rfl⟩
  · have deeper : address.depth ≠ .device := by
      obtain ⟨direction, kind, ⟨gateway, device⟩, reference⟩ := address
      obtain ⟨key, rfl⟩ := Option.isSome_iff_exists.1 present
      cases device <;> nofun
    split
    · rename_i depth _
      exact absurd depth deeper
    · exact ⟨_, rfl⟩

/-- A message is refused if its channel spells nothing but outgoing addresses. -/
theorem ofMessage_of_outgoing
    (outgoing : ∀ address, Address.Spells message.channel address → address.Outgoing) :
    ∃ cause, ofMessage gatewayKey manifests message = .error cause := by
  cases parsed : Address.parse message.channel with
  | error cause =>
    refine ⟨cause, ?_⟩
    rw [ofMessage, parsed]
    rfl
  | ok address =>
    have spells := Address.parse_eq_ok_iff.1 parsed
    have sent := outgoing address spells
    unfold Address.Outgoing at sent
    cases direction : address.direction with
    | fromPlatform =>
      rw [direction] at sent
      rw [ofMessage_of_fromPlatform spells direction]
      exact fromPlatform_of_no_gateway (Option.isNone_iff_eq_none.1 (by simpa using sent))
    | toPlatform =>
      rw [direction] at sent
      rw [ofMessage_of_toPlatform spells direction]
      exact toPlatform_of_gateway sent

end Decision

namespace Exchange

variable {Backlog : Type → Type} [Store Backlog] {World : Type}

/-- **No message comes back.** Let anything be done with a router, whatever its key, its manifests
and its backlog are, and take any channel on which it has offered a message to a sink, for whatever
reason and whether or not it was accepted. However things go on, a message that comes in on that
channel is dropped, and neither a handler nor a sink is called. -/
theorem departures_are_dropped {router : Router} {outbox : Outbox Backlog} {moves : List Move}
    {departure : Departure} (departed : departure ∈ (run router outbox moves).departures)
    (later : List Move) (callees : Callees World) (payload : String) (world : World) :
    ∃ cause, (run router outbox (moves ++ later)).router.observe callees
      { channel := departure.message.channel, payload } world = (.dropped cause, []) := by
  obtain ⟨address, sends, channel⟩ := sent_of_run departed
  have outgoing : ∀ found, Address.Spells departure.message.channel found → found.Outgoing := by
    intro found spells
    rw [channel] at spells
    exact sends.outgoing.of_spells spells
  have refused : ∀ gatewayKey manifests, ∃ cause, Decision.ofMessage gatewayKey manifests
      { channel := departure.message.channel, payload } = .error cause :=
    fun _ _ => Decision.ofMessage_of_outgoing outgoing
  obtain ⟨cause, decided⟩ := refused _ _
  refine ⟨cause, ?_⟩
  rw [Router.observe_eq_seen, decided]
  rfl

/-- A gateway called `d`. -/
def mirrorRouter : Router := { profile := { gatewayKey := "d" } }

/-- A reading is published. Its reference looks like the address of a device. -/
def mirrorMoves : List Move :=
  List.map .depot
    [.put .readings "d/d/r/t" ⟨"d/d/r/t", ["1"], 0⟩, .call 0 [.readings], .drain 0 true,
      .drain 0 true, .drain 0 true, .drain 0 true]

/-- What the platform's sink is offered. -/
def mirrorDeparture : Departure where
  origin := .backlog
  side := .platform
  message :=
    { channel := "d2p/sensor_reading/g/d/r/d/d/r/t"
      payload := "[\x7b\"data\":\"1\"\x7d]" }
  accepted := true

/-- The message does not come back, also when a device called `d` that declares `t` is bound by
then. -/
theorem departures_are_dropped_of_mirrorMoves :
    mirrorDeparture ∈ (run mirrorRouter (.fresh : Outbox Queues) mirrorMoves).departures ∧
      ∃ cause,
        (run mirrorRouter (.fresh : Outbox Queues)
            (mirrorMoves ++ [.bind "d" { sensors := ["t"] }])).router.observe
          { publish := fun _ _ world => (true, world), handle := fun _ world => world }
          mirrorDeparture.message () = (.dropped cause, []) := by
  have departed :
      mirrorDeparture ∈ (run mirrorRouter (.fresh : Outbox Queues) mirrorMoves).departures := by
    decide +kernel
  exact ⟨departed, departures_are_dropped departed _ _ _ _⟩

end Exchange

end EdgeGateway
