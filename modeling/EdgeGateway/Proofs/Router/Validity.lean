import EdgeGateway.Channel.Validation
import EdgeGateway.Proofs.Router.Table

/-!
# Validators and routing agree

Whether a channel is well formed can be asked of eight validators, one for each `Purpose` that a
message can have. Routing decides the same in other terms: by the grammar, by which kinds are
commands and which are data, by depth and keys, and by how channels are readdressed.
`Purpose.of?_eq_none_iff` is where the two meet. A kind is turned away in a direction exactly if no
purpose has both, so the eight purposes are all that routing leaves.
-/

namespace EdgeGateway

/-! ## Purposes -/

/-- What a message is for, as its channel tells. -/
inductive Purpose where
  | sensorReading
  | alarm
  | actuatorStatus
  | configurationResponse
  | actuatorSetRequest
  | actuatorGetRequest
  | configurationSetRequest
  | configurationGetRequest
  deriving DecidableEq, Repr

namespace Purpose

/-- The validator of a purpose. -/
def accepts : Purpose → String → Bool
  | sensorReading => Channel.isSensorReading
  | alarm => Channel.isAlarm
  | actuatorStatus => Channel.isActuatorStatus
  | configurationResponse => Channel.isConfigurationResponse
  | actuatorSetRequest => Channel.isActuatorSetRequest
  | actuatorGetRequest => Channel.isActuatorGetRequest
  | configurationSetRequest => Channel.isConfigurationSetRequest
  | configurationGetRequest => Channel.isConfigurationGetRequest

/-- The direction in which messages for a purpose travel. -/
def direction : Purpose → Direction
  | sensorReading | alarm | actuatorStatus | configurationResponse => .toPlatform
  | actuatorSetRequest | actuatorGetRequest | configurationSetRequest
  | configurationGetRequest => .fromPlatform

/-- The kind of messages for a purpose. Configuration values are asked for and reported under the
same kind. -/
def kind : Purpose → MessageKind
  | sensorReading => .sensorReading
  | alarm => .alarm
  | actuatorStatus => .actuatorStatus
  | configurationResponse | configurationGetRequest => .configurationGet
  | actuatorSetRequest => .actuatorSet
  | actuatorGetRequest => .actuatorGet
  | configurationSetRequest => .configurationSet

/-- The purpose of a kind in a direction, if the kind travels that way. -/
def of? : Direction → MessageKind → Option Purpose
  | .toPlatform, .sensorReading => some sensorReading
  | .toPlatform, .alarm => some alarm
  | .toPlatform, .actuatorStatus => some actuatorStatus
  | .toPlatform, .configurationGet => some configurationResponse
  | .fromPlatform, .actuatorSet => some actuatorSetRequest
  | .fromPlatform, .actuatorGet => some actuatorGetRequest
  | .fromPlatform, .configurationSet => some configurationSetRequest
  | .fromPlatform, .configurationGet => some configurationGetRequest
  | _, _ => none

/-- A purpose is determined by its direction and kind. -/
theorem of?_eq_some_iff {direction : Direction} {kind : MessageKind} {purpose : Purpose} :
    of? direction kind = some purpose ↔ direction = purpose.direction ∧ kind = purpose.kind := by
  constructor
  · intro found
    cases direction <;> cases kind <;> cases found <;> exact ⟨rfl, rfl⟩
  · rintro ⟨rfl, rfl⟩
    cases purpose <;> rfl

/-- The kinds without a purpose are commands on the way to the platform, and data on the way from
it. -/
theorem of?_eq_none_iff {direction : Direction} {kind : MessageKind} :
    of? direction kind = none ↔ direction = .fromPlatform ∧ kind.isCommand = false ∨
      direction = .toPlatform ∧ kind.isData = false := by
  cases direction <;> cases kind <;> decide

/-- Each validator asks for the direction and the kind of its purpose. -/
theorem accepts_eq_isOf (purpose : Purpose) :
    purpose.accepts = Channel.isOf purpose.direction purpose.kind := by
  cases purpose <;> rfl

end Purpose

/-! ## What validators accept -/

/-- A channel travels in a direction exactly if it is parsed to an address with that direction. -/
theorem Channel.travels_iff {direction : Direction} {channel : String} :
    Channel.travels direction channel = true ↔
      ∃ address, Address.parse channel = .ok address ∧ address.direction = direction := by
  rw [Channel.travels, Channel.classify?, Address.parse]
  cases Address.ofChannel? channel <;> simp

/-- A validator accepts the channels that spell an address with its purpose. -/
theorem Purpose.accepts_iff {purpose : Purpose} {channel : String} :
    purpose.accepts channel = true ↔ ∃ address, Address.Spells channel address ∧
      Purpose.of? address.direction address.kind = some purpose := by
  simp only [← Address.ofChannel?_eq_some_iff, Purpose.of?_eq_some_iff]
  rw [Purpose.accepts_eq_isOf, Channel.isOf, Channel.classify?]
  cases Address.ofChannel? channel with
  | none => simp
  | some address => simp

/-- Once the address is known, only its purpose is accepted. -/
theorem Purpose.accepts_iff_of_spells {purpose : Purpose} {channel : String} {address : Address}
    (spells : Address.Spells channel address) :
    purpose.accepts channel = true ↔
      Purpose.of? address.direction address.kind = some purpose := by
  rw [Purpose.accepts_iff]
  constructor
  · rintro ⟨found, spellsFound, fits⟩
    exact spells.eq spellsFound ▸ fits
  · exact fun fits => ⟨address, spells, fits⟩

/-- No channel is accepted for two purposes. -/
theorem Purpose.accepts_unique {first second : Purpose} {channel : String}
    (acceptedFirst : first.accepts channel = true)
    (acceptedSecond : second.accepts channel = true) : first = second := by
  obtain ⟨address, spells, fits⟩ := Purpose.accepts_iff.1 acceptedFirst
  have fitsSecond := (Purpose.accepts_iff_of_spells spells).1 acceptedSecond
  exact Option.some.inj (fits.symm.trans fitsSecond)

/-- A channel that is accepted for a purpose travels in the direction of that purpose and in no
other. -/
theorem Purpose.travels_iff_of_accepts {purpose : Purpose} {channel : String}
    (accepted : purpose.accepts channel = true) (direction : Direction) :
    Channel.travels direction channel = true ↔ purpose.direction = direction := by
  obtain ⟨address, spells, fits⟩ := Purpose.accepts_iff.1 accepted
  rw [Channel.travels_iff, ← (Purpose.of?_eq_some_iff.1 fits).1]
  simp [Address.parse_eq_ok_iff.2 spells]

/-! ## What routing accepts -/

/-- A command that is read is of the kind of its message. -/
theorem CommandReading.kind_eq {reference payload : String} {kind : MessageKind}
    {command : Command} (reads : CommandReading reference payload kind (.ok command)) :
    command.kind = kind := by
  cases reads <;> rfl

namespace RoutingTable

variable {gatewayKey : String} {manifests : Manifests} {message : Message}

/-- The table calls a channel malformed, and always by its name, exactly if no validator accepts
it. -/
theorem malformed_iff {named : String} :
    RoutingTable gatewayKey manifests message (.error (.malformedChannel named)) ↔
      named = message.channel ∧ ∀ purpose : Purpose, purpose.accepts message.channel = false := by
  constructor
  · intro row
    -- Only two rows give this error; the ones that readdress never do.
    cases row with
    | malformed unspelled =>
      refine ⟨rfl, fun purpose => Bool.eq_false_iff.2 fun accepted => ?_⟩
      obtain ⟨address, spells, -⟩ := Purpose.accepts_iff.1 accepted
      exact unspelled address spells
    | strayKind spells stray =>
      refine ⟨rfl, fun purpose => Bool.eq_false_iff.2 fun accepted => ?_⟩
      have fits := (Purpose.accepts_iff_of_spells spells).1 accepted
      rw [Purpose.of?_eq_none_iff.2 stray] at fits
      cases fits
  · rintro ⟨rfl, refused⟩
    by_cases spelled : ∃ address, Address.Spells message.channel address
    · obtain ⟨address, spells⟩ := spelled
      refine .strayKind spells (Purpose.of?_eq_none_iff.1 ?_)
      refine Option.eq_none_iff_forall_ne_some.2 fun purpose fits => ?_
      have accepted := (Purpose.accepts_iff_of_spells spells).2 fits
      rw [refused purpose] at accepted
      cases accepted
    · exact .malformed (not_exists.1 spelled)

/-- The table gives a command to its handler only on a channel that is accepted as a request of its
kind. -/
theorem exists_request {command : Command}
    (row : RoutingTable gatewayKey manifests message (.ok (.handle command))) :
    ∃ request : Purpose, request.direction = .fromPlatform ∧ request.kind = command.kind ∧
      request.accepts message.channel = true := by
  cases row with
  | @ownCommand address _ spells commands own reading =>
    cases fits : Purpose.of? address.direction address.kind with
    | none =>
      -- A command from the platform has a purpose.
      rcases Purpose.of?_eq_none_iff.1 fits with ⟨-, stray⟩ | ⟨stray, -⟩
      · cases stray.symm.trans commands.kind
      · cases stray.symm.trans commands.direction
    | some request =>
      obtain ⟨direction, kind⟩ := Purpose.of?_eq_some_iff.1 fits
      exact ⟨request, direction.symm.trans commands.direction,
        kind.symm.trans reading.kind_eq.symm, (Purpose.accepts_iff_of_spells spells).2 fits⟩

end RoutingTable

namespace Router

variable {World : Type} (router : Router) (callees : Callees World) (message : Message)
  (world : World)

/-- A channel is answered as malformed exactly if the table says so. -/
theorem route_malformed_iff (key : router.profile.gatewayKey ≠ "") {named : String} :
    (router.route callees message world).1 = .dropped (.malformedChannel named) ↔
      RoutingTable router.profile.gatewayKey router.manifests message
        (.error (.malformedChannel named)) := by
  rw [← observe_fst, observe_eq_seen, ← Decision.ofMessage_eq_iff key]
  rcases Decision.ofMessage router.profile.gatewayKey router.manifests message with
    cause | command | ⟨side, forwarded⟩
  · simp [seen]
  · simp [seen]
  · by_cases accepted : (callees.publish side forwarded world).1 = true <;>
      simp [seen, accepted]

/-- What is answered as handled is a command that the table gives to its handler. -/
theorem exists_handle_of_route (key : router.profile.gatewayKey ≠ "") {kind : MessageKind}
    (handled : (router.route callees message world).1 = .handled kind) :
    ∃ command, command.kind = kind ∧
      RoutingTable router.profile.gatewayKey router.manifests message
        (.ok (.handle command)) := by
  rw [← observe_fst, observe_eq_seen] at handled
  simp only [← Decision.ofMessage_eq_iff key]
  generalize Decision.ofMessage router.profile.gatewayKey router.manifests message = decided
    at handled ⊢
  rcases decided with cause | command | ⟨side, forwarded⟩
  · simp [seen] at handled
  · exact ⟨command, Outcome.handled.inj handled, rfl⟩
  · simp only [seen] at handled
    split at handled <;> cases handled

/-- **Validators and routing agree.** No channel is accepted for two purposes. Routing answers that
a channel is malformed, under its own name, exactly if none of the eight validators accepts the
channel, and it answers that a command is handled only if the channel is accepted as a request of
the command's kind, and as nothing else. A message travels to the platform, or from it, exactly if
its channel is parsed to an address in that direction, so a channel that is accepted for a purpose
travels in the direction of the purpose and not in the other one. -/
theorem validators_agree_with_routing (key : router.profile.gatewayKey ≠ "") :
    let channel := message.channel
    let outcome := (router.route callees message world).1
    (∀ first second : Purpose, first.accepts channel = true → second.accepts channel = true →
      first = second) ∧
    (outcome = .dropped (.malformedChannel channel) ↔
      ∀ purpose : Purpose, purpose.accepts channel = false) ∧
    (∀ named, outcome = .dropped (.malformedChannel named) → named = channel) ∧
    (∀ kind, outcome = .handled kind →
      ∃ request : Purpose, request.direction = .fromPlatform ∧ request.kind = kind ∧
        ∀ purpose : Purpose, purpose.accepts channel = true ↔ purpose = request) ∧
    (Channel.isToPlatform channel = true ↔
      ∃ address, Address.parse channel = .ok address ∧ address.direction = .toPlatform) ∧
    (Channel.isFromPlatform channel = true ↔
      ∃ address, Address.parse channel = .ok address ∧ address.direction = .fromPlatform) ∧
    ∀ purpose : Purpose, purpose.accepts channel = true →
      (Channel.isToPlatform channel = true ↔ purpose.direction = .toPlatform) ∧
      (Channel.isFromPlatform channel = true ↔ purpose.direction = .fromPlatform) := by
  intro channel outcome
  have malformed {named : String} : outcome = .dropped (.malformedChannel named) ↔
      named = channel ∧ ∀ purpose : Purpose, purpose.accepts channel = false :=
    (route_malformed_iff router callees message world key).trans RoutingTable.malformed_iff
  refine ⟨fun first second => Purpose.accepts_unique, malformed.trans (and_iff_right rfl),
    fun named answered => (malformed.1 answered).1, fun kind handled => ?_, Channel.travels_iff,
    Channel.travels_iff, fun purpose accepted => ⟨Purpose.travels_iff_of_accepts accepted _,
      Purpose.travels_iff_of_accepts accepted _⟩⟩
  obtain ⟨command, rfl, row⟩ := exists_handle_of_route router callees message world key handled
  obtain ⟨request, direction, kind, accepted⟩ := row.exists_request
  refine ⟨request, direction, kind, fun purpose => ⟨fun also => ?_, fun same => ?_⟩⟩
  · exact Purpose.accepts_unique also accepted
  · exact same ▸ accepted

/-- A gateway `GW` that has no handlers handles a request for its configuration. The channel is
accepted as such a request, and as nothing else. -/
theorem validators_agree_with_routing_on_request :
    "GW" ≠ "" ∧ ∀ purpose : Purpose,
      purpose.accepts "p2d/configuration_get/g/GW/r/x" = true ↔
        purpose = .configurationGetRequest := by
  have key : "GW" ≠ "" := by decide
  refine ⟨key, ?_⟩
  obtain ⟨-, -, -, requested, -⟩ := validators_agree_with_routing
    { profile := { gatewayKey := "GW" } }
    { publish := fun _ _ world => (true, world), handle := fun _ world => world }
    { channel := "p2d/configuration_get/g/GW/r/x", payload := "" } () key
  obtain ⟨request, direction, kind, only⟩ := requested .configurationGet (by decide +kernel)
  have same : some .configurationGetRequest = some request :=
    Purpose.of?_eq_some_iff.2 ⟨direction.symm, kind.symm⟩
  exact Option.some.inj same ▸ only

end Router

end EdgeGateway
