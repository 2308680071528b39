import EdgeGateway.Proofs.Channel.Readdress
import EdgeGateway.Router.Basic

/-!
# The routing table

`RoutingTable` is the decision table of a gateway, one constructor for each row. Its conditions
are about the address that the channel spells, the gateway's key and the manifests; channels of
forwarded messages are written out.

Decisions follow the table, and nothing but the table: it prescribes exactly one result for every
message. `Router.observe` is what can be seen of routing a message from outside, its outcome and
the calls it makes, so each row is also known by what it leads to.
-/

namespace EdgeGateway

/-! ## Commands -/

/-- What a command message says about a reference. Only the two kinds that set something look at
the payload. -/
inductive CommandReading (reference payload : String) :
    MessageKind → Except PayloadError Command → Prop where
  | setActuator {value : String} (decoded : Payload.commandValue payload = .ok value) :
      CommandReading reference payload .actuatorSet (.ok (.setActuator reference value))
  | getActuator :
      CommandReading reference payload .actuatorGet (.ok (.getActuator reference))
  | setConfiguration {value : String} (decoded : Payload.commandValue payload = .ok value) :
      CommandReading reference payload .configurationSet
        (.ok (.setConfiguration { key := reference, values := Payload.splitValues value }))
  | getConfiguration :
      CommandReading reference payload .configurationGet (.ok (.getConfiguration reference))
  | unreadable {kind : MessageKind} {cause : PayloadError}
      (sets : kind = .actuatorSet ∨ kind = .configurationSet)
      (undecoded : Payload.commandValue payload = .error cause) :
      CommandReading reference payload kind (.error cause)

/-- Every message of a command kind has a reading. -/
theorem CommandReading.exists_of_isCommand {kind : MessageKind} (command : kind.isCommand = true)
    (reference payload : String) : ∃ reading, CommandReading reference payload kind reading := by
  cases decoded : Payload.commandValue payload with
  | error cause =>
    cases kind with
    | actuatorSet => exact ⟨_, .unreadable (.inl rfl) decoded⟩
    | configurationSet => exact ⟨_, .unreadable (.inr rfl) decoded⟩
    | actuatorGet => exact ⟨_, .getActuator⟩
    | configurationGet => exact ⟨_, .getConfiguration⟩
    | sensorReading | alarm | actuatorStatus => cases command
  | ok value =>
    cases kind with
    | actuatorSet => exact ⟨_, .setActuator decoded⟩
    | configurationSet => exact ⟨_, .setConfiguration decoded⟩
    | actuatorGet => exact ⟨_, .getActuator⟩
    | configurationGet => exact ⟨_, .getConfiguration⟩
    | sensorReading | alarm | actuatorStatus => cases command

/-- The command of a message is its reading for the reference that its channel's text gives. -/
theorem CommandReading.ofMessage_eq {kind : MessageKind} {message : Message}
    {reading : Except PayloadError Command}
    (reads : CommandReading (Address.textualReference message.channel) message.payload kind
      reading) :
    Command.ofMessage kind message =
      reading.mapError (RoutingError.malformedPayload message.channel) := by
  cases reads with
  | setActuator decoded => simp [Command.ofMessage, decoded, Except.mapError]
  | getActuator => rfl
  | setConfiguration decoded =>
    simp [Command.ofMessage, Payload.configurationItem, decoded, Except.mapError]
  | getConfiguration => rfl
  | unreadable sets undecoded =>
    rcases sets with rfl | rfl <;>
      simp [Command.ofMessage, Payload.configurationItem, undecoded, Except.mapError]

/-! ## The table -/

/-- Whether a device may report on a reference with messages of a kind: each kind of data has its
own group of references in the manifest, and no other kind may be reported at all. -/
inductive Manifest.Permits (manifest : Manifest) (reference : String) : MessageKind → Prop where
  | reading (declared : reference ∈ manifest.sensors) : manifest.Permits reference .sensorReading
  | alarm (declared : reference ∈ manifest.alarms) : manifest.Permits reference .alarm
  | status (declared : reference ∈ manifest.actuators) : manifest.Permits reference .actuatorStatus
  | configuration (declared : reference ∈ manifest.configurations) :
      manifest.Permits reference .configurationGet

/-- Of a kind of data, a device may report exactly what it has declared for this kind. -/
theorem Manifest.permits_iff_declares {manifest : Manifest} {kind : MessageKind}
    {reference : String} (data : kind.isData = true) :
    manifest.Permits reference kind ↔ manifest.declares kind reference = true := by
  rw [declares, List.contains_iff_mem]
  constructor
  · intro permitted
    cases permitted with
    | reading declared => exact declared
    | alarm declared => exact declared
    | status declared => exact declared
    | configuration declared => exact declared
  · intro member
    cases kind with
    | sensorReading => exact .reading member
    | alarm => exact .alarm member
    | actuatorStatus => exact .status member
    | configurationGet => exact .configuration member
    | actuatorSet | actuatorGet | configurationSet => cases data

/-- A command that reaches the gateway whose pair it carries. -/
structure Address.CommandsGateway (gatewayKey : String) (address : Address) : Prop where
  direction : address.direction = .fromPlatform
  kind : address.kind.isCommand = true
  gateway : address.addressing.gateway = some gatewayKey

/-- Data of a device, in the addressing that devices use. -/
structure Address.ReportsDevice (device : String) (address : Address) : Prop where
  direction : address.direction = .toPlatform
  kind : address.kind.isData = true
  depth : address.depth = .device
  device : address.addressing.device = some device

/-- What is prescribed for an inbound message. -/
inductive RoutingTable (gatewayKey : String) (manifests : Manifests) (message : Message) :
    Except RoutingError Decision → Prop where
  /-- A command for the gateway's own point, whether or not the gateway is named as its own
  device. -/
  | ownCommand {address : Address} {command : Command}
      (spells : Address.Spells message.channel address)
      (commands : address.CommandsGateway gatewayKey)
      (own : address.depth = .gateway ∨ address.addressing.device = some gatewayKey)
      (reading : CommandReading (Address.textualReference message.channel) message.payload
        address.kind (.ok command)) :
      RoutingTable gatewayKey manifests message (.ok (.handle command))
  /-- Such a command with a payload that cannot be read. -/
  | unreadableCommand {address : Address} {cause : PayloadError}
      (spells : Address.Spells message.channel address)
      (commands : address.CommandsGateway gatewayKey)
      (own : address.depth = .gateway ∨ address.addressing.device = some gatewayKey)
      (reading : CommandReading (Address.textualReference message.channel) message.payload
        address.kind (.error cause)) :
      RoutingTable gatewayKey manifests message
        (.error (.malformedPayload message.channel cause))
  /-- A command for another device goes to the devices, without the gateway's pair. -/
  | deviceCommand {address : Address} {device : String}
      (spells : Address.Spells message.channel address)
      (commands : address.CommandsGateway gatewayKey)
      (named : address.addressing.device = some device) (other : device ≠ gatewayKey) :
      RoutingTable gatewayKey manifests message
        (.ok (.forward .devices
          { channel := "p2d/" ++ address.kind.token ++ "/d/" ++ device ++ "/r/"
              ++ address.reference
            payload := message.payload }))
  /-- Data of the gateway's own points goes to the platform under the gateway's pair. -/
  | ownData {address : Address} (spells : Address.Spells message.channel address)
      (reports : address.ReportsDevice gatewayKey) :
      RoutingTable gatewayKey manifests message
        (.ok (.forward .platform
          { channel := "d2p/" ++ address.kind.token ++ "/g/" ++ gatewayKey ++ "/r/"
              ++ address.reference
            payload := message.payload }))
  /-- Data that a bound device may report goes to the platform behind the gateway's pair. -/
  | deviceData {address : Address} {device : String} {manifest : Manifest}
      (spells : Address.Spells message.channel address)
      (reports : address.ReportsDevice device) (other : device ≠ gatewayKey)
      (bound : manifests.resolve device = some manifest)
      (permitted : manifest.Permits (Address.textualReference message.channel) address.kind) :
      RoutingTable gatewayKey manifests message
        (.ok (.forward .platform
          { channel := "d2p/" ++ address.kind.token ++ "/g/" ++ gatewayKey ++ "/d/" ++ device
              ++ "/r/" ++ address.reference
            payload := message.payload }))
  /-- The channel is not well formed. -/
  | malformed (unspelled : ∀ address, ¬ Address.Spells message.channel address) :
      RoutingTable gatewayKey manifests message (.error (.malformedChannel message.channel))
  /-- The kind does not travel in this direction. -/
  | strayKind {address : Address} (spells : Address.Spells message.channel address)
      (stray : address.direction = .fromPlatform ∧ address.kind.isCommand = false ∨
        address.direction = .toPlatform ∧ address.kind.isData = false) :
      RoutingTable gatewayKey manifests message (.error (.malformedChannel message.channel))
  /-- A command that does not carry the gateway's pair. -/
  | foreignCommand {address : Address} (spells : Address.Spells message.channel address)
      (direction : address.direction = .fromPlatform) (kind : address.kind.isCommand = true)
      (foreign : address.addressing.gateway ≠ some gatewayKey) :
      RoutingTable gatewayKey manifests message
        (.error (.mismatchedKey message.channel
          ((address.addressing.gateway.or address.addressing.device).getD "")))
  /-- Data that claims gateway addressing. -/
  | gatewayData {address : Address} (spells : Address.Spells message.channel address)
      (direction : address.direction = .toPlatform) (kind : address.kind.isData = true)
      (depth : address.depth ≠ .device) :
      RoutingTable gatewayKey manifests message
        (.error (.mismatchedKey message.channel (Address.textualKey message.channel)))
  /-- Data of a device that is not bound. -/
  | unboundDevice {address : Address} {device : String}
      (spells : Address.Spells message.channel address)
      (reports : address.ReportsDevice device) (other : device ≠ gatewayKey)
      (unbound : manifests.resolve device = none) :
      RoutingTable gatewayKey manifests message (.error (.mismatchedKey message.channel device))
  /-- Data that a bound device may not report. -/
  | undeclared {address : Address} {device : String} {manifest : Manifest}
      (spells : Address.Spells message.channel address)
      (reports : address.ReportsDevice device) (other : device ≠ gatewayKey)
      (bound : manifests.resolve device = some manifest)
      (barred : ¬ manifest.Permits (Address.textualReference message.channel) address.kind) :
      RoutingTable gatewayKey manifests message
        (.error (.undeclaredReference device (Address.textualReference message.channel)))

/-! ## Decisions follow the table -/

/-- The channel of a command for a device. -/
theorem Address.channel_deviceCommand (kind : MessageKind) (device reference : String) :
    Address.channel ⟨.fromPlatform, kind, ⟨none, some device⟩, reference⟩ =
      "p2d/" ++ kind.token ++ "/d/" ++ device ++ "/r/" ++ reference := by
  apply String.toList_inj.1
  simp [Address.channel, Address.pairText, Direction.token, Address.deviceMarker,
    Address.referenceMarker]

/-- The channel of data of the gateway's own point. -/
theorem Address.channel_ownData (kind : MessageKind) (gateway reference : String) :
    Address.channel ⟨.toPlatform, kind, ⟨some gateway, none⟩, reference⟩ =
      "d2p/" ++ kind.token ++ "/g/" ++ gateway ++ "/r/" ++ reference := by
  apply String.toList_inj.1
  simp [Address.channel, Address.pairText, Direction.token, Address.gatewayMarker,
    Address.referenceMarker]

/-- The channel of data of a device behind a gateway. -/
theorem Address.channel_deviceData (kind : MessageKind) (gateway device reference : String) :
    Address.channel ⟨.toPlatform, kind, ⟨some gateway, some device⟩, reference⟩ =
      "d2p/" ++ kind.token ++ "/g/" ++ gateway ++ "/d/" ++ device ++ "/r/" ++ reference := by
  apply String.toList_inj.1
  simp [Address.channel, Address.pairText, Direction.token, Address.gatewayMarker,
    Address.deviceMarker, Address.referenceMarker]

/-- A re-addressed message is forwarded on the channel that is written for the edited address. -/
theorem Decision.forwarding_readdress (side : Side) (edit : Addressing → Option Addressing)
    (addressing : Addressing) {message : Message} {address : Address} {channel : String}
    (spells : Address.Spells message.channel address)
    (edited : edit address.addressing = some addressing)
    (written : Address.channel { address with addressing } = channel) :
    Decision.forwarding side message (Channel.readdress edit message.channel) =
      .ok (.forward side { message with channel }) := by
  have nonempty := Address.channel_ne_empty { address with addressing }
  rw [written] at nonempty
  have readdressed : Channel.readdress edit message.channel = channel :=
    (Channel.readdress_of_spells spells edited).trans written
  simp [Decision.forwarding, readdressed, nonempty]

namespace Address

variable {address : Address}

/-- The pairs of a device report. -/
theorem ReportsDevice.addressing_eq {device : String} (reports : address.ReportsDevice device) :
    address.addressing = ⟨none, some device⟩ := by
  obtain ⟨direction, kind, ⟨gateway, found⟩, reference⟩ := address
  obtain ⟨_, _, depth, named⟩ := reports
  simp only at named
  subst named
  cases gateway with
  | none => rfl
  | some key => cases depth

/-- The pairs of a command that names a device. -/
theorem CommandsGateway.addressing_of_device {gatewayKey device : String}
    (commands : address.CommandsGateway gatewayKey)
    (named : address.addressing.device = some device) :
    address.addressing = ⟨some gatewayKey, some device⟩ := by
  rw [← commands.gateway, ← named]

/-- The channel of a command for a device, once the gateway's pair is dropped. -/
theorem CommandsGateway.channel_eq {gatewayKey : String} (commands : address.CommandsGateway gatewayKey)
    (device : String) :
    channel { address with addressing := ⟨none, some device⟩ } =
      "p2d/" ++ address.kind.token ++ "/d/" ++ device ++ "/r/" ++ address.reference := by
  rw [commands.direction]
  exact channel_deviceCommand _ _ _

/-- The channel of a report of the gateway's own point, with the pair turned. -/
theorem ReportsDevice.channel_own_eq {device : String} (reports : address.ReportsDevice device)
    (gatewayKey : String) :
    channel { address with addressing := ⟨some gatewayKey, none⟩ } =
      "d2p/" ++ address.kind.token ++ "/g/" ++ gatewayKey ++ "/r/" ++ address.reference := by
  rw [reports.direction]
  exact channel_ownData _ _ _

/-- The channel of a device report behind the gateway's pair. -/
theorem ReportsDevice.channel_eq {device : String} (reports : address.ReportsDevice device)
    (gatewayKey : String) :
    channel { address with addressing := ⟨some gatewayKey, some device⟩ } =
      "d2p/" ++ address.kind.token ++ "/g/" ++ gatewayKey ++ "/d/" ++ device ++ "/r/"
        ++ address.reference := by
  rw [reports.direction]
  exact channel_deviceData _ _ _ _

/-- A command that names a device has both pairs. -/
theorem CommandsGateway.depth_of_device {gatewayKey device : String}
    (commands : address.CommandsGateway gatewayKey)
    (named : address.addressing.device = some device) : address.depth = .gatewayDevice := by
  rw [Address.depth, commands.addressing_of_device named]
  rfl

/-- A command that is deeper than its gateway names a device. -/
theorem CommandsGateway.exists_device {gatewayKey : String}
    (commands : address.CommandsGateway gatewayKey) (deeper : address.depth ≠ .gateway) :
    ∃ device, address.addressing.device = some device := by
  have gateway := commands.gateway
  obtain ⟨direction, kind, ⟨found, device⟩, reference⟩ := address
  simp only at gateway
  subst gateway
  cases device with
  | none => exact absurd rfl deeper
  | some device => exact ⟨device, rfl⟩

/-- A valid address of device depth names a device. -/
theorem Valid.exists_device_of_depth (valid : address.Valid) (depth : address.depth = .device) :
    ∃ device, address.addressing.device = some device := by
  have addressed := valid.addressed
  obtain ⟨direction, kind, ⟨gateway, device⟩, reference⟩ := address
  cases device with
  | some device => exact ⟨device, rfl⟩
  | none =>
    cases gateway with
    | none => simp at addressed
    | some key => cases depth

end Address

namespace Decision

variable {gatewayKey : String} {manifests : Manifests} {message : Message} {address : Address}

/-- Commands are decided by what the channel spells. -/
theorem ofMessage_of_fromPlatform (spells : Address.Spells message.channel address)
    (direction : address.direction = .fromPlatform) :
    ofMessage gatewayKey manifests message = fromPlatform gatewayKey address message := by
  rw [ofMessage, Address.parse_eq_ok_iff.2 spells]
  simp only [bind, Except.bind, direction]

/-- Data is decided by what the channel spells. -/
theorem ofMessage_of_toPlatform (spells : Address.Spells message.channel address)
    (direction : address.direction = .toPlatform) :
    ofMessage gatewayKey manifests message = toPlatform gatewayKey manifests address message := by
  rw [ofMessage, Address.parse_eq_ok_iff.2 spells]
  simp only [bind, Except.bind, direction]

/-- A command for the gateway's own point is decided by what it says. -/
theorem fromPlatform_of_own (commands : address.CommandsGateway gatewayKey)
    (own : address.depth = .gateway ∨ address.addressing.device = some gatewayKey) :
    fromPlatform gatewayKey address message =
      (Command.ofMessage address.kind message).map .handle := by
  have gateway := commands.gateway
  rcases own with depth | named
  · simp [fromPlatform, commands.kind, gateway, depth]
  · have depth := commands.depth_of_device named
    simp [fromPlatform, commands.kind, gateway, depth, named]

/-- Data of a device other than the gateway is decided by the device's manifest. -/
theorem toPlatform_of_device {device : String} (reports : address.ReportsDevice device)
    (other : device ≠ gatewayKey) :
    toPlatform gatewayKey manifests address message =
      match manifests.resolve device with
      | none => .error (.mismatchedKey message.channel device)
      | some manifest =>
        if manifest.declares address.kind (Address.textualReference message.channel) then
          forwarding .platform message (Channel.throughGateway message.channel gatewayKey)
        else .error (.undeclaredReference device (Address.textualReference message.channel)) := by
  simp only [toPlatform, reports.kind, reports.depth, reports.device, other]
  rfl

/-- What the table prescribes is decided. -/
theorem ofMessage_of_routingTable (key : gatewayKey ≠ "")
    {result : Except RoutingError Decision}
    (row : RoutingTable gatewayKey manifests message result) :
    ofMessage gatewayKey manifests message = result := by
  cases row with
  | ownCommand spells commands own reading =>
    rw [ofMessage_of_fromPlatform spells commands.direction, fromPlatform_of_own commands own,
      reading.ofMessage_eq]
    rfl
  | unreadableCommand spells commands own reading =>
    rw [ofMessage_of_fromPlatform spells commands.direction, fromPlatform_of_own commands own,
      reading.ofMessage_eq]
    rfl
  | @deviceCommand address device spells commands named other =>
    have pairs := commands.addressing_of_device named
    have forwarded := forwarding_readdress .devices (Addressing.toDevice? gatewayKey)
      ⟨none, some device⟩ spells (by simp [Addressing.toDevice?, pairs])
      (commands.channel_eq device)
    rw [ofMessage_of_fromPlatform spells commands.direction]
    simp [fromPlatform, commands.kind, pairs, commands.depth_of_device named, other,
      Channel.toDevice, forwarded]
  | @ownData address spells reports =>
    have forwarded := forwarding_readdress .platform Addressing.collapse? ⟨some gatewayKey, none⟩
      spells (by simp [Addressing.collapse?, reports.addressing_eq])
      (reports.channel_own_eq gatewayKey)
    rw [ofMessage_of_toPlatform spells reports.direction]
    simp [toPlatform, reports.kind, reports.depth, reports.device, Channel.collapse, forwarded]
  | @deviceData address device manifest spells reports other bound permitted =>
    have declared := (Manifest.permits_iff_declares reports.kind).1 permitted
    have forwarded := forwarding_readdress .platform (Addressing.throughGateway? gatewayKey)
      ⟨some gatewayKey, some device⟩ spells
      (by simp [Addressing.throughGateway?, reports.addressing_eq, key])
      (reports.channel_eq gatewayKey)
    rw [ofMessage_of_toPlatform spells reports.direction, toPlatform_of_device reports other,
      bound]
    simp [declared, Channel.throughGateway, forwarded]
  | malformed unspelled =>
    have refused := Address.parse_eq_error_iff.2 ⟨unspelled, rfl⟩
    simp only [ofMessage, refused]
    rfl
  | strayKind spells stray =>
    rcases stray with ⟨direction, kind⟩ | ⟨direction, kind⟩
    · simp [ofMessage_of_fromPlatform spells direction, fromPlatform, kind]
    · simp [ofMessage_of_toPlatform spells direction, toPlatform, kind]
  | @foreignCommand address spells direction kind foreign =>
    rw [ofMessage_of_fromPlatform spells direction]
    have different : address.addressing.gateway.getD "" ≠ gatewayKey := by
      cases present : address.addressing.gateway with
      | none => simpa [eq_comm] using key
      | some other => simpa [present] using foreign
    simp [fromPlatform, kind, different]
  | @gatewayData address spells direction kind depth =>
    rw [ofMessage_of_toPlatform spells direction]
    simp only [toPlatform, kind]
    cases found : address.depth with
    | device => exact absurd found depth
    | gateway => rfl
    | gatewayDevice => rfl
  | unboundDevice spells reports other unbound =>
    rw [ofMessage_of_toPlatform spells reports.direction, toPlatform_of_device reports other,
      unbound]
  | undeclared spells reports other bound barred =>
    rw [Manifest.permits_iff_declares reports.kind, Bool.not_eq_true] at barred
    rw [ofMessage_of_toPlatform spells reports.direction, toPlatform_of_device reports other,
      bound]
    simp [barred]

end Decision

/-- The table has a row for every message. -/
theorem RoutingTable.exists_row (gatewayKey : String) (manifests : Manifests)
    (message : Message) : ∃ result, RoutingTable gatewayKey manifests message result := by
  by_cases spelled : ∃ address, Address.Spells message.channel address
  · obtain ⟨address, spells⟩ := spelled
    cases direction : address.direction with
    | fromPlatform =>
      cases kind : address.kind.isCommand with
      | false => exact ⟨_, .strayKind spells (.inl ⟨direction, kind⟩)⟩
      | true =>
        by_cases gateway : address.addressing.gateway = some gatewayKey
        · have commands : address.CommandsGateway gatewayKey := ⟨direction, kind, gateway⟩
          by_cases own : address.depth = .gateway ∨ address.addressing.device = some gatewayKey
          · obtain ⟨reading, reads⟩ := CommandReading.exists_of_isCommand kind
              (Address.textualReference message.channel) message.payload
            cases reading with
            | ok command => exact ⟨_, .ownCommand spells commands own reads⟩
            | error cause => exact ⟨_, .unreadableCommand spells commands own reads⟩
          · obtain ⟨device, named⟩ := commands.exists_device fun depth => own (.inl depth)
            have other : device ≠ gatewayKey := fun same => own (.inr (same ▸ named))
            exact ⟨_, .deviceCommand spells commands named other⟩
        · exact ⟨_, .foreignCommand spells direction kind gateway⟩
    | toPlatform =>
      cases kind : address.kind.isData with
      | false => exact ⟨_, .strayKind spells (.inr ⟨direction, kind⟩)⟩
      | true =>
        by_cases depth : address.depth = .device
        · obtain ⟨device, named⟩ := spells.1.exists_device_of_depth depth
          have reports : address.ReportsDevice device := ⟨direction, kind, depth, named⟩
          by_cases other : device = gatewayKey
          · exact ⟨_, .ownData spells (other ▸ reports)⟩
          · cases bound : manifests.resolve device with
            | none => exact ⟨_, .unboundDevice spells reports other bound⟩
            | some manifest =>
              by_cases permitted :
                  manifest.Permits (Address.textualReference message.channel) address.kind
              · exact ⟨_, .deviceData spells reports other bound permitted⟩
              · exact ⟨_, .undeclared spells reports other bound permitted⟩
        · exact ⟨_, .gatewayData spells direction kind depth⟩
  · exact ⟨_, .malformed (not_exists.1 spelled)⟩

/-- A gateway decides what its table prescribes and nothing else. -/
theorem Decision.ofMessage_eq_iff {gatewayKey : String} {manifests : Manifests}
    {message : Message} (key : gatewayKey ≠ "") {result : Except RoutingError Decision} :
    Decision.ofMessage gatewayKey manifests message = result ↔
      RoutingTable gatewayKey manifests message result := by
  constructor
  · rintro rfl
    obtain ⟨result, row⟩ := RoutingTable.exists_row gatewayKey manifests message
    exact (ofMessage_of_routingTable key row).symm ▸ row
  · exact ofMessage_of_routingTable key

/-! ## What is seen of routing a message -/

/-- A call that a router makes. -/
inductive Call where
  | publish (side : Side) (message : Message)
  | handle (command : Command)
  deriving DecidableEq, Repr

/-- Callees that write down the calls they get. -/
def Callees.logged {World : Type} (callees : Callees World) : Callees (World × List Call) where
  publish side message state :=
    let (accepted, world) := callees.publish side message state.1
    (accepted, world, state.2 ++ [.publish side message])
  handle command state := (callees.handle command state.1, state.2 ++ [.handle command])

namespace Router

variable {World : Type}

/-- The outcome of routing a message, and the calls that are made for it. -/
def observe (router : Router) (callees : Callees World) (message : Message) (world : World) :
    Outcome × List Call :=
  let (outcome, _, calls) := router.route callees.logged message (world, [])
  (outcome, calls)

/-- What is seen when a decision is carried out. -/
def seen (handlers : Handlers) (accepts : Side → Message → Bool) :
    Except RoutingError Decision → Outcome × List Call
  | .error cause => (.dropped cause, [])
  | .ok (.handle command) =>
    (.handled command.kind, if handlers.handles command then [.handle command] else [])
  | .ok (.forward side message) =>
    (if accepts side message then .forwarded message.channel
      else .dropped (.refused message.channel),
      [.publish side message])

/-- Carrying out the decision is all that can be seen of routing a message. -/
theorem observe_eq_seen (router : Router) (callees : Callees World) (message : Message)
    (world : World) :
    router.observe callees message world =
      seen router.handlers (fun side forwarded => (callees.publish side forwarded world).1)
        (Decision.ofMessage router.profile.gatewayKey router.manifests message) := by
  unfold observe route
  cases Decision.ofMessage router.profile.gatewayKey router.manifests message with
  | error cause => rfl
  | ok decision =>
    cases decision with
    | handle command =>
      simp only [seen]
      cases router.handlers.handles command <;> rfl
    | forward side forwarded =>
      by_cases accepted : (callees.publish side forwarded world).1 = true <;>
        simp [seen, Callees.logged, accepted]

/-- Being watched does not change the outcome. -/
theorem observe_fst (router : Router) (callees : Callees World) (message : Message)
    (world : World) :
    (router.observe callees message world).1 = (router.route callees message world).1 := by
  rw [observe_eq_seen]
  unfold route
  cases Decision.ofMessage router.profile.gatewayKey router.manifests message with
  | error cause => rfl
  | ok decision =>
    cases decision with
    | handle command => rfl
    | forward side forwarded =>
      by_cases accepted : (callees.publish side forwarded world).1 = true <;>
        simp [seen, accepted]

/-- What is published of a message is what the table forwards. -/
theorem forward_of_mem_observe {router : Router} (key : router.profile.gatewayKey ≠ "")
    {callees : Callees World} {message sent : Message} {world : World} {side : Side}
    (called : .publish side sent ∈ (router.observe callees message world).2) :
    RoutingTable router.profile.gatewayKey router.manifests message (.ok (.forward side sent)) := by
  rw [observe_eq_seen] at called
  rw [← Decision.ofMessage_eq_iff key]
  generalize Decision.ofMessage router.profile.gatewayKey router.manifests message = decided
    at called ⊢
  rcases decided with cause | command | ⟨chosen, forwarded⟩
  · cases called
  · simp only [seen] at called
    split at called <;> simp at called
  · obtain ⟨rfl, rfl⟩ := Call.publish.inj (List.mem_singleton.1 called)
    rfl

/-- A command that is handled is what the table gives to its handler. -/
theorem handle_of_mem_observe {router : Router} (key : router.profile.gatewayKey ≠ "")
    {callees : Callees World} {message : Message} {world : World} {command : Command}
    (called : .handle command ∈ (router.observe callees message world).2) :
    RoutingTable router.profile.gatewayKey router.manifests message (.ok (.handle command)) := by
  rw [observe_eq_seen] at called
  rw [← Decision.ofMessage_eq_iff key]
  generalize Decision.ofMessage router.profile.gatewayKey router.manifests message = decided
    at called ⊢
  rcases decided with cause | handled | ⟨chosen, forwarded⟩
  · cases called
  · simp only [seen] at called
    split at called
    · rw [Call.handle.inj (List.mem_singleton.1 called)]
    · cases called
  · cases List.mem_singleton.1 called

/-- Routing follows the table. For every message the table prescribes exactly one result, and
what is seen of routing the message is that result carried out. Each result is also known by what
is seen: a handler is asked exactly for the gateway's own readable commands, a sink is tried
exactly once, and only, where the table forwards to its side, and a message is dropped without any
call exactly where the table gives the cause. -/
theorem observe_follows_table (router : Router)
    (key : Address.IsKey router.profile.gatewayKey) (callees : Callees World) (message : Message)
    (world : World) :
    let table := RoutingTable router.profile.gatewayKey router.manifests message
    let accepts := fun side forwarded => (callees.publish side forwarded world).1
    let observed := router.observe callees message world
    (∃ result, table result ∧ (∀ other, table other → other = result) ∧
      observed = seen router.handlers accepts result) ∧
    (router.route callees message world).1 = observed.1 ∧
    (∀ kind, observed.1 = .handled kind ↔
      ∃ command, table (.ok (.handle command)) ∧ command.kind = kind) ∧
    (∀ side forwarded, observed.2 = [.publish side forwarded] ↔
      table (.ok (.forward side forwarded))) ∧
    (∀ cause, observed = (.dropped cause, []) ↔ table (.error cause)) := by
  intro table accepts observed
  have decided : ∀ result, table result ↔
      Decision.ofMessage router.profile.gatewayKey router.manifests message = result :=
    fun result => (Decision.ofMessage_eq_iff key.1).symm
  have carriedOut : observed = seen router.handlers accepts
      (Decision.ofMessage router.profile.gatewayKey router.manifests message) :=
    observe_eq_seen router callees message world
  refine ⟨⟨_, (decided _).2 rfl, fun other row => ((decided other).1 row).symm, carriedOut⟩,
    (observe_fst router callees message world).symm, ?_, ?_, ?_⟩
  all_goals
    rw [carriedOut]
    simp only [decided]
    generalize Decision.ofMessage router.profile.gatewayKey router.manifests message = result
  · intro kind
    rcases result with cause | command | ⟨side, forwarded⟩
    · simp [seen]
    · simp [seen]
    · by_cases accepted : accepts side forwarded = true <;> simp [seen, accepted]
  · intro side forwarded
    rcases result with cause | command | ⟨chosen, sent⟩
    · simp [seen]
    · by_cases handled : router.handlers.handles command = true <;> simp [seen, handled]
    · simp [seen]
  · intro cause
    rcases result with found | command | ⟨side, forwarded⟩
    · simp [seen]
    · simp [seen]
    · simp [seen]

/-- A gateway called `d` forwards what its device `g` reports on `x/r/t`. The device has declared
`t`, which is the reference that the text of the channel gives. -/
theorem observe_follows_table_among_markers :
    Address.IsKey "d" ∧
      observe
        { profile := { gatewayKey := "d" }
          manifests := Manifests.bind .empty "g" { sensors := ["t"] } }
        { publish := fun _ _ world => (true, world), handle := fun _ world => world }
        { channel := "d2p/sensor_reading/d/g/r/x/r/t/", payload := "1" } () =
      (.forwarded "d2p/sensor_reading/g/d/d/g/r/x/r/t",
        [.publish .platform
          { channel := "d2p/sensor_reading/g/d/d/g/r/x/r/t", payload := "1" }]) := by
  have key : Address.IsKey "d" := by decide
  refine ⟨key, ?_⟩
  have spells : Address.Spells "d2p/sensor_reading/d/g/r/x/r/t/"
      ⟨.toPlatform, .sensorReading, ⟨none, some "g"⟩, "x/r/t"⟩ :=
    Address.ofChannel?_eq_some_iff.1 (by decide +kernel)
  obtain ⟨⟨result, _, unique, carriedOut⟩, _⟩ := observe_follows_table
    { profile := { gatewayKey := "d" }
      manifests := Manifests.bind .empty "g" { sensors := ["t"] } } key
    { publish := fun _ _ world => (true, world), handle := fun _ world => world }
    { channel := "d2p/sensor_reading/d/g/r/x/r/t/", payload := "1" } ()
  have row := unique _ (.deviceData spells ⟨rfl, rfl, rfl, rfl⟩ (by decide) rfl
    (.reading (by decide +kernel)))
  rw [carriedOut, ← row]
  rfl

end Router

end EdgeGateway
