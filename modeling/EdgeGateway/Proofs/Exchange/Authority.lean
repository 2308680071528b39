import EdgeGateway.Proofs.Channel.Reference
import EdgeGateway.Proofs.Exchange.Grammar

/-!
# What is authorised is what is delivered

Whether a device may report on a reference is decided by a search of the channel that comes in. What
goes out is written for the address that was read from its position, and whoever receives it may
search it again. `authorised_reference_is_delivered` compares the two: the search of what goes out
finds the reference that was looked up in the manifest.

The manifest is the one to which the device was bound last (`resolve_after`). What is bound to other
devices, routed, put or published in between does not matter.
-/

namespace EdgeGateway

/-- The reference that a command is about. -/
def Command.reference : Command → String
  | setActuator reference _ | getActuator reference | getConfiguration reference => reference
  | setConfiguration item => item.key

/-- A command is about the reference for which it was read. -/
theorem CommandReading.reference_eq {reference payload : String} {kind : MessageKind}
    {command : Command} (reads : CommandReading reference payload kind (.ok command)) :
    command.reference = reference := by
  cases reads <;> rfl

/-! ## Bindings -/

namespace Manifests

variable (manifests : Manifests) (other device : String)

/-- A device that is bound gets the manifest, and the others keep theirs. -/
theorem resolve_bind (manifest : Manifest) :
    (manifests.bind other manifest).resolve device =
      if other = device then some manifest else manifests.resolve device := by
  split
  · rename_i same
    subst same
    exact Table.find?_insert_self _ _ _
  · rename_i different
    exact Table.find?_insert_of_ne _ _ (Ne.symm different)

/-- A device that is unbound loses its manifest, and the others keep theirs. -/
theorem resolve_unbind :
    (manifests.unbind other).resolve device =
      if other = device then none else manifests.resolve device := by
  split
  · rename_i same
    subst same
    exact Table.find?_erase_self _ _
  · rename_i different
    exact Table.find?_erase_of_ne _ (Ne.symm different)

end Manifests

namespace Exchange

variable {Backlog : Type → Type} [Store Backlog] {World : Type}

/-- What a move binds a device to, if it binds or unbinds the device. -/
def Move.binding? (device : String) : Move → Option (Option Manifest)
  | .bind other manifest => if other = device then some (some manifest) else none
  | .unbind other => if other = device then some none else none
  | .route _ _ | .depot _ => none

/-- What a device is bound to after some moves: the last binding or unbinding of the device
decides. -/
def lastBinding (router : Router) (moves : List Move) (device : String) : Option Manifest :=
  (moves.filterMap (Move.binding? device)).getLast?.getD (router.manifests.resolve device)

/-- A move does not change the profile of a router. -/
theorem profile_step (exchange : Exchange Backlog) (move : Move) :
    (exchange.step move).router.profile = exchange.router.profile := by
  cases move <;> rfl

/-- A move changes the manifest of a device only if it binds or unbinds the device. -/
theorem resolve_step (exchange : Exchange Backlog) (move : Move) (device : String) :
    (exchange.step move).router.manifests.resolve device =
      (move.binding? device).getD (exchange.router.manifests.resolve device) := by
  cases move with
  | bind other manifest =>
    refine (Manifests.resolve_bind exchange.router.manifests other device manifest).trans ?_
    by_cases same : other = device <;> simp [Move.binding?, same]
  | unbind other =>
    refine (Manifests.resolve_unbind exchange.router.manifests other device).trans ?_
    by_cases same : other = device <;> simp [Move.binding?, same]
  | route message accepted => rfl
  | depot move => rfl

/-- Moves do not change the profile of a router. -/
theorem profile_after (exchange : Exchange Backlog) (moves : List Move) :
    (exchange.after moves).router.profile = exchange.router.profile := by
  induction moves generalizing exchange with
  | nil => rfl
  | cons move moves inductionHypothesis =>
    exact (inductionHypothesis (exchange.step move)).trans (profile_step exchange move)

/-- The manifest of a device is the one to which it was bound last. -/
theorem resolve_after (exchange : Exchange Backlog) (moves : List Move) (device : String) :
    (exchange.after moves).router.manifests.resolve device =
      lastBinding exchange.router moves device := by
  induction moves generalizing exchange with
  | nil => rfl
  | cons move moves inductionHypothesis =>
    have later := inductionHypothesis (exchange.step move)
    rw [lastBinding, resolve_step] at later
    rw [lastBinding, List.filterMap_cons]
    refine later.trans ?_
    cases move.binding? device with
    | none => rfl
    | some binding =>
      rw [List.getLast?_cons]
      rfl

end Exchange

/-! ## References -/

/-- What a table forwards is found by a search of its channel under the reference under which the
message came in. If it goes to the platform behind a device pair, the manifest of the device permits
this reference. -/
theorem RoutingTable.exists_delivered {gatewayKey : String} {manifests : Manifests}
    {inbound sent : Message} {side : Side} (proper : Address.IsKey gatewayKey)
    (row : RoutingTable gatewayKey manifests inbound (.ok (.forward side sent))) :
    ∃ address, Address.Spells sent.channel address ∧
      Address.textualReference sent.channel = Address.textualReference inbound.channel ∧
      (side = .platform → address.depth = .gatewayDevice →
        ∃ device manifest, address.addressing.device = some device ∧
          manifests.resolve device = some manifest ∧
          manifest.Permits (Address.textualReference inbound.channel) address.kind) := by
  cases row with
  | @deviceCommand address device spells commands named other =>
    have valid := (Sends.deviceCommand spells commands named other).valid_of_inbound proper
    have spellsSent := Address.Valid.spells_channel valid
    rw [commands.channel_eq device] at spellsSent
    exact ⟨_, spellsSent, Address.textualReference_congr spells spellsSent rfl, nofun⟩
  | @ownData address spells reports =>
    have valid := (Sends.ownData spells reports).valid_of_inbound proper
    have spellsSent := Address.Valid.spells_channel valid
    rw [reports.channel_own_eq gatewayKey] at spellsSent
    exact ⟨_, spellsSent, Address.textualReference_congr spells spellsSent rfl, nofun⟩
  | @deviceData address device manifest spells reports other bound permitted =>
    have valid := (Sends.deviceData spells reports other).valid_of_inbound proper
    have spellsSent := Address.Valid.spells_channel valid
    rw [reports.channel_eq gatewayKey] at spellsSent
    exact ⟨_, spellsSent, Address.textualReference_congr spells spellsSent rfl, fun _ _ =>
      ⟨device, manifest, rfl, bound, permitted⟩⟩

/-- A command is given to its handler for the reference under which it came in. -/
theorem RoutingTable.reference_of_handle {gatewayKey : String} {manifests : Manifests}
    {inbound : Message} {command : Command}
    (row : RoutingTable gatewayKey manifests inbound (.ok (.handle command))) :
    command.reference = Address.textualReference inbound.channel := by
  cases row with
  | ownCommand spells commands own reading => exact reading.reference_eq

namespace Exchange

variable {Backlog : Type → Type} [Store Backlog] {World : Type}

/-- **The reference that is authorised is the reference that is delivered.** Let anything be done
with a router whose key is proper, and then a message come in. Whatever is published for it, on
either side and whether or not the sink accepts it, has a well-formed channel, and a search of that
channel finds what a search of the channel that came in does: one or more whole segments at the end
of the reference in it. If it goes to the platform behind a device pair, the device is bound at
that moment, by the last of the moves that bind or unbind it, and its manifest permits this
reference for the kind in the channel. A command that is handled is for this reference as well. -/
theorem authorised_reference_is_delivered {router : Router}
    (proper : Address.IsKey router.profile.gatewayKey) (outbox : Outbox Backlog)
    (moves : List Move) (callees : Callees World) (inbound : Message) (world : World) :
    let now := (run router outbox moves).router
    let calls := (now.observe callees inbound world).2
    let reference := Address.textualReference inbound.channel
    (∀ side sent, .publish side sent ∈ calls → ∃ address,
      Address.parse sent.channel = .ok address ∧
      Address.textualReference sent.channel = reference ∧ reference ≠ "" ∧
      (∃ index < address.segments.length,
        reference = "/".intercalate (address.segments.drop index)) ∧
      (side = .platform → address.depth = .gatewayDevice → ∃ device manifest,
        address.addressing.device = some device ∧ now.manifests.resolve device = some manifest ∧
          lastBinding router moves device = some manifest ∧
          manifest.Permits reference address.kind)) ∧
    ∀ command, .handle command ∈ calls → command.reference = reference := by
  intro now calls reference
  have profile : now.profile = router.profile := profile_after { router, outbox } moves
  have resolved : ∀ device, now.manifests.resolve device = lastBinding router moves device :=
    resolve_after { router, outbox } moves
  have properNow : Address.IsKey now.profile.gatewayKey := profile ▸ proper
  constructor
  · intro side sent called
    have row := Router.forward_of_mem_observe properNow.1 called
    obtain ⟨address, spells, same, permitted⟩ := row.exists_delivered properNow
    obtain ⟨index, inRange, suffix⟩ := Address.exists_index_textualReference spells
    have filled : reference ≠ "" :=
      same.symm.trans_ne (Address.isReference_textualReference spells).ne_empty
    refine ⟨address, Address.parse_eq_ok_iff.2 spells, same, filled,
      ⟨index, inRange, same.symm.trans suffix⟩, fun toPlatform behind => ?_⟩
    obtain ⟨device, manifest, named, bound, permits⟩ := permitted toPlatform behind
    exact ⟨device, manifest, named, bound, (resolved device).symm.trans bound, permits⟩
  · intro command called
    exact (Router.handle_of_mem_observe properNow.1 called).reference_of_handle

/-- A gateway called `d` with a handler for each kind of command. -/
def markedRouter : Router := { profile := { gatewayKey := "d" }, handlers := .all }

/-- A device called `g` declares too much at first, and then `t` only. Another device comes and
goes. -/
def rebindingMoves : List Move :=
  [.bind "g" { sensors := ["x/r/t", "t"] }, .bind "r" { sensors := ["x/r/t"] },
    .bind "g" { sensors := ["t"] }, .unbind "r",
    .route { channel := "d2p/sensor_reading/d/g/r/t", payload := "0" } false]

/-- The device reports on `x/r/t`, where a search finds `t`. -/
def markedReport : Message := { channel := "d2p/sensor_reading/d/g/r/x/r/t/", payload := "1" }

/-- What the report becomes. -/
def markedDelivery : Message := { channel := "d2p/sensor_reading/g/d/d/g/r/x/r/t", payload := "1" }

/-- The report goes to the platform, and who searches its channel finds what the device was bound to
last permits. -/
theorem authorised_reference_is_delivered_of_rebindingMoves :
    Address.IsKey markedRouter.profile.gatewayKey ∧
      .publish .platform markedDelivery ∈
        ((run markedRouter (.fresh : Outbox Queues) rebindingMoves).router.observe
          { publish := fun _ _ world => (true, world), handle := fun _ world => world }
          markedReport ()).2 ∧
      Address.textualReference markedDelivery.channel =
        Address.textualReference markedReport.channel ∧
      ∃ manifest, lastBinding markedRouter rebindingMoves "g" = some manifest ∧
        manifest.Permits (Address.textualReference markedReport.channel) .sensorReading := by
  have proper : Address.IsKey markedRouter.profile.gatewayKey := by decide
  have called : .publish .platform markedDelivery ∈
      ((run markedRouter (.fresh : Outbox Queues) rebindingMoves).router.observe
        { publish := fun _ _ world => (true, world), handle := fun _ world => world }
        markedReport ()).2 := by
    decide +kernel
  have parsed : Address.parse markedDelivery.channel =
      .ok ⟨.toPlatform, .sensorReading, ⟨some "d", some "g"⟩, "x/r/t"⟩ := by
    decide +kernel
  have delivered := authorised_reference_is_delivered proper
    (.fresh : Outbox Queues) rebindingMoves
    { publish := fun _ _ world => (true, world), handle := fun _ world => world } markedReport ()
  obtain ⟨address, parsedSent, same, -, -, permitted⟩ := delivered.1 _ _ called
  obtain rfl := Except.ok.inj (parsed.symm.trans parsedSent)
  obtain ⟨device, manifest, named, -, bound, permits⟩ := permitted rfl rfl
  obtain rfl := Option.some.inj named
  exact ⟨proper, called, same, manifest, bound, permits⟩

end Exchange

end EdgeGateway
