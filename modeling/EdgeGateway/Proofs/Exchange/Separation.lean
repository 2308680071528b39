import EdgeGateway.Proofs.Exchange.Authority
import EdgeGateway.Proofs.Exchange.Leave
import EdgeGateway.Proofs.Router.Validity

/-!
# Devices are separate

What becomes of the messages of a device is nobody else's business. A decision looks at one manifest
at most, that of the device that reports (`Decision.ofMessage_congr`), and nothing that a gateway
does changes what the decision looks at, except binding or unbinding this device.

`Concern` is what a move has to do with a device, and `alone` is what the device would see of a
gateway with which nobody else has anything to do. `sight_after` says that this is what it sees, so
two gateways with which a device has the same concerns are the same to it (`devices_are_separate`).
-/

namespace EdgeGateway

/-- The device that a channel names, if it is well formed. -/
def Address.device? (channel : String) : Option String :=
  (Address.ofChannel? channel).bind fun address => address.addressing.device

/-- The device that a channel names stands in the address that the channel spells. -/
theorem Address.device?_of_spells {channel : String} {address : Address}
    (spells : Address.Spells channel address) :
    Address.device? channel = address.addressing.device := by
  rw [Address.device?, Address.ofChannel?_eq_some_iff.2 spells]
  rfl

/-! ## The manifest that a decision looks at -/

/-- A decision looks at the manifest of a device that reports, and at no other. -/
theorem Decision.ofMessage_congr {gatewayKey : String} {manifests other : Manifests}
    {message : Message}
    (same : ∀ address device, Address.Spells message.channel address →
      address.ReportsDevice device → device ≠ gatewayKey →
        manifests.resolve device = other.resolve device) :
    Decision.ofMessage gatewayKey manifests message =
      Decision.ofMessage gatewayKey other message := by
  cases parsed : Address.parse message.channel with
  | error cause =>
    rw [ofMessage, ofMessage, parsed]
    rfl
  | ok address =>
    have spells := Address.parse_eq_ok_iff.1 parsed
    cases direction : address.direction with
    | fromPlatform =>
      rw [ofMessage_of_fromPlatform spells direction, ofMessage_of_fromPlatform spells direction]
    | toPlatform =>
      rw [ofMessage_of_toPlatform spells direction, ofMessage_of_toPlatform spells direction]
      by_cases reported : ∃ device, address.ReportsDevice device ∧ device ≠ gatewayKey
      · obtain ⟨device, reports, different⟩ := reported
        rw [toPlatform_of_device reports different, toPlatform_of_device reports different,
          same address device spells reports different]
      · cases data : address.kind.isData with
        | false => simp [toPlatform, data]
        | true =>
          cases depth : address.depth with
          | gateway => simp [toPlatform, data, depth]
          | gatewayDevice => simp [toPlatform, data, depth]
          | device =>
            obtain ⟨device, named⟩ := spells.1.exists_device_of_depth depth
            have own : device = gatewayKey := by
              by_contra different
              exact reported ⟨device, ⟨direction, data, depth, named⟩, different⟩
            simp [toPlatform, data, depth, named, own]

/-- A message is routed under all manifests alike that agree on what its decision looks at. -/
theorem Router.route_congr {World : Type} {router : Router} {manifests : Manifests}
    {callees : Callees World} {message : Message} {world : World}
    (same : ∀ address device, Address.Spells message.channel address →
      address.ReportsDevice device → device ≠ router.profile.gatewayKey →
        manifests.resolve device = router.manifests.resolve device) :
    Router.route { router with manifests } callees message world =
      router.route callees message world := by
  unfold Router.route
  rw [Decision.ofMessage_congr same]

/-! ## What a device sees -/

/-- A call that publishes a message. -/
def Call.publishes (call : Call) : Bool :=
  match call with
  | .publish _ _ => true
  | .handle _ => false

/-- What can be seen of routing one message. -/
structure Observation where
  message : Message
  outcome : Outcome
  calls : List Call
  deriving DecidableEq, Repr

namespace Observation

/-- What is seen of a message when a decision is carried out. -/
def ofDecision (handlers : Handlers) (accepts : Side → Message → Bool) (message : Message)
    (decided : Except RoutingError Decision) : Observation where
  message
  outcome := (Router.seen handlers accepts decided).1
  calls := (Router.seen handlers accepts decided).2

/-- An observation without the calls of handlers. -/
def unhandled (observation : Observation) : Observation :=
  { observation with calls := observation.calls.filter Call.publishes }

/-- Handlers change nothing but which of them are called. -/
theorem unhandled_ofDecision (handlers other : Handlers) (accepts : Side → Message → Bool)
    (message : Message) (decided : Except RoutingError Decision) :
    (ofDecision handlers accepts message decided).unhandled =
      (ofDecision other accepts message decided).unhandled := by
  rcases decided with cause | command | ⟨side, sent⟩
  · rfl
  · have silent : ∀ handlers : Handlers,
        (ofDecision handlers accepts message (.ok (.handle command))).unhandled =
          { message, outcome := .handled command.kind, calls := [] } := by
      intro handlers
      cases handled : handlers.handles command <;>
        simp [ofDecision, unhandled, Router.seen, Call.publishes, handled]
    rw [silent, silent]
  · rfl

end Observation

/-- What something done with a gateway has to do with a device. -/
inductive Concern where
  /-- The device is bound or unbound. -/
  | binding (bound : Option Manifest)
  /-- A message on a channel that names the device comes in. -/
  | message (message : Message)
  deriving DecidableEq, Repr

namespace Concern

/-- What the device is bound to afterwards. -/
def after (bound : Option Manifest) : Concern → Option Manifest
  | binding bound => bound
  | message _ => bound

/-- The manifests of a gateway that has bound one device at most. -/
def lone (device : String) : Option Manifest → Manifests
  | none => .empty
  | some manifest => Manifests.bind .empty device manifest

/-- What the device sees, if nobody else has anything to do with the gateway. -/
def seen (gatewayKey : String) (handlers : Handlers) (accepts : Side → Message → Bool)
    (device : String) (bound : Option Manifest) : Concern → List Observation
  | binding _ => []
  | message inbound =>
    [.ofDecision handlers accepts inbound
      (Decision.ofMessage gatewayKey (lone device bound) inbound)]

/-- A lone device is bound to what it is bound to. -/
theorem resolve_lone (device : String) (bound : Option Manifest) :
    (lone device bound).resolve device = bound := by
  cases bound with
  | none => rfl
  | some manifest => simp [lone, Manifests.resolve_bind]

end Concern

/-- What a device sees of a gateway, if nobody else has anything to do with it. -/
def alone (gatewayKey : String) (handlers : Handlers) (accepts : Side → Message → Bool)
    (device : String) : Option Manifest → List Concern → List Observation
  | _, [] => []
  | bound, concern :: concerns =>
    concern.seen gatewayKey handlers accepts device bound
      ++ alone gatewayKey handlers accepts device (concern.after bound) concerns

/-- What a lone device sees depends on the handlers only in which of them are called. -/
theorem map_unhandled_alone (gatewayKey : String) (handlers other : Handlers)
    (accepts : Side → Message → Bool) (device : String) (bound : Option Manifest)
    (concerns : List Concern) :
    (alone gatewayKey handlers accepts device bound concerns).map Observation.unhandled =
      (alone gatewayKey other accepts device bound concerns).map Observation.unhandled := by
  induction concerns generalizing bound with
  | nil => rfl
  | cons concern concerns inductionHypothesis =>
    simp only [alone, List.map_append, inductionHypothesis]
    cases concern with
    | binding bound => rfl
    | message inbound =>
      simp only [Concern.seen, List.map_singleton]
      rw [Observation.unhandled_ofDecision handlers other]

namespace Exchange

variable {Backlog : Type → Type} [Store Backlog] {exchange : Exchange Backlog}
  {accepts : Side → Message → Bool}

/-- What a move has to do with a device, if it has. -/
def Move.concern? (device : String) : Move → Option Concern
  | .route inbound _ =>
    if Address.device? inbound.channel = some device then some (.message inbound) else none
  | move => (move.binding? device).map .binding

/-- What a device sees of a move. -/
def observation? (exchange : Exchange Backlog) (device : String) : Move → Option Observation
  | .route message accepted =>
    if Address.device? message.channel = some device then
      let (outcome, calls) := exchange.router.observe (sinks message accepted) message exchange.log
      some { message, outcome, calls }
    else none
  | _ => none

/-- What a device sees of some moves: for each message on a channel that names the device, the
outcome and the calls that are made. -/
def sight (device : String) : Exchange Backlog → List Move → List Observation
  | _, [] => []
  | exchange, move :: moves =>
    (exchange.observation? device move).toList ++ sight device (exchange.step move) moves

/-- Whether sinks have answered as the messages determine. -/
def Obeys (accepts : Side → Message → Bool) (exchange : Exchange Backlog) : Prop :=
  ∀ departure ∈ exchange.departures, departure.accepted = accepts departure.side departure.message

/-- Sinks that have answered as determined after some moves have done so before them. -/
theorem Obeys.before {moves : List Move} (obeys : (exchange.after moves).Obeys accepts) :
    exchange.Obeys accepts := by
  intro departure departed
  obtain ⟨added, log⟩ := log_after exchange moves
  refine obeys departure ?_
  rw [departures, log, List.filterMap_append]
  exact List.mem_append_left _ departed

/-- A move does not change the handlers of a router. -/
theorem handlers_step (exchange : Exchange Backlog) (move : Move) :
    (exchange.step move).router.handlers = exchange.router.handlers := by
  cases move <;> rfl

/-- Routing a message is carrying out the decision on it, with the answers that the messages
determine. -/
theorem observe_of_obeys {inbound : Message} {accepted : Bool}
    (obeys : (exchange.step (.route inbound accepted)).Obeys accepts) :
    exchange.router.observe (sinks inbound accepted) inbound exchange.log =
      Router.seen exchange.router.handlers accepts
        (Decision.ofMessage exchange.router.profile.gatewayKey exchange.router.manifests inbound) := by
  rw [Router.observe_eq_seen]
  -- A message that is forwarded departs, so its sink has answered as determined.
  have answered : ∀ side sent,
      Decision.ofMessage exchange.router.profile.gatewayKey exchange.router.manifests inbound =
        .ok (.forward side sent) → accepted = accepts side sent := by
    intro side sent decided
    refine obeys { origin := .inbound inbound, side, message := sent, accepted } ?_
    rw [departures, step, Router.route, decided]
    cases accepted <;> simp [sinks, Entry.departure?]
  rcases decided : Decision.ofMessage exchange.router.profile.gatewayKey exchange.router.manifests
    inbound with cause | command | ⟨side, sent⟩
  · rfl
  · rfl
  · simp only [Router.seen, sinks, answered side sent decided]

/-- What a device is bound to changes only by its own concerns. -/
theorem resolve_step_of_concern (exchange : Exchange Backlog) (move : Move) (device : String) :
    let bound := exchange.router.manifests.resolve device
    (exchange.step move).router.manifests.resolve device =
      ((move.concern? device).map (Concern.after bound)).getD bound := by
  intro bound
  rw [resolve_step]
  cases move with
  | route inbound accepted =>
    by_cases named : Address.device? inbound.channel = some device <;>
      simp [Move.concern?, Move.binding?, Concern.after, named, bound]
  | bind other manifest =>
    by_cases same : other = device <;>
      simp [Move.concern?, Move.binding?, Concern.after, same, bound]
  | unbind other =>
    by_cases same : other = device <;>
      simp [Move.concern?, Move.binding?, Concern.after, same, bound]
  | _ => rfl

/-- What a device sees of a move is what it would see if it were alone with the gateway. -/
theorem observation?_of_concern {move : Move} (obeys : (exchange.step move).Obeys accepts)
    (device : String) :
    (exchange.observation? device move).toList =
      ((move.concern? device).map
        (Concern.seen exchange.router.profile.gatewayKey exchange.router.handlers accepts device
          (exchange.router.manifests.resolve device))).getD [] := by
  cases move with
  | route inbound accepted =>
    by_cases named : Address.device? inbound.channel = some device
    · -- The message names this device, so no other manifest is looked at.
      have lone : Decision.ofMessage exchange.router.profile.gatewayKey exchange.router.manifests
          inbound =
          Decision.ofMessage exchange.router.profile.gatewayKey
            (Concern.lone device (exchange.router.manifests.resolve device)) inbound := by
        refine Decision.ofMessage_congr fun address other spells reports _ => ?_
        rw [Address.device?_of_spells spells, reports.device] at named
        obtain rfl := Option.some.inj named
        exact (Concern.resolve_lone other _).symm
      simp only [observation?, Move.concern?, if_pos named, observe_of_obeys obeys, lone]
      rfl
    · simp [observation?, Move.concern?, named]
  | bind other manifest =>
    by_cases same : other = device <;>
      simp [observation?, Move.concern?, Move.binding?, Concern.seen, same]
  | unbind other =>
    by_cases same : other = device <;>
      simp [observation?, Move.concern?, Move.binding?, Concern.seen, same]
  | _ => rfl

/-- What a device sees of some moves is what it would see if it were alone with the gateway. -/
theorem sight_eq_alone {moves : List Move} (obeys : (exchange.after moves).Obeys accepts)
    (device : String) :
    sight device exchange moves =
      alone exchange.router.profile.gatewayKey exchange.router.handlers accepts device
        (exchange.router.manifests.resolve device) (moves.filterMap (Move.concern? device)) := by
  induction moves generalizing exchange with
  | nil => rfl
  | cons move moves inductionHypothesis =>
    have now : (exchange.step move).Obeys accepts := Obeys.before obeys
    rw [sight, observation?_of_concern now, inductionHypothesis obeys, profile_step, handlers_step,
      resolve_step_of_concern, List.filterMap_cons]
    cases move.concern? device <;> rfl

/-- **Devices are separate.** Take any two gateways with the same key and sinks that answer as the
messages determine, whatever else is in them, and let anything be done with each of them. If a
device is bound to the same in both at first, and is bound and unbound in the same way, in between
the same messages on channels that name it, then each of these messages has the same outcome in both
and is published in the same way. Handlers are called in the same way too, if both gateways have the
same ones. What comes from the platform, and what names the gateway as its device, is routed in the
same way whatever any device is bound to. -/
theorem devices_are_separate {Backlog Other : Type → Type} [Store Backlog] [Store Other]
    {accepts : Side → Message → Bool} {device : String} {router other : Router}
    {outbox : Outbox Backlog} {otherOutbox : Outbox Other} {moves otherMoves : List Move}
    (key : router.profile.gatewayKey = other.profile.gatewayKey)
    (obeys : (run router outbox moves).Obeys accepts)
    (otherObeys : (run other otherOutbox otherMoves).Obeys accepts)
    (bound : router.manifests.resolve device = other.manifests.resolve device)
    (concerns : moves.filterMap (Move.concern? device) =
      otherMoves.filterMap (Move.concern? device)) :
    let seen := sight device { router, outbox } moves
    let otherSeen := sight device { router := other, outbox := otherOutbox } otherMoves
    seen.map Observation.unhandled = otherSeen.map Observation.unhandled ∧
    (router.handlers = other.handlers → seen = otherSeen) ∧
    ∀ (World : Type) (manifests : Manifests) (callees : Callees World) (message : Message)
      (world : World),
      Channel.isFromPlatform message.channel = true ∨
        Address.device? message.channel = some router.profile.gatewayKey →
      Router.route { router with manifests } callees message world =
        router.route callees message world := by
  intro seen otherSeen
  have seenAlone : seen = alone other.profile.gatewayKey router.handlers accepts device
      (other.manifests.resolve device) (otherMoves.filterMap (Move.concern? device)) := by
    rw [← key, ← bound, ← concerns]
    exact sight_eq_alone obeys device
  have otherSeenAlone : otherSeen = alone other.profile.gatewayKey other.handlers accepts device
      (other.manifests.resolve device) (otherMoves.filterMap (Move.concern? device)) :=
    sight_eq_alone otherObeys device
  refine ⟨?_, fun handlers => ?_, fun World manifests callees message world unread => ?_⟩
  · rw [seenAlone, otherSeenAlone]
    exact map_unhandled_alone _ _ _ _ _ _ _
  · rw [seenAlone, otherSeenAlone, handlers]
  · refine Router.route_congr fun address device spells reports different => ?_
    rcases unread with travels | own
    · obtain ⟨found, parsed, direction⟩ := Channel.travels_iff.1 travels
      obtain rfl := spells.eq (Address.parse_eq_ok_iff.1 parsed)
      rw [reports.direction] at direction
      cases direction
    · rw [Address.device?_of_spells spells, reports.device] at own
      exact absurd (Option.some.inj own) different

/-- A gateway `GW` with a handler for each kind of command. -/
def sharedRouter : Router := { profile := { gatewayKey := "GW" }, handlers := .all }

/-- What the device `pump` reports. -/
def flowReport : Message := { channel := "d2p/sensor_reading/d/pump/r/flow", payload := "1" }

/-- The pump reports while it is bound, and once more when it is not. -/
def quietMoves : List Move :=
  [.bind "pump" { sensors := ["flow"] }, .route flowReport true, .unbind "pump",
    .route flowReport true]

/-- The pump does the same among other things. A valve comes, reports, goes and comes again, and a
reading of the gateway is published. -/
def busyMoves : List Move :=
  [.bind "valve" { sensors := ["flow"] }, .bind "pump" { sensors := ["flow"] },
      .route { channel := "d2p/sensor_reading/d/valve/r/flow", payload := "2" } true,
      .depot (.put .readings "flow" ⟨"flow", ["3"], 0⟩), .unbind "valve", .route flowReport true] ++
    List.map .depot
      [.call 0 [.readings], .drain 0 true, .drain 0 true, .drain 0 true, .drain 0 true] ++
    [.unbind "pump", .bind "valve" { sensors := ["level"] }, .route flowReport false]

/-- What the pump sees. -/
def pumpSight : List Observation :=
  let forwarded := "d2p/sensor_reading/g/GW/d/pump/r/flow"
  [{ message := flowReport
     outcome := .forwarded forwarded
     calls := [.publish .platform { flowReport with channel := forwarded }] },
    { message := flowReport
      outcome := .dropped (.mismatchedKey flowReport.channel "pump")
      calls := [] }]

/-- The pump sees the same of both gateways. -/
theorem devices_are_separate_of_busyMoves :
    (run sharedRouter (.fresh : Outbox Queues) quietMoves).Obeys (fun side _ => side = .platform) ∧
    (run sharedRouter (.fresh : Outbox Queues) busyMoves).Obeys (fun side _ => side = .platform) ∧
    quietMoves.filterMap (Move.concern? "pump") = busyMoves.filterMap (Move.concern? "pump") ∧
    sight "pump" { router := sharedRouter, outbox := (.fresh : Outbox Queues) } quietMoves =
      pumpSight ∧
    sight "pump" { router := sharedRouter, outbox := (.fresh : Outbox Queues) } busyMoves =
      pumpSight := by
  have obeys : (run sharedRouter (.fresh : Outbox Queues) quietMoves).Obeys
      (fun side _ => side = .platform) := by
    unfold Obeys
    decide +kernel
  have busyObeys : (run sharedRouter (.fresh : Outbox Queues) busyMoves).Obeys
      (fun side _ => side = .platform) := by
    unfold Obeys
    decide +kernel
  have concerns : quietMoves.filterMap (Move.concern? "pump") =
      busyMoves.filterMap (Move.concern? "pump") := by
    decide +kernel
  have quiet : sight "pump" { router := sharedRouter, outbox := (.fresh : Outbox Queues) }
      quietMoves = pumpSight := by
    decide +kernel
  have same := (devices_are_separate rfl obeys busyObeys rfl concerns).2.1 rfl
  exact ⟨obeys, busyObeys, concerns, quiet, same.symm.trans quiet⟩

end Exchange

end EdgeGateway
