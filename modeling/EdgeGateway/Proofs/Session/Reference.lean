import EdgeGateway.Proofs.Backlog.Shelf
import EdgeGateway.Proofs.Outbound.Address
import EdgeGateway.Proofs.Schedule.Depot
import EdgeGateway.Proofs.Telemetry.Entry

/-!
# On which reference a value is published

A `Session` is a depot to which producers add values and from which callers publish, step by step
and in any order. `accepted_on_reference` gives the channel of every message that a sink accepts: it
is that of the gateway, and its reference is the one with which each of the values in the message
was added, cut at its first U+0000 if a journal keeps readings or alarms.

The argument follows a value from its addition to the shelf on which its lane keeps it, into the
batch that a pass takes from that shelf, and into the message of the batch.
-/

namespace EdgeGateway

open Schedule (Depot)

/-! ## Messages -/

/-- The kind of the messages that carry the values of a lane. -/
def Lane.kind : Lane → MessageKind
  | readings => .sensorReading
  | alarms => .alarm
  | statuses => .actuatorStatus
  | configurations => .configurationGet

/-- The channel on which a gateway publishes values of a lane on a reference. -/
def Profile.channel (profile : Profile) (lane : Lane) (reference : String) : String :=
  "d2p/" ++ lane.kind.token ++ "/g/" ++ profile.gatewayKey ++ "/r/" ++ reference

/-- The reference on which a value is published: that of its batch for readings and alarms, its own
one for statuses and configuration items. -/
def Lane.destination : (lane : Lane) → (key : String) → lane.Value → String
  | readings, key, _ | alarms, key, _ => key
  | statuses, _, status => Lane.statuses.reference status
  | configurations, _, item => Lane.configurations.reference item

/-- The channel of a gateway's own address. -/
theorem channel_ownAddressing (profile : Profile) (lane : Lane) (reference : String) :
    Address.channel
        { direction := .toPlatform
          kind := lane.kind
          addressing := profile.ownAddressing
          reference } =
      profile.channel lane reference := by
  have marker : "/g/" = "/" ++ "g/" := by decide
  rw [Profile.channel, marker]
  simp only [Address.channel, Address.pairText, Address.gatewayMarker,
    Address.referenceMarker, Profile.ownAddressing, Direction.token, String.append_assoc,
    String.empty_append]
  rfl

/-- In a batch of at most one value, every value is the last. -/
theorem getLast?_of_mem {Value : Type} {batch : List Value} (limited : batch.length ≤ 1)
    {value : Value} (member : value ∈ batch) : batch.getLast? = some value := by
  match batch with
  | [] => cases member
  | [only] =>
    rw [List.mem_singleton.1 member]
    rfl
  | _ :: _ :: _ => simp at limited

/-- The message of a batch is published on the reference of each of its values. -/
theorem channel_of_batchMessage {profile : Profile} {lane : Lane} {key : String}
    {batch : List lane.Value} {message : Message}
    (built : profile.batchMessage lane key batch = .ok message)
    (limited : batch.length ≤ profile.batchLimit lane) {value : lane.Value}
    (member : value ∈ batch) :
    message.channel = profile.channel lane (lane.destination key value) := by
  rw [← channel_ownAddressing]
  cases lane with
  | readings =>
    have message : Outbound.readings profile.ownAddressing key batch = .ok message := built
    exact Outbound.channel_of_message message
  | alarms =>
    have message : Outbound.alarms profile.ownAddressing key batch = .ok message := built
    exact Outbound.channel_of_message message
  | statuses =>
    rw [Profile.batchMessage, getLast?_of_mem limited member] at built
    exact Outbound.channel_of_message built
  | configurations =>
    rw [Profile.batchMessage, getLast?_of_mem limited member] at built
    exact Outbound.channel_of_message built

/-! ## Outboxes with shelves -/

namespace Outbox

variable {Backlog : Type → Type} [Store Backlog] [Shelved Backlog]

/-- Whether a value can be found on a shelf of a lane. -/
def Holds (outbox : Outbox Backlog) (lane : Lane) (key : String) (value : lane.Value) : Prop :=
  Shelved.Holds (outbox.lanes.get lane) key value

variable {outbox : Outbox Backlog} {lane other : Lane} {key otherKey : String} {limit : Nat}
  {found : other.Value}

/-- Nothing is found in a fresh outbox. -/
theorem not_holds_fresh (lane : Lane) (key : String) (value : lane.Value) :
    ¬ (fresh : Outbox Backlog).Holds lane key value := by
  cases lane <;> exact Shelved.not_holds_fresh _ key value

/-- An outbox with a store replaced by one that holds no more holds no more. -/
theorem holds_of_set {store : Backlog lane.Value}
    (fewer : ∀ key value, Shelved.Holds store key value → outbox.Holds lane key value)
    (holds : { outbox with lanes := outbox.lanes.set lane store }.Holds other otherKey found) :
    outbox.Holds other otherKey found := by
  unfold Holds at holds
  by_cases same : other = lane
  · subst same
    rw [Lanes.get_set_self] at holds
    exact fewer otherKey found holds
  · rwa [Lanes.get_set_of_ne _ _ same] at holds

/-- Looking adds nothing. -/
theorem holds_of_peek (holds : (outbox.peek lane key limit).2.Holds other otherKey found) :
    outbox.Holds other otherKey found :=
  holds_of_set (fun _ _ => Shelved.holds_of_peek) holds

/-- Removing adds nothing. -/
theorem holds_of_remove (holds : (outbox.remove lane key limit).Holds other otherKey found) :
    outbox.Holds other otherKey found :=
  holds_of_set (fun _ _ => Shelved.holds_of_remove) holds

/-- Acknowledging adds nothing. -/
theorem holds_of_acknowledge {sent : List lane.Value}
    (holds : (outbox.acknowledge lane key sent).2.Holds other otherKey found) :
    outbox.Holds other otherKey found := by
  unfold acknowledge at holds
  simp only at holds
  split at holds
  · exact holds_of_peek (holds_of_remove holds)
  · exact holds_of_peek holds

/-- What is found after a value has been added was found before, or is that value on the shelf of
its reference. -/
theorem holds_of_add {value : lane.Value}
    (holds : (outbox.add lane value).Holds other otherKey found) :
    outbox.Holds other otherKey found ∨
      (⟨other, found⟩ : (lane : Lane) × lane.Value) = ⟨lane, value⟩ ∧
        otherKey = Shelved.shelf Backlog (lane.reference value) := by
  unfold Holds add at holds
  by_cases same : other = lane
  · subst same
    rw [get_lanes_put_self] at holds
    rcases Shelved.holds_of_put other.decode?_encode holds with before | ⟨shelved, rfl⟩
    · exact .inl before
    · exact .inr ⟨rfl, shelved⟩
  · rw [get_lanes_put_of_ne _ _ _ same] at holds
    exact .inl holds

/-- What is found when looking at a shelf is on it. -/
theorem holds_of_mem_peek (shelved : Shelved.shelf Backlog key = key) {value : lane.Value}
    (member : value ∈ (outbox.peek lane key limit).1) : outbox.Holds lane key value :=
  Shelved.holds_of_mem_peek shelved member

end Outbox

/-! ## Sessions -/

/-- What becomes of the values of a session. -/
inductive Session.Event where
  /-- A producer adds a value under its own reference. -/
  | added (lane : Lane) (value : lane.Value)
  /-- A sink accepts the message of a batch. -/
  | accepted (lane : Lane) (batch : List lane.Value) (message : Message)
  deriving DecidableEq

/-- An outbox, the passes of the threads that publish from it, and what has happened so far. -/
structure Session (Backlog : Type → Type) extends Depot Backlog where
  history : List Session.Event := []

namespace Session

/-- What is done next. -/
inductive Move where
  | add (lane : Lane) (value : lane.Value)
  /-- A caller begins to publish some lanes. -/
  | call (number : Nat) (lanes : List Lane)
  /-- A caller's pass makes a step. The answer is that of its gate or its sink. -/
  | drain (number : Nat) (answer : Bool)

/-- A move as one around the outbox: a value is put under its own reference. -/
def Move.around : Move → Schedule.Move
  | add lane value => .put lane (lane.reference value) value
  | call number lanes => .call number lanes
  | drain number answer => .drain number answer

/-- What a sink accepts when a pass makes a step in a stage. -/
def acceptance (answer : Bool) : Drain.Stage → List Event
  | .publish lane _ _ batch message => if answer then [.accepted lane batch message] else []
  | .enter | .ask _ _ _ | .look _ _ _ | .acknowledge _ _ _ _ => []

variable {Backlog : Type → Type}

/-- What becomes of values in a move. -/
def events (session : Session Backlog) : Move → List Event
  | .add lane value => [.added lane value]
  | .call _ _ => []
  | .drain number answer => acceptance answer (session.calls number).stage

variable [Store Backlog]

/-- A session without values. -/
def fresh : Session Backlog := { outbox := .fresh }

/-- The session after a move. -/
def step (profile : Profile) (session : Session Backlog) (move : Move) : Session Backlog where
  toDepot := session.toDepot.step profile move.around
  history := session.history ++ session.events move

/-- The session after some moves, from an empty outbox. -/
def run (profile : Profile) (moves : List Move) : Session Backlog :=
  moves.foldl (step profile) fresh

/-! ## Following a value -/

variable [Shelved Backlog]

variable (Backlog) in
/-- Whether some keys are shelves. -/
def AreShelves (keys : List String) : Prop := ∀ key ∈ keys, Shelved.shelf Backlog key = key

variable (Backlog) in
/-- The reference on which a lane publishes a value that it has kept. -/
def publishedReference (lane : Lane) (value : lane.Value) : String :=
  lane.destination (Shelved.shelf Backlog (lane.reference value)) value

variable (Backlog) in
/-- Whether the message of a batch may be accepted: each of the values has been added, and the
message is on its reference. -/
def Addressed (profile : Profile) (history : List Event) (lane : Lane) (batch : List lane.Value)
    (message : Message) : Prop :=
  batch ≠ [] ∧ ∀ value ∈ batch, .added lane value ∈ history ∧
    message.channel = profile.channel lane (publishedReference Backlog lane value)

variable (Backlog) in
/-- What holds of a stage of a pass: the keys that it has listed are shelves, and the message on its
way may be accepted. -/
def Underway (profile : Profile) (history : List Event) : Drain.Stage → Prop
  | .enter => True
  | .ask _ key later | .look _ key later | .acknowledge _ key later _ =>
    AreShelves Backlog (key :: later)
  | .publish lane key later batch message =>
    AreShelves Backlog (key :: later) ∧ Addressed Backlog profile history lane batch message

/-- What holds of every session. -/
structure Sound (profile : Profile) (session : Session Backlog) : Prop where
  /-- What is found has been added, with a reference that has the shelf. -/
  origin : ∀ lane key value, session.outbox.Holds lane key value →
    .added lane value ∈ session.history ∧ Shelved.shelf Backlog (lane.reference value) = key
  underway : ∀ agent, Underway Backlog profile session.history (session.pass agent).stage
  arrived : ∀ lane batch message, .accepted lane batch message ∈ session.history →
    Addressed Backlog profile session.history lane batch message

variable {profile : Profile} {history : List Event} {session : Session Backlog}

/-- What may be accepted may be so whatever else happens. -/
theorem Addressed.append {lane : Lane} {batch : List lane.Value} {message : Message}
    (addressed : Addressed Backlog profile history lane batch message) (events : List Event) :
    Addressed Backlog profile (history ++ events) lane batch message := by
  refine ⟨addressed.1, fun value member => ?_⟩
  obtain ⟨added, channel⟩ := addressed.2 value member
  exact ⟨List.mem_append_left _ added, channel⟩

/-- A stage is kept to whatever else happens. -/
theorem Underway.append {stage : Drain.Stage} (underway : Underway Backlog profile history stage)
    (events : List Event) : Underway Backlog profile (history ++ events) stage := by
  cases stage with
  | publish lane key later batch message => exact ⟨underway.1, underway.2.append events⟩
  | _ => exact underway

/-- A pass goes on to the next key among shelves. -/
theorem underway_next {lane : Lane} {later : List String} (shelves : AreShelves Backlog later) :
    Underway Backlog profile history (.next lane later) := by
  cases later with
  | nil => trivial
  | cons key later => exact shelves

/-- The batch that a pass takes from a shelf may be accepted with the message that is built of
it. -/
theorem addressed_of_look {outbox : Outbox Backlog} {lane : Lane} {key : String}
    {message : Message} (shelved : Shelved.shelf Backlog key = key)
    (origin : ∀ value, outbox.Holds lane key value →
      .added lane value ∈ history ∧ Shelved.shelf Backlog (lane.reference value) = key)
    (nonempty : (outbox.peek lane key (profile.batchLimit lane)).1 ≠ [])
    (built : profile.batchMessage lane key (outbox.peek lane key (profile.batchLimit lane)).1 =
      .ok message) :
    Addressed Backlog profile history lane (outbox.peek lane key (profile.batchLimit lane)).1
      message := by
  refine ⟨nonempty, fun value member => ?_⟩
  obtain ⟨added, shelf⟩ := origin value (Outbox.holds_of_mem_peek shelved member)
  refine ⟨added, ?_⟩
  rw [publishedReference, shelf]
  exact channel_of_batchMessage built (Shelved.length_peek_le _ _ _) member

/-- A step of a pass keeps its stage to what has been added. -/
theorem underway_of_step {outbox : Outbox Backlog} {pass : Drain.Pass} {answer : Bool}
    (origin : ∀ lane key value, outbox.Holds lane key value →
      .added lane value ∈ history ∧ Shelved.shelf Backlog (lane.reference value) = key)
    (underway : Underway Backlog profile history pass.stage) :
    Underway Backlog profile history (pass.step profile answer outbox).2.stage := by
  obtain ⟨lanes, stage, report⟩ := pass
  cases stage with
  | enter =>
    cases lanes with
    | nil => trivial
    | cons lane lanes => exact underway_next fun key listed => Shelved.shelf_of_mem_keys listed
  | ask lane key later =>
    cases answer with
    | true => exact underway
    | false => trivial
  | look lane key later =>
    obtain ⟨shelved, shelves⟩ := List.forall_mem_cons.1 underway
    simp only [Drain.Pass.step]
    split
    · exact underway_next shelves
    · rename_i nonempty
      split
      · rename_i message built
        refine ⟨underway, addressed_of_look shelved (origin lane key) ?_ built⟩
        exact fun empty => nonempty (List.isEmpty_iff.2 empty)
      · exact underway
  | publish lane key later batch message =>
    cases answer with
    | true => exact underway.1
    | false => exact underway_next (List.forall_mem_cons.1 underway.1).2
  | acknowledge lane key later batch =>
    simp only [Drain.Pass.step]
    split
    · exact underway
    · exact underway_next (List.forall_mem_cons.1 underway).2

/-- A step of a pass adds nothing to what can be found. -/
theorem holds_of_step {outbox : Outbox Backlog} {pass : Drain.Pass} {answer : Bool} {lane : Lane}
    {key : String} {value : lane.Value}
    (holds : (pass.step profile answer outbox).1.Holds lane key value) :
    outbox.Holds lane key value := by
  obtain ⟨lanes, stage, report⟩ := pass
  cases stage with
  | enter => cases lanes <;> exact holds
  | ask other otherKey later => exact holds
  | look other otherKey later =>
    simp only [Drain.Pass.step] at holds
    split at holds
    · exact Outbox.holds_of_peek holds
    · split at holds <;> exact Outbox.holds_of_peek holds
  | publish other otherKey later batch message => cases answer <;> exact holds
  | acknowledge other otherKey later batch => exact Outbox.holds_of_acknowledge holds

/-- What a sink accepts is the message on its way. -/
theorem addressed_of_mem_acceptance {stage : Drain.Stage} {answer : Bool} {lane : Lane}
    {batch : List lane.Value} {message : Message}
    (underway : Underway Backlog profile history stage)
    (accepted : .accepted lane batch message ∈ acceptance answer stage) :
    Addressed Backlog profile history lane batch message := by
  cases stage with
  | publish other key later offered carrier =>
    cases answer with
    | true =>
      cases List.mem_singleton.1 accepted
      exact underway.2
    | false => cases accepted
  | _ => cases accepted

/-- A session without values is sound. -/
theorem sound_fresh : (fresh : Session Backlog).Sound profile where
  origin lane key value holds := absurd holds (Outbox.not_holds_fresh lane key value)
  underway agent := by cases agent <;> trivial
  arrived := nofun

/-- What is found after a move has been added, with a reference that has the shelf. -/
theorem Sound.origin_step (sound : session.Sound profile) (move : Move) {lane : Lane} {key : String}
    {value : lane.Value} (holds : (session.step profile move).outbox.Holds lane key value) :
    .added lane value ∈ (session.step profile move).history ∧
      Shelved.shelf Backlog (lane.reference value) = key := by
  have before : session.outbox.Holds lane key value →
      .added lane value ∈ (session.step profile move).history ∧
        Shelved.shelf Backlog (lane.reference value) = key := by
    intro held
    obtain ⟨added, shelf⟩ := sound.origin lane key value held
    exact ⟨List.mem_append_left _ added, shelf⟩
  cases move with
  | add other found =>
    rcases Outbox.holds_of_add holds with held | ⟨same, shelved⟩
    · exact before held
    · cases same
      exact ⟨List.mem_append_right _ List.mem_cons_self, shelved.symm⟩
  | call number lanes =>
    simp only [step, Depot.step, Move.around] at holds
    split at holds <;> exact before holds
  | drain number answer => exact before (holds_of_step holds)

/-- What a sink accepts in a move is a message on its way. -/
theorem Sound.arrived_step (sound : session.Sound profile) (move : Move) {lane : Lane}
    {batch : List lane.Value} {message : Message}
    (accepted : .accepted lane batch message ∈ session.events move) :
    Addressed Backlog profile session.history lane batch message := by
  cases move with
  | add other value => cases List.mem_singleton.1 accepted
  | call number lanes => cases accepted
  | drain number answer => exact addressed_of_mem_acceptance (sound.underway (.caller number)) accepted

/-- Every move keeps a session sound. -/
theorem Sound.step (sound : session.Sound profile) (move : Move) :
    (session.step profile move).Sound profile where
  origin _ _ _ holds := sound.origin_step move holds
  underway agent := by
    have kept : Underway Backlog profile session.history
        ((session.toDepot.step profile move.around).pass agent).stage :=
      Depot.stages_of_step sound.underway
        (fun agent _ => underway_of_step sound.origin (sound.underway agent)) agent
    exact kept.append _
  arrived lane batch message accepted := by
    rcases List.mem_append.1 accepted with before | last
    · exact (sound.arrived lane batch message before).append _
    · exact (sound.arrived_step move last).append _

/-- Every session that can come about is sound. -/
theorem sound_run (moves : List Move) : (run profile moves : Session Backlog).Sound profile := by
  have every : ∀ session : Session Backlog, session.Sound profile →
      (moves.foldl (Session.step profile) session).Sound profile := by
    induction moves with
    | nil => exact fun _ sound => sound
    | cons move moves inductionHypothesis =>
      exact fun session sound => inductionHypothesis _ (sound.step move)
  exact every fresh sound_fresh

/-- Queues lead a lane to publish a value on its reference. -/
theorem publishedReference_queues (lane : Lane) (value : lane.Value) :
    publishedReference Queues lane value = lane.reference value := by
  cases lane <;> rfl

/-- Journals lead a lane to publish a value on its reference, or on what stands before the first
U+0000 of it. -/
theorem publishedReference_journal (lane : Lane) (value : lane.Value) :
    publishedReference Journal lane value =
      if lane.retention = .fifo then beforeZero (lane.reference value)
      else lane.reference value := by
  cases lane <;> rfl

/-- **Where values arrive.** Let producers and callers make any moves, over queues or over journals.
Whatever message a sink accepts carries at least one value, each value in it has been added to its
lane, and the message is on the lane's channel of the gateway, with the reference of each of the
values. Only where a journal keeps readings or alarms the reference is cut at its first U+0000. -/
theorem accepted_on_reference (profile : Profile) (moves : List Move) :
    (∀ lane batch message,
      .accepted lane batch message ∈ (run profile moves : Session Queues).history →
        batch ≠ [] ∧ ∀ value ∈ batch,
          .added lane value ∈ (run profile moves : Session Queues).history ∧
          message.channel = profile.channel lane (lane.reference value)) ∧
    ∀ lane batch message,
      .accepted lane batch message ∈ (run profile moves : Session Journal).history →
        batch ≠ [] ∧ ∀ value ∈ batch,
          .added lane value ∈ (run profile moves : Session Journal).history ∧
          message.channel = profile.channel lane
            (if lane.retention = .fifo then beforeZero (lane.reference value)
              else lane.reference value) := by
  constructor
  · intro lane batch message accepted
    have addressed := (sound_run moves).arrived lane batch message accepted
    simpa only [Addressed, publishedReference_queues] using addressed
  · intro lane batch message accepted
    have addressed := (sound_run moves).arrived lane batch message accepted
    simpa only [Addressed, publishedReference_journal] using addressed

/-- A gateway whose key is short. -/
def shortGateway : Profile := { gatewayKey := "GW" }

/-- A reading whose reference holds U+0000. -/
def brokenReading : Reading := { reference := "A\x00B", values := ["1"], timestamp := 0 }

/-- The reading is added and published. -/
def brokenReferenceMoves : List Move :=
  [.add .readings brokenReading, .call 0 [.readings], .drain 0 true, .drain 0 true, .drain 0 true,
    .drain 0 true]

/-- The message in which a journal publishes the reading. -/
def strayMessage : Message where
  channel := "d2p/sensor_reading/g/GW/r/A"
  payload := "[\x7b\"data\":\"1\"\x7d]"

/-- A journal publishes the reading on what stands before the U+0000 of its reference. -/
theorem accepted_on_reference_of_brokenReferenceMoves :
    .accepted .readings [brokenReading] strayMessage ∈
        (run shortGateway brokenReferenceMoves : Session Journal).history ∧
      strayMessage.channel =
        shortGateway.channel .readings (beforeZero brokenReading.reference) := by
  have accepted : .accepted .readings [brokenReading] strayMessage ∈
      (run shortGateway brokenReferenceMoves : Session Journal).history := by
    decide +kernel
  obtain ⟨-, arrived⟩ := accepted_on_reference shortGateway brokenReferenceMoves
  exact ⟨accepted, ((arrived _ _ _ accepted).2 _ List.mem_cons_self).2⟩

/-- The channel on which a journal publishes the reading is not that of the reading's reference. -/
theorem journal_publishes_elsewhere :
    .accepted .readings [brokenReading] strayMessage ∈
        (run shortGateway brokenReferenceMoves : Session Journal).history ∧
      strayMessage.channel ≠ shortGateway.channel .readings brokenReading.reference := by
  constructor
  · decide +kernel
  · decide +kernel

end Session

end EdgeGateway
