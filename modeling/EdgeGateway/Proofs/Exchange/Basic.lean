import EdgeGateway.Proofs.Drain.Gate
import EdgeGateway.Proofs.Exchange.Departure
import EdgeGateway.Proofs.Schedule.Depot

/-!
# A router at work

An `Exchange` is a router with a depot: its outbox, its worker and the passes of the threads that
publish. Messages are routed, devices are bound and unbound, and moves around the outbox are made, in
any order; what sinks answer is part of the move. What can be seen of it from outside is written down
in the order in which it happens. The drain lock is left out: all it does is to rule some orders out.

Every message that is offered to a sink is addressed in one of the ways in which a gateway sends
(`sent_of_run`).
-/

namespace EdgeGateway

open Schedule (Agent Depot)

/-- Something that can be seen of a router at work. -/
inductive Exchange.Entry where
  /-- What becomes of an inbound message is offered to the sink of a side. -/
  | forwarded (inbound : Message) (side : Side) (message : Message) (accepted : Bool)
  /-- A pass does something. -/
  | did (agent : Agent) (deed : Drain.Deed)
  deriving DecidableEq

/-- A router at work, and what has been seen of it. -/
structure Exchange (Backlog : Type → Type) extends Depot Backlog where
  router : Router
  log : List Exchange.Entry := []

namespace Exchange

/-- The message that is offered to a sink. -/
def Entry.departure? : Entry → Option Departure
  | forwarded inbound side message accepted =>
    some { origin := .inbound inbound, side, message, accepted }
  | did _ (.offered message accepted) =>
    some { origin := .backlog, side := .platform, message, accepted }
  | did _ (.asked _) | did _ (.removed _ _ _) => none

/-- What an agent's pass does. -/
def Entry.deed? (agent : Agent) : Entry → Option Drain.Deed
  | did other deed => if other = agent then some deed else none
  | forwarded _ _ _ _ => none

/-- What is done next. -/
inductive Move where
  /-- A message comes in. If it is forwarded, its sink accepts it or not. -/
  | route (message : Message) (accepted : Bool)
  | bind (device : String) (manifest : Manifest)
  | unbind (device : String)
  /-- A move is made around the outbox. -/
  | depot (move : Schedule.Move)

/-- Sinks that write down what an inbound message becomes and answer as they are told. Handlers
offer nothing. -/
def sinks (inbound : Message) (accepted : Bool) : Callees (List Entry) where
  publish side message log := (accepted, log ++ [.forwarded inbound side message accepted])
  handle _ log := log

variable {Backlog : Type → Type} [Store Backlog]

/-- A gate and a sink with one answer. -/
def answering (answer : Bool) : Drain.Surroundings Backlog Unit where
  gate _ _ := (answer, ())
  publish _ outbox _ := (answer, outbox, ())

/-- What a pass does in its next step, if it can be seen. -/
def passDeed? (answer : Bool) (outbox : Outbox Backlog) (pass : Drain.Pass) : Option Drain.Deed :=
  Drain.Running.deed? (answering answer) { outbox, world := (), pass }

/-- What is written down of a move around an outbox: what the pass does that goes on in it. -/
def written? (depot : Depot Backlog) (move : Schedule.Move) : Option Entry :=
  (depot.drainer? move).bind fun (agent, answer) =>
    (passDeed? answer depot.outbox (depot.pass agent)).map (.did agent)

/-- The exchange after a move. -/
def step (exchange : Exchange Backlog) : Move → Exchange Backlog
  | .route message accepted =>
    let (_, log) := exchange.router.route (sinks message accepted) message exchange.log
    { exchange with log }
  | .bind device manifest => { exchange with router := exchange.router.bind device manifest }
  | .unbind device => { exchange with router := exchange.router.unbind device }
  | .depot move =>
    { exchange with
      toDepot := exchange.toDepot.step exchange.router.profile move
      log := exchange.log ++ (written? exchange.toDepot move).toList }

/-- A move around the outbox is a move of the depot. -/
theorem toDepot_step (exchange : Exchange Backlog) (move : Schedule.Move) :
    (exchange.step (.depot move)).toDepot = exchange.toDepot.step exchange.router.profile move :=
  rfl

/-- The exchange after some moves. -/
def after (exchange : Exchange Backlog) (moves : List Move) : Exchange Backlog :=
  moves.foldl step exchange

/-- The exchange that some moves lead to, from a router that has not done anything yet. Its outbox
may already hold values. -/
def run (router : Router) (outbox : Outbox Backlog) (moves : List Move) : Exchange Backlog :=
  after { router, outbox } moves

/-- The messages that have been offered to sinks. -/
def departures (exchange : Exchange Backlog) : List Departure :=
  exchange.log.filterMap Entry.departure?

/-- What an agent's passes have done. -/
def deeds (exchange : Exchange Backlog) (agent : Agent) : List Drain.Deed :=
  exchange.log.filterMap (Entry.deed? agent)

/-! ## Everything offered is sent by the gateway -/

/-- Whether what a pass is about to offer is addressed as the gateway sends. -/
def Ready (gatewayKey : String) : Drain.Stage → Prop
  | .publish _ _ _ _ message =>
    ∃ address, Sends gatewayKey .backlog .platform address ∧ message.channel = address.channel
  | .enter | .ask _ _ _ | .look _ _ _ | .acknowledge _ _ _ _ => True

/-- What holds of every exchange of a gateway. -/
structure Sound (gatewayKey : String) (exchange : Exchange Backlog) : Prop where
  key : exchange.router.profile.gatewayKey = gatewayKey
  ready : ∀ agent, Ready gatewayKey (exchange.pass agent).stage
  log : ∀ entry ∈ exchange.log, ∀ departure ∈ entry.departure?, departure.Sent gatewayKey

variable {gatewayKey : String} {exchange : Exchange Backlog} {profile : Profile}
  {outbox : Outbox Backlog}

/-- A pass that goes on to the next key has nothing to offer. -/
theorem ready_next (lane : Lane) (later : List String) : Ready gatewayKey (.next lane later) := by
  cases later <;> trivial

/-- A pass that has looked at a key may have a message to offer, which it has built of a batch.
After any other step it has nothing to offer. -/
theorem ready_of_step {pass : Drain.Pass} {answer : Bool} :
    Ready profile.gatewayKey (pass.step profile answer outbox).2.stage := by
  obtain ⟨lanes, stage, report⟩ := pass
  cases stage with
  | enter =>
    cases lanes with
    | nil => trivial
    | cons lane lanes => exact ready_next lane _
  | ask lane key later => cases answer <;> trivial
  | look lane key later =>
    simp only [Drain.Pass.step]
    split
    · exact ready_next lane later
    · split
      · rename_i message built
        exact sends_of_batchMessage built
      · trivial
  | publish lane key later batch message =>
    cases answer with
    | true => trivial
    | false => exact ready_next lane later
  | acknowledge lane key later batch =>
    simp only [Drain.Pass.step]
    split
    · trivial
    · exact ready_next lane later

/-- What a pass offers is what it was about to offer. -/
theorem sent_of_written {depot : Depot Backlog} {move : Schedule.Move} {entry : Entry}
    {departure : Departure} (ready : ∀ agent, Ready gatewayKey (depot.pass agent).stage)
    (written : written? depot move = some entry) (departs : departure ∈ entry.departure?) :
    departure.Sent gatewayKey := by
  obtain ⟨⟨agent, answer⟩, -, did⟩ := Option.bind_eq_some_iff.1 written
  obtain ⟨deed, done, rfl⟩ := Option.map_eq_some_iff.1 did
  have waits := ready agent
  generalize depot.pass agent = pass at done waits
  obtain ⟨lanes, stage, report⟩ := pass
  cases stage with
  | publish lane key later batch message =>
    cases done
    cases departs
    exact waits
  | enter => cases done
  | look lane key later => cases done
  | ask lane key later =>
    cases done
    cases departs
  | acknowledge lane key later batch =>
    simp only [passDeed?, Drain.Running.deed?] at done
    split at done
    · cases done
      cases departs
    · cases done

/-- What routing a message adds to the log is what becomes of the message. -/
theorem sent_of_mem_route {router : Router} {inbound : Message} {accepted : Bool}
    {log : List Entry} {entry : Entry} {departure : Departure}
    (member : entry ∈ (router.route (sinks inbound accepted) inbound log).2)
    (departs : departure ∈ entry.departure?) :
    entry ∈ log ∨ departure.Sent router.profile.gatewayKey := by
  unfold Router.route at member
  split at member
  · exact .inl member
  · left
    simpa [sinks] using member
  · rename_i side sent decided
    have added : entry ∈ log ++ [.forwarded inbound side sent accepted] := by
      cases accepted <;> exact member
    rcases List.mem_append.1 added with before | last
    · exact .inl before
    · rw [List.mem_singleton.1 last] at departs
      cases departs
      exact .inr (Decision.sends_of_ofMessage decided)

/-- Every move keeps an exchange sound. -/
theorem Sound.step (sound : exchange.Sound gatewayKey) (move : Move) :
    (exchange.step move).Sound gatewayKey := by
  obtain ⟨rfl, ready, log⟩ := sound
  cases move with
  | route message accepted =>
    refine ⟨rfl, ready, fun entry member departure departs => ?_⟩
    exact (sent_of_mem_route member departs).elim (log entry · departure departs) id
  | bind | unbind => exact ⟨rfl, ready, log⟩
  | depot move =>
    refine ⟨rfl, Depot.stages_of_step ready fun _ _ => ready_of_step, ?_⟩
    intro entry member departure departs
    rcases List.mem_append.1 member with before | last
    · exact log entry before departure departs
    · exact sent_of_written ready (Option.mem_toList.1 last) departs

/-- Moves keep an exchange sound. -/
theorem Sound.after (sound : exchange.Sound gatewayKey) (moves : List Move) :
    (exchange.after moves).Sound gatewayKey := by
  induction moves generalizing exchange with
  | nil => exact sound
  | cons move moves inductionHypothesis => exact inductionHypothesis (sound.step move)

/-- Whatever is offered to a sink is addressed in one of the ways in which a gateway sends. -/
theorem sent_of_run {router : Router} {moves : List Move} {departure : Departure}
    (departed : departure ∈ (run router outbox moves).departures) :
    departure.Sent router.profile.gatewayKey := by
  have idle : ∀ agent, Ready router.profile.gatewayKey
      (({ router, outbox } : Exchange Backlog).pass agent).stage := by
    intro agent
    cases agent <;> trivial
  have start : Sound router.profile.gatewayKey { router, outbox } :=
    ⟨rfl, idle, fun _ member => absurd member List.not_mem_nil⟩
  obtain ⟨entry, member, departs⟩ := List.mem_filterMap.1 departed
  exact (start.after moves).log entry member departure departs

end Exchange

end EdgeGateway
