import EdgeGateway.Inspection
import EdgeGateway.Rehearsal.Sink
import EdgeGateway.Worker

/-!
# Rehearsals

A rehearsal plays a script of steps with a router, its outbox, scripted sinks and perhaps a
worker. A worker that was started runs until it is idle after every step, so what a step shows
holds everything that the worker did because of it.
-/

namespace EdgeGateway.Rehearsal

/-- The gate of a scripted drain. -/
inductive Gate where
  /-- Always answers yes. -/
  | always
  /-- Answers yes so many times, then no. -/
  | times (count : Nat)
  /-- Answers whether the outbox may publish. -/
  | whilePublishing
  deriving DecidableEq, Repr

/-- The answer of a gate, and the gate for the next question. -/
def Gate.ask {Backlog : Type → Type} (outbox : Outbox Backlog) : Gate → Bool × Gate
  | always => (true, always)
  | times 0 => (false, times 0)
  | times (count + 1) => (true, times count)
  | whilePublishing => (outbox.mayPublish, whilePublishing)

/-- A worker that was started and has not been dropped. -/
structure Post where
  /-- The side whose sink the worker publishes to. -/
  side : Side
  worker : Worker := .waiting
  /-- Whether the worker has not been stopped. -/
  active : Bool := true

/-- The state of a rehearsal. -/
structure State (Backlog : Type → Type) where
  /-- The router that the rehearsal started with. -/
  opening : Router
  router : Router := opening
  outbox : Outbox Backlog
  stage : Stage := {}
  post : Option Post := none

/-- What can be described. -/
inductive Part where
  | router
  | outbox
  | worker
  deriving DecidableEq, Repr

/-- One step of a script. -/
inductive Step where
  | route (message : Message)
  | add (lane : Lane) (value : lane.Value)
  /-- Publishes some lanes to the platform, without a gate. -/
  | publish (lanes : List Lane)
  | drain (side : Side) (gate : Gate)
  | bind (device : String) (manifest : Manifest)
  | unbind (device : String)
  | put (lane : Lane) (key : String) (value : lane.Value)
  | peek (lane : Lane) (key : String) (limit : Nat)
  | get (lane : Lane) (key : String)
  | count (lane : Lane) (key : String)
  | remove (lane : Lane) (key : String) (limit : Nat)
  | acknowledge (lane : Lane) (key : String) (sent : List lane.Value)
  | setConnected (connected : Bool)
  | flags
  | describe (part : Part)
  | setRules (side : Side) (rules : Rules)
  /-- Everything ends and is built anew; only a journal keeps its entries. -/
  | restart
  | startWorker (side : Side)
  | connectWorker
  | disconnectWorker
  | stopWorker
  | dropWorker

/-- The flags that a rehearsal shows. -/
structure Flags where
  connected : Bool
  running : Bool
  mayPublish : Bool
  empty : Bool
  /-- Whether the worker is running, if there is one. -/
  worker : Option Bool
  gatewayKey : String
  deriving DecidableEq, Repr

/-- What a step gives. -/
inductive Result where
  | nothing
  | outcome (outcome : Outcome)
  | report (report : Drain.Report)
  | count (count : Nat)
  | truth (value : Bool)
  | values (lane : Lane) (values : List lane.Value)
  | value (lane : Lane) (value : Option lane.Value)
  | flags (flags : Flags)
  | description (text : String)

variable {Backlog : Type → Type} [Store Backlog]

namespace State

/-- The state in which a rehearsal starts. -/
def start (opening : Router) : State Backlog := { opening, outbox := .fresh }

/-- Routes a message to the stage. -/
def route (message : Message) (state : State Backlog) : Result × State Backlog :=
  let callees : Callees (Outbox Backlog × Stage) :=
    { publish := fun side message (outbox, stage) =>
        let (accepted, outbox, stage) := stage.publish side message outbox
        (accepted, (outbox, stage))
      handle := fun command (outbox, stage) => (outbox, stage.handle command) }
  let (outcome, outbox, stage) := state.router.route callees message (state.outbox, state.stage)
  (.outcome outcome, { state with outbox, stage })

/-- Drains some lanes to the sink of a side. -/
def drain (lanes : List Lane) (side : Side) (gate : Gate) (state : State Backlog) :
    Result × State Backlog :=
  let surroundings : Drain.Surroundings Backlog (Gate × Stage) :=
    { gate := fun outbox (gate, stage) =>
        let (answer, gate) := gate.ask outbox
        (answer, gate, stage)
      publish := fun message outbox (gate, stage) =>
        let (accepted, outbox, stage) := stage.publish side message outbox
        (accepted, outbox, gate, stage) }
  let (report, outbox, _, stage) :=
    Drain.run state.router.profile surroundings lanes state.stage.interventions state.outbox
      (gate, state.stage)
  (.report report, { state with outbox, stage })

/-- Whether there is a worker that has not been stopped and publishing is running. -/
def workerRunning (state : State Backlog) : Option Bool :=
  state.post.map fun post => post.active && state.outbox.running

/-- The flags of a state. -/
def flags (state : State Backlog) : Flags where
  connected := state.outbox.connected
  running := state.outbox.running
  mayPublish := state.outbox.mayPublish
  empty := state.outbox.isEmpty
  worker := state.workerRunning
  gatewayKey := state.router.profile.gatewayKey

/-- The description of a part. -/
def description (state : State Backlog) : Part → String
  | .router => state.router.description state.outbox
  | .outbox => state.outbox.description
  | .worker =>
    match state.post with
    | none => "None"
    | some post =>
      "Some(" ++ fieldsText "PublishWorker"
        [("outbox", state.outbox.description), ("running", truthText post.active)] ++ ")"

/-- Stops the worker, unless it has been stopped before. -/
def stopWorker (state : State Backlog) : State Backlog :=
  match state.post with
  | some post =>
    if post.active then
      { state with outbox := state.outbox.stop, post := some { post with active := false } }
    else state
  | none => state

/-- Records a connection for the worker, if there is one. -/
def connectWorker (connected : Bool) (state : State Backlog) : State Backlog :=
  if state.post.isSome then { state with outbox := state.outbox.setConnected connected } else state

/-- Carries out a step, without what a worker does because of it. -/
def perform (state : State Backlog) : Step → Result × State Backlog
  | .route message => state.route message
  | .add lane value => (.nothing, { state with outbox := state.outbox.add lane value })
  | .publish lanes => state.drain lanes .platform .always
  | .drain side gate => state.drain Lane.drainOrder side gate
  | .bind device manifest =>
    let router := state.router.bind device manifest
    (.count router.manifests.size, { state with router })
  | .unbind device =>
    (.truth (state.router.manifests.resolve device).isSome,
      { state with router := state.router.unbind device })
  | .put lane key value => (.nothing, { state with outbox := state.outbox.put lane key value })
  | .peek lane key limit =>
    let (values, outbox) := state.outbox.peek lane key limit
    (.values lane values, { state with outbox })
  | .get lane key =>
    let (value, outbox) := state.outbox.get? lane key
    (.value lane value, { state with outbox })
  | .count lane key => (.count (state.outbox.count lane key), state)
  | .remove lane key limit =>
    (.nothing, { state with outbox := state.outbox.remove lane key limit })
  | .acknowledge lane key sent =>
    let (removed, outbox) := state.outbox.acknowledge lane key sent
    (.truth removed, { state with outbox })
  | .setConnected connected =>
    (.nothing, { state with outbox := state.outbox.setConnected connected })
  | .flags => (.flags state.flags, state)
  | .describe part => (.description (state.description part), state)
  | .setRules side rules =>
    (.nothing, { state with stage := state.stage.setSink side { rules } })
  | .restart => (.nothing, { opening := state.opening, outbox := state.outbox.reopen })
  | .startWorker side =>
    let state := state.stopWorker
    (.nothing, { state with outbox := state.outbox.start, post := some { side } })
  | .connectWorker => (.nothing, state.connectWorker true)
  | .disconnectWorker => (.nothing, state.connectWorker false)
  | .stopWorker => (.nothing, state.stopWorker)
  | .dropWorker => (.nothing, { state.stopWorker with post := none })

/-- Lets the worker run until it is idle. -/
def settle (state : State Backlog) : State Backlog :=
  match state.post with
  | none => state
  | some post =>
    let (worker, outbox, stage) :=
      Worker.settle state.router.profile (Stage.publish post.side) state.stage.interventions
        post.worker state.outbox state.stage
    { state with outbox, stage, post := some { post with worker } }

/-- One step of a rehearsal, with everything that a worker does because of it. -/
def step (state : State Backlog) (step : Step) : Result × State Backlog :=
  let (result, state) := { state with stage := state.stage.cleared }.perform step
  (result, state.settle)

/-- Everything that waits: how many entries in which lane under which key. -/
def backlog (state : State Backlog) : List (Lane × String × Nat) :=
  Lane.all.flatMap fun lane =>
    (state.outbox.keys lane).map fun key => (lane, key, state.outbox.count lane key)

end State

end EdgeGateway.Rehearsal
