import EdgeGateway.Drain.Run

/-!
# The publish worker

A worker alternates between waiting and draining all lanes. It leaves the waiting stage when
publishing is running, the transport is connected and the signal is up, and takes the signal down
as it does; there is no timer. While it drains, its gate is whether it may publish now. Once it
waits and finds publishing stopped, it has left for good.

`Worker.step` is the machine; `Worker.settle` runs it until it can only wait.
-/

namespace EdgeGateway

/-- What a worker is doing. -/
inductive Worker where
  | waiting
  | draining (pass : Drain.Pass)
  | left

namespace Worker

variable {Backlog : Type → Type} [Store Backlog]

/-- Whether a worker that waits has something to do. -/
def isWoken (outbox : Outbox Backlog) : Bool :=
  !outbox.running || (outbox.connected && outbox.signalled)

/-- The answer that a drain gets: from the outbox where it asks the gate, from the sink where it
publishes. -/
def answer (outbox : Outbox Backlog) (accepted : Bool) : Drain.Stage → Bool
  | .ask _ _ _ => outbox.mayPublish
  | _ => accepted

/-- One step of a worker. `accepted` is whether the sink accepts the message where the worker
publishes one. A worker without anything to do stays as it is. -/
def step (profile : Profile) (accepted : Bool) (outbox : Outbox Backlog) :
    Worker → Outbox Backlog × Worker
  | waiting =>
    if !outbox.running then (outbox, left)
    else if outbox.connected && outbox.signalled then
      ({ outbox with signalled := false }, draining { lanes := Lane.drainOrder })
    else (outbox, waiting)
  | draining pass =>
    if pass.isFinished then (outbox, waiting)
    else
      let (outbox, pass) := pass.step profile (answer outbox accepted pass.stage) outbox
      (outbox, draining pass)
  | left => (outbox, left)

/-- The message that a worker is about to publish. -/
def message? : Worker → Option Message
  | draining { stage := .publish _ _ _ _ message, .. } => some message
  | _ => none

/-- Whether a worker cannot go on by itself. -/
def isIdle (outbox : Outbox Backlog) : Worker → Bool
  | waiting => !isWoken outbox
  | draining _ => false
  | left => true

variable {World : Type}

/-- Runs a worker until it is idle, for at most `fuel` steps. -/
def settleWithin (profile : Profile)
    (publish : Message → Outbox Backlog → World → Bool × Outbox Backlog × World) :
    (fuel : Nat) → Worker → Outbox Backlog → World → Worker × Outbox Backlog × World
  | 0, worker, outbox, world => (worker, outbox, world)
  | fuel + 1, worker, outbox, world =>
    if worker.isIdle outbox then (worker, outbox, world)
    else
      let (accepted, outbox, world) :=
        match worker.message? with
        | some message => publish message outbox world
        | none => (false, outbox, world)
      let (outbox, worker) := worker.step profile accepted outbox
      settleWithin profile publish fuel worker outbox world

/-- Runs a worker until it is idle. At most `arrivals` times a value is put or the transport comes
up while the sink publishes; each of them may cause one more pass. -/
def settle (profile : Profile)
    (publish : Message → Outbox Backlog → World → Bool × Outbox Backlog × World)
    (arrivals : Nat) (worker : Worker) (outbox : Outbox Backlog) (world : World) :
    Worker × Outbox Backlog × World :=
  let passes := arrivals + 2
  settleWithin profile publish (passes * (Drain.stepBound outbox arrivals + 2)) worker outbox world

end Worker

end EdgeGateway
