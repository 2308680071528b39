import EdgeGateway.Outbound
import EdgeGateway.Outbox.Basic

/-!
# Drain passes

A pass empties lanes into a sink, one lane after another and key by key. For each key it asks a
gate, looks at the front of the key, builds one message of what it finds, publishes the message
and acknowledges the batch. A refused batch stays and ends its key for this pass. A batch for
which no message can be built is acknowledged without being published, so it cannot block its key.
A gate that answers no ends the lane.

What a drain did is counted in batches, in its report.

The pass is a machine whose every step is at most one operation on the outbox. Between two steps
anything may happen to the outbox: values may be put while a message is on its way. The answers
of the gate and the sink come from outside, as an argument of the step.
-/

namespace EdgeGateway

/-- What a gateway needs to know to publish. -/
structure Profile where
  /-- The gateway's own key. -/
  gatewayKey : String
  /-- The greatest number of readings or alarms in one message, as configured. -/
  batchSize : Nat := 50
  deriving DecidableEq, Repr

namespace Profile

/-- The greatest number of values of a lane in one message. It is never zero, and slots of a
single value are published one by one. -/
def batchLimit (profile : Profile) : Lane → Nat
  | .readings | .alarms => max profile.batchSize 1
  | .statuses | .configurations => 1

/-- The addressing of everything that the gateway itself reports. -/
def ownAddressing (profile : Profile) : Addressing := { gateway := some profile.gatewayKey }

/-- The message that carries a batch. Readings and alarms go to the key under which they waited,
statuses and configuration items to the reference that they carry. -/
def batchMessage (profile : Profile) : (lane : Lane) → (key : String) → List lane.Value →
    Except BuildError Message
  | .readings, key, batch => Outbound.readings profile.ownAddressing key batch
  | .alarms, key, batch => Outbound.alarms profile.ownAddressing key batch
  | .statuses, _, batch =>
    match batch.getLast? with
    | some status => Outbound.status profile.ownAddressing status
    | none => .error (.payload (.encode .emptyBatch))
  | .configurations, _, batch =>
    match batch.getLast? with
    | some item => Outbound.configuration profile.ownAddressing item
    | none => .error (.payload (.encode .emptyBatch))

end Profile

namespace Drain

/-! ## Reports -/

/-- The outcome of a drain. -/
structure Report where
  /-- Batches that a sink accepted. -/
  published : Nat := 0
  /-- Batches that a sink refused and that stay. -/
  failed : Nat := 0
  /-- Batches for which no message can be built. -/
  dropped : Nat := 0
  deriving DecidableEq, Repr

namespace Report

/-- The reports of two drains taken together. -/
def merge (first second : Report) : Report where
  published := first.published + second.published
  failed := first.failed + second.failed
  dropped := first.dropped + second.dropped

/-- Whether nothing was refused or dropped. -/
def isClean (report : Report) : Bool := report.failed = 0 ∧ report.dropped = 0

/-- Two reports together are clean exactly when each is. -/
@[simp] theorem isClean_merge (first second : Report) :
    (first.merge second).isClean = (first.isClean && second.isClean) := by
  simp only [isClean, merge, Nat.add_eq_zero_iff, ← Bool.decide_and]
  exact decide_eq_decide.2 (by omega)

end Report

/-! ## Passes -/

/-- The limit of a batch is never zero. -/
theorem batchLimit_pos (profile : Profile) (lane : Lane) : 0 < profile.batchLimit lane := by
  cases lane <;> simp only [Profile.batchLimit] <;> omega

/-- Where a pass stands. `later` are the keys of the lane behind the current one. -/
inductive Stage where
  /-- About to enter the next lane. -/
  | enter
  /-- About to ask the gate. -/
  | ask (lane : Lane) (key : String) (later : List String)
  /-- About to look at the front of a key. -/
  | look (lane : Lane) (key : String) (later : List String)
  /-- About to publish a message that carries a batch. -/
  | publish (lane : Lane) (key : String) (later : List String) (batch : List lane.Value)
      (message : Message)
  /-- About to acknowledge a batch that was accepted or dropped. -/
  | acknowledge (lane : Lane) (key : String) (later : List String) (batch : List lane.Value)

/-- A pass under way. -/
structure Pass where
  /-- The lanes that have not been entered yet. -/
  lanes : List Lane
  stage : Stage := .enter
  report : Report := {}

/-- The stage in which the next key of a lane is taken up. -/
def Stage.next (lane : Lane) : List String → Stage
  | [] => .enter
  | key :: later => .ask lane key later

namespace Pass

/-- Whether nothing is left to do. -/
def isFinished (pass : Pass) : Bool :=
  match pass.stage with
  | .enter => pass.lanes.isEmpty
  | _ => false

variable {Backlog : Type → Type} [Store Backlog]

/-- One step of a pass. `answer` is what the gate says where the pass asks it, and whether the
sink accepts the message where the pass publishes one; elsewhere it does not matter. -/
def step (profile : Profile) (answer : Bool) (outbox : Outbox Backlog) (pass : Pass) :
    Outbox Backlog × Pass :=
  match pass.stage with
  | .enter =>
    match pass.lanes with
    | [] => (outbox, pass)
    | lane :: lanes => (outbox, { pass with lanes, stage := .next lane (outbox.keys lane) })
  | .ask lane key later =>
    (outbox, { pass with stage := if answer then .look lane key later else .enter })
  | .look lane key later =>
    let (batch, outbox) := outbox.peek lane key (profile.batchLimit lane)
    if batch.isEmpty then (outbox, { pass with stage := .next lane later })
    else
      match profile.batchMessage lane key batch with
      | .ok message => (outbox, { pass with stage := .publish lane key later batch message })
      | .error _ =>
        let report := { pass.report with dropped := pass.report.dropped + 1 }
        (outbox, { pass with stage := .acknowledge lane key later batch, report })
  | .publish lane key later batch _ =>
    if answer then
      let report := { pass.report with published := pass.report.published + 1 }
      (outbox, { pass with stage := .acknowledge lane key later batch, report })
    else
      let report := { pass.report with failed := pass.report.failed + 1 }
      (outbox, { pass with stage := .next lane later, report })
  | .acknowledge lane key later batch =>
    let (removed, outbox) := outbox.acknowledge lane key batch
    (outbox, { pass with stage := if removed then .ask lane key later else .next lane later })

end Pass

end Drain

end EdgeGateway
