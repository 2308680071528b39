import EdgeGateway.Worker
import Mathlib.Logic.Function.Basic

/-!
# An outbox and those who use it

Producers put values into an outbox, and the publish worker and any number of callers drain it. A
`Depot` is the outbox together with the worker and with the passes of the callers. `Depot.step` is
one step of anyone: a value is put, the transport comes up or goes down, publishing is started or
stopped, a caller begins to publish, a caller's pass makes a step, or the worker makes one. A step of
a pass is `Drain.Pass.step` and a step of the worker is `Worker.step`; each is at most one operation
on the outbox, so any sequence of moves is a possible interleaving. What a sink or a gate answers is
part of the move and may be anything.

`Depot.Effect` is all that a move can do to the lanes and to the passes.
-/

namespace EdgeGateway

/-! ## Finished passes -/

namespace Drain.Pass

variable {pass : Pass}

/-- A finished pass is outside all lanes. -/
theorem stage_of_isFinished (finished : pass.isFinished = true) : pass.stage = .enter := by
  unfold isFinished at finished
  split at finished
  · assumption
  · cases finished

/-- A finished pass does nothing in a step. -/
theorem step_of_isFinished {Backlog : Type → Type} [Store Backlog] {profile : Profile}
    {answer : Bool} {outbox : Outbox Backlog} (finished : pass.isFinished = true) :
    pass.step profile answer outbox = (outbox, pass) := by
  obtain ⟨lanes, stage, report⟩ := pass
  obtain rfl : stage = .enter := stage_of_isFinished finished
  obtain rfl : lanes = [] := List.isEmpty_iff.1 finished
  rfl

end Drain.Pass

namespace Worker

/-- The pass of a worker. A worker that does not drain has a pass with nothing to do. -/
def pass : Worker → Drain.Pass
  | draining pass => pass
  | waiting | left => { lanes := [] }

variable {Backlog : Type → Type} [Store Backlog] (worker : Worker) (profile : Profile)
  (accepted : Bool) (outbox : Outbox Backlog)

/-- A worker whose pass is not finished makes a step of it. -/
theorem step_of_unfinished (unfinished : worker.pass.isFinished = false) :
    let stepped := worker.pass.step profile (answer outbox accepted worker.pass.stage) outbox
    worker.step profile accepted outbox = (stepped.1, draining stepped.2) := by
  cases worker with
  | waiting | left => cases unfinished
  | draining pass =>
    have going : pass.isFinished = false := unfinished
    simp [step, Worker.pass, going]

/-- A worker whose pass is finished moves no value and enters no lane. -/
theorem step_of_isFinished (finished : worker.pass.isFinished = true) :
    (worker.step profile accepted outbox).1.lanes = outbox.lanes ∧
      (worker.step profile accepted outbox).1.sequence = outbox.sequence ∧
      (worker.step profile accepted outbox).2.pass.stage = .enter := by
  cases worker with
  | waiting =>
    simp only [step]
    split
    · exact ⟨rfl, rfl, rfl⟩
    · split <;> exact ⟨rfl, rfl, rfl⟩
  | draining pass =>
    have done : pass.isFinished = true := finished
    simp only [step, done, if_true]
    exact ⟨trivial, trivial, rfl⟩
  | left => exact ⟨rfl, rfl, rfl⟩

end Worker

/-! ## Depots -/

namespace Schedule

/-- Who drains an outbox: the publish worker, or a thread that calls a publish operation. -/
inductive Agent where
  | worker
  | caller (number : Nat)
  deriving DecidableEq, Repr

/-- What is done next, and what the outside answers to it. -/
inductive Move where
  | put (lane : Lane) (key : String) (value : lane.Value)
  | connect (up : Bool)
  | start
  | stop
  /-- A caller begins to publish some lanes. -/
  | call (number : Nat) (lanes : List Lane)
  /-- A caller's pass makes a step. The answer is that of its gate or its sink. -/
  | drain (number : Nat) (answer : Bool)
  /-- The worker makes a step. The answer is that of its sink. -/
  | work (accepted : Bool)

/-- An outbox, its worker, and the passes of the threads that call publish operations. -/
structure Depot (Backlog : Type → Type) where
  outbox : Outbox Backlog
  worker : Worker := .left
  calls : Nat → Drain.Pass := fun _ => { lanes := [] }

namespace Depot

variable {Backlog : Type → Type}

/-- The pass of an agent. -/
def pass (depot : Depot Backlog) : Agent → Drain.Pass
  | .worker => depot.worker.pass
  | .caller number => depot.calls number

/-- The agent whose pass goes on in a move, and the answer that the pass gets. A pass that is
finished does not go on. -/
def drainer? (depot : Depot Backlog) : Move → Option (Agent × Bool)
  | .drain number answer =>
    if (depot.calls number).isFinished then none else some (.caller number, answer)
  | .work accepted =>
    if depot.worker.pass.isFinished then none
    else some (.worker, Worker.answer depot.outbox accepted depot.worker.pass.stage)
  | .put _ _ _ | .connect _ | .start | .stop | .call _ _ => none

section Drainer

variable {depot : Depot Backlog} {move : Move} {agent : Agent} {answer : Bool}

/-- A caller's pass that is not finished goes on in a move of the caller. -/
theorem drainer_drain {number : Nat} (unfinished : (depot.calls number).isFinished = false)
    (answer : Bool) : depot.drainer? (.drain number answer) = some (.caller number, answer) := by
  simp [drainer?, unfinished]

/-- The worker's pass goes on in a move of the worker if it is not finished. -/
theorem drainer_work (unfinished : depot.worker.pass.isFinished = false) (accepted : Bool) :
    depot.drainer? (.work accepted) =
      some (.worker, Worker.answer depot.outbox accepted depot.worker.pass.stage) := by
  simp [drainer?, unfinished]

/-- Nothing is put in a move in which a pass goes on. -/
theorem unput_of_drainer (drains : depot.drainer? move = some (agent, answer)) (lane : Lane)
    (key : String) (value : lane.Value) : move ≠ .put lane key value := by
  rintro rfl
  cases drains

/-- The pass of the worker goes on in moves of the worker. Its gate says whether publishing is
allowed, and its sink what it likes. -/
theorem exists_work_of_drainer (drains : depot.drainer? move = some (.worker, answer)) :
    ∃ accepted, move = .work accepted ∧
      answer = Worker.answer depot.outbox accepted (depot.pass .worker).stage := by
  cases move with
  | work accepted =>
    simp only [drainer?] at drains
    split at drains
    · cases drains
    · cases drains
      exact ⟨accepted, rfl, rfl⟩
  | drain number given =>
    simp only [drainer?] at drains
    split at drains <;> cases drains
  | _ => cases drains

end Drainer

/-- A caller's pass that is replaced is the only one that is replaced. -/
theorem pass_update (depot : Depot Backlog) (number : Nat) (pass : Drain.Pass) (agent : Agent) :
    ({ depot with calls := Function.update depot.calls number pass } : Depot Backlog).pass agent =
      if agent = .caller number then pass else depot.pass agent := by
  cases agent with
  | worker => rfl
  | caller index =>
    by_cases same : index = number
    · simp [Depot.pass, same]
    · simp [Depot.pass, same, Function.update_of_ne]

variable [Store Backlog]

/-- One step of anyone. A caller begins nothing before its last pass is finished, and starting
replaces a worker that has left. -/
def step (profile : Profile) (depot : Depot Backlog) : Move → Depot Backlog
  | .put lane key value => { depot with outbox := depot.outbox.put lane key value }
  | .connect up => { depot with outbox := depot.outbox.setConnected up }
  | .start =>
    let worker :=
      match depot.worker with
      | .left => .waiting
      | worker => worker
    { depot with outbox := depot.outbox.start, worker }
  | .stop => { depot with outbox := depot.outbox.stop }
  | .call number lanes =>
    if (depot.calls number).isFinished then
      { depot with calls := Function.update depot.calls number { lanes } }
    else depot
  | .drain number answer =>
    let (outbox, next) := (depot.calls number).step profile answer depot.outbox
    { depot with outbox, calls := Function.update depot.calls number next }
  | .work accepted =>
    let (outbox, worker) := depot.worker.step profile accepted depot.outbox
    { depot with outbox, worker }

/-- Everything that a move can do to the lanes and to the passes. The flags of the outbox and the
reports are left open. -/
inductive Effect (profile : Profile) (depot : Depot Backlog) : Move → Depot Backlog → Prop where
  /-- A value is put, and no pass moves. -/
  | put {lane : Lane} {key : String} {value : lane.Value} {next : Depot Backlog}
      (outbox : next.outbox = depot.outbox.put lane key value) (pass : next.pass = depot.pass) :
      Effect profile depot (.put lane key value) next
  /-- No value moves, and no pass enters, leaves or goes on within a lane. -/
  | quiet {move : Move} {next : Depot Backlog}
      (unput : ∀ lane key value, move ≠ .put lane key value)
      (undrained : depot.drainer? move = none)
      (lanes : next.outbox.lanes = depot.outbox.lanes)
      (sequence : next.outbox.sequence = depot.outbox.sequence)
      (stage : ∀ agent, (next.pass agent).stage = (depot.pass agent).stage) :
      Effect profile depot move next
  /-- The pass of one agent makes a step. -/
  | pass {move : Move} {agent : Agent} {answer : Bool} {next : Depot Backlog}
      (drains : depot.drainer? move = some (agent, answer))
      (outbox : next.outbox = ((depot.pass agent).step profile answer depot.outbox).1)
      (own : next.pass agent = ((depot.pass agent).step profile answer depot.outbox).2)
      (others : ∀ other, other ≠ agent → next.pass other = depot.pass other) :
      Effect profile depot move next

/-! ## What a step can do -/

variable (profile : Profile) (depot : Depot Backlog)

/-- In a move of a caller its pass makes a step, unless it is finished. -/
theorem effect_of_drain (number : Nat) (answer : Bool) :
    Effect profile depot (.drain number answer) (depot.step profile (.drain number answer)) := by
  cases finished : (depot.calls number).isFinished with
  | true =>
    have undrained : depot.drainer? (.drain number answer) = none := by simp [drainer?, finished]
    have still : depot.step profile (.drain number answer) = depot := by
      simp only [step, Drain.Pass.step_of_isFinished finished, Function.update_eq_self]
    rw [still]
    exact .quiet (by simp) undrained rfl rfl fun _ => rfl
  | false =>
    refine .pass (drainer_drain finished answer) rfl (Function.update_self number _ depot.calls)
      fun other different => ?_
    exact (depot.pass_update number _ other).trans (if_neg different)

/-- In a move of the worker its pass makes a step, unless it is finished. -/
theorem effect_of_work (accepted : Bool) :
    Effect profile depot (.work accepted) (depot.step profile (.work accepted)) := by
  cases finished : depot.worker.pass.isFinished with
  | true =>
    have undrained : depot.drainer? (.work accepted) = none := by simp [drainer?, finished]
    obtain ⟨lanes, sequence, outside⟩ :=
      depot.worker.step_of_isFinished profile accepted depot.outbox finished
    refine .quiet (by simp) undrained lanes sequence fun agent => ?_
    cases agent with
    | worker => exact outside.trans (Drain.Pass.stage_of_isFinished finished).symm
    | caller number => rfl
  | false =>
    have stepped := depot.worker.step_of_unfinished profile accepted depot.outbox finished
    refine .pass (drainer_work finished accepted) (congrArg Prod.fst stepped) ?_
      fun other different => ?_
    · exact congrArg (fun made => made.2.pass) stepped
    · cases other with
      | worker => exact absurd rfl different
      | caller number => rfl

/-- Every move has one of the three effects. -/
theorem effect_of_step (move : Move) : Effect profile depot move (depot.step profile move) := by
  cases move with
  | put lane key value => exact .put rfl rfl
  | connect up => exact .quiet (by simp) rfl rfl rfl fun _ => rfl
  | start =>
    refine .quiet (by simp) rfl rfl rfl fun agent => ?_
    cases agent with
    | worker => cases current : depot.worker <;> simp [Depot.step, Depot.pass, Worker.pass, current]
    | caller number => rfl
  | stop => exact .quiet (by simp) rfl rfl rfl fun _ => rfl
  | call number lanes =>
    rw [step]
    split
    · rename_i finished
      refine .quiet (by simp) rfl rfl rfl fun agent => ?_
      rw [pass_update]
      split
      · rename_i same
        rw [same]
        exact (Drain.Pass.stage_of_isFinished finished).symm
      · rfl
    · exact .quiet (by simp) rfl rfl rfl fun _ => rfl
  | drain number answer => exact effect_of_drain profile depot number answer
  | work accepted => exact effect_of_work profile depot accepted

variable {profile depot} {move : Move} {agent : Agent} {answer : Bool}

/-- In a move in which a pass goes on, this pass makes a step and all others stay as they are. -/
theorem pass_of_drainer (drains : depot.drainer? move = some (agent, answer)) :
    let stepped := (depot.pass agent).step profile answer depot.outbox
    (depot.step profile move).outbox = stepped.1 ∧ (depot.step profile move).pass agent = stepped.2 ∧
      ∀ other, other ≠ agent → (depot.step profile move).pass other = depot.pass other := by
  cases depot.effect_of_step profile move with
  | put outbox pass => cases drains
  | quiet unput undrained lanes sequence stage =>
    rw [undrained] at drains
    cases drains
  | pass found outbox own others =>
    rw [found] at drains
    cases drains
    exact ⟨outbox, own, others⟩

/-- What holds of the stage of every pass still does after a move, if it does after every step of a
pass. -/
theorem stages_of_step {Kept : Drain.Stage → Prop}
    (every : ∀ agent, Kept (depot.pass agent).stage)
    (stepped : ∀ agent answer, Kept ((depot.pass agent).step profile answer depot.outbox).2.stage)
    (agent : Agent) : Kept ((depot.step profile move).pass agent).stage := by
  cases depot.effect_of_step profile move with
  | put outbox pass =>
    rw [pass]
    exact every agent
  | quiet unput undrained lanes sequence stage =>
    rw [stage]
    exact every agent
  | @pass _ owner answer _ drains outbox own others =>
    by_cases same : agent = owner
    · rw [same, own]
      exact stepped owner answer
    · rw [others agent same]
      exact every agent

end Depot

end Schedule

end EdgeGateway
