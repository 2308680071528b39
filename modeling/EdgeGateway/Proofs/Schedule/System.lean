import EdgeGateway.Proofs.Outbox.Queue
import EdgeGateway.Proofs.Schedule.Event

/-!
# Producers, callers and the worker over one outbox

A `System` is a depot of queues with the drain lock. A pass holds the lock while it is inside a lane,
and enters a lane only while nobody holds it, so a move may have to wait. `System.step` is
`Depot.step` for the moves that can be made, with the event that such a move amounts to. A `Run` is
any sequence of such steps from an empty outbox, so anything may come between two steps of a pass,
also while a sink is publishing.
-/

namespace EdgeGateway

namespace Schedule

/-- Everything that shares an outbox. -/
structure System extends Depot Queues where
  /-- Who holds the drain lock. -/
  lock : Option Agent := none

namespace System

/-- An empty outbox that nobody drains. -/
def fresh : System := { outbox := .fresh }

/-- Whether a pass has to wait: it is about to enter a lane while the drain lock is held. -/
def blocks (system : System) : Drain.Stage → Bool
  | .enter => system.lock.isSome
  | _ => false

/-- Who holds the drain lock after a step of an agent. A pass that is not inside a lane has given
it back. -/
def lockAfter (agent : Agent) : Drain.Stage → Option Agent
  | .enter => none
  | _ => some agent

/-- What the next step of an agent's pass amounts to, unless the pass is finished or has to wait. -/
def passEvent? (profile : Profile) (agent : Agent) (answer : Bool) (system : System) :
    Option Event :=
  if system.blocks (system.pass agent).stage then none
  else
    (occurrence? profile answer system.outbox (system.pass agent)).map (.passed agent)

/-- What a move amounts to, if it can be made. -/
def event? (profile : Profile) (system : System) : Move → Option Event
  | .put lane key value => some (.put lane key value)
  | .connect up => some (.connected up)
  | .start => some .started
  | .stop => some .stopped
  | .call number _ =>
    if (system.calls number).isFinished then some (.began (.caller number)) else none
  | .drain number answer => system.passEvent? profile (.caller number) answer
  | .work accepted =>
    match system.worker with
    | .waiting =>
      if !system.outbox.running then some .left
      else if system.outbox.connected && system.outbox.signalled then some (.began .worker)
      else none
    | .draining pass =>
      if pass.isFinished then some .rested
      else
        system.passEvent? profile .worker (Worker.answer system.outbox accepted pass.stage)
    | .left => none

/-- The system once an event has happened around its outbox. Only a step of a pass moves the drain
lock. -/
def after (system : System) (event : Event) (depot : Depot Queues) : System :=
  let lock :=
    match event with
    | .passed agent _ => lockAfter agent (depot.pass agent).stage
    | _ => system.lock
  { toDepot := depot, lock }

/-- One step of anyone, if it can be made. -/
def step (profile : Profile) (system : System) (move : Move) : Option (Event × System) :=
  (system.event? profile move).map fun event =>
    (event, system.after event (system.toDepot.step profile move))

/-- A sequence of moves, if all of them can be made, and what has happened. -/
def perform (profile : Profile) : List Move → System → Option (List Event × System)
  | [], system => some ([], system)
  | move :: moves, system => do
    let (event, next) ← system.step profile move
    let (events, final) ← perform profile moves next
    return (event :: events, final)

end System

/-- The systems that can come about from an empty outbox, each with what has happened. -/
inductive Run (profile : Profile) : List Event → System → Prop where
  | fresh : Run profile [] .fresh
  | step {events : List Event} {system next : System} {event : Event}
      (run : Run profile events system) (move : Move)
      (made : system.step profile move = some (event, next)) :
      Run profile (events ++ [event]) next

/-! ## What a step can do -/

namespace System

/-- Everything that a step can do to the lanes, the passes and the drain lock. The flags of the
outbox are left open. -/
inductive Effect (profile : Profile) (system : System) : Event → System → Prop where
  /-- A value is put, and no pass moves. -/
  | put {lane : Lane} {key : String} {value : lane.Value} {next : System}
      (outbox : next.outbox = system.outbox.put lane key value)
      (pass : next.pass = system.pass) (lock : next.lock = system.lock) :
      Effect profile system (.put lane key value) next
  /-- No value moves, and no pass enters, leaves or goes on within a lane. -/
  | quiet {event : Event} {next : System} (unlocated : event.located? = none)
      (lanes : next.outbox.lanes = system.outbox.lanes)
      (stage : ∀ agent, (next.pass agent).stage = (system.pass agent).stage)
      (report : ∀ agent, (next.pass agent).report = event.report agent (system.pass agent).report)
      (lock : next.lock = system.lock) :
      Effect profile system event next
  /-- The pass of one agent makes a step. -/
  | pass {agent : Agent} {answer : Bool} {occurrence : Occurrence} {next : System}
      (unblocked : system.blocks (system.pass agent).stage = false)
      (occurs : occurrence? profile answer system.outbox (system.pass agent) = some occurrence)
      (outbox : next.outbox = ((system.pass agent).step profile answer system.outbox).1)
      (own : next.pass agent = ((system.pass agent).step profile answer system.outbox).2)
      (others : ∀ other, other ≠ agent → next.pass other = system.pass other)
      (lock : next.lock = lockAfter agent (next.pass agent).stage) :
      Effect profile system (.passed agent occurrence) next

variable {profile : Profile} {system next : System} {event : Event} {move : Move} {agent : Agent}
  {answer : Bool}

/-- A step moves the depot as its move does, and the drain lock as its event does. -/
theorem step_inv (made : system.step profile move = some (event, next)) :
    system.event? profile move = some event ∧
      next = system.after event (system.toDepot.step profile move) := by
  obtain ⟨happened, happens, result⟩ := Option.map_eq_some_iff.1 made
  cases result
  exact ⟨happens, rfl⟩

/-- A step of a pass is made while the pass does not have to wait. -/
theorem passEvent_inv (happens : system.passEvent? profile agent answer = some event) :
    system.blocks (system.pass agent).stage = false ∧ ∃ occurrence,
      occurrence? profile answer system.outbox (system.pass agent) = some occurrence ∧
        event = .passed agent occurrence := by
  unfold passEvent? at happens
  split at happens
  · cases happens
  · rename_i unblocked
    obtain ⟨occurrence, occurs, rfl⟩ := Option.map_eq_some_iff.1 happens
    exact ⟨Bool.eq_false_iff.2 unblocked, occurrence, occurs, rfl⟩

/-- A caller begins a pass when it has finished the one before, and nothing else changes. -/
theorem call_inv {number : Nat} {lanes : List Lane}
    (made : system.step profile (.call number lanes) = some (event, next)) :
    (system.calls number).isFinished = true ∧ event = .began (.caller number) ∧
      next = { system with calls := Function.update system.calls number { lanes } } := by
  obtain ⟨happens, rfl⟩ := step_inv made
  simp only [event?] at happens
  split at happens
  · rename_i finished
    cases happens
    refine ⟨finished, rfl, ?_⟩
    simp only [after, Depot.step, if_pos finished]
  · cases happens

/-- A caller makes a step of its pass while the pass does not have to wait. -/
theorem drain_inv {number : Nat}
    (made : system.step profile (.drain number answer) = some (event, next)) :
    system.blocks (system.calls number).stage = false ∧ ∃ occurrence,
      occurrence? profile answer system.outbox (system.calls number) = some occurrence ∧
        event = .passed (.caller number) occurrence ∧
        next = system.after event (system.toDepot.step profile (.drain number answer)) := by
  obtain ⟨happens, after⟩ := step_inv made
  obtain ⟨unblocked, occurrence, occurs, passed⟩ := passEvent_inv happens
  exact ⟨unblocked, occurrence, occurs, passed, after⟩

/-- A step of a caller is a step of its pass. -/
theorem exists_occurrence_of_drain {number : Nat}
    (made : system.step profile (.drain number answer) = some (event, next)) :
    ∃ occurrence, event = .passed (.caller number) occurrence ∧
      occurrence? profile answer system.outbox (system.calls number) = some occurrence ∧
      next.outbox = ((system.calls number).step profile answer system.outbox).1 ∧
      next.calls number = ((system.calls number).step profile answer system.outbox).2 := by
  obtain ⟨-, occurrence, occurs, rfl, rfl⟩ := drain_inv made
  exact ⟨occurrence, rfl, occurs, rfl, Function.update_self number _ system.calls⟩

/-- Everything that a step of the worker can do. -/
inductive WorkEffect (profile : Profile) (accepted : Bool) (system : System) :
    Event → System → Prop where
  /-- The worker finds publishing stopped. -/
  | left {next : System} (stopped : system.outbox.running = false)
      (idle : system.pass .worker = { lanes := [] }) (outbox : next.outbox = system.outbox)
      (pass : next.pass .worker = { lanes := [] }) : WorkEffect profile accepted system .left next
  /-- The worker takes the signal down and begins a pass. -/
  | began {next : System} (signalled : system.outbox.signalled = true)
      (idle : system.pass .worker = { lanes := [] })
      (outbox : next.outbox = { system.outbox with signalled := false })
      (pass : next.pass .worker = { lanes := Lane.drainOrder }) :
      WorkEffect profile accepted system (.began .worker) next
  /-- The worker has finished its pass. -/
  | rested {next : System} (finished : (system.pass .worker).isFinished = true)
      (outbox : next.outbox = system.outbox) (pass : next.pass .worker = { lanes := [] }) :
      WorkEffect profile accepted system .rested next
  /-- The worker makes a step of its pass. -/
  | passed {answer : Bool} {occurrence : Occurrence} {next : System}
      (answered : answer = Worker.answer system.outbox accepted (system.pass .worker).stage)
      (unblocked : system.blocks (system.pass .worker).stage = false)
      (occurs : occurrence? profile answer system.outbox (system.pass .worker) = some occurrence)
      (outbox : next.outbox = ((system.pass .worker).step profile answer system.outbox).1)
      (pass : next.pass .worker = ((system.pass .worker).step profile answer system.outbox).2) :
      WorkEffect profile accepted system (.passed .worker occurrence) next

/-- Every step of the worker has one of the four effects. -/
theorem workEffect_of_work {accepted : Bool}
    (made : system.step profile (.work accepted) = some (event, next)) :
    WorkEffect profile accepted system event next := by
  obtain ⟨happens, rfl⟩ := step_inv made
  simp only [event?] at happens
  cases current : system.worker with
  | waiting =>
    have idle : system.pass .worker = { lanes := [] } := congrArg Worker.pass current
    rw [current] at happens
    by_cases running : system.outbox.running = true
    · by_cases woken : (system.outbox.connected && system.outbox.signalled) = true
      · obtain rfl : .began .worker = event := by simpa [running, woken] using happens
        refine .began (Bool.and_eq_true_iff.1 woken).2 idle ?_ ?_
        · simp [after, Depot.step, Worker.step, current, running, woken]
        · simp [after, Depot.step, Depot.pass, Worker.step, Worker.pass, current, running, woken]
      · simp [running, woken] at happens
    · obtain rfl : .left = event := by simpa [running] using happens
      refine .left (Bool.not_eq_true _ ▸ running) idle ?_ ?_
      · simp [after, Depot.step, Worker.step, current, running]
      · simp [after, Depot.step, Depot.pass, Worker.step, Worker.pass, current, running]
  | draining pass =>
    have own : system.pass .worker = pass := congrArg Worker.pass current
    rw [current] at happens
    cases finished : pass.isFinished with
    | true =>
      obtain rfl : .rested = event := by simpa [finished] using happens
      refine .rested (own ▸ finished) ?_ ?_
      · simp [after, Depot.step, Worker.step, current, finished]
      · simp [after, Depot.step, Depot.pass, Worker.step, Worker.pass, current, finished]
    | false =>
      simp only [finished, Bool.false_eq_true, if_false] at happens
      obtain ⟨unblocked, occurrence, occurs, rfl⟩ := passEvent_inv happens
      rw [← own] at occurs finished
      obtain ⟨outbox, pass, -⟩ := Depot.pass_of_drainer (Depot.drainer_work finished accepted)
      exact .passed rfl unblocked occurs outbox pass
  | left =>
    rw [current] at happens
    cases happens

/-- A worker that turns from one stage outside all lanes to another has a quiet effect. -/
theorem effect_of_turn (unlocated : event.located? = none)
    (lanes : next.outbox.lanes = system.outbox.lanes)
    (outside : (system.pass .worker).stage = .enter)
    (outsideAfter : (next.pass .worker).stage = .enter)
    (report : (next.pass .worker).report = event.report .worker (system.pass .worker).report)
    (others : ∀ number, next.pass (.caller number) = system.pass (.caller number))
    (unmoved : ∀ number report, event.report (.caller number) report = report)
    (lock : next.lock = system.lock) : Effect profile system event next := by
  refine .quiet unlocated lanes (fun agent => ?_) (fun agent => ?_) lock
  · cases agent with
    | worker => exact outsideAfter.trans outside.symm
    | caller number => rw [others]
  · cases agent with
    | worker => exact report
    | caller number => rw [others, unmoved]

/-- A step of the worker wakes it, ends its pass, ends its loop or is a step of its pass. -/
theorem effect_of_work {accepted : Bool}
    (made : system.step profile (.work accepted) = some (event, next)) :
    Effect profile system event next := by
  obtain ⟨-, after⟩ := step_inv made
  have others : ∀ number, next.pass (.caller number) = system.pass (.caller number) :=
    fun number => by rw [after]; rfl
  cases workEffect_of_work made with
  | left stopped idle outbox pass =>
    exact effect_of_turn rfl (by rw [outbox]) (by rw [idle]) (by rw [pass]) (by rw [pass, idle]; rfl)
      others (fun _ _ => rfl) (by rw [after]; rfl)
  | began signalled idle outbox pass =>
    exact effect_of_turn rfl (by rw [outbox]) (by rw [idle]) (by rw [pass]) (by rw [pass]; rfl)
      others (fun _ _ => rfl) (by rw [after]; rfl)
  | rested finished outbox pass =>
    exact effect_of_turn rfl (by rw [outbox]) (Drain.Pass.stage_of_isFinished finished)
      (by rw [pass]) (by rw [pass]; rfl) others (fun _ _ => rfl) (by rw [after]; rfl)
  | passed answered unblocked occurs outbox pass =>
    refine .pass unblocked occurs outbox pass (fun agent different => ?_) (by rw [after]; rfl)
    cases agent with
    | worker => exact absurd rfl different
    | caller number => exact others number

/-- Every step has one of the three effects. -/
theorem effect_of_step (made : system.step profile move = some (event, next)) :
    Effect profile system event next := by
  cases move with
  | put lane key value =>
    cases made
    exact .put rfl rfl rfl
  | connect up =>
    cases made
    exact .quiet rfl rfl (fun _ => rfl) (fun _ => rfl) rfl
  | start =>
    cases made
    refine .quiet rfl rfl (fun agent => ?_) (fun agent => ?_) rfl <;>
      cases agent <;> cases current : system.worker <;>
        simp [after, Depot.step, Depot.pass, Worker.pass, current, Event.report]
  | stop =>
    cases made
    exact .quiet rfl rfl (fun _ => rfl) (fun _ => rfl) rfl
  | call number lanes =>
    obtain ⟨finished, rfl, rfl⟩ := call_inv made
    refine .quiet rfl rfl (fun agent => ?_) (fun agent => ?_) rfl
    · rw [Depot.pass_update]
      split
      · rename_i same
        rw [same]
        exact (Drain.Pass.stage_of_isFinished finished).symm
      · rfl
    · rw [Depot.pass_update]
      by_cases same : agent = .caller number
      · simp [same, Event.report]
      · simp [same, Ne.symm same, Event.report]
  | drain number answer =>
    obtain ⟨unblocked, occurrence, occurs, rfl, rfl⟩ := drain_inv made
    have drains := Depot.drainer_drain (isFinished_of_occurrence occurs) answer
    obtain ⟨outbox, own, others⟩ := Depot.pass_of_drainer drains
    exact .pass unblocked occurs outbox own others rfl
  | work accepted => exact effect_of_work made

end System

end Schedule

end EdgeGateway
