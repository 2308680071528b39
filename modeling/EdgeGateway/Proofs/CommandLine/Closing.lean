import EdgeGateway.Proofs.CommandLine.Printed

/-!
# How a process closes

Once the input has ended, nothing is put any more when the last command is carried out. From then on
the pass of the main thread still awaits every key under which something waits, whatever the worker
does meanwhile: a pass is done with a key only when nothing waits under it, as the console accepts
every message. So nothing waits when that pass is finished, and nothing comes back.

`Closes` says what is left to do in each phase, and `Run.closes` that every process keeps to it.
-/

namespace EdgeGateway

namespace Schedule

variable {profile : Profile} {system next : System} {event : Event}

/-- A pass whose every offer and question is answered well is not refused anything. -/
theorem PassStep.accepting {outbox after : Outbox Queues} {pass rest : Drain.Pass}
    {occurrence : Occurrence} (stepped : PassStep profile outbox pass true occurrence after rest) :
    occurrence ≠ .asked false ∧
      ∀ lane key batch message, occurrence ≠ .batch lane key (.refused batch message) := by
  cases stepped <;> exact ⟨by rintro ⟨⟩, by rintro _ _ _ _ ⟨⟩⟩

/-- A step of the worker moves no value, or it is a step of the worker's pass while every other pass
is outside all lanes. -/
theorem System.work_cases {accepted : Bool} (sound : system.Sound)
    (made : system.step profile (.work accepted) = some (event, next)) :
    next.outbox.lanes = system.outbox.lanes ∨
      (∃ answer, next.outbox =
        ((system.pass .worker).step profile answer system.outbox).1) ∧
      ∀ agent, agent ≠ .worker → (system.pass agent).stage = .enter := by
  cases workEffect_of_work made with
  | left stopped idle outbox | began signalled idle outbox | rested finished outbox =>
    exact .inl (by rw [outbox])
  | @passed answer occurrence next answered unblocked occurs outbox =>
    exact .inr ⟨⟨answer, outbox⟩, fun agent different =>
      outside_of_unblocked sound unblocked different⟩

end Schedule

namespace CommandLine.Process

open Schedule (System)

/-- The pass of the main thread is going to empty the outbox. -/
structure Empties (process : Process) : Prop where
  /-- The batch on its way is the front of its queue. -/
  fronts : process.closing.stage.Fronts process.gateway.outbox
  /-- Whatever waits is still to be taken up. -/
  awaits : ∀ lane key, process.gateway.outbox.queue lane key ≠ [] →
    process.closing.Awaits lane key

/-- Whether nothing waits. -/
def Drained (process : Process) : Prop :=
  ∀ lane key, process.gateway.outbox.queue lane key = []

/-- What is left to do in each phase. -/
def Closes (process : Process) : Prop :=
  match process.phase with
  | .serving => True
  | .ending => process.lines = []
  | .publishing => process.lines = [] ∧ process.gateway.commands = [] ∧ process.Empties
  | .stopping | .joining | .ended =>
    process.lines = [] ∧ process.gateway.commands = [] ∧ process.Drained

variable {router : Router} {lines : List (UInt64 × String)} {process next : Process}

/-- A step that stays in a phase leaves to do what was left, if it takes up no line or command and
puts nothing. -/
theorem Closes.stay (closes : process.Closes) (phase : next.phase = process.phase)
    (lines : next.lines = process.lines)
    (commands : next.gateway.commands = process.gateway.commands)
    (empties : process.phase = .publishing → process.Empties → next.Empties)
    (drained : process.Drained → next.Drained) : next.Closes := by
  unfold Closes at closes ⊢
  rw [phase, lines, commands]
  cases current : process.phase with
  | serving => trivial
  | ending =>
    rw [current] at closes
    exact closes
  | publishing =>
    rw [current] at closes
    exact ⟨closes.1, closes.2.1, empties current closes.2.2⟩
  | stopping | joining | ended =>
    rw [current] at closes
    exact ⟨closes.1, closes.2.1, drained closes.2.2⟩

/-- The pass of the first caller is that of the main thread. -/
theorem calls_system (process : Process) : process.system.calls 0 = process.closing := by
  simp only [system, Function.update_self]

/-- A step of a pass leaves nothing waiting where nothing waited. -/
theorem Drained.step {profile : Profile} {answer : Bool} {pass : Drain.Pass}
    (drained : process.Drained)
    (outbox : next.gateway.outbox = (pass.step profile answer process.gateway.outbox).1) :
    next.Drained := by
  intro lane key
  by_contra waits
  rw [outbox] at waits
  exact Drain.Pass.queue_ne_nil_of_step waits (drained lane key)

/-- Nothing waits where nothing waited if no value moves. -/
theorem Drained.congr (drained : process.Drained)
    (lanes : next.gateway.outbox.lanes = process.gateway.outbox.lanes) : next.Drained := by
  unfold Drained
  rw [Outbox.queue_congr lanes]
  exact drained

/-- A step of the pass of the main thread leaves nothing waiting where nothing waited. -/
theorem Drained.drain (drained : process.Drained) {answer : Bool} {event : Schedule.Event}
    (moved : Moved process (.drain 0 answer) event next) : next.Drained := by
  obtain ⟨occurrence, -, -, outbox, -⟩ := System.exists_occurrence_of_drain moved.made
  exact drained.step outbox

/-- A step of the pass of the main thread is done with a key only when nothing waits under it. -/
theorem Empties.drain (empties : process.Empties) {event : Schedule.Event}
    (moved : Moved process (.drain 0 true) event next) : next.Empties := by
  obtain ⟨fronts, awaits⟩ := empties
  obtain ⟨occurrence, -, occurs, outbox, own⟩ :=
    System.exists_occurrence_of_drain moved.made
  rw [calls_system] at occurs outbox own
  rw [calls_system] at own
  have stepped := Schedule.passStep_of_occurrence occurs
  obtain ⟨through, unrefused⟩ := stepped.accepting
  have changed : next.gateway.outbox = _ := outbox
  refine ⟨?_, fun lane key waits => ?_⟩
  · rw [own, changed]
    exact stepped.fronts fronts
  · rw [changed] at waits
    rw [own]
    have waited := Drain.Pass.queue_ne_nil_of_step waits
    rcases stepped.awaits through fronts waited (awaits lane key waited) with
      still | ⟨batch, message, refused⟩
    · exact still
    · exact absurd refused (unrefused lane key batch message)

/-- Steps of the worker leave the pass of the main thread as it is. -/
theorem closing_of_work {accepted : Bool} {event : Schedule.Event}
    (moved : Moved process (.work accepted) event next) : next.closing = process.closing := by
  have other : (Schedule.Move.work accepted).IsNotOf 0 := trivial
  have calls := System.calls_of_step other moved.made
  rwa [calls_system, calls_system] at calls

/-- Whatever the worker does, the pass of the main thread still awaits what waits. -/
theorem Empties.work (empties : process.Empties) (sound : process.system.Sound) {accepted : Bool}
    {event : Schedule.Event} (moved : Moved process (.work accepted) event next) : next.Empties := by
  obtain ⟨fronts, awaits⟩ := empties
  rcases System.work_cases sound moved.made with lanes | ⟨⟨answer, outbox⟩, outside⟩
  · have queue : next.gateway.outbox.queue = process.gateway.outbox.queue :=
      Outbox.queue_congr lanes
    refine ⟨?_, fun lane key waits => ?_⟩
    · rw [closing_of_work moved]
      exact fronts.congr queue
    · rw [queue] at waits
      rw [closing_of_work moved]
      exact awaits lane key waits
  · have idle : process.closing.stage = .enter := by
      have stage := outside (.caller 0) nofun
      rwa [Schedule.Depot.pass, calls_system] at stage
    refine ⟨?_, fun lane key waits => ?_⟩
    · rw [closing_of_work moved, idle]
      trivial
    · have stepped : next.gateway.outbox = _ := outbox
      rw [stepped] at waits
      rw [closing_of_work moved]
      exact awaits lane key (Drain.Pass.queue_ne_nil_of_step waits)

/-- The worker leaves nothing waiting where nothing waited. -/
theorem Drained.work (drained : process.Drained) (sound : process.system.Sound) {accepted : Bool}
    {event : Schedule.Event} (moved : Moved process (.work accepted) event next) : next.Drained := by
  rcases System.work_cases sound moved.made with lanes | ⟨⟨answer, outbox⟩, -⟩
  · exact drained.congr lanes
  · exact drained.step outbox

/-- A pass that begins is going to empty the outbox. -/
theorem empties_of_call {event : Schedule.Event}
    (moved : Moved process (.call 0 Lane.drainOrder) event next) : next.Empties := by
  obtain ⟨-, -, after⟩ := System.call_inv moved.made
  have closing : next.closing = { lanes := Lane.drainOrder } := by
    rw [← calls_system, after]
    simp only [Function.update_self]
  refine ⟨?_, fun lane key waits => ?_⟩
  · rw [closing]
    trivial
  · rw [closing]
    exact .inl (by cases lane <;> decide)

/-- Nothing waits once the pass of the main thread is finished. -/
theorem Empties.drained (empties : process.Empties) (finished : process.closing.isFinished = true) :
    process.Drained := by
  intro lane key
  by_contra waits
  exact Drain.Pass.not_awaits_of_isFinished finished lane key (empties.awaits lane key waits)

/-- Offering a message leaves to do what was left. -/
theorem Closes.offer (closes : process.Closes) (message? : Option Message) :
    (process.offer message?).2.Closes := by
  obtain ⟨writer, offered⟩ := process.offer_eq message?
  rw [offered]
  exact closes.stay rfl rfl rfl (fun _ empties => ⟨empties.fronts, empties.awaits⟩)
    fun drained => drained

/-- Every step leaves to do what is left in its phase. -/
theorem Closes.preserved (closes : process.Closes) (scheduled : process.Scheduled router)
    (printed : process.Printed) (effect : Effect process next) : next.Closes := by
  cases effect with
  | line phase taken =>
    unfold Closes
    simp only [phase]
  | @command command commands phase queued =>
    obtain ⟨actuators, configuration, applied⟩ := process.gateway.applyNext_eq queued
    rw [applied]
    unfold Closes at closes ⊢
    rcases phase with phase | phase <;> simp only [phase] at closes ⊢
    exact closes
  | close phase exhausted => exact exhausted
  | @publish event next phase done moved =>
    unfold Closes at closes ⊢
    rw [phase] at closes
    rw [moved.phase]
    refine ⟨moved.lines.trans closes, ?_, ?_⟩
    · rw [moved.gateway]
      exact done
    · exact empties_of_call moved
  | drain phase moved =>
    have unended : process.phase ≠ .ended := by rw [phase]; nofun
    have accepted : (process.offer process.closing.message?).1 = true := by
      rw [printed.offer unended]
    rw [accepted] at moved
    exact (closes.offer _).stay moved.phase moved.lines (by rw [moved.gateway])
      (fun _ empties => empties.drain moved) fun drained => drained.drain moved
  | @disconnect event next phase finished moved =>
    unfold Closes at closes ⊢
    rw [phase] at closes
    rw [moved.phase]
    obtain ⟨exhausted, done, empties⟩ := closes
    obtain ⟨-, after⟩ := Prod.mk.inj (Option.some.inj moved.made)
    refine ⟨moved.lines.trans exhausted, ?_, ?_⟩
    · rw [moved.gateway]
      exact done
    · exact (empties.drained finished).congr (congrArg (·.outbox.lanes) after).symm
  | @stop event next phase moved =>
    unfold Closes at closes ⊢
    rw [phase] at closes
    rw [moved.phase]
    obtain ⟨exhausted, done, drained⟩ := closes
    obtain ⟨-, after⟩ := Prod.mk.inj (Option.some.inj moved.made)
    refine ⟨moved.lines.trans exhausted, ?_, ?_⟩
    · rw [moved.gateway]
      exact done
    · exact drained.congr (congrArg (·.outbox.lanes) after).symm
  | join phase left =>
    unfold Closes at closes ⊢
    rw [phase] at closes
    exact closes
  | work moved =>
    exact (closes.offer _).stay moved.phase moved.lines (by rw [moved.gateway])
      (fun _ empties => empties.work (scheduled.offer _).run.sound moved)
      fun drained => drained.work (scheduled.offer _).run.sound moved

/-- Every process keeps to what is left to do. -/
theorem Run.closes (run : Run router lines process) : process.Closes := by
  induction run with
  | start => trivial
  | step run move made inductionHypothesis =>
    exact inductionHypothesis.preserved run.scheduled run.printed (effect_of_step made)

end CommandLine.Process

end EdgeGateway
