import EdgeGateway.CommandLine.Basic
import EdgeGateway.Proofs.CommandLine.Closing
import EdgeGateway.Proofs.Drain.Fuel
import EdgeGateway.Proofs.Schedule.Progress

/-!
# The turns of the command line

`Gateway.transcript` takes the turns of a gateway in one of the orders in which they may come: after
each line all commands are carried out and the worker runs until it is idle. Each of these turns is
made of steps of a `Process`, and the fuel of the worker and of the last pass suffices. So the
transcript is what a process writes that has ended (`exists_run_of_transcript`), and everything that
holds of every schedule holds of it.
-/

namespace EdgeGateway.CommandLine

open Schedule (System)

namespace Gateway

section Commands

variable {Backlog : Type → Type} [Store Backlog] {gateway : Gateway Backlog}

/-- Carrying out a command leaves the queued commands alone. -/
theorem apply_commands (gateway : Gateway Backlog) (commands : List Command) (command : Command) :
    { gateway with commands }.apply command = { gateway.apply command with commands } := by
  cases command with
  | setActuator reference value => rfl
  | setConfiguration item => rfl
  | getActuator reference =>
    simp only [apply]
    cases gateway.actuators.find? reference <;> rfl
  | getConfiguration reference =>
    simp only [apply]
    cases gateway.configuration.find? reference <;> rfl

/-- Without queued commands there is nothing to carry out. -/
theorem applyAll_of_nil (none : gateway.commands = []) : gateway.applyAll = gateway := by
  unfold applyAll
  rw [none, List.foldl_nil, ← none]

/-- Carrying out the first command leaves the others. -/
theorem applyNext_of_cons {command : Command} {commands : List Command}
    (queued : gateway.commands = command :: commands) :
    gateway.applyNext = { gateway.apply command with commands } := by
  simp only [applyNext, queued]
  exact apply_commands gateway commands command

/-- Carrying out all commands begins with the first one. -/
theorem applyAll_of_cons {command : Command} {commands : List Command}
    (queued : gateway.commands = command :: commands) :
    gateway.applyNext.applyAll = gateway.applyAll := by
  have first := apply_commands gateway [] command
  unfold applyAll
  rw [applyNext_of_cons queued, queued, List.foldl_cons, first]

/-- No command is left when all have been carried out. -/
theorem commands_applyAll (gateway : Gateway Backlog) : gateway.applyAll.commands = [] := by
  generalize queued : gateway.commands = commands
  induction commands generalizing gateway with
  | nil =>
    rw [applyAll_of_nil queued]
    exact queued
  | cons command commands inductionHypothesis =>
    rw [← applyAll_of_cons queued]
    refine inductionHypothesis gateway.applyNext ?_
    rw [applyNext_of_cons queued]

end Commands

end Gateway

namespace Process

variable {router : Router} {lines : List (UInt64 × String)} {process next : Process}

/-- A process that comes about while its main thread stays where another process has it. -/
structure Continues (router : Router) (lines : List (UInt64 × String)) (process next : Process) :
    Prop where
  run : Run router lines next
  lines : next.lines = process.lines
  phase : next.phase = process.phase
  closing : next.closing = process.closing

/-- A process continues itself. -/
theorem Run.continues (run : Run router lines process) : Continues router lines process process :=
  ⟨run, rfl, rfl, rfl⟩

/-- What continues a process that continues another one continues that one. -/
theorem Continues.trans {final : Process} (first : Continues router lines process next)
    (second : Continues router lines next final) : Continues router lines process final :=
  ⟨second.run, second.lines.trans first.lines, second.phase.trans first.phase,
    second.closing.trans first.closing⟩

/-- A move that the threads around the outbox can make can be performed. -/
theorem perform_of_made (process : Process) (move : Schedule.Move) {event : Schedule.Event}
    {system : System}
    (made : process.system.step process.gateway.router.profile move = some (event, system)) :
    process.perform move = some
      { process with
        gateway := { process.gateway with outbox := system.outbox, worker := system.worker }
        closing := system.calls 0
        lock := system.lock
        log := process.log ++ [.happened event] } := by
  rw [perform, made]
  rfl

/-- A move that the threads around the outbox can make can be performed once a message has been
offered. -/
theorem perform_offer (process : Process) (message? : Option Message) (move : Schedule.Move)
    {event : Schedule.Event} {system : System}
    (made : process.system.step process.gateway.router.profile move = some (event, system)) :
    (process.offer message?).2.perform move = some
      { process with
        gateway :=
          { process.gateway with
            outbox := system.outbox
            worker := system.worker
            writer := (process.offer message?).2.gateway.writer }
        closing := system.calls 0
        lock := system.lock
        log := process.log ++ [.happened event] } := by
  obtain ⟨writer, same⟩ := process.offer_eq message?
  rw [same]
  exact perform_of_made _ move made

/-! ## The worker runs until it is idle -/

/-- The passes of callers are outside all lanes if that of the main thread is. -/
theorem stage_caller (outside : process.closing.stage = .enter) (number : Nat) :
    (process.system.pass (.caller number)).stage = .enter := by
  by_cases first : number = 0
  · rw [first, Schedule.Depot.pass, calls_system]
    exact outside
  · unfold Schedule.Depot.pass system
    simp only [Function.update_of_ne first]

/-- A worker that is not idle can make a step while the main thread is outside all lanes. -/
theorem Run.exists_step_of_busy (run : Run router lines process)
    (outside : process.closing.stage = .enter)
    (busy : process.gateway.worker.isIdle process.gateway.outbox = false) :
    let offered := process.offer process.gateway.worker.message?
    let stepped := process.gateway.worker.step process.gateway.router.profile offered.1
      process.gateway.outbox
    ∃ next, Continues router lines process next ∧
      next.gateway =
        { process.gateway with
          outbox := stepped.1
          worker := stepped.2
          writer := offered.2.gateway.writer } := by
  intro offered stepped
  have unblocked : process.system.blocks (process.system.pass .worker).stage = false := by
    refine System.unblocked_of_outside run.scheduled.run.held .worker fun other different => ?_
    cases other with
    | worker => exact absurd rfl different
    | caller number => exact stage_caller outside number
  obtain ⟨event, made⟩ :=
    System.exists_work unblocked busy process.gateway.router.profile offered.1
  have performed := process.perform_offer process.gateway.worker.message? (.work offered.1) made
  exact ⟨_, ⟨run.step .work performed, rfl, rfl, calls_system process⟩, rfl⟩

/-- What a worker that is not idle does first while it settles. -/
theorem settleWithin_of_busy (process : Process) (fuel : Nat)
    (busy : process.gateway.worker.isIdle process.gateway.outbox = false) :
    let profile := process.gateway.router.profile
    let publish := Gateway.publishTo process.gateway.platform
    let offered := process.offer process.gateway.worker.message?
    let stepped := process.gateway.worker.step profile offered.1 process.gateway.outbox
    Worker.settleWithin profile publish (fuel + 1) process.gateway.worker process.gateway.outbox
        process.gateway.writer =
      Worker.settleWithin profile publish fuel stepped.2 stepped.1 offered.2.gateway.writer := by
  intro profile publish offered stepped
  simp only [Worker.settleWithin, busy, Bool.false_eq_true, if_false, stepped, offered]
  cases published : process.gateway.worker.message? with
  | none =>
    rw [Worker.step_of_unpublished published profile _ true]
    rfl
  | some message => rfl

/-- The worker can run for as many steps as it is given. -/
theorem Run.exists_settled (run : Run router lines process)
    (outside : process.closing.stage = .enter) (fuel : Nat) :
    let settled := Worker.settleWithin process.gateway.router.profile
      (Gateway.publishTo process.gateway.platform) fuel process.gateway.worker
      process.gateway.outbox process.gateway.writer
    ∃ next, Continues router lines process next ∧
      next.gateway =
        { process.gateway with
          worker := settled.1
          outbox := settled.2.1
          writer := settled.2.2 } := by
  induction fuel generalizing process with
  | zero => exact ⟨process, run.continues, rfl⟩
  | succ fuel inductionHypothesis =>
    cases busy : process.gateway.worker.isIdle process.gateway.outbox with
    | true =>
      simp only [Worker.settleWithin, busy, if_true]
      exact ⟨process, run.continues, rfl⟩
    | false =>
      obtain ⟨next, continues, gateway⟩ := run.exists_step_of_busy outside busy
      obtain ⟨final, later, settled⟩ :=
        inductionHypothesis continues.run (continues.closing ▸ outside)
      refine ⟨final, continues.trans later, ?_⟩
      rw [settleWithin_of_busy process fuel busy, settled, gateway]

/-- Whether no pass is under way. -/
def Rests (process : Process) : Prop :=
  process.closing.isFinished = true ∧ ∀ pass, process.gateway.worker ≠ .draining pass

/-- A console leaves the outbox alone. -/
theorem still_publishTo (console : Console) : Drain.Still (Gateway.publishTo console) :=
  fun _ _ _ => rfl

/-- The worker runs until it is idle. -/
theorem Run.exists_work (run : Run router lines process) (rests : process.Rests) :
    ∃ next, Continues router lines process next ∧ next.gateway = process.gateway.work ∧
      next.Rests := by
  obtain ⟨finished, outside⟩ := rests
  have compact : process.gateway.outbox.Compact := run.scheduled.run.compact
  have idle := Worker.isIdle_settle (still_publishTo process.gateway.platform)
    process.gateway.router.profile 0 process.gateway.writer compact outside
  obtain ⟨next, continues, settled⟩ := run.exists_settled (Drain.Pass.stage_of_isFinished finished)
    ((0 + 2) * (Drain.stepBound process.gateway.outbox 0 + 2))
  refine ⟨next, continues, settled, ?_, ?_⟩
  · rw [continues.closing]
    exact finished
  · rw [settled]
    exact Worker.ne_draining_of_isIdle idle

/-! ## All commands are carried out -/

/-- All commands can be carried out, one by one. -/
theorem Run.exists_applyAll (run : Run router lines process) (rests : process.Rests)
    (phase : process.phase = .serving ∨ process.phase = .ending) :
    ∃ next, Continues router lines process next ∧ next.gateway = process.gateway.applyAll ∧
      next.Rests := by
  generalize queued : process.gateway.commands = commands
  induction commands generalizing process with
  | nil =>
    rw [Gateway.applyAll_of_nil queued]
    exact ⟨process, run.continues, rfl, rests⟩
  | cons command commands inductionHypothesis =>
    have possible : process.step .command = some
        { process with
          gateway := process.gateway.applyNext
          log := process.log ++
            (process.gateway.commandReport? command).toList.map (.happened <| putEvent ·) } := by
      simp only [Process.step, queued, if_pos phase]
    obtain ⟨actuators, configuration, applied⟩ := process.gateway.applyNext_eq queued
    have rest : process.gateway.applyNext.commands = commands := by rw [applied]
    have worker : process.gateway.applyNext.worker = process.gateway.worker := by rw [applied]
    obtain ⟨next, continues, gateway, restsAfter⟩ :=
      inductionHypothesis (run.step .command possible) ⟨rests.1, worker ▸ rests.2⟩ phase rest
    refine ⟨next, ?_, ?_, restsAfter⟩
    · exact ⟨continues.run, continues.lines, continues.phase, continues.closing⟩
    · rw [gateway]
      exact Gateway.applyAll_of_cons queued

/-! ## Lines are taken -/

/-- A line is taken, and everything that follows from it is done. -/
theorem Run.exists_takeLine (run : Run router lines process) (rests : process.Rests)
    (serving : process.phase = .serving) {time : UInt64} {line : String}
    {later : List (UInt64 × String)} (taken : process.lines = (time, line) :: later) :
    ∃ next, Run router lines next ∧ next.lines = later ∧ next.phase = .serving ∧ next.Rests ∧
      next.gateway = process.gateway.takeLine time line := by
  have possible : process.step .line = some
      { process with
        gateway := process.gateway.readLine time line
        lines := later
        log := process.log ++ lineEntries process.gateway time line } := by
    simp only [Process.step, serving, taken]
  obtain ⟨writer, commands, read⟩ := process.gateway.readLine_eq time line
  have worker : (process.gateway.readLine time line).worker = process.gateway.worker := by rw [read]
  unfold Gateway.takeLine
  -- What the line says does not matter here.
  generalize process.gateway.readLine time line = gateway at possible worker ⊢
  have rested := rests.2
  rw [← worker] at rested
  obtain ⟨applied, first, all, restsApplied⟩ :=
    (run.step .line possible).exists_applyAll ⟨rests.1, rested⟩ (.inl serving)
  obtain ⟨next, second, worked, restsAfter⟩ := first.run.exists_work restsApplied
  have continues := first.trans second
  refine ⟨next, continues.run, continues.lines, continues.phase.trans serving, restsAfter, ?_⟩
  rw [worked, all]

/-- All lines are taken, one after another. -/
theorem Run.exists_fed (run : Run router lines process) (rests : process.Rests)
    (serving : process.phase = .serving) :
    ∃ next, Run router lines next ∧ next.lines = [] ∧ next.phase = .serving ∧ next.Rests ∧
      next.gateway = process.lines.foldl (fun gateway (time, line) => gateway.takeLine time line)
        process.gateway := by
  generalize left : process.lines = remaining
  induction remaining generalizing process with
  | nil => exact ⟨process, run, left, serving, rests, rfl⟩
  | cons first remaining inductionHypothesis =>
    obtain ⟨time, line⟩ := first
    obtain ⟨next, runNext, leftNext, servingNext, restsNext, taken⟩ :=
      run.exists_takeLine rests serving left
    obtain ⟨final, runFinal, exhausted, phase, restsFinal, fed⟩ :=
      inductionHypothesis runNext restsNext servingNext leftNext
    refine ⟨final, runFinal, exhausted, phase, restsFinal, ?_⟩
    rw [fed, taken, List.foldl_cons]

/-! ## Everything pending is published -/

/-- What the last pass of a gateway meets: an open gate, and a console. -/
def openTo (console : Console) : Drain.Surroundings Queues Writer where
  gate _ writer := (true, writer)
  publish := Gateway.publishTo console

/-- The last pass, with what it changes. -/
def running (process : Process) : Drain.Running Queues Writer where
  outbox := process.gateway.outbox
  world := process.gateway.writer
  pass := process.closing

/-- What the last pass does next. -/
theorem advance_running (process : Process) :
    let profile := process.gateway.router.profile
    let offered := process.offer process.closing.message?
    let stepped := process.closing.step profile offered.1 process.gateway.outbox
    process.running.advance profile (openTo process.gateway.platform) =
      { outbox := stepped.1, world := offered.2.gateway.writer, pass := stepped.2 } := by
  unfold running
  generalize process.closing = pass
  obtain ⟨lanes, stage, report⟩ := pass
  cases stage <;> rfl

/-- The last pass can make a step while the worker does not drain. -/
theorem Run.exists_step_of_unfinished (run : Run router lines process)
    (publishing : process.phase = .publishing)
    (outside : ∀ pass, process.gateway.worker ≠ .draining pass)
    (unfinished : process.closing.isFinished = false) :
    let offered := process.offer process.closing.message?
    let stepped := process.closing.step process.gateway.router.profile offered.1
      process.gateway.outbox
    ∃ next, Run router lines next ∧ next.phase = .publishing ∧ next.closing = stepped.2 ∧
      next.gateway =
        { process.gateway with
          outbox := stepped.1
          writer := offered.2.gateway.writer } := by
  intro offered stepped
  have unblocked : process.system.blocks (process.system.calls 0).stage = false := by
    refine System.unblocked_of_outside run.scheduled.run.held (.caller 0) fun other different => ?_
    cases other with
    | worker =>
      change process.gateway.worker.pass.stage = .enter
      cases worker : process.gateway.worker with
      | waiting | left => rfl
      | draining pass => exact absurd worker (outside pass)
    | caller number =>
      have later : number ≠ 0 := fun first => different (first ▸ rfl)
      unfold Schedule.Depot.pass system
      simp only [Function.update_of_ne later]
  obtain ⟨event, made⟩ := System.exists_drain unblocked (process.calls_system ▸ unfinished)
    process.gateway.router.profile offered.1
  simp only [Schedule.Depot.step, calls_system] at made
  have performed := process.perform_offer process.closing.message? (.drain 0 offered.1) made
  exact ⟨_, run.step .drain ((if_pos publishing).trans performed), publishing,
    Function.update_self 0 _ process.system.calls, rfl⟩

/-- The last pass can run for as many steps as it is given. -/
theorem Run.exists_finished (run : Run router lines process)
    (publishing : process.phase = .publishing)
    (outside : ∀ pass, process.gateway.worker ≠ .draining pass) (fuel : Nat) :
    let finished := process.running.finish process.gateway.router.profile
      (openTo process.gateway.platform) fuel
    ∃ next, Run router lines next ∧ next.phase = .publishing ∧ next.running = finished ∧
      next.gateway =
        { process.gateway with outbox := finished.outbox, writer := finished.world } := by
  induction fuel generalizing process with
  | zero => exact ⟨process, run, publishing, rfl, rfl⟩
  | succ fuel inductionHypothesis =>
    cases finished : process.closing.isFinished with
    | true =>
      have complete : process.running.pass.isFinished = true := finished
      simp only [Drain.Running.finish, complete, if_true]
      exact ⟨process, run, publishing, rfl, rfl⟩
    | false =>
      obtain ⟨next, runNext, publishingNext, closing, gateway⟩ :=
        run.exists_step_of_unfinished publishing outside finished
      have advanced : next.running = process.running.advance process.gateway.router.profile
          (openTo process.gateway.platform) := by
        rw [advance_running, running, closing, gateway]
      have unmoved : ∀ pass, next.gateway.worker ≠ .draining pass := by
        rw [gateway]
        exact outside
      obtain ⟨final, runFinal, phase, reached, last⟩ :=
        inductionHypothesis runNext publishingNext unmoved
      have unfinished : process.running.pass.isFinished = false := finished
      have routes : next.gateway.router = process.gateway.router := by rw [gateway]
      have platform : next.gateway.platform = process.gateway.platform := by rw [gateway]
      simp only [Drain.Running.finish, unfinished, Bool.false_eq_true, if_false]
      rw [← advanced, ← routes, ← platform]
      refine ⟨final, runFinal, phase, reached, ?_⟩
      rw [last, gateway]

/-- Everything pending can be published once the input has ended. -/
theorem Run.exists_published (run : Run router lines process) (rests : process.Rests)
    (ending : process.phase = .ending) (done : process.gateway.commands = []) :
    let drained := Drain.run process.gateway.router.profile (openTo process.gateway.platform)
      Lane.drainOrder 0 process.gateway.outbox process.gateway.writer
    ∃ next, Run router lines next ∧ next.phase = .publishing ∧ next.Rests ∧
      next.gateway.writer = drained.2.2 := by
  intro drained
  have made := System.step_call (process.calls_system ▸ rests.1 :
    (process.system.calls 0).isFinished = true) process.gateway.router.profile Lane.drainOrder
  have performed := perform_of_made { process with phase := .publishing }
    (.call 0 Lane.drainOrder) made
  have begun := run.step .publish ((if_pos ⟨ending, done⟩).trans performed)
  obtain ⟨next, runNext, publishing, reached, gateway⟩ :=
    begun.exists_finished rfl rests.2 (Drain.stepBound process.gateway.outbox 0)
  have fresh : Function.update process.system.calls 0 { lanes := Lane.drainOrder } 0 =
      { lanes := Lane.drainOrder } := Function.update_self 0 _ _
  simp only [running, fresh] at reached gateway
  have compact : process.gateway.outbox.Compact := run.scheduled.run.compact
  have still : Drain.Still (openTo process.gateway.platform).publish := still_publishTo _
  have finished := Drain.isFinished_of_stepBound still process.gateway.router.profile compact
    (by decide : Lane.drainOrder.Nodup) 0 process.gateway.writer
  refine ⟨next, runNext, publishing, ⟨?_, ?_⟩, ?_⟩
  · have closing : next.closing = _ := congrArg Drain.Running.pass reached
    rw [closing]
    exact finished
  · rw [gateway]
    exact rests.2
  · rw [gateway]
    rfl

/-! ## The process ends -/

/-- Once everything pending is published, the main thread disconnects and stops the worker. -/
theorem Run.exists_stopped (run : Run router lines process) (rests : process.Rests)
    (publishing : process.phase = .publishing) :
    ∃ next, Run router lines next ∧ next.phase = .joining ∧ next.Rests ∧
      next.gateway = { process.gateway with
        outbox := (process.gateway.outbox.setConnected false).stop } := by
  obtain ⟨apart, runApart, stopping, closing, gateway⟩ : ∃ apart, Run router lines apart ∧
      apart.phase = .stopping ∧ apart.closing = process.closing ∧
      apart.gateway = { process.gateway with
        outbox := process.gateway.outbox.setConnected false } :=
    ⟨_, run.step .disconnect ((if_pos ⟨publishing, rests.1⟩).trans
      (perform_of_made { process with phase := .stopping } (.connect false) rfl)),
      rfl, calls_system process, rfl⟩
  have stopped := perform_of_made { apart with phase := .joining } .stop rfl
  refine ⟨_, runApart.step .stop ((if_pos stopping).trans stopped), rfl, ⟨?_, ?_⟩, ?_⟩
  · change (apart.system.calls 0).isFinished = true
    rw [calls_system, closing]
    exact rests.1
  · change ∀ pass, apart.gateway.worker ≠ .draining pass
    rw [gateway]
    exact rests.2
  · change { apart.gateway with outbox := apart.gateway.outbox.stop } = _
    rw [gateway]

/-- The worker leaves once it has been stopped. -/
theorem Run.exists_left (run : Run router lines process) (rests : process.Rests)
    (stopped : process.gateway.outbox.running = false) :
    ∃ next, Continues router lines process next ∧ next.gateway.worker = .left ∧
      next.gateway.writer = process.gateway.writer := by
  cases worker : process.gateway.worker with
  | left => exact ⟨process, run.continues, worker, rfl⟩
  | draining pass => exact absurd worker (rests.2 pass)
  | waiting =>
    have busy : process.gateway.worker.isIdle process.gateway.outbox = false := by
      rw [worker]
      simp [Worker.isIdle, Worker.isWoken, stopped]
    obtain ⟨next, continues, gateway⟩ :=
      run.exists_step_of_busy (Drain.Pass.stage_of_isFinished rests.1) busy
    rw [worker] at gateway
    refine ⟨next, continues, ?_, ?_⟩
    · rw [gateway]
      simp [Worker.step, stopped]
    · rw [gateway]
      rfl

/-- A process ends once everything pending is published. -/
theorem Run.exists_ended (run : Run router lines process) (rests : process.Rests)
    (publishing : process.phase = .publishing) :
    ∃ next, Run router lines next ∧ next.phase = .ended ∧
      next.gateway.writer = process.gateway.writer := by
  obtain ⟨stopped, runStopped, joining, restsStopped, gateway⟩ :=
    run.exists_stopped rests publishing
  obtain ⟨next, continues, left, writer⟩ :=
    runStopped.exists_left restsStopped (by rw [gateway]; rfl)
  have waits : next.phase = .joining := continues.phase.trans joining
  have joined : next.step .join = some
      { next with
        phase := .ended
        gateway :=
          { next.gateway with
            platform := next.gateway.platform.disconnect
            devices := next.gateway.devices.disconnect } } := by
    simp only [Process.step, waits, left]
  refine ⟨_, continues.run.step .join joined, rfl, ?_⟩
  rw [writer, gateway]

/-- **The transcript is what a process writes.** Some schedule of a process ends, and what has been
written then is what a gateway on the command line writes for the same lines. -/
theorem exists_run_of_transcript (router : Router) (lines : List (UInt64 × String)) :
    ∃ process, Run router lines process ∧ process.phase = .ended ∧
      process.gateway.writer.written =
        (Gateway.start router : Gateway Queues).transcript lines := by
  have started : Run router lines (start router lines) := .start
  obtain ⟨fed, runFed, exhausted, serving, restsFed, gateway⟩ :=
    started.exists_fed ⟨rfl, nofun⟩ rfl
  have closed : fed.step .close = some { fed with phase := .ending } :=
    if_pos ⟨serving, exhausted⟩
  obtain ⟨applied, first, all, restsApplied⟩ :=
    (runFed.step .close closed).exists_applyAll restsFed (.inr rfl)
  obtain ⟨worked, second, settled, restsWorked⟩ := first.run.exists_work restsApplied
  have ending : worked.phase = .ending := second.phase.trans first.phase
  have done : worked.gateway.commands = [] := by
    rw [settled, all]
    exact Gateway.commands_applyAll fed.gateway
  obtain ⟨published, runPublished, publishing, restsPublished, drained⟩ :=
    second.run.exists_published restsWorked ending done
  obtain ⟨final, runFinal, ended, writer⟩ := runPublished.exists_ended restsPublished publishing
  refine ⟨final, runFinal, ended, ?_⟩
  rw [writer, drained, settled, all, gateway]
  rfl

/-- A gateway in memory prints what some process has written when it has ended. -/
theorem exists_run_of_prepared {sources : Settings.Sources} {router : Router}
    (prepared : prepare? sources = some (router, .memory)) (lines : List (UInt64 × String)) :
    ∃ process, Run router lines process ∧ process.phase = .ended ∧
      run sources lines = { exitCode := 0, printed := process.gateway.writer.written } := by
  obtain ⟨process, made, ended, written⟩ := exists_run_of_transcript router lines
  refine ⟨process, made, ended, ?_⟩
  simp only [run, prepared, written]

end Process

end EdgeGateway.CommandLine
