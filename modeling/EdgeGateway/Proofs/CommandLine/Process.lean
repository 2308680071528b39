import EdgeGateway.CommandLine.Gateway
import EdgeGateway.Proofs.Schedule.Wakeup

/-!
# The process of a gateway

A `Process` is a gateway on the command line together with its input and with everything that goes
on at once. The main thread takes lines and carries out commands, whichever it turns to first. Once
the input has ended it carries out the commands that are left, publishes everything pending,
disconnects, stops the worker and waits for it to leave. Meanwhile the worker makes its own steps.

`Process.step` is one step of either thread, and a `Run` is any sequence of such steps. Lines are
taken by `Gateway.readLine`, commands are carried out by `Gateway.applyNext`, and everything around
the outbox is a step of `Schedule.System`; so every run of a process is a run of the threads around
its outbox (`Run.scheduled`).
-/

namespace EdgeGateway

/-- The message that a pass is about to publish. -/
def Drain.Pass.message? (pass : Drain.Pass) : Option Message :=
  match pass.stage with
  | .publish _ _ _ _ message => some message
  | .enter | .ask _ _ _ | .look _ _ _ | .acknowledge _ _ _ _ => none

/-- The message that a worker is about to publish is that of its pass. -/
theorem Worker.message?_eq (worker : Worker) : worker.message? = worker.pass.message? := by
  cases worker with
  | waiting => rfl
  | left => rfl
  | draining pass =>
    obtain ⟨lanes, stage, report⟩ := pass
    cases stage <;> rfl

namespace Schedule

/-- Whether a move is not one of a caller. -/
def Move.IsNotOf (number : Nat) : Move → Prop
  | .call other _ | .drain other _ => other ≠ number
  | .put _ _ _ | .connect _ | .start | .stop | .work _ => True

/-- A move that is not one of a caller leaves the caller's pass as it is. -/
theorem System.calls_of_step {profile : Profile} {system next : System} {event : Event}
    {move : Move} {number : Nat} (other : move.IsNotOf number)
    (made : system.step profile move = some (event, next)) :
    next.calls number = system.calls number := by
  cases move with
  | call caller lanes =>
    obtain ⟨-, -, rfl⟩ := System.call_inv made
    exact Function.update_of_ne (Ne.symm other) _ _
  | drain caller answer =>
    obtain ⟨-, occurrence, -, -, rfl⟩ := System.drain_inv made
    exact Function.update_of_ne (Ne.symm other) _ _
  | work accepted =>
    obtain ⟨happened, -, result⟩ := Option.map_eq_some_iff.1 made
    cases result
    rfl
  | put lane key value =>
    cases made
    rfl
  | connect up =>
    cases made
    rfl
  | start =>
    cases made
    rfl
  | stop =>
    cases made
    rfl

end Schedule

namespace CommandLine

open Schedule (Agent System)

/-! ## What lines and commands report -/

/-- A value that a gateway reports, with its lane. -/
abbrev Report : Type := (lane : Lane) × lane.Value

/-- What is reported by an input at a time. -/
def Input.report? (time : UInt64) : Input → Option Report
  | .message _ => none
  | .reading reference value =>
    some ⟨.readings, { reference, values := [value], timestamp := time }⟩
  | .alarm reference active => some ⟨.alarms, { reference, active, timestamp := time }⟩

/-- What is reported by a line that is read at a time. -/
def lineReport? (time : UInt64) (line : String) : Option Report :=
  (Input.ofLine? line).bind (Input.report? time)

/-- An outbox with a reported value, if there is one. -/
def reported (report? : Option Report) (outbox : Outbox Queues) : Outbox Queues :=
  match report? with
  | some report => outbox.add report.1 report.2
  | none => outbox

/-- What a command makes a gateway report. -/
def Gateway.commandReport? (gateway : Gateway Queues) : Command → Option Report
  | .setActuator reference value => some ⟨.statuses, { reference, value, state := .ready }⟩
  | .getActuator reference =>
    match gateway.actuators.find? reference with
    | some value => some ⟨.statuses, { reference, value, state := .ready }⟩
    | none => some ⟨.statuses, { reference, value := "", state := .error }⟩
  | .setConfiguration item => some ⟨.configurations, item⟩
  | .getConfiguration reference =>
    (gateway.configuration.find? reference).map fun values =>
      ⟨.configurations, { key := reference, values }⟩

/-! ## Processes -/

/-- Something that happens in a process. -/
inductive Process.Entry where
  /-- Something happens around the outbox. -/
  | happened (event : Schedule.Event)
  /-- What becomes of an inbound message is written to the console of a side. -/
  | forwarded (side : Side) (message : Message)

/-- Where the main thread of a process stands. -/
inductive Process.Phase where
  /-- It takes lines and carries out commands. -/
  | serving
  /-- The input has ended, and it carries out the commands that are left. -/
  | ending
  /-- It publishes everything pending. -/
  | publishing
  /-- It has disconnected, and is about to stop the worker. -/
  | stopping
  /-- It waits for the worker to leave. -/
  | joining
  /-- It is done. -/
  | ended
  deriving DecidableEq, Repr

/-- A gateway on the command line, its input, and what has happened so far. -/
structure Process where
  gateway : Gateway Queues
  /-- The lines that have not been taken yet, each with the time at which it is read. -/
  lines : List (UInt64 × String)
  phase : Process.Phase := .serving
  /-- The pass that publishes everything pending once the input has ended. -/
  closing : Drain.Pass := { lanes := [] }
  /-- Who holds the drain lock. -/
  lock : Option Agent := none
  log : List Process.Entry := []

namespace Process

/-- The event around the outbox that an entry is about. -/
def Entry.event? : Entry → Option Schedule.Event
  | happened event => some event
  | forwarded _ _ => none

/-- The name of the console of a side. -/
def consoleName : Side → String
  | .platform => "platform"
  | .devices => "device"

/-- What is written for an entry. -/
def Entry.text : Entry → String
  | happened (.passed _ (.batch _ _ (.accepted _ message))) => Console.line "platform" message
  | happened _ => ""
  | forwarded side message => Console.line (consoleName side) message

/-- Everything that is written for some entries. -/
def text (log : List Entry) : String :=
  log.foldl (fun written entry => written ++ entry.text) ""

/-- What has happened around the outbox. -/
def events (process : Process) : List Schedule.Event := process.log.filterMap Entry.event?

/-- The event that a value is put when it is reported. -/
def putEvent (report : Report) : Schedule.Event :=
  .put report.1 (report.1.reference report.2) report.2

/-- A process as it starts. The worker is started and the transport connected before anything else
happens. -/
def start (router : Router) (lines : List (UInt64 × String)) : Process where
  gateway := .start router
  lines
  log := [.happened .started, .happened (.connected true)]

/-- The threads around the outbox of a process. -/
def system (process : Process) : System where
  outbox := process.gateway.outbox
  worker := process.gateway.worker
  calls := Function.update (fun _ => { lanes := [] }) 0 process.closing
  lock := process.lock

/-- The process after a move of the threads around its outbox, if it can be made. -/
def perform (process : Process) (move : Schedule.Move) : Option Process :=
  (process.system.step process.gateway.router.profile move).map fun (event, system) =>
    { process with
      gateway := { process.gateway with outbox := system.outbox, worker := system.worker }
      closing := system.calls 0
      lock := system.lock
      log := process.log ++ [.happened event] }

/-- Writes a message to the console of the platform, if there is one to be published. -/
def offer (process : Process) : Option Message → Bool × Process
  | none => (true, process)
  | some message =>
    let (accepted, writer) := process.gateway.platform.publish message process.gateway.writer
    (accepted, { process with gateway := { process.gateway with writer } })

/-- What is written down when a line is taken. -/
def lineEntries (gateway : Gateway Queues) (time : UInt64) (line : String) : List Entry :=
  match Input.ofLine? line with
  | some (.message message) =>
    match Decision.ofMessage gateway.router.profile.gatewayKey gateway.router.manifests message with
    | .ok (.forward side forwarded) =>
      if ((gateway.console side).publish forwarded gateway.writer).1 then
        [.forwarded side forwarded]
      else []
    | _ => []
  | input => (input.bind (Input.report? time)).toList.map (.happened <| putEvent ·)

/-- What is done next. -/
inductive Move where
  /-- The main thread takes the next line. -/
  | line
  /-- The main thread carries out the next command. -/
  | command
  /-- The main thread finds that the input has ended. -/
  | close
  /-- The main thread begins to publish everything pending. -/
  | publish
  /-- The pass of the main thread makes a step. -/
  | drain
  | disconnect
  | stop
  /-- The main thread finds that the worker has left. -/
  | join
  /-- The worker makes a step. -/
  | work
  deriving DecidableEq, Repr

/-- One step of one of the two threads, if it can be made. -/
def step (process : Process) : Move → Option Process
  | .line =>
    match process.phase, process.lines with
    | .serving, (time, line) :: lines =>
      some
        { process with
          gateway := process.gateway.readLine time line
          lines
          log := process.log ++ lineEntries process.gateway time line }
    | _, _ => none
  | .command =>
    match process.gateway.commands with
    | command :: _ =>
      if process.phase = .serving ∨ process.phase = .ending then
        some
          { process with
            gateway := process.gateway.applyNext
            log := process.log ++
              (process.gateway.commandReport? command).toList.map (.happened <| putEvent ·) }
      else none
    | [] => none
  | .close =>
    if process.phase = .serving ∧ process.lines = [] then some { process with phase := .ending }
    else none
  | .publish =>
    if process.phase = .ending ∧ process.gateway.commands = [] then
      { process with phase := .publishing }.perform (.call 0 Lane.drainOrder)
    else none
  | .drain =>
    if process.phase = .publishing then
      let (accepted, offered) := process.offer process.closing.message?
      offered.perform (.drain 0 accepted)
    else none
  | .disconnect =>
    if process.phase = .publishing ∧ process.closing.isFinished then
      { process with phase := .stopping }.perform (.connect false)
    else none
  | .stop =>
    if process.phase = .stopping then { process with phase := .joining }.perform .stop else none
  | .join =>
    match process.phase, process.gateway.worker with
    | .joining, .left =>
      some
        { process with
          phase := .ended
          gateway :=
            { process.gateway with
              platform := process.gateway.platform.disconnect
              devices := process.gateway.devices.disconnect } }
    | _, _ => none
  | .work =>
    let (accepted, offered) := process.offer process.gateway.worker.message?
    offered.perform (.work accepted)

/-- The process after some moves, if all of them can be made. -/
def after (process : Process) : List Move → Option Process
  | [] => some process
  | move :: moves => (process.step move).bind fun next => next.after moves

end Process

/-- The processes that can come about from some lines of input. -/
inductive Process.Run (router : Router) (lines : List (UInt64 × String)) : Process → Prop where
  | start : Run router lines (.start router lines)
  | step {process next : Process} (run : Run router lines process) (move : Process.Move)
      (made : process.step move = some next) : Run router lines next

/-- Moves that can be made one after another extend a run. -/
theorem Process.Run.after {router : Router} {lines : List (UInt64 × String)}
    {process final : Process} {moves : List Process.Move} (run : Run router lines process)
    (made : process.after moves = some final) : Run router lines final := by
  induction moves generalizing process with
  | nil =>
    cases made
    exact run
  | cons move moves inductionHypothesis =>
    obtain ⟨next, stepped, rest⟩ := Option.bind_eq_some_iff.1 made
    exact inductionHypothesis (run.step move stepped) rest

/-! ## What a step can do -/

namespace Gateway

variable (gateway : Gateway Queues)

/-- Taking a line leaves everything but the writer and the commands as it is, and adds what the line
reports. -/
theorem readLine_eq (time : UInt64) (line : String) :
    ∃ writer commands, gateway.readLine time line =
      { gateway with
        outbox := reported (lineReport? time line) gateway.outbox
        writer
        commands } := by
  unfold readLine lineReport?
  cases Input.ofLine? line with
  | none => exact ⟨gateway.writer, gateway.commands, rfl⟩
  | some input => cases input <;> exact ⟨_, _, rfl⟩

/-- Carrying out a command leaves everything but the two tables and the commands as it is, and adds
what the command reports. -/
theorem applyNext_eq {command : Command} {commands : List Command}
    (queued : gateway.commands = command :: commands) :
    ∃ actuators configuration, gateway.applyNext =
      { gateway with
        outbox := reported (gateway.commandReport? command) gateway.outbox
        commands
        actuators
        configuration } := by
  simp only [applyNext, queued]
  cases command with
  | setActuator reference value => exact ⟨_, _, rfl⟩
  | setConfiguration item => exact ⟨_, _, rfl⟩
  | getActuator reference =>
    simp only [apply, commandReport?]
    cases gateway.actuators.find? reference <;> exact ⟨_, _, rfl⟩
  | getConfiguration reference =>
    simp only [apply, commandReport?]
    cases gateway.configuration.find? reference <;> exact ⟨_, _, rfl⟩

end Gateway

namespace Process

/-- A move of the threads around the outbox of a process, which leaves everything else as it is. -/
structure Moved (process : Process) (move : Schedule.Move) (event : Schedule.Event)
    (next : Process) : Prop where
  made : process.system.step process.gateway.router.profile move = some (event, next.system)
  gateway : next.gateway =
    { process.gateway with outbox := next.gateway.outbox, worker := next.gateway.worker }
  lines : next.lines = process.lines
  phase : next.phase = process.phase
  log : next.log = process.log ++ [.happened event]

/-- Everything that a step can do. -/
inductive Effect (process : Process) : Process → Prop where
  | line {time : UInt64} {line : String} {lines : List (UInt64 × String)}
      (phase : process.phase = .serving) (taken : process.lines = (time, line) :: lines) :
      Effect process
        { process with
          gateway := process.gateway.readLine time line
          lines
          log := process.log ++ lineEntries process.gateway time line }
  | command {command : Command} {commands : List Command}
      (phase : process.phase = .serving ∨ process.phase = .ending)
      (queued : process.gateway.commands = command :: commands) :
      Effect process
        { process with
          gateway := process.gateway.applyNext
          log := process.log ++
            (process.gateway.commandReport? command).toList.map (.happened <| putEvent ·) }
  | close (phase : process.phase = .serving) (exhausted : process.lines = []) :
      Effect process { process with phase := .ending }
  | publish {event : Schedule.Event} {next : Process} (phase : process.phase = .ending)
      (done : process.gateway.commands = [])
      (moved : Moved { process with phase := .publishing } (.call 0 Lane.drainOrder) event next) :
      Effect process next
  | drain {event : Schedule.Event} {next : Process} (phase : process.phase = .publishing)
      (moved : Moved (process.offer process.closing.message?).2
        (.drain 0 (process.offer process.closing.message?).1) event next) :
      Effect process next
  | disconnect {event : Schedule.Event} {next : Process} (phase : process.phase = .publishing)
      (finished : process.closing.isFinished = true)
      (moved : Moved { process with phase := .stopping } (.connect false) event next) :
      Effect process next
  | stop {event : Schedule.Event} {next : Process} (phase : process.phase = .stopping)
      (moved : Moved { process with phase := .joining } .stop event next) :
      Effect process next
  | join (phase : process.phase = .joining) (left : process.gateway.worker = .left) :
      Effect process
        { process with
          phase := .ended
          gateway :=
            { process.gateway with
              platform := process.gateway.platform.disconnect
              devices := process.gateway.devices.disconnect } }
  | work {event : Schedule.Event} {next : Process}
      (moved : Moved (process.offer process.gateway.worker.message?).2
        (.work (process.offer process.gateway.worker.message?).1) event next) :
      Effect process next

variable {process next : Process}

/-- What can be performed is a move of the threads around the outbox, if no caller but the first
makes it. -/
theorem moved_of_perform {move : Schedule.Move} (made : process.perform move = some next)
    (own : ∀ number, number ≠ 0 → move.IsNotOf number) :
    ∃ event, Moved process move event next := by
  obtain ⟨⟨event, system⟩, stepped, rfl⟩ := Option.map_eq_some_iff.1 made
  have calls : system.calls = Function.update (fun _ => { lanes := [] }) 0 (system.calls 0) := by
    funext number
    by_cases first : number = 0
    · rw [first, Function.update_self]
    · rw [Schedule.System.calls_of_step (own number first) stepped, Process.system]
      simp only [Function.update_of_ne first]
  refine ⟨event, ?_, rfl, rfl, rfl, rfl⟩
  rw [stepped, Process.system]
  simp only
  rw [← calls]

/-- Every step has one of the effects. -/
theorem effect_of_step {move : Move} (made : process.step move = some next) :
    Effect process next := by
  cases move with
  | line =>
    simp only [step] at made
    split at made
    · rename_i time line lines phase taken
      obtain rfl := Option.some.inj made
      exact .line phase taken
    · cases made
  | command =>
    simp only [step] at made
    split at made
    · rename_i command commands queued
      split at made
      · rename_i phase
        cases made
        exact .command phase queued
      · cases made
    · cases made
  | close =>
    simp only [step] at made
    split at made
    · rename_i ready
      cases made
      exact .close ready.1 ready.2
    · cases made
  | publish =>
    simp only [step] at made
    split at made
    · rename_i ready
      obtain ⟨event, moved⟩ := moved_of_perform made fun _ => Ne.symm
      exact .publish ready.1 ready.2 moved
    · cases made
  | drain =>
    simp only [step] at made
    split at made
    · rename_i phase
      obtain ⟨event, moved⟩ := moved_of_perform made fun _ => Ne.symm
      exact .drain phase moved
    · cases made
  | disconnect =>
    simp only [step] at made
    split at made
    · rename_i ready
      obtain ⟨event, moved⟩ := moved_of_perform made fun _ _ => trivial
      exact .disconnect ready.1 ready.2 moved
    · cases made
  | stop =>
    simp only [step] at made
    split at made
    · rename_i phase
      obtain ⟨event, moved⟩ := moved_of_perform made fun _ _ => trivial
      exact .stop phase moved
    · cases made
  | join =>
    simp only [step] at made
    split at made
    · rename_i phase left
      cases made
      exact .join phase left
    · cases made
  | work =>
    simp only [step] at made
    obtain ⟨event, moved⟩ := moved_of_perform made fun _ _ => trivial
    exact .work moved

/-! ## A run of a process is a run of its threads -/

/-- Offering a message changes nothing but the writer. -/
theorem offer_eq (process : Process) (message? : Option Message) :
    ∃ writer, (process.offer message?).2 =
      { process with gateway := { process.gateway with writer } } := by
  cases message? <;> exact ⟨_, rfl⟩

/-- What a line puts is what it reports. -/
theorem filterMap_lineEntries (gateway : Gateway Queues) (time : UInt64) (line : String) :
    (lineEntries gateway time line).filterMap Entry.event? =
      (lineReport? time line).toList.map putEvent := by
  unfold lineEntries lineReport?
  cases Input.ofLine? line with
  | none => rfl
  | some input =>
    cases input with
    | message message =>
      simp only [Option.bind_some, Input.report?, Option.toList_none, List.map_nil]
      split
      · split <;> rfl
      · rfl
    | reading reference value => rfl
    | alarm reference active => rfl

/-- What is reported is what happens around the outbox when it is put. -/
theorem filterMap_reports (report? : Option Report) :
    (report?.toList.map (Entry.happened <| putEvent ·)).filterMap Entry.event? =
      report?.toList.map putEvent := by
  cases report? <;> rfl

/-- Reporting a value extends a run by its put. -/
theorem run_reported {profile : Profile} {events : List Schedule.Event} {system : System}
    (run : Schedule.Run profile events system) (report? : Option Report) :
    Schedule.Run profile (events ++ report?.toList.map putEvent)
      { system with outbox := reported report? system.outbox } := by
  cases report? with
  | none =>
    rw [Option.toList_none, List.map_nil, List.append_nil]
    exact run
  | some report => exact run.step (.put _ _ _) rfl

/-- What every process keeps to: it routes as it is told, and its threads have made a run. -/
structure Scheduled (router : Router) (process : Process) : Prop where
  routes : process.gateway.router = { router with handlers := .all }
  run : Schedule.Run router.profile process.events process.system

variable {router : Router} {lines : List (UInt64 × String)}

/-- A process is scheduled when it starts. -/
theorem scheduled_start (router : Router) (lines : List (UInt64 × String)) :
    (start router lines).Scheduled router := by
  refine ⟨rfl, ?_⟩
  have started : Schedule.Run router.profile [.started]
      { outbox := Outbox.fresh.start, worker := .waiting } := Schedule.Run.fresh.step .start rfl
  have connected := started.step (.connect true) rfl
  have idle : (Function.update (fun _ => ({ lanes := [] } : Drain.Pass)) 0 { lanes := [] }) =
      fun _ => { lanes := [] } := Function.update_eq_self 0 _
  unfold system
  rw [show (start router lines).closing = { lanes := [] } from rfl, idle]
  exact connected

/-- Moves of the threads keep a process scheduled. -/
theorem Scheduled.moved {move : Schedule.Move} {event : Schedule.Event}
    (scheduled : process.Scheduled router) (moved : Moved process move event next) :
    next.Scheduled router := by
  obtain ⟨routes, run⟩ := scheduled
  refine ⟨?_, ?_⟩
  · rw [moved.gateway]
    exact routes
  · have made := moved.made
    rw [routes] at made
    have events : next.events = process.events ++ [event] := by
      simp [Process.events, moved.log, Entry.event?]
    rw [events]
    exact run.step move made

/-- Offering a message keeps a process scheduled. -/
theorem Scheduled.offer (scheduled : process.Scheduled router) (message? : Option Message) :
    (process.offer message?).2.Scheduled router := by
  obtain ⟨writer, offered⟩ := process.offer_eq message?
  rw [offered]
  exact ⟨scheduled.routes, scheduled.run⟩

/-- Turning to another phase keeps a process scheduled. -/
theorem Scheduled.turn (scheduled : process.Scheduled router) (phase : Phase) :
    { process with phase }.Scheduled router :=
  ⟨scheduled.routes, scheduled.run⟩

/-- Reporting a value, if there is one, keeps a process scheduled. -/
theorem Scheduled.report (scheduled : process.Scheduled router) {report? : Option Report}
    {entries : List Entry} {gateway : Gateway Queues}
    (put : entries.filterMap Entry.event? = report?.toList.map putEvent)
    (routes : gateway.router = process.gateway.router)
    (outbox : gateway.outbox = reported report? process.gateway.outbox)
    (worker : gateway.worker = process.gateway.worker) :
    { process with gateway, lines, log := process.log ++ entries }.Scheduled router := by
  refine ⟨routes.trans scheduled.routes, ?_⟩
  have extended := run_reported scheduled.run report?
  rw [← put, events, ← List.filterMap_append] at extended
  rw [system, outbox, worker]
  exact extended

/-- Every step keeps a process scheduled. -/
theorem Scheduled.preserved (scheduled : process.Scheduled router)
    (effect : Effect process next) : next.Scheduled router := by
  cases effect with
  | @line time line lines phase taken =>
    obtain ⟨writer, commands, read⟩ := process.gateway.readLine_eq time line
    have put := filterMap_lineEntries process.gateway time line
    rw [read]
    -- What the line reports does not matter here.
    generalize lineReport? time line = report? at put ⊢
    exact scheduled.report put rfl rfl rfl
  | @command command commands phase queued =>
    obtain ⟨actuators, configuration, applied⟩ := process.gateway.applyNext_eq queued
    rw [applied]
    exact scheduled.report (filterMap_reports _) rfl rfl rfl
  | close phase exhausted => exact scheduled.turn .ending
  | publish phase done moved => exact (scheduled.turn .publishing).moved moved
  | drain phase moved => exact (scheduled.offer _).moved moved
  | disconnect phase finished moved => exact (scheduled.turn .stopping).moved moved
  | stop phase moved => exact (scheduled.turn .joining).moved moved
  | join phase left => exact ⟨scheduled.routes, scheduled.run⟩
  | work moved => exact (scheduled.offer _).moved moved

/-- Every run of a process is a run of the threads around its outbox. -/
theorem Run.scheduled (run : Run router lines process) : process.Scheduled router := by
  induction run with
  | start => exact scheduled_start router lines
  | step run move made inductionHypothesis =>
    exact inductionHypothesis.preserved (effect_of_step made)

end Process

end CommandLine

end EdgeGateway
