import EdgeGateway.Proofs.CommandLine.Given
import EdgeGateway.Proofs.Schedule.Arrival

/-!
# The account of a process

Whatever the schedule, what a process has put into its outbox is fixed by the lines that it has
taken and by the commands that it has carried out (`Account`), and commands are carried out in the
order in which lines gave them. Values of queues are those that the lines gave, in their order; the
last value of a slot is fixed by the commands for its reference, since the values that are set are
only ever read by commands.
-/

namespace EdgeGateway

namespace CommandLine

open Schedule (KeyEvent history puts)

/-! ## Carrying out a command -/

namespace Gateway

variable {gateway : Gateway Queues} {command : Command} {commands : List Command}

/-- Carrying out a command takes it off the queue, and the gateway knows what it has set. -/
theorem applyNext_sets (queued : gateway.commands = command :: commands) (reference : String) :
    gateway.applyNext.commands = commands ∧
      gateway.applyNext.actuators.find? reference =
        (command.setting? reference).or (gateway.actuators.find? reference) ∧
      gateway.applyNext.configuration.find? reference =
        (command.configured? reference).or (gateway.configuration.find? reference) := by
  simp only [applyNext, queued]
  cases command with
  | setActuator other value =>
    refine ⟨rfl, ?_, rfl⟩
    by_cases same : other = reference
    · simp [apply, Command.setting?, same]
    · simp only [Command.setting?, same, if_false, Option.none_or]
      exact Table.find?_insert_of_ne gateway.actuators value (Ne.symm same)
  | getActuator other =>
    simp only [apply]
    cases gateway.actuators.find? other <;> exact ⟨rfl, rfl, rfl⟩
  | setConfiguration item =>
    refine ⟨rfl, rfl, ?_⟩
    by_cases same : item.key = reference
    · simp [apply, Command.configured?, same]
    · simp only [Command.configured?, same, if_false, Option.none_or]
      exact Table.find?_insert_of_ne gateway.configuration item.values (Ne.symm same)
  | getConfiguration other =>
    simp only [apply]
    cases gateway.configuration.find? other <;> exact ⟨rfl, rfl, rfl⟩

end Gateway

namespace Process

/-- The values that have been put under a key. -/
def added (process : Process) (lane : Lane) (reference : String) : List lane.Value :=
  puts (history lane reference process.events)

/-- What has come of the lines and the commands that a process has taken. -/
structure Account (router : Router) (taken : List (UInt64 × String)) (applied : List Command)
    (process : Process) : Prop where
  /-- The commands that the lines gave were carried out in their order, or wait to be. -/
  commands : handled router taken = applied ++ process.gateway.commands
  /-- The gateway knows what its actuators were set to. -/
  actuators : ∀ reference,
    process.gateway.actuators.find? reference = lastSetting reference applied
  /-- The gateway knows what its configuration items were set to. -/
  configuration : ∀ reference,
    process.gateway.configuration.find? reference = lastConfiguration reference applied
  /-- Readings and alarms are those that the lines gave. -/
  queues : ∀ lane, lane.retention = .fifo →
    ∀ reference, process.added lane reference = given lane reference taken
  /-- The last status is that of the last command for its actuator. -/
  statuses : ∀ reference,
    (process.added .statuses reference).getLast? = lastStatus reference applied
  /-- The last configuration item has the values that were set last. -/
  configurations : ∀ reference, (process.added .configurations reference).getLast? =
    (lastConfiguration reference applied).map ({ key := reference, values := · })

variable {router : Router} {lines taken : List (UInt64 × String)} {applied : List Command}
  {process next : Process}

/-- Nothing has come of nothing. -/
theorem account_start (router : Router) (lines : List (UInt64 × String)) :
    (start router lines).Account router [] [] where
  commands := rfl
  actuators _ := rfl
  configuration _ := rfl
  queues _ _ _ := rfl
  statuses _ := rfl
  configurations _ := rfl

/-- A move of the threads puts nothing. -/
theorem Moved.added {move : Schedule.Move} {event : Schedule.Event}
    (moved : Moved process move event next)
    (unlike : ∀ lane key value, move ≠ .put lane key value) : next.added = process.added := by
  funext lane reference
  have events : next.events = process.events ++ [event] := by
    simp [events, moved.log, Entry.event?]
  unfold Process.added
  rw [events]
  exact Schedule.puts_history_concat (Schedule.put?_of_step unlike moved.made)

/-- Moves of the threads keep the account. -/
theorem Account.moved {move : Schedule.Move} {event : Schedule.Event}
    (account : process.Account router taken applied) (moved : Moved process move event next)
    (unlike : ∀ lane key value, move ≠ .put lane key value) :
    next.Account router taken applied := by
  obtain ⟨commands, actuators, configuration, queues, statuses, configurations⟩ := account
  rw [← moved.added unlike] at queues statuses configurations
  refine ⟨?_, ?_, ?_, queues, statuses, configurations⟩
  · rw [moved.gateway]
    exact commands
  · rw [moved.gateway]
    exact actuators
  · rw [moved.gateway]
    exact configuration

/-- Offering a message keeps the account. -/
theorem Account.offer (account : process.Account router taken applied)
    (message? : Option Message) : (process.offer message?).2.Account router taken applied := by
  obtain ⟨writer, offered⟩ := process.offer_eq message?
  rw [offered]
  exact ⟨account.commands, account.actuators, account.configuration, account.queues,
    account.statuses, account.configurations⟩

/-- Offering a message takes no line. -/
theorem lines_offer (message? : Option Message) :
    (process.offer message?).2.lines = process.lines := by
  obtain ⟨writer, offered⟩ := process.offer_eq message?
  rw [offered]

/-- Turning to another phase keeps the account. -/
theorem Account.turn (account : process.Account router taken applied) (phase : Phase) :
    { process with phase }.Account router taken applied :=
  ⟨account.commands, account.actuators, account.configuration, account.queues, account.statuses,
    account.configurations⟩

/-- A report adds the value that is seen to what has been put. -/
theorem added_of_reported {report? : Option Report} {entries : List Entry}
    (put : entries.filterMap Entry.event? = report?.toList.map putEvent)
    (log : next.log = process.log ++ entries) (lane : Lane) (reference : String) :
    next.added lane reference =
      process.added lane reference ++ (report?.bind (Report.at? lane reference)).toList := by
  unfold Process.added events
  rw [log, List.filterMap_append, put]
  exact puts_history_reports lane reference process.events report?

/-- Which command a line gives does not depend on handlers. -/
theorem lineCommand?_handlers (router : Router) (handlers : Handlers) (line : String) :
    lineCommand? { router with handlers } line = lineCommand? router line := by
  have same : Input.command? { router with handlers } = Input.command? router := by
    funext input
    cases input <;> rfl
  unfold lineCommand?
  rw [same]

/-- Taking a line keeps the account. -/
theorem Account.line (account : process.Account router taken applied) {time : UInt64}
    {line : String} {entries : List Entry} {gateway : Gateway Queues}
    (put : entries.filterMap Entry.event? = (lineReport? time line).toList.map putEvent)
    (commands : gateway.commands =
      process.gateway.commands ++ (lineCommand? router line).toList)
    (actuators : gateway.actuators = process.gateway.actuators)
    (configuration : gateway.configuration = process.gateway.configuration) :
    { process with gateway, lines, log := process.log ++ entries }.Account router
      (taken ++ [(time, line)]) applied := by
  have added := @added_of_reported process
    { process with gateway, lines, log := process.log ++ entries } (lineReport? time line) entries put
    rfl
  have unreported : ∀ lane : Lane, lane.retention = .lastValue → ∀ reference, Process.added
      { process with gateway, lines, log := process.log ++ entries } lane reference =
        process.added lane reference := by
    intro lane slot reference
    rw [added, at?_lineReport?_of_lastValue slot, Option.toList_none, List.append_nil]
  refine ⟨?_, ?_, ?_, ?_, ?_, ?_⟩
  · rw [handled, Schedule.filterMap_concat, commands, ← List.append_assoc, ← account.commands]
    rfl
  · rw [actuators]
    exact account.actuators
  · rw [configuration]
    exact account.configuration
  · intro lane fifo reference
    rw [added, given, Schedule.filterMap_concat, account.queues lane fifo]
    rfl
  · intro reference
    rw [unreported .statuses rfl]
    exact account.statuses reference
  · intro reference
    rw [unreported .configurations rfl]
    exact account.configurations reference

/-- Carrying out a command keeps the account. -/
theorem Account.command (account : process.Account router taken applied) {command : Command}
    {commands : List Command} (queued : process.gateway.commands = command :: commands)
    {entries : List Entry} (put : entries.filterMap Entry.event? =
      (process.gateway.commandReport? command).toList.map putEvent) :
    { process with
      gateway := process.gateway.applyNext
      log := process.log ++ entries }.Account router taken (applied ++ [command]) := by
  have sets := Gateway.applyNext_sets queued
  have added := @added_of_reported process
    { process with gateway := process.gateway.applyNext, log := process.log ++ entries }
    (process.gateway.commandReport? command) entries put rfl
  refine ⟨?_, ?_, ?_, ?_, ?_, ?_⟩
  · rw [account.commands, queued, (sets "").1, List.append_assoc, List.singleton_append]
  · intro reference
    rw [(sets reference).2.1, lastSetting_concat, account.actuators]
  · intro reference
    rw [(sets reference).2.2, lastConfiguration_concat, account.configuration]
  · intro lane fifo reference
    rw [added, at?_commandReport?_of_fifo fifo, Option.toList_none, List.append_nil]
    exact account.queues lane fifo reference
  · intro reference
    rw [added, getLast?_append_toList, at?_commandReport?_statuses, lastStatus_concat,
      account.actuators, account.statuses]
    split <;> rfl
  · intro reference
    rw [added, getLast?_append_toList, account.configurations, ← account.configuration,
      at?_commandReport?_configurations, lastConfiguration_concat, account.configuration]

/-- Every step keeps an account. -/
theorem Account.preserved (account : process.Account router taken applied)
    (whole : lines = taken ++ process.lines) (scheduled : process.Scheduled router)
    (effect : Effect process next) :
    ∃ taken applied, lines = taken ++ next.lines ∧ next.Account router taken applied := by
  cases effect with
  | @line time line later phase taking =>
    have queued := process.gateway.commands_readLine (by rw [scheduled.routes]) time line
    rw [scheduled.routes, lineCommand?_handlers] at queued
    obtain ⟨writer, commands, read⟩ := process.gateway.readLine_eq time line
    rw [read] at queued ⊢
    refine ⟨taken ++ [(time, line)], applied, ?_, ?_⟩
    · rw [whole, taking, List.append_assoc]
      rfl
    · exact account.line (filterMap_lineEntries _ _ _) queued rfl rfl
  | @command command commands phase queued =>
    exact ⟨taken, applied ++ [command], whole, account.command queued (filterMap_reports _)⟩
  | close phase exhausted => exact ⟨taken, applied, whole, account.turn .ending⟩
  | publish phase done moved =>
    exact ⟨taken, applied, moved.lines ▸ whole, (account.turn .publishing).moved moved nofun⟩
  | drain phase moved =>
    exact ⟨taken, applied, (moved.lines.trans (lines_offer _)) ▸ whole,
      (account.offer _).moved moved nofun⟩
  | disconnect phase finished moved =>
    exact ⟨taken, applied, moved.lines ▸ whole, (account.turn .stopping).moved moved nofun⟩
  | stop phase moved =>
    exact ⟨taken, applied, moved.lines ▸ whole, (account.turn .joining).moved moved nofun⟩
  | join phase left =>
    exact ⟨taken, applied, whole, account.commands, account.actuators, account.configuration,
      account.queues, account.statuses, account.configurations⟩
  | work moved =>
    exact ⟨taken, applied, (moved.lines.trans (lines_offer _)) ▸ whole,
      (account.offer _).moved moved nofun⟩

/-- Every process has an account of the lines that it has taken. -/
theorem Run.account (run : Run router lines process) :
    ∃ taken applied, lines = taken ++ process.lines ∧ process.Account router taken applied := by
  induction run with
  | start => exact ⟨[], [], rfl, account_start router lines⟩
  | step run move made inductionHypothesis =>
    obtain ⟨taken, applied, whole, account⟩ := inductionHypothesis
    exact account.preserved whole run.scheduled (effect_of_step made)

end Process

end CommandLine

end EdgeGateway
