import EdgeGateway.Proofs.Channel.Textual
import EdgeGateway.Proofs.CommandLine.Process
import EdgeGateway.Proofs.Router.Table
import EdgeGateway.Proofs.Session.Reference
import Mathlib.Data.List.Induction

/-!
# What the lines of a process give

Readings and alarms come with lines alone (`given`). Statuses and configuration items come from the
commands that lines give to the gateway (`handled`), and what the last of them says is fixed by the
commands for its reference: `lastStatus` and `lastConfiguration`.
-/

namespace EdgeGateway.CommandLine

open Schedule (Located KeyEvent history puts)

/-! ## Reports as a key sees them -/

/-- The value of a report as seen from a lane and a reference. -/
def Report.at? (lane : Lane) (reference : String) (report : Report) : Option lane.Value :=
  @Located.at? (fun Value => Value) lane reference
    ⟨report.1, report.1.reference report.2, report.2⟩

/-- A report is seen from its own lane and reference. -/
theorem Report.at?_self (lane : Lane) (value : lane.Value) :
    Report.at? lane (lane.reference value) ⟨lane, value⟩ = some value :=
  @Located.at?_self (fun Value => Value) lane _ value

/-- A report is seen from no other lane or reference. -/
theorem Report.at?_of_ne {lane other : Lane} {reference : String} {value : lane.Value}
    (different : ¬ (lane = other ∧ lane.reference value = reference)) :
    Report.at? other reference ⟨lane, value⟩ = none :=
  @Located.at?_of_ne (fun Value => Value) lane other _ reference value different

/-- A report is put where it is seen. -/
theorem at?_putEvent (lane : Lane) (reference : String) (report : Report) :
    (Process.putEvent report).at? lane reference =
      (report.at? lane reference).map KeyEvent.put := by
  obtain ⟨other, value⟩ := report
  by_cases same : other = lane ∧ other.reference value = reference
  · obtain ⟨rfl, rfl⟩ := same
    rw [Report.at?_self]
    exact Located.at?_self _ _ _
  · rw [Report.at?_of_ne same]
    exact Located.at?_of_ne _ same

/-- A report adds the value that is seen to what has been put. -/
theorem puts_history_reports (lane : Lane) (reference : String) (events : List Schedule.Event)
    (report? : Option Report) :
    puts (history lane reference (events ++ report?.toList.map Process.putEvent)) =
      puts (history lane reference events) ++ (report?.bind (Report.at? lane reference)).toList := by
  cases report? with
  | none => simp
  | some report =>
    rw [Option.toList_some, List.map_singleton, Schedule.history_concat, Schedule.puts_append,
      at?_putEvent, Option.bind_some]
    cases report.at? lane reference <;> rfl

/-! ## Lines -/

/-- The command that an input gives to a gateway itself. -/
def Input.command? (router : Router) : Input → Option Command
  | .message inbound =>
    match Decision.ofMessage router.profile.gatewayKey router.manifests inbound with
    | .ok (.handle command) => some command
    | _ => none
  | .reading _ _ | .alarm _ _ => none

/-- The command that a line gives to a gateway itself. -/
def lineCommand? (router : Router) (line : String) : Option Command :=
  (Input.ofLine? line).bind (Input.command? router)

/-- The commands that some lines give to a gateway itself. -/
def handled (router : Router) (lines : List (UInt64 × String)) : List Command :=
  lines.filterMap fun (_, line) => lineCommand? router line

/-- The values of a lane that some lines give on a reference. -/
def given (lane : Lane) (reference : String) (lines : List (UInt64 × String)) : List lane.Value :=
  lines.filterMap fun (time, line) => (lineReport? time line).bind (Report.at? lane reference)

/-- Taking a line queues the command that it gives, if there is a handler for every command. -/
theorem Gateway.commands_readLine (gateway : Gateway Queues)
    (handlers : gateway.router.handlers = .all) (time : UInt64) (line : String) :
    (gateway.readLine time line).commands =
      gateway.commands ++ (lineCommand? gateway.router line).toList := by
  unfold Gateway.readLine lineCommand?
  cases Input.ofLine? line with
  | none => exact (List.append_nil _).symm
  | some input =>
    cases input with
    | reading reference value => exact (List.append_nil _).symm
    | alarm reference active => exact (List.append_nil _).symm
    | message message =>
      simp only [Gateway.route, Router.route, Option.bind_some, Input.command?]
      cases Decision.ofMessage gateway.router.profile.gatewayKey gateway.router.manifests message with
      | error cause => simp
      | ok decision =>
        cases decision with
        | handle command =>
          have all : gateway.router.handlers.handles command = true := by
            rw [handlers]
            cases command <;> rfl
          simp [all]
        | forward side forwarded =>
          simp only [Option.toList_none, List.append_nil]
          split <;> rfl

/-- Lines report readings and alarms only. -/
theorem at?_lineReport?_of_lastValue {lane : Lane} (slot : lane.retention = .lastValue)
    (reference : String) (time : UInt64) (line : String) :
    (lineReport? time line).bind (Report.at? lane reference) = none := by
  have unlike : ∀ other : Lane, other.retention = .fifo → other ≠ lane := by
    rintro other fifo rfl
    rw [fifo] at slot
    cases slot
  unfold lineReport?
  cases Input.ofLine? line with
  | none => rfl
  | some input =>
    cases input with
    | message message => rfl
    | reading told value =>
      refine Report.at?_of_ne ?_
      exact fun same => unlike .readings rfl same.1
    | alarm told active =>
      refine Report.at?_of_ne ?_
      exact fun same => unlike .alarms rfl same.1

/-! ## Commands -/

end EdgeGateway.CommandLine

namespace EdgeGateway.Command

/-- The actuator that a command is for. -/
def actuator? : Command → Option String
  | setActuator reference _ | getActuator reference => some reference
  | setConfiguration _ | getConfiguration _ => none

/-- The value that a command sets an actuator to. -/
def setting? (reference : String) : Command → Option String
  | setActuator other value => if other = reference then some value else none
  | _ => none

/-- The values that a command sets a configuration item to. -/
def configured? (reference : String) : Command → Option (List String)
  | setConfiguration item => if item.key = reference then some item.values else none
  | _ => none

end EdgeGateway.Command

namespace EdgeGateway.CommandLine

open Schedule (Located KeyEvent history puts)

/-- The last value that some commands set an actuator to. -/
def lastSetting (reference : String) (commands : List Command) : Option String :=
  (commands.filterMap (Command.setting? reference)).getLast?

/-- The last values that some commands set a configuration item to. -/
def lastConfiguration (reference : String) (commands : List Command) : Option (List String) :=
  (commands.filterMap (Command.configured? reference)).getLast?

/-- The status of an actuator that was set to a value, or never. -/
def statusOf (reference : String) : Option String → ActuatorStatus
  | some value => { reference, value, state := .ready }
  | none => { reference, value := "", state := .error }

/-- What the last of some commands for an actuator makes a gateway report. -/
def lastStatus (reference : String) (commands : List Command) : Option ActuatorStatus :=
  if commands.any (·.actuator? = some reference) then
    some (statusOf reference (lastSetting reference commands))
  else none

/-- The last of some items with one more, if it is there. -/
theorem getLast?_append_toList {Item : Type} (items : List Item) (item? : Option Item) :
    (items ++ item?.toList).getLast? = item?.or items.getLast? := by
  cases item? <;> simp

/-- One more command counts first. -/
theorem lastSetting_concat (reference : String) (commands : List Command) (command : Command) :
    lastSetting reference (commands ++ [command]) =
      (command.setting? reference).or (lastSetting reference commands) := by
  unfold lastSetting
  rw [Schedule.filterMap_concat, getLast?_append_toList]

/-- One more command counts first. -/
theorem lastConfiguration_concat (reference : String) (commands : List Command)
    (command : Command) :
    lastConfiguration reference (commands ++ [command]) =
      (command.configured? reference).or (lastConfiguration reference commands) := by
  unfold lastConfiguration
  rw [Schedule.filterMap_concat, getLast?_append_toList]

/-- One more command counts if it is for the actuator. -/
theorem lastStatus_concat (reference : String) (commands : List Command) (command : Command) :
    lastStatus reference (commands ++ [command]) =
      if command.actuator? = some reference then
        some (statusOf reference ((command.setting? reference).or (lastSetting reference commands)))
      else lastStatus reference commands := by
  unfold lastStatus
  rw [lastSetting_concat]
  by_cases own : command.actuator? = some reference
  · simp [own]
  · have unset : command.setting? reference = none := by
      cases command <;> simp_all [Command.actuator?, Command.setting?]
    simp [own, unset]

/-- Commands that are not for an actuator do not count. -/
theorem lastStatus_append {reference : String} (commands : List Command) {others : List Command}
    (unlike : ∀ command ∈ others, command.actuator? ≠ some reference) :
    lastStatus reference (commands ++ others) = lastStatus reference commands := by
  induction others using List.reverseRecOn with
  | nil => rw [List.append_nil]
  | append_singleton others command inductionHypothesis =>
    have other := unlike command (List.mem_append_right _ (List.mem_singleton.2 rfl))
    rw [← List.append_assoc, lastStatus_concat, if_neg other]
    exact inductionHypothesis fun earlier member => unlike earlier (List.mem_append_left _ member)

/-- Commands that do not set a configuration item do not count. -/
theorem lastConfiguration_append {reference : String} (commands : List Command)
    {others : List Command}
    (unlike : ∀ item, .setConfiguration item ∈ others → item.key ≠ reference) :
    lastConfiguration reference (commands ++ others) = lastConfiguration reference commands := by
  have silent : others.filterMap (Command.configured? reference) = [] := by
    refine List.filterMap_eq_nil_iff.2 fun command member => ?_
    cases command with
    | setConfiguration item => exact if_neg (unlike item member)
    | _ => rfl
  unfold lastConfiguration
  rw [List.filterMap_append, silent, List.append_nil]

/-- A status is seen from its own actuator. -/
theorem at?_statusOf (reference other : String) (value? : Option String) :
    Report.at? .statuses reference ⟨.statuses, statusOf other value?⟩ =
      if other = reference then some (statusOf reference value?) else none := by
  have own : Lane.statuses.reference (statusOf other value?) = other := by cases value? <;> rfl
  split
  · rename_i same
    subst same
    have seen := Report.at?_self .statuses (statusOf other value?)
    rw [own] at seen
    exact seen
  · rename_i different
    exact Report.at?_of_ne fun same => different (own ▸ same.2)

/-- A configuration item is seen from its own key. -/
theorem at?_item (reference : String) (item : ConfigurationItem) :
    Report.at? .configurations reference ⟨.configurations, item⟩ =
      if item.key = reference then some item else none := by
  split
  · rename_i same
    subst same
    exact Report.at?_self .configurations item
  · rename_i different
    exact Report.at?_of_ne fun same => different same.2

variable {gateway : Gateway Queues}

/-- What a command reports of an actuator, given the value that the gateway knows it to have. -/
theorem at?_commandReport?_statuses (command : Command) (reference : String) :
    (gateway.commandReport? command).bind (Report.at? .statuses reference) =
      if command.actuator? = some reference then
        some (statusOf reference
          ((command.setting? reference).or (gateway.actuators.find? reference)))
      else none := by
  have unseen : ∀ item, Report.at? .statuses reference ⟨.configurations, item⟩ = none :=
    fun item => Report.at?_of_ne fun same => Lane.noConfusion same.1
  cases command with
  | setActuator other value =>
    have report : gateway.commandReport? (.setActuator other value) =
        some ⟨.statuses, statusOf other (some value)⟩ := rfl
    rw [report, Option.bind_some, at?_statusOf]
    by_cases same : other = reference <;> simp [Command.actuator?, Command.setting?, same]
  | getActuator other =>
    have report : gateway.commandReport? (.getActuator other) =
        some ⟨.statuses, statusOf other (gateway.actuators.find? other)⟩ := by
      simp only [Gateway.commandReport?]
      cases gateway.actuators.find? other <;> rfl
    rw [report, Option.bind_some, at?_statusOf]
    by_cases same : other = reference
    · simp [Command.actuator?, Command.setting?, same]
    · simp [Command.actuator?, same]
  | setConfiguration item => exact unseen item
  | getConfiguration other =>
    cases known : gateway.configuration.find? other <;>
      simp [Gateway.commandReport?, known, unseen, Command.actuator?]

/-- What a command reports of a configuration item has the last values that the gateway knows it to
have once the command is carried out. -/
theorem at?_commandReport?_configurations (command : Command) (reference : String) :
    ((gateway.commandReport? command).bind (Report.at? .configurations reference)).or
        ((gateway.configuration.find? reference).map (⟨reference, ·⟩)) =
      ((command.configured? reference).or (gateway.configuration.find? reference)).map
        (⟨reference, ·⟩) := by
  have unseen : ∀ status, Report.at? .configurations reference ⟨.statuses, status⟩ = none :=
    fun status => Report.at?_of_ne fun same => Lane.noConfusion same.1
  cases command with
  | setActuator other value => simp [Gateway.commandReport?, unseen, Command.configured?]
  | getActuator other =>
    cases known : gateway.actuators.find? other <;>
      simp [Gateway.commandReport?, known, unseen, Command.configured?]
  | setConfiguration item =>
    simp only [Gateway.commandReport?, Option.bind_some, at?_item, Command.configured?]
    split
    · rename_i same
      subst same
      rfl
    · rfl
  | getConfiguration other =>
    by_cases same : other = reference
    · subst same
      cases known : gateway.configuration.find? other <;>
        simp [Gateway.commandReport?, known, at?_item, Command.configured?]
    · cases known : gateway.configuration.find? other <;>
        simp [Gateway.commandReport?, known, at?_item, Command.configured?, same]

/-- Commands report statuses and configuration items only. -/
theorem at?_commandReport?_of_fifo {lane : Lane} (fifo : lane.retention = .fifo)
    (command : Command) (reference : String) :
    (gateway.commandReport? command).bind (Report.at? lane reference) = none := by
  have unlike : ∀ other : Lane, other.retention = .lastValue → other ≠ lane := by
    rintro other slot rfl
    rw [slot] at fifo
    cases fifo
  have status : ∀ status, Report.at? lane reference ⟨.statuses, status⟩ = none :=
    fun status => Report.at?_of_ne fun same => unlike .statuses rfl same.1
  have item : ∀ item, Report.at? lane reference ⟨.configurations, item⟩ = none :=
    fun item => Report.at?_of_ne fun same => unlike .configurations rfl same.1
  cases command with
  | setActuator other value => simp [Gateway.commandReport?, status]
  | getActuator other =>
    cases known : gateway.actuators.find? other <;> simp [Gateway.commandReport?, known, status]
  | setConfiguration told => exact item told
  | getConfiguration other =>
    cases known : gateway.configuration.find? other <;>
      simp [Gateway.commandReport?, known, item]

end EdgeGateway.CommandLine
