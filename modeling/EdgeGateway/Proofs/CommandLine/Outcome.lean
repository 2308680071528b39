import EdgeGateway.Proofs.CommandLine.Account
import EdgeGateway.Proofs.CommandLine.Closing
import EdgeGateway.Proofs.CommandLine.Publishable
import EdgeGateway.Proofs.Exchange.Grammar
import EdgeGateway.Proofs.Schedule.Drained

/-!
# The outcome of a process

However lines, commands and the worker interleave, a process that has ended has the same outcome
(`outcome_of_schedule`). Nothing waits then, so everything that was put has been settled; all of it
can be published; and what was put is fixed by the lines.
-/

namespace EdgeGateway.CommandLine.Process

open Schedule (history acceptances delivered)

/-- The batches of a key that the platform's console has accepted, each with its message. -/
def accepted (process : Process) (lane : Lane) (reference : String) :
    List (List lane.Value × Message) :=
  acceptances (history lane reference process.events)

/-- Whether the last batch of a key that the platform's console has accepted is a value alone, in
the message that is built of it. -/
def EndsWith (profile : Profile) (process : Process) (lane : Lane) (reference : String)
    (value : lane.Value) : Prop :=
  ∃ message, profile.batchMessage lane reference [value] = .ok message ∧
    (process.accepted lane reference).getLast? = some ([value], message)

variable {router : Router} {lines : List (UInt64 × String)} {process : Process}

/-- A process that has ended has taken every line and command, and nothing waits. -/
theorem Run.account_of_ended (run : Run router lines process) (ended : process.phase = .ended) :
    process.Account router lines (handled router lines) ∧ process.Drained := by
  obtain ⟨taken, applied, whole, account⟩ := run.account
  have closes := run.closes
  unfold Closes at closes
  rw [ended] at closes
  obtain ⟨exhausted, done, drained⟩ := closes
  rw [exhausted, List.append_nil] at whole
  have commands := account.commands
  rw [done, List.append_nil, ← whole] at commands
  rw [← whole, ← commands] at account
  exact ⟨account, drained⟩

/-- Once a process has ended, the readings and the alarms that lines gave on a reference have been
accepted in order, if the reference forms a channel. -/
theorem Run.delivered_of_ended (run : Run router lines process) (ended : process.phase = .ended)
    {lane : Lane} (fifo : lane.retention = .fifo) {reference : String} {found : Address}
    (parsed : Address.parse (router.profile.channel lane reference) = .ok found) :
    (process.accepted lane reference).flatMap Prod.fst = given lane reference lines := by
  obtain ⟨account, drained⟩ := run.account_of_ended ended
  have keyRun := run.scheduled.run.keyRun lane reference
  rw [← account.queues lane fifo reference]
  refine keyRun.delivered_of_drained fifo (drained lane reference) fun batch nonempty put => ?_
  have told : ∀ value ∈ batch, value ∈ given lane reference lines := by
    rw [← account.queues lane fifo reference]
    exact put
  exact exists_batchMessage parsed nonempty fun value member =>
    carries_of_mem_given (told value member)

/-- Once a process has ended, the last value that was put into a slot has been accepted last, if it
can be published. -/
theorem Run.endsWith_of_ended (run : Run router lines process) (ended : process.phase = .ended)
    {lane : Lane} (slot : lane.retention = .lastValue) {reference : String} {value : lane.Value}
    (newest : (process.added lane reference).getLast? = some value) {found : Address}
    (parsed : Address.parse (router.profile.channel lane reference) = .ok found)
    (own : lane.reference value = reference ∧ lane.Carries value) :
    process.EndsWith router.profile lane reference value := by
  obtain ⟨-, drained⟩ := run.account_of_ended ended
  have keyRun := run.scheduled.run.keyRun lane reference
  have single : (Schedule.keyRules router.profile lane reference).limit = 1 := by
    cases lane <;> first | rfl | cases slot
  obtain ⟨message, built⟩ := exists_batchMessage parsed (List.cons_ne_nil value [])
    fun other member => List.mem_singleton.1 member ▸ own
  exact ⟨message, built,
    keyRun.last_of_drained slot single (drained lane reference) newest built⟩

/-- Once a process has ended, the status that was accepted last is the one that the last command for
its actuator comes to. -/
theorem Run.status_of_ended (run : Run router lines process) (ended : process.phase = .ended)
    (proper : Address.IsKey router.profile.gatewayKey) {reference : String} {command : Command}
    {before after : List Command} (parted : handled router lines = before ++ command :: after)
    (own : command.actuator? = some reference)
    (last : ∀ later ∈ after, later.actuator? ≠ some reference) :
    process.EndsWith router.profile .statuses reference
      (statusOf reference ((command.setting? reference).or (lastSetting reference before))) := by
  obtain ⟨account, -⟩ := run.account_of_ended ended
  have newest := account.statuses reference
  rw [parted, List.append_cons, lastStatus_append _ last, lastStatus_concat, if_pos own] at newest
  have member : command ∈ handled router lines := by simp [parted]
  have valid := (isReference_of_mem_handled proper.1 member).1 reference own
  obtain ⟨found, parsed⟩ := valid.parses proper .statuses
  refine run.endsWith_of_ended ended rfl newest parsed ⟨?_, trivial⟩
  cases (command.setting? reference).or (lastSetting reference before) <;> rfl

/-- Once a process has ended, the configuration item that was accepted last is the one that was set
last. -/
theorem Run.configuration_of_ended (run : Run router lines process)
    (ended : process.phase = .ended) (proper : Address.IsKey router.profile.gatewayKey)
    {item : ConfigurationItem} {before after : List Command}
    (parted : handled router lines = before ++ .setConfiguration item :: after)
    (last : ∀ other, .setConfiguration other ∈ after → other.key ≠ item.key) :
    process.EndsWith router.profile .configurations item.key item := by
  obtain ⟨account, -⟩ := run.account_of_ended ended
  have newest := account.configurations item.key
  rw [parted, List.append_cons, lastConfiguration_append _ last, lastConfiguration_concat] at newest
  have member : .setConfiguration item ∈ handled router lines := by simp [parted]
  obtain ⟨valid, filled⟩ := (isReference_of_mem_handled proper.1 member).2 item rfl
  obtain ⟨found, parsed⟩ := valid.parses proper .configurations
  refine run.endsWith_of_ended ended rfl ?_ parsed ⟨rfl, filled⟩
  simpa [Command.configured?] using newest

/-- **The outcome of a process does not depend on the schedule.** Let a gateway with valid settings
run over queues in memory on some lines of input. Let lines, queued commands and the steps of the
worker interleave in any way. Once the process has ended:

* nothing waits;
* what has been written is one line for each message that was accepted or forwarded;
* the readings and the alarms that lines gave on a reference that forms a channel have each been
  accepted in one batch, in the order of the lines, and every batch with the message that is built
  of it;
* if the last command for an actuator sets it, the last status that was accepted for its reference
  is the value that it sets. If the last command asks for it, the status has the value that was last
  set before, or is an error with the empty value if there was none;
* the last configuration item that was accepted for a reference has the values of the last command
  that sets it. -/
theorem outcome_of_schedule {settings : Settings} (valid : settings.validate = .ok ())
    {lines : List (UInt64 × String)} {process : Process}
    (run : Run { profile := settings.profile, manifests := settings.manifests } lines process)
    (ended : process.phase = .ended) :
    let router : Router := { profile := settings.profile, manifests := settings.manifests }
    process.gateway.outbox.isEmpty = true ∧
      process.gateway.writer.written = text process.log ∧
      (∀ lane : Lane, lane.retention = .fifo → ∀ reference found,
        Address.parse (settings.profile.channel lane reference) = .ok found →
          (process.accepted lane reference).flatMap Prod.fst = given lane reference lines) ∧
      (∀ lane reference, ∀ accepted ∈ process.accepted lane reference, accepted.1 ≠ [] ∧
        settings.profile.batchMessage lane reference accepted.1 = .ok accepted.2) ∧
      (∀ reference value before after,
        handled router lines = before ++ .setActuator reference value :: after →
        (∀ command ∈ after, command.actuator? ≠ some reference) →
          process.EndsWith settings.profile .statuses reference
            { reference, value, state := .ready }) ∧
      (∀ reference before after,
        handled router lines = before ++ .getActuator reference :: after →
        (∀ command ∈ after, command.actuator? ≠ some reference) →
          (∀ value, lastSetting reference before = some value →
            process.EndsWith settings.profile .statuses reference
              { reference, value, state := .ready }) ∧
          (lastSetting reference before = none →
            process.EndsWith settings.profile .statuses reference
              { reference, value := "", state := .error })) ∧
      (∀ item before after,
        handled router lines = before ++ .setConfiguration item :: after →
        (∀ other, .setConfiguration other ∈ after → other.key ≠ item.key) →
          process.EndsWith settings.profile .configurations item.key item) := by
  intro router
  have proper : Address.IsKey router.profile.gatewayKey := Settings.isKey_of_validate valid
  obtain ⟨-, drained⟩ := run.account_of_ended ended
  refine ⟨?_, ?_, ?_, ?_, ?_, ?_, ?_⟩
  · exact run.scheduled.run.compact.isEmpty drained
  · rw [run.printed.writer]
  · exact fun lane fifo reference found parsed => run.delivered_of_ended ended fifo parsed
  · rintro lane reference ⟨batch, message⟩ member
    obtain ⟨⟨nonempty, -⟩, built⟩ :=
      (run.scheduled.run.keyRun lane reference).admits_of_mem_acceptances member
    exact ⟨nonempty, built⟩
  · intro reference value before after parted last
    have status := run.status_of_ended ended proper parted rfl last
    simpa [Command.setting?, statusOf] using status
  · intro reference before after parted last
    have status := run.status_of_ended ended proper parted rfl last
    refine ⟨fun value known => ?_, fun unknown => ?_⟩
    · simpa [Command.setting?, known, statusOf] using status
    · simpa [Command.setting?, unknown, statusOf] using status
  · exact fun item before after parted last => run.configuration_of_ended ended proper parted last

/-- Settings of a gateway without devices. -/
def valveSettings : Settings := { gatewayKey := "GW" }

/-- A reading, and two commands for an actuator of the gateway. -/
def valveLines : List (UInt64 × String) :=
  [(7, "\x7b\"reading\":\"meter\",\"value\":\"5\"\x7d"),
    (8, "\x7b\"channel\":\"p2d/actuator_set/g/GW/r/valve\","
      ++ "\"payload\":\x7b\"value\":\"open\"\x7d\x7d"),
    (9, "\x7b\"channel\":\"p2d/actuator_get/g/GW/r/valve\"\x7d")]

/-- The worker is about to publish the status of the first command when the second one is carried
out, and it is in the middle of a pass when it is stopped. -/
def valveMoves : List Move :=
  [.line, .line, .line, .command, .work, .work, .work, .work, .command, .work, .work, .close,
    .publish, .work, .work, .drain, .drain, .drain, .drain, .drain, .drain, .drain, .drain, .drain,
    .drain, .disconnect, .stop, .work, .work, .work, .work, .work, .join]

/-- The reading and the status are published, and nothing waits. -/
theorem outcome_of_schedule_of_valveMoves :
    ∃ process,
      (start { profile := valveSettings.profile, manifests := valveSettings.manifests }
        valveLines).after valveMoves = some process ∧ process.phase = .ended ∧
      process.gateway.outbox.isEmpty = true ∧
      (process.accepted .readings "meter").flatMap Prod.fst =
        [{ reference := "meter", values := ["5"], timestamp := 7 }] ∧
      process.EndsWith valveSettings.profile .statuses "valve"
        { reference := "valve", value := "open", state := .ready } := by
  have possible : ((start { profile := valveSettings.profile, manifests := valveSettings.manifests }
      valveLines).after valveMoves).map Process.phase = some .ended := by
    decide +kernel
  obtain ⟨process, made, ended⟩ := Option.map_eq_some_iff.1 possible
  have valid : valveSettings.validate = .ok () := by decide +kernel
  have parsed : Address.parse (valveSettings.profile.channel .readings "meter") =
      .ok ⟨.toPlatform, .sensorReading, ⟨some "GW", none⟩, "meter"⟩ := by
    decide +kernel
  have readings : given .readings "meter" valveLines =
      [{ reference := "meter", values := ["5"], timestamp := 7 }] := by
    decide +kernel
  have commands : handled { profile := valveSettings.profile, manifests := valveSettings.manifests }
      valveLines = [.setActuator "valve" "open"] ++ .getActuator "valve" :: [] := by
    decide +kernel
  obtain ⟨empty, -, delivered, -, -, asked, -⟩ :=
    outcome_of_schedule valid (Run.start.after made) ended
  refine ⟨process, made, ended, empty, ?_, ?_⟩
  · rw [delivered .readings rfl "meter" _ parsed, readings]
  · exact (asked "valve" _ _ commands nofun).1 "open" (by decide)

end EdgeGateway.CommandLine.Process
