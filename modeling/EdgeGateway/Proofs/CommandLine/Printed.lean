import EdgeGateway.Proofs.CommandLine.Process

/-!
# What a process writes

The two consoles of a process share a writer that never fails. What has been written is, in order,
one line for each message that was accepted from a pass or forwarded (`Run.printed`). So every offer
is accepted as long as the process has not ended.
-/

namespace EdgeGateway.CommandLine.Process

open Schedule (Agent System passStep_of_occurrence)

/-- What is written for a message to the platform, if there is one. -/
def platformText (message? : Option Message) : String :=
  (message?.map (Console.line "platform")).getD ""

/-- One more entry is written behind the others. -/
theorem text_concat (log : List Entry) (entry : Entry) :
    text (log ++ [entry]) = text log ++ entry.text := by
  unfold text
  rw [List.foldl_append]
  rfl

/-- Nothing is written when a value is put. -/
theorem text_append_reports (log : List Entry) (report? : Option Report) :
    text (log ++ report?.toList.map (.happened <| putEvent ·)) = text log := by
  cases report? with
  | none => simp
  | some report =>
    rw [Option.toList_some, List.map_singleton, text_concat]
    exact String.append_empty

/-- A step of a pass writes the message that it publishes, if the console accepts it. -/
theorem text_of_passStep {profile : Profile} {answer : Bool} {outbox after : Outbox Queues}
    {pass next : Drain.Pass} {occurrence : Schedule.Occurrence} {agent : Agent}
    (stepped : Schedule.PassStep profile outbox pass answer occurrence after next)
    (accepted : ∀ message, pass.message? = some message → answer = true) :
    (Entry.happened (.passed agent occurrence)).text = platformText pass.message? := by
  cases stepped with
  | refused => cases accepted _ rfl
  | _ => rfl

/-- A step of a caller writes the message that its pass publishes. -/
theorem text_of_drain {profile : Profile} {system next : System} {event : Schedule.Event}
    {number : Nat} (made : system.step profile (.drain number true) = some (event, next)) :
    (Entry.happened event).text = platformText (system.calls number).message? := by
  obtain ⟨occurrence, rfl, occurs, -⟩ := System.exists_occurrence_of_drain made
  exact text_of_passStep (passStep_of_occurrence occurs) fun _ _ => rfl

/-- A step of the worker writes the message that its pass publishes. -/
theorem text_of_work {profile : Profile} {system next : System} {event : Schedule.Event}
    (made : system.step profile (.work true) = some (event, next)) :
    (Entry.happened event).text = platformText system.worker.message? := by
  have own : system.worker.message? = (system.pass .worker).message? := Worker.message?_eq _
  rw [own]
  cases System.workEffect_of_work made with
  | left stopped idle | began signalled idle =>
    rw [idle]
    rfl
  | rested finished =>
    rw [Drain.Pass.message?, Drain.Pass.stage_of_isFinished finished]
    rfl
  | passed answered unblocked occurs =>
    refine text_of_passStep (passStep_of_occurrence occurs) fun message published => ?_
    rw [answered]
    generalize system.pass .worker = pass at published
    obtain ⟨lanes, stage, report⟩ := pass
    cases stage with
    | publish lane key later batch sent => rfl
    | _ => cases published

/-- What has been written by a process, and by which consoles. -/
structure Printed (process : Process) : Prop where
  /-- One line for each message that was accepted or forwarded. -/
  writer : process.gateway.writer = { written := text process.log }
  /-- The consoles are connected until the process ends. -/
  consoles : process.phase ≠ .ended → ∀ side,
    process.gateway.console side = { name := consoleName side, connected := true }
  /-- The worker has left by then. -/
  left : process.phase = .ended → process.gateway.worker = .left

variable {process next : Process}

/-- A process writes every message that it forwards. -/
theorem Printed.line (printed : process.Printed) (phase : process.phase ≠ .ended) (time : UInt64)
    (line : String) :
    (process.gateway.readLine time line).writer =
      { written := text (process.log ++ lineEntries process.gateway time line) } := by
  have writer := printed.writer
  unfold Gateway.readLine lineEntries
  cases Input.ofLine? line with
  | none => simpa using writer
  | some input =>
    cases input with
    | reading reference value =>
      exact writer.trans (congrArg _ (text_append_reports _ (some _)).symm)
    | alarm reference active =>
      exact writer.trans (congrArg _ (text_append_reports _ (some _)).symm)
    | message message =>
      simp only [Gateway.route, Router.route]
      cases Decision.ofMessage process.gateway.router.profile.gatewayKey
          process.gateway.router.manifests message with
      | error cause => simpa using writer
      | ok decision =>
        cases decision with
        | handle command =>
          simp only [List.append_nil]
          split <;> exact writer
        | forward side forwarded =>
          have connected := printed.consoles phase side
          simp only [connected, Console.publish, if_true, writer, Writer.write,
            Bool.false_eq_true, if_false, text_concat]
          rfl

/-- As long as a process has not ended, its console accepts every message and writes it down. -/
theorem Printed.offer (printed : process.Printed) (phase : process.phase ≠ .ended)
    (message? : Option Message) :
    process.offer message? =
      (true,
        { process with
          gateway :=
            { process.gateway with
              writer := { written := text process.log ++ platformText message? } } }) := by
  have connected : process.gateway.platform = { name := "platform", connected := true } :=
    printed.consoles phase .platform
  have writer := printed.writer
  cases message? with
  | none =>
    simp only [Process.offer, platformText, Option.map_none, Option.getD_none, String.append_empty,
      ← writer]
  | some message =>
    simp only [Process.offer, connected, Console.publish, if_true, writer, Writer.write,
      Bool.false_eq_true, if_false]
    rfl

/-- Gateways with the same consoles have the same console for each side. -/
theorem console_congr {gateway other : Gateway Queues} (platform : other.platform = gateway.platform)
    (devices : other.devices = gateway.devices) (side : Side) :
    other.console side = gateway.console side := by
  cases side
  · exact platform
  · exact devices

/-- A move whose event is written behind what has been written keeps the account. -/
theorem printed_of_moved {move : Schedule.Move} {event : Schedule.Event}
    (moved : Moved process move event next)
    (writer : process.gateway.writer =
      { written := text process.log ++ (Entry.happened event).text })
    (consoles : ∀ side,
      process.gateway.console side = { name := consoleName side, connected := true })
    (phase : process.phase ≠ .ended) : next.Printed where
  writer := by
    rw [moved.gateway, moved.log, text_concat]
    exact writer
  consoles _ side := by
    rw [← consoles side]
    exact console_congr (by rw [moved.gateway]) (by rw [moved.gateway]) side
  left ended := absurd (moved.phase.symm.trans ended) phase

/-- Turning to another phase with a move that publishes nothing keeps the account. -/
theorem Printed.turn (printed : process.Printed) (phase : process.phase ≠ .ended)
    {other : Phase} {move : Schedule.Move} {event : Schedule.Event}
    (moved : Moved { process with phase := other } move event next) (unended : other ≠ .ended)
    (silent : (Entry.happened event).text = "") : next.Printed := by
  refine printed_of_moved moved ?_ (printed.consoles phase) unended
  rw [silent, String.append_empty]
  exact printed.writer

/-- A move that publishes what is offered keeps the account. -/
theorem Printed.publish (printed : process.Printed) (phase : process.phase ≠ .ended)
    {message? : Option Message} {move : Schedule.Move} {event : Schedule.Event}
    (said : (Entry.happened event).text = platformText message?)
    (moved : Moved (process.offer message?).2 move event next) : next.Printed := by
  rw [printed.offer phase] at moved
  refine printed_of_moved moved ?_ ?_ phase
  · rw [said]
  · intro side
    rw [← printed.consoles phase side]
    exact console_congr rfl rfl side

/-- A process that starts has written nothing. -/
theorem printed_start (router : Router) (lines : List (UInt64 × String)) :
    (start router lines).Printed where
  writer := rfl
  consoles _ side := by cases side <;> rfl
  left := nofun

/-- Every step keeps the account of what is written. -/
theorem Printed.preserved (printed : process.Printed) (effect : Effect process next) :
    next.Printed := by
  cases effect with
  | @line time line lines phase taken =>
    have unended : process.phase ≠ .ended := by simp [phase]
    refine ⟨printed.line unended time line, fun _ side => ?_, fun ended => absurd ended unended⟩
    obtain ⟨writer, commands, read⟩ := process.gateway.readLine_eq time line
    rw [← printed.consoles unended side]
    exact console_congr (by rw [read]) (by rw [read]) side
  | @command command commands phase queued =>
    have unended : process.phase ≠ .ended := by
      rcases phase with serving | ending
      · simp [serving]
      · simp [ending]
    obtain ⟨actuators, configuration, applied⟩ := process.gateway.applyNext_eq queued
    refine ⟨?_, fun _ side => ?_, fun ended => absurd ended unended⟩
    · rw [text_append_reports, applied]
      exact printed.writer
    · rw [← printed.consoles unended side]
      exact console_congr (by rw [applied]) (by rw [applied]) side
  | close phase exhausted =>
    have unended : process.phase ≠ .ended := by simp [phase]
    exact ⟨printed.writer, fun _ => printed.consoles unended, by simp⟩
  | publish phase done moved =>
    have unended : process.phase ≠ .ended := by simp [phase]
    refine printed.turn unended moved (by simp) ?_
    obtain ⟨-, rfl, -⟩ := System.call_inv moved.made
    rfl
  | drain phase moved =>
    have unended : process.phase ≠ .ended := by simp [phase]
    refine printed.publish unended ?_ moved
    have made := moved.made
    rw [printed.offer unended] at made
    have said := text_of_drain made
    simpa [Process.system] using said
  | disconnect phase finished moved =>
    have unended : process.phase ≠ .ended := by simp [phase]
    refine printed.turn unended moved (by simp) ?_
    obtain ⟨rfl, -⟩ := Prod.mk.inj (Option.some.inj moved.made)
    rfl
  | stop phase moved =>
    have unended : process.phase ≠ .ended := by simp [phase]
    refine printed.turn unended moved (by simp) ?_
    obtain ⟨rfl, -⟩ := Prod.mk.inj (Option.some.inj moved.made)
    rfl
  | join phase left => exact ⟨printed.writer, fun unended => absurd rfl unended, fun _ => left⟩
  | work moved =>
    have unended : process.phase ≠ .ended := by
      intro ended
      have idle : process.gateway.worker.message? = none := by rw [printed.left ended]; rfl
      rw [idle] at moved
      obtain ⟨happens, -⟩ := System.step_inv moved.made
      have gone : (process.offer none).2.system.worker = .left := printed.left ended
      simp [System.event?, gone] at happens
    refine printed.publish unended ?_ moved
    have made := moved.made
    rw [printed.offer unended] at made
    exact text_of_work made

variable {router : Router} {lines : List (UInt64 × String)}

/-- Every process has written one line for each message that was accepted or forwarded. -/
theorem Run.printed (run : Run router lines process) : process.Printed := by
  induction run with
  | start => exact printed_start router lines
  | step run move made inductionHypothesis =>
    exact inductionHypothesis.preserved (effect_of_step made)

end EdgeGateway.CommandLine.Process
