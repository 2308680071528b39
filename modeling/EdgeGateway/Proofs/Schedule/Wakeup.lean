import EdgeGateway.Proofs.Schedule.Remaining
import EdgeGateway.Proofs.Schedule.View

/-!
# No wake-up is lost

A worker sleeps when it waits, publishing is running, the transport is connected and the signal is
down. `Run.sleeps_after_refusals` says what it then leaves behind: since its last pass began nothing
has been put, and whatever waits in any lane waits under a key of which that pass has had a batch
refused.

While the signal is down and the worker may publish, nothing has raised the signal since the worker
took it down. So the gate lets its pass through, every batch that it takes up stays the front of its
queue, and each key that it is done with is empty or was refused. `Watched` is that invariant; it
needs the drain lock, without which a caller could take a batch from under the worker.
-/

namespace EdgeGateway.Schedule

open Drain

namespace System

/-! ## Steps of the worker and of callers -/

variable {profile : Profile} {system next : System} {event : Event}

/-- The gate of a worker's pass answers whether the worker may publish. -/
theorem asked_eq_mayPublish {accepted asked : Bool} {outbox : Outbox Queues} {pass : Pass}
    (occurs : occurrence? profile (Worker.answer outbox accepted pass.stage) outbox pass =
      some (.asked asked)) : asked = outbox.mayPublish := by
  have stepped := passStep_of_occurrence occurs
  generalize given : Worker.answer outbox accepted pass.stage = answer at stepped
  cases stepped with
  | admitted | shut => exact given.symm

/-- A step of a caller leaves the worker alone, and changes the outbox as a step of the caller's
pass does. It is made while the worker is outside all lanes. -/
theorem drain_cases {number : Nat} {answer : Bool} (sound : system.Sound)
    (made : system.step profile (.drain number answer) = some (event, next)) :
    (∃ occurrence, event = .passed (.caller number) occurrence) ∧
      next.outbox = ((system.calls number).step profile answer system.outbox).1 ∧
      next.pass .worker = system.pass .worker ∧ (system.pass .worker).stage = .enter := by
  obtain ⟨unblocked, occurrence, -, rfl, rfl⟩ := drain_inv made
  have free : system.blocks (system.pass (.caller number)).stage = false := unblocked
  have outside := outside_of_unblocked sound free (nofun : Agent.worker ≠ .caller number)
  exact ⟨⟨occurrence, rfl⟩, rfl, rfl, outside⟩

/-! ## Watching the worker -/

/-- Whether the signal is down while the worker may publish. -/
def Quiet (system : System) : Prop :=
  system.outbox.signalled = false ∧ system.outbox.mayPublish = true

/-- A system is as quiet as another one with the same two flags. -/
theorem Quiet.congr (quiet : next.Quiet)
    (signalled : next.outbox.signalled = system.outbox.signalled)
    (mayPublish : next.outbox.mayPublish = system.outbox.mayPublish) : system.Quiet :=
  ⟨signalled ▸ quiet.1, mayPublish ▸ quiet.2⟩

/-- Coming up raises the signal, so a change of the connection never quiets a system. -/
theorem Quiet.of_setConnected {outbox : Outbox Queues} {up : Bool}
    (signalled : (outbox.setConnected up).signalled = false)
    (mayPublish : (outbox.setConnected up).mayPublish = true) :
    outbox.signalled = false ∧ outbox.mayPublish = true := by
  have unraised := mt Outbox.signalled_setConnected.2 (Bool.eq_false_iff.1 signalled)
  obtain ⟨down, steady⟩ := not_or.1 unraised
  obtain ⟨connects, running⟩ := Bool.and_eq_true_iff.1 mayPublish
  have connected : outbox.connected = true :=
    Bool.not_eq_false _ ▸ fun apart => steady ⟨connects, apart⟩
  exact ⟨Bool.eq_false_iff.2 down, Bool.and_eq_true_iff.2 ⟨connected, running⟩⟩

/-- Whether the worker has had a batch of a key refused. -/
def RefusedIn (since : List Event) (lane : Lane) (key : String) : Prop :=
  ∃ batch message, .passed .worker (.batch lane key (.refused batch message)) ∈ since

/-- What holds of a quiet system, `since` being what has happened since the worker began its last
pass. -/
structure Watched (since : List Event) (system : System) : Prop where
  /-- The pass is the last one. -/
  last : .began .worker ∉ since
  /-- Nothing has been put. -/
  unput : ∀ lane key value, .put lane key value ∉ since
  /-- The batch that the worker has on its way is the front of its queue. -/
  fronts : (system.pass .worker).stage.Fronts system.outbox
  /-- The worker is not done with what waits, unless it was refused. -/
  seen : ∀ lane key, system.outbox.queue lane key ≠ [] →
    (system.pass .worker).Awaits lane key ∨ RefusedIn since lane key

variable {since : List Event}

/-- One more event refuses no less. -/
theorem RefusedIn.concat {lane : Lane} {key : String} (refused : RefusedIn since lane key)
    (event : Event) : RefusedIn (since ++ [event]) lane key := by
  obtain ⟨batch, message, member⟩ := refused
  exact ⟨batch, message, List.mem_append_left _ member⟩

/-- A pass that the worker has just begun awaits every key. -/
theorem watched_of_began (pass : next.pass .worker = { lanes := Lane.drainOrder }) :
    Watched [] next where
  last := nofun
  unput := nofun
  fronts := by
    rw [pass]
    trivial
  seen lane key _ := by
    rw [pass]
    exact .inl (.inl (by cases lane <;> decide))

/-- An event by which nothing is put and no pass begun goes on with the watch, whatever it does to
the worker and the outbox. -/
theorem Watched.extend (watched : Watched since system) (unbegun : event ≠ .began .worker)
    (unput : ∀ lane key value, event ≠ .put lane key value)
    (fronts : (next.pass .worker).stage.Fronts next.outbox)
    (seen : ∀ lane key, next.outbox.queue lane key ≠ [] →
      system.outbox.queue lane key ≠ [] ∧
        ((system.pass .worker).Awaits lane key →
          (next.pass .worker).Awaits lane key ∨ RefusedIn (since ++ [event]) lane key)) :
    Watched (since ++ [event]) next where
  last member := by
    rcases List.mem_append.1 member with earlier | now
    · exact watched.last earlier
    · exact unbegun (List.mem_singleton.1 now).symm
  unput lane key value member := by
    rcases List.mem_append.1 member with earlier | now
    · exact watched.unput lane key value earlier
    · exact unput lane key value (List.mem_singleton.1 now).symm
  fronts := fronts
  seen lane key waits := by
    obtain ⟨waited, goesOn⟩ := seen lane key waits
    rcases watched.seen lane key waited with awaits | refused
    · exact goesOn awaits
    · exact .inr (refused.concat event)

/-- An event that moves no value and leaves the worker alone goes on with the watch. -/
theorem Watched.idle (watched : Watched since system) (unbegun : event ≠ .began .worker)
    (unput : ∀ lane key value, event ≠ .put lane key value)
    (lanes : next.outbox.lanes = system.outbox.lanes)
    (pass : next.pass .worker = system.pass .worker) : Watched (since ++ [event]) next := by
  have queue := Outbox.queue_congr lanes
  refine watched.extend unbegun unput ?_ fun lane key waits => ?_
  · have fronts := watched.fronts
    rw [pass]
    cases stage : (system.pass .worker).stage <;>
      simp only [stage, Stage.Fronts, queue] at fronts ⊢ <;> exact fronts
  · rw [queue] at waits
    rw [pass]
    exact ⟨waits, .inl⟩

/-- A step of the worker in a quiet system goes on with the watch. -/
theorem Watched.work (watched : Watched since system) (quiet : system.Quiet)
    {accepted : Bool} (effect : WorkEffect profile accepted system event next) :
    Watched (since ++ [event]) next := by
  cases effect with
  | left stopped idle outbox pass =>
    have running := (Bool.and_eq_true_iff.1 quiet.2).2
    rw [stopped] at running
    cases running
  | began signalled idle outbox pass =>
    rw [quiet.1] at signalled
    cases signalled
  | rested finished outbox pass =>
    refine watched.extend (by simp) (by simp) ?_ fun lane key waits => ?_
    · rw [pass]
      trivial
    · rw [outbox] at waits
      exact ⟨waits, fun awaits => absurd awaits (Pass.not_awaits_of_isFinished finished lane key)⟩
  | @passed answer occurrence _ answered unblocked occurs outbox pass =>
    refine watched.extend (by simp) (by simp) ?_ fun lane key waits => ?_
    · rw [outbox, pass]
      exact (passStep_of_occurrence occurs).fronts watched.fronts
    · rw [outbox] at waits
      have waited := Pass.queue_ne_nil_of_step waits
      have through : occurrence ≠ .asked false := by
        rintro rfl
        rw [answered] at occurs
        have asked := asked_eq_mayPublish occurs
        rw [quiet.2] at asked
        cases asked
      refine ⟨waited, fun awaits => ?_⟩
      rw [pass]
      refine ((passStep_of_occurrence occurs).awaits through watched.fronts waited awaits).imp_right ?_
      rintro ⟨batch, message, rfl⟩
      exact ⟨batch, message, List.mem_append_right _ List.mem_cons_self⟩

/-- A system that is quiet after a step was quiet before it, or the worker has begun a pass. -/
theorem Quiet.before {move : Move} (sound : system.Sound) (quiet : next.Quiet)
    (made : system.step profile move = some (event, next)) :
    system.Quiet ∨ event = .began .worker ∧ Watched [] next := by
  cases move with
  | put lane key value =>
    cases made
    cases quiet.1
  | connect up =>
    cases made
    exact .inl (Quiet.of_setConnected quiet.1 quiet.2)
  | start =>
    cases made
    cases quiet.1
  | stop =>
    cases made
    have running := (Bool.and_eq_true_iff.1 quiet.2).2
    cases running
  | call number lanes =>
    obtain ⟨-, rfl, rfl⟩ := call_inv made
    exact .inl quiet
  | drain number answer =>
    obtain ⟨-, outbox, -, -⟩ := drain_cases sound made
    obtain ⟨signalled, mayPublish⟩ := Pass.flags_of_step
    exact .inl (quiet.congr (outbox ▸ signalled) (outbox ▸ mayPublish))
  | work accepted =>
    cases workEffect_of_work made with
    | left stopped idle outbox | rested finished outbox =>
      exact .inl (quiet.congr (outbox ▸ rfl) (outbox ▸ rfl))
    | began signalled idle outbox pass => exact .inr ⟨rfl, watched_of_began pass⟩
    | passed answered unblocked occurs outbox pass =>
      obtain ⟨signalled, mayPublish⟩ := Pass.flags_of_step
      exact .inl (quiet.congr (outbox ▸ signalled) (outbox ▸ mayPublish))

/-- A step from a quiet system to a quiet system goes on with the watch. -/
theorem Watched.preserved {move : Move} (watched : Watched since system) (sound : system.Sound)
    (quiet : system.Quiet) (quietAfter : next.Quiet)
    (made : system.step profile move = some (event, next)) : Watched (since ++ [event]) next := by
  cases move with
  | put lane key value =>
    cases made
    cases quietAfter.1
  | connect up =>
    cases made
    exact watched.idle (by simp) (by simp) rfl rfl
  | start =>
    cases made
    cases quietAfter.1
  | stop =>
    cases made
    exact watched.idle (by simp) (by simp) rfl rfl
  | call number lanes =>
    obtain ⟨-, rfl, rfl⟩ := call_inv made
    exact watched.idle (by simp) (by simp) rfl rfl
  | drain number answer =>
    obtain ⟨⟨occurrence, rfl⟩, outbox, pass, outside⟩ := drain_cases sound made
    refine watched.extend (by simp) (by simp) ?_ fun lane key waits => ?_
    · rw [pass, outside]
      trivial
    · rw [outbox] at waits
      rw [pass]
      exact ⟨Pass.queue_ne_nil_of_step waits, .inl⟩
  | work accepted => exact watched.work quiet (workEffect_of_work made)

end System

variable {profile : Profile} {events : List Event} {system : System}

/-- Every quiet system that can come about has been watched since the worker's last pass began. -/
theorem Run.watched (run : Run profile events system) (quiet : system.Quiet) :
    ∃ before since, events = before ++ .began .worker :: since ∧ system.Watched since := by
  induction run with
  | fresh => cases quiet.1
  | @step events system next event run move made inductionHypothesis =>
    rcases quiet.before run.sound made with quietBefore | ⟨rfl, watched⟩
    · obtain ⟨before, since, rfl, watched⟩ := inductionHypothesis quietBefore
      exact ⟨before, since ++ [event], by simp,
        watched.preserved run.sound quietBefore quiet made⟩
    · exact ⟨events, [], rfl, watched⟩

/-- **No wake-up is lost.** Let anything happen around an outbox in any order. When the worker
waits while publishing is running, the transport is connected and the signal is down, it has begun
a pass, nothing has been put since its last pass began, and of every key under which something
waits in any lane that pass has had a batch refused. -/
theorem Run.sleeps_after_refusals (run : Run profile events system)
    (waiting : system.worker = .waiting) (running : system.outbox.running = true)
    (connected : system.outbox.connected = true) (unsignalled : system.outbox.signalled = false) :
    ∃ before since, events = before ++ .began .worker :: since ∧ .began .worker ∉ since ∧
      (∀ lane key value, .put lane key value ∉ since) ∧
      ∀ lane key, system.outbox.queue lane key ≠ [] →
        ∃ batch message, .passed .worker (.batch lane key (.refused batch message)) ∈ since := by
  have quiet : system.Quiet := ⟨unsignalled, by simp [Outbox.mayPublish, connected, running]⟩
  obtain ⟨before, since, parted, watched⟩ := run.watched quiet
  refine ⟨before, since, parted, watched.last, watched.unput, fun lane key waits => ?_⟩
  have idle : ¬ (system.pass .worker).Awaits lane key := by
    refine Pass.not_awaits_of_isFinished ?_ lane key
    simp [Depot.pass, Worker.pass, waiting, Pass.isFinished]
  exact (watched.seen lane key waits).resolve_left idle

/-- A gateway that publishes one value at a time. -/
def singleGateway : Profile := { gatewayKey := "gateway", batchSize := 1 }

/-- Two readings and an alarm are put before the worker begins its pass. The sink accepts the
readings and refuses the alarm, and a caller publishes alarms in vain while the worker rests. -/
def slumberSchedule : List Move :=
  [.put .readings "meter" ⟨"meter", ["1"], 1⟩, .put .readings "meter" ⟨"meter", ["2"], 2⟩,
    .put .alarms "door" ⟨"door", true, 3⟩, .start, .connect true, .work false,
    .work false, .work false, .work false, .work false, .work true, .work false,
    .work false, .work false, .work true, .work false, .work false, .work false,
    .work false, .work false, .work false, .work false, .work false,
    .call 0 [.alarms], .drain 0 true, .work false, .drain 0 true, .drain 0 true, .drain 0 false]

/-- Whether the worker sleeps: it waits, and nothing wakes it although it may publish. -/
def System.isAsleep (system : System) : Bool :=
  match system.worker with
  | .waiting => system.outbox.running && system.outbox.connected && !system.outbox.signalled
  | _ => false

/-- A worker that sleeps waits. -/
theorem System.waiting_of_isAsleep {system : System} (asleep : system.isAsleep = true) :
    system.worker = .waiting ∧ system.outbox.running = true ∧ system.outbox.connected = true ∧
      system.outbox.signalled = false := by
  unfold System.isAsleep at asleep
  split at asleep
  · rename_i waiting
    rw [Bool.and_eq_true, Bool.and_eq_true, Bool.not_eq_true'] at asleep
    exact ⟨waiting, asleep.1.1, asleep.1.2, asleep.2⟩
  · cases asleep

/-- The alarm is left behind by a sleeping worker, and its pass has had it refused. -/
theorem sleeps_after_refusals_of_slumberSchedule :
    ∃ events system, System.fresh.perform singleGateway slumberSchedule = some (events, system) ∧
      system.worker = .waiting ∧ system.outbox.running = true ∧ system.outbox.connected = true ∧
      system.outbox.signalled = false ∧
      system.outbox.queue .readings "meter" = [] ∧
      system.outbox.queue .alarms "door" = [⟨"door", true, 3⟩] ∧
      ∃ before since, events = before ++ .began .worker :: since ∧
        ∃ batch message,
          .passed .worker (.batch .alarms "door" (.refused batch message)) ∈ since := by
  have possible : (System.fresh.perform singleGateway slumberSchedule).isSome = true := by
    decide +kernel
  have outcome : (System.fresh.perform singleGateway slumberSchedule).map (fun result =>
      (result.2.isAsleep, result.2.outbox.queue .readings "meter",
        result.2.outbox.queue .alarms "door")) = some (true, [], [⟨"door", true, 3⟩]) := by
    decide +kernel
  obtain ⟨⟨events, system⟩, made⟩ := Option.isSome_iff_exists.1 possible
  rw [made] at outcome
  simp only [Option.map_some, Option.some_inj, Prod.mk.injEq] at outcome
  obtain ⟨asleep, meter, door⟩ := outcome
  obtain ⟨waiting, running, connected, signalled⟩ := System.waiting_of_isAsleep asleep
  have run : Run singleGateway events system := Run.fresh.perform made
  obtain ⟨before, since, parted, -, -, refused⟩ :=
    Run.sleeps_after_refusals run waiting running connected signalled
  refine ⟨events, system, made, waiting, running, connected, signalled, meter, door, before, since,
    parted, refused .alarms "door" ?_⟩
  rw [door]
  exact List.cons_ne_nil _ _

end EdgeGateway.Schedule
