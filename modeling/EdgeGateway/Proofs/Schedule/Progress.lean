import EdgeGateway.Proofs.Schedule.View

/-!
# Who can go on

The drain lock is held only by a pass that is inside a lane (`Run.held`). So a pass that is not
finished can make a step as soon as every other pass is outside all lanes
(`System.unblocked_of_outside`), and a worker that is not idle can make one then
(`System.exists_work`).
-/

namespace EdgeGateway

/-- Whether a message would be accepted matters to a worker only if it is about to publish one. -/
theorem Worker.step_of_unpublished {Backlog : Type → Type} [Store Backlog] {worker : Worker}
    (unpublished : worker.message? = none) (profile : Profile) (accepted other : Bool)
    (outbox : Outbox Backlog) :
    worker.step profile accepted outbox = worker.step profile other outbox := by
  cases worker with
  | waiting | left => rfl
  | draining pass =>
    obtain ⟨lanes, stage, report⟩ := pass
    cases stage with
    | publish lane key later batch message => cases unpublished
    | enter | ask | look | acknowledge => rfl

namespace Schedule

variable {profile : Profile} {system next : System} {event : Event}

/-- A pass that is not finished can make a step. -/
theorem exists_occurrence {pass : Drain.Pass} (unfinished : pass.isFinished = false)
    (profile : Profile) (answer : Bool) (outbox : Outbox Queues) :
    ∃ occurrence, occurrence? profile answer outbox pass = some occurrence := by
  obtain ⟨lanes, stage, report⟩ := pass
  cases stage with
  | enter =>
    cases lanes with
    | nil => cases unfinished
    | cons lane lanes => exact ⟨_, rfl⟩
  | ask | publish | acknowledge => exact ⟨_, rfl⟩
  | look lane key later =>
    simp only [occurrence?]
    split
    · exact ⟨_, rfl⟩
    · split <;> exact ⟨_, rfl⟩

namespace System

/-- Whether the drain lock is held by a pass inside a lane, if it is held. -/
def Held (system : System) : Prop :=
  ∀ agent, system.lock = some agent → (system.pass agent).stage ≠ .enter

/-- A pass that has the drain lock after its step is inside a lane. -/
theorem ne_enter_of_lockAfter {agent owner : Agent} {stage : Drain.Stage}
    (locked : lockAfter agent stage = some owner) : owner = agent ∧ stage ≠ .enter := by
  cases stage with
  | enter => cases locked
  | ask | look | publish | acknowledge => exact ⟨(Option.some.inj locked).symm, nofun⟩

/-- The lock stays with a pass inside a lane. -/
theorem Held.preserved (held : system.Held) (effect : Effect profile system event next) :
    next.Held := by
  intro owner locked
  cases effect with
  | put outbox pass lock =>
    rw [lock] at locked
    rw [pass]
    exact held owner locked
  | quiet unlocated lanes stage report lock =>
    rw [lock] at locked
    rw [stage]
    exact held owner locked
  | pass unblocked occurs outbox own others lock =>
    rw [lock] at locked
    obtain ⟨rfl, inside⟩ := ne_enter_of_lockAfter locked
    exact inside

end System

/-- In every run the drain lock is held by a pass inside a lane, if it is held. -/
theorem Run.held {events : List Event} (run : Run profile events system) : system.Held := by
  induction run with
  | fresh => exact fun agent => nofun
  | step run move made inductionHypothesis =>
    exact inductionHypothesis.preserved (System.effect_of_step made)

namespace System

/-- A pass does not have to wait while every other one is outside all lanes. -/
theorem unblocked_of_outside (held : system.Held) (agent : Agent)
    (outside : ∀ other, other ≠ agent → (system.pass other).stage = .enter) :
    system.blocks (system.pass agent).stage = false := by
  cases stage : (system.pass agent).stage with
  | enter =>
    refine Option.isSome_eq_false_iff.2 (Option.isNone_iff_eq_none.2 ?_)
    refine Option.eq_none_iff_forall_ne_some.2 fun owner locked => held owner locked ?_
    by_cases own : owner = agent
    · rw [own]
      exact stage
    · exact outside owner own
  | ask | look | publish | acknowledge => rfl

/-- A pass that is neither finished nor has to wait can make a step. -/
theorem exists_passEvent {agent : Agent}
    (unblocked : system.blocks (system.pass agent).stage = false)
    (unfinished : (system.pass agent).isFinished = false) (profile : Profile) (answer : Bool) :
    ∃ event, system.passEvent? profile agent answer = some event := by
  obtain ⟨occurrence, occurs⟩ := exists_occurrence unfinished profile answer system.outbox
  exact ⟨.passed agent occurrence, by simp [passEvent?, unblocked, occurs]⟩

/-- A move that amounts to something can be made. -/
theorem step_of_event {move : Move} (happens : system.event? profile move = some event) :
    system.step profile move =
      some (event, system.after event (system.toDepot.step profile move)) := by
  rw [step, happens]
  rfl

/-- A caller whose pass is finished can begin another one. -/
theorem step_call {number : Nat} (finished : (system.calls number).isFinished = true)
    (profile : Profile) (lanes : List Lane) :
    system.step profile (.call number lanes) =
      some (.began (.caller number),
        { system with calls := Function.update system.calls number { lanes } }) := by
  simp [step, event?, after, Depot.step, finished]

/-- A caller whose pass is neither finished nor has to wait can make a step. -/
theorem exists_drain {number : Nat}
    (unblocked : system.blocks (system.calls number).stage = false)
    (unfinished : (system.calls number).isFinished = false) (profile : Profile) (answer : Bool) :
    ∃ event, system.step profile (.drain number answer) =
      some (event, system.after event (system.toDepot.step profile (.drain number answer))) := by
  have waiting : system.blocks (system.pass (.caller number)).stage = false := unblocked
  obtain ⟨event, happens⟩ := exists_passEvent waiting unfinished profile answer
  exact ⟨event, step_of_event happens⟩

/-- A worker that is not idle and does not have to wait can make a step. -/
theorem exists_work (unblocked : system.blocks (system.pass .worker).stage = false)
    (busy : system.worker.isIdle system.outbox = false) (profile : Profile) (accepted : Bool) :
    ∃ event, system.step profile (.work accepted) =
      some (event, system.after event (system.toDepot.step profile (.work accepted))) := by
  have happens : ∃ event, system.event? profile (.work accepted) = some event := by
    simp only [event?]
    cases current : system.worker with
    | left =>
      rw [current] at busy
      cases busy
    | waiting =>
      rw [current] at busy
      have woken : Worker.isWoken system.outbox = true := by simpa [Worker.isIdle] using busy
      by_cases running : system.outbox.running = true
      · have roused : (system.outbox.connected && system.outbox.signalled) = true := by
          simpa [Worker.isWoken, running] using woken
        exact ⟨.began .worker, by simp [running, roused]⟩
      · exact ⟨.left, by simp [running]⟩
    | draining pass =>
      cases finished : pass.isFinished with
      | true => exact ⟨.rested, by simp [finished]⟩
      | false =>
        have unfinished : (system.pass .worker).isFinished = false := by
          rw [Depot.pass, current]
          exact finished
        simp only [finished, Bool.false_eq_true, if_false]
        exact exists_passEvent unblocked unfinished profile _
  obtain ⟨event, happens⟩ := happens
  exact ⟨event, step_of_event happens⟩

end System

end Schedule

end EdgeGateway
