import EdgeGateway.Proofs.Schedule.Pass
import EdgeGateway.Proofs.Schedule.Remaining
import EdgeGateway.Proofs.Schedule.System

/-!
# A run as keys see it

Every run of the whole system is, for each key, a run of the machine of one key. The drain lock is
what makes it true: a pass that is inside a lane holds it, so at most one batch is in flight.
-/

namespace EdgeGateway.Schedule

namespace System

/-- The batch in flight, with its key: that of the pass that holds the drain lock. -/
def flight? (system : System) : Option (Located Flight) :=
  system.lock.bind fun agent => located? (system.pass agent).stage

/-- A key as a system leaves it. -/
def view (system : System) (lane : Lane) (key : String) : KeyState lane.Value where
  queue := system.outbox.queue lane key
  flight? := system.flight?.bind (Located.at? lane key)

/-- What every system that can come about keeps to. -/
structure Sound (system : System) : Prop where
  /-- A pass inside a lane holds the drain lock. -/
  locked : ∀ agent, (system.pass agent).stage ≠ .enter → system.lock = some agent
  /-- Every store has the retention of its lane. -/
  retains : system.outbox.Retains

/-- A system that nobody has touched is sound. -/
theorem sound_fresh : System.fresh.Sound where
  locked agent inside := by
    cases agent with
    | worker => exact absurd rfl inside
    | caller number => exact absurd rfl inside
  retains := Outbox.retains_fresh

variable {profile : Profile} {system next : System} {event : Event}

/-- A pass that is inside a lane after its step holds the drain lock. -/
theorem lockAfter_of_ne_enter {agent : Agent} {stage : Drain.Stage} (inside : stage ≠ .enter) :
    lockAfter agent stage = some agent := by
  cases stage with
  | enter => exact absurd rfl inside
  | ask | look | publish | acknowledge => rfl

/-- The batch in flight is that of a pass that does not have to wait. -/
theorem flight?_eq (sound : system.Sound) {agent : Agent}
    (unblocked : system.blocks (system.pass agent).stage = false) :
    system.flight? = located? (system.pass agent).stage := by
  unfold flight?
  by_cases outside : (system.pass agent).stage = .enter
  · have unlocked : system.lock = none := by
      rw [outside] at unblocked
      exact Option.isNone_iff_eq_none.1 (Option.isSome_eq_false_iff.1 unblocked)
    rw [unlocked, outside]
    rfl
  · rw [sound.locked agent outside]
    rfl

/-- After a step of a pass, the batch in flight is that of this pass. -/
theorem flight?_eq_of_lockAfter {agent : Agent}
    (lock : system.lock = lockAfter agent (system.pass agent).stage) :
    system.flight? = located? (system.pass agent).stage := by
  unfold flight?
  by_cases outside : (system.pass agent).stage = .enter
  · rw [lock, outside]
    rfl
  · rw [lock, lockAfter_of_ne_enter outside]
    rfl

/-- The batch in flight depends on the lock and the stages alone. -/
theorem flight?_congr (lock : next.lock = system.lock)
    (stage : ∀ agent, (next.pass agent).stage = (system.pass agent).stage) :
    next.flight? = system.flight? := by
  unfold flight?
  simp only [lock, stage]

/-- The effect of a step of a pass, in terms of the systems around it. -/
theorem passEffect_of_pass {agent : Agent} {answer : Bool} {occurrence : Occurrence}
    (occurs : occurrence? profile answer system.outbox (system.pass agent) = some occurrence)
    (outbox : next.outbox = ((system.pass agent).step profile answer system.outbox).1)
    (own : next.pass agent = ((system.pass agent).step profile answer system.outbox).2) :
    PassEffect profile system.outbox (system.pass agent) occurrence next.outbox
      (next.pass agent) := by
  rw [outbox, own]
  exact (passStep_of_occurrence occurs).effect

/-- At most one pass is inside a lane. -/
theorem Sound.exclusive (sound : system.Sound) {first second : Agent}
    (firstInside : (system.pass first).stage ≠ .enter)
    (secondInside : (system.pass second).stage ≠ .enter) : first = second := by
  have held : some first = some second :=
    (sound.locked first firstInside).symm.trans (sound.locked second secondInside)
  exact Option.some.inj held

/-- While an agent makes a step, no other pass is inside a lane. -/
theorem outside_of_unblocked (sound : system.Sound) {agent other : Agent}
    (unblocked : system.blocks (system.pass agent).stage = false) (different : other ≠ agent) :
    (system.pass other).stage = .enter := by
  by_contra inside
  have held : system.lock = some other := sound.locked other inside
  by_cases outside : (system.pass agent).stage = .enter
  · rw [outside] at unblocked
    simp [blocks, held] at unblocked
  · exact different (sound.exclusive inside outside)

/-- Soundness is kept by every effect. -/
theorem Sound.preserved (sound : system.Sound) (effect : Effect profile system event next) :
    next.Sound := by
  cases effect with
  | put outbox pass lock =>
    refine ⟨fun agent inside => ?_, ?_⟩
    · rw [pass] at inside
      rw [lock]
      exact sound.locked agent inside
    · rw [outbox]
      exact sound.retains.put _ _ _
  | quiet unlocated lanes stage report lock =>
    refine ⟨fun agent inside => ?_, sound.retains.congr lanes⟩
    rw [stage] at inside
    rw [lock]
    exact sound.locked agent inside
  | @pass agent answer occurrence _ unblocked occurs outbox own others lock =>
    refine ⟨fun other inside => ?_, ?_⟩
    · by_cases same : other = agent
      · subst same
        rw [lock]
        exact lockAfter_of_ne_enter inside
      · rw [others other same] at inside
        exact absurd (outside_of_unblocked sound unblocked same) inside
    · cases passEffect_of_pass occurs outbox own with
      | moved unlocated same idle idleAfter report => exact same ▸ sound.retains
      | batch taken left stepped others retains => exact retains sound.retains

/-- Every effect is, for each key, a step of that key or nothing. -/
theorem advances_of_effect (sound : system.Sound) (effect : Effect profile system event next)
    (lane : Lane) (key : String) :
    Advances (keyRules profile lane key) (system.view lane key) (event.at? lane key)
      (next.view lane key) := by
  cases effect with
  | put outbox pass lock =>
    have flight : next.flight? = system.flight? := flight?_congr lock fun agent => by rw [pass]
    refine advances_of_located ?_ (fun other otherKey different => ?_) lane key
    · unfold view
      rw [outbox, Outbox.queue_put_self sound.retains, flight]
      exact .put _
    · unfold view
      rw [outbox, Outbox.queue_put_of_ne _ different, flight]
  | quiet unlocated lanes stage report lock =>
    refine advances_of_unlocated unlocated ?_
    unfold view
    rw [Outbox.queue_congr lanes, flight?_congr lock stage]
  | @pass agent answer occurrence _ unblocked occurs outbox own others lock =>
    have before : system.flight? = located? (system.pass agent).stage := flight?_eq sound unblocked
    have after : next.flight? = located? (next.pass agent).stage := flight?_eq_of_lockAfter lock
    cases passEffect_of_pass occurs outbox own with
    | moved unlocated same idle idleAfter report =>
      refine advances_of_unlocated (unlocated agent) ?_
      unfold view
      rw [same, before, after, idle, idleAfter]
    | batch taken left stepped others retains report =>
      rw [← before] at taken
      rw [← after] at left
      refine advances_of_located ?_ (fun other otherKey different => ?_) lane key
      · unfold view
        rw [taken.bind_self, left.bind_self]
        exact stepped
      · unfold view
        rw [taken.bind_of_ne different, left.bind_of_ne different, others other otherKey different]

/-- Every effect counts in the reports what happens. -/
theorem report_of_effect (effect : Effect profile system event next) (agent : Agent) :
    (next.pass agent).report = event.report agent (system.pass agent).report := by
  cases effect with
  | put outbox pass lock =>
    rw [pass]
    rfl
  | quiet unlocated lanes stage report lock => exact report agent
  | @pass other answer occurrence _ unblocked occurs outbox own others lock =>
    by_cases same : other = agent
    · subst same
      cases passEffect_of_pass occurs outbox own with
      | moved unlocated same idle idleAfter report =>
        rw [report]
        cases occurrence with
        | batch lane key event => cases unlocated other
        | _ => rfl
      | batch taken left stepped others retains report =>
        rw [report]
        simp [Event.report]
    · rw [others agent (Ne.symm same)]
      cases occurrence <;> simp [Event.report, same]

/-- A batch that is settled and not acknowledged yet is one that some pass is about to
acknowledge. -/
theorem exists_acknowledge_of_settling {lane : Lane} {key : String} {batch : List lane.Value}
    (settling : batch ∈ (system.view lane key).settling) :
    ∃ agent later, (system.pass agent).stage = .acknowledge lane key later batch := by
  have flying : (system.view lane key).flight? = some (.settled batch) := by
    unfold KeyState.settling at settling
    split at settling
    · rename_i settled same
      rw [same, List.mem_singleton.1 settling]
    · cases settling
  obtain ⟨located, inFlight, here⟩ := Option.bind_eq_some_iff.1 flying
  obtain ⟨agent, -, stage⟩ := Option.bind_eq_some_iff.1 inFlight
  rw [Located.at?_eq_some_iff.1 here] at stage
  refine ⟨agent, ?_⟩
  cases current : (system.pass agent).stage with
  | acknowledge other otherKey later waiting =>
    rw [current] at stage
    cases stage
    exact ⟨later, rfl⟩
  | publish other otherKey later waiting message =>
    rw [current] at stage
    cases stage
  | enter => simp [current, located?] at stage
  | ask other otherKey later => simp [current, located?] at stage
  | look other otherKey later => simp [current, located?] at stage

end System

variable {profile : Profile} {events : List Event} {system : System}

/-- Every system that can come about is sound. -/
theorem Run.sound (run : Run profile events system) : system.Sound := by
  induction run with
  | fresh => exact System.sound_fresh
  | step run move made inductionHypothesis =>
    exact inductionHypothesis.preserved (System.effect_of_step made)

/-- The outbox is compact in every run. -/
theorem Run.compact (run : Run profile events system) : system.outbox.Compact := by
  induction run with
  | fresh => exact Outbox.compact_fresh
  | step run move made inductionHypothesis =>
    cases System.effect_of_step made with
    | put outbox pass lock =>
      rw [outbox]
      exact inductionHypothesis.put _ _ _
    | quiet unlocated lanes => exact inductionHypothesis.congr lanes
    | pass unblocked occurs outbox =>
      rw [outbox]
      exact Drain.Pass.compact_of_step inductionHypothesis

/-- Every run is, for each key, a run of that key. -/
theorem Run.keyRun (run : Run profile events system) (lane : Lane) (key : String) :
    KeyRun (keyRules profile lane key) (history lane key events) (system.view lane key) := by
  induction run with
  | fresh =>
    have view : System.fresh.view lane key = {} := by
      unfold System.view
      rw [show System.fresh.outbox = .fresh from rfl, Outbox.queue_fresh]
      rfl
    rw [view]
    exact .fresh
  | @step events system next event run move made inductionHypothesis =>
    have advances := System.advances_of_effect run.sound (System.effect_of_step made) lane key
    rw [history_concat]
    exact inductionHypothesis.advance advances

/-- The report of every pass counts what has happened to its batches since it began. -/
theorem Run.report_eq_tally (run : Run profile events system) (agent : Agent) :
    (system.pass agent).report = tally agent events := by
  induction run with
  | fresh => cases agent <;> rfl
  | @step events system next event run move made inductionHypothesis =>
    have counted := System.report_of_effect (System.effect_of_step made) agent
    unfold tally at inductionHypothesis ⊢
    rw [List.foldl_append, ← inductionHypothesis, counted]
    rfl

/-- Moves that can be made one after another extend a run. -/
theorem Run.perform {moves : List Move} {made : List Event} {final : System}
    (run : Run profile events system)
    (performed : system.perform profile moves = some (made, final)) :
    Run profile (events ++ made) final := by
  induction moves generalizing events system made with
  | nil =>
    cases performed
    rw [List.append_nil]
    exact run
  | cons move moves inductionHypothesis =>
    simp only [System.perform, Option.bind_eq_bind, Option.bind_eq_some_iff] at performed
    obtain ⟨⟨event, next⟩, stepped, ⟨rest, final⟩, performed, result⟩ := performed
    cases result
    have extended := inductionHypothesis (run.step move stepped) performed
    rw [List.append_assoc] at extended
    exact extended

end EdgeGateway.Schedule
