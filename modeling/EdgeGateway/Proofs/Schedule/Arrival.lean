import EdgeGateway.Proofs.Schedule.PassStep
import EdgeGateway.Proofs.Schedule.Wakeup

/-!
# Arrivals

Values arrive under a key only when they are put: no pass puts anything (`put?_of_passStep`), so what
has been put under a key changes with the moves of producers alone (`put?_of_step`). Nothing else
happens to a key before something is put under it (`KeyRun.unput`). So every key of which a history
tells is among those under which something arrived (`Run.mem_arrivals`).
-/

namespace EdgeGateway.Schedule

/-! ## Puts in the history of a key -/

section Step

variable {profile : Profile} {system next : System} {event : Event} {lane : Lane} {key : String}

/-- A step of a pass puts nothing. -/
theorem put?_of_passStep {answer : Bool} {outbox after : Outbox Queues} {pass later : Drain.Pass}
    {occurrence : Occurrence}
    (stepped : PassStep profile outbox pass answer occurrence after later) (agent : Agent) :
    ((Event.passed agent occurrence).at? lane key).bind KeyEvent.put? = none := by
  have unput : ∀ {other : Lane} {otherKey : String} {event : KeyEvent other.Value},
      event.put? = none →
        ((Event.passed agent (.batch other otherKey event)).at? lane key).bind KeyEvent.put? =
          none := by
    intro other otherKey event unput
    by_cases same : other = lane ∧ otherKey = key
    · obtain ⟨rfl, rfl⟩ := same
      have seen : (Event.passed agent (.batch other otherKey event)).at? other otherKey = some event :=
        Located.at?_self other otherKey event
      rw [seen]
      exact unput
    · have unseen : (Event.passed agent (.batch other otherKey event)).at? lane key = none :=
        Located.at?_of_ne event same
      rw [unseen]
      rfl
  cases stepped with
  | entered | admitted | shut | exhausted => rfl
  | looked | dropped | accepted | refused | removed | kept => exact unput rfl

/-- Nothing is put by a move that is not a put. -/
theorem put?_of_step {move : Move} (unlike : ∀ lane key value, move ≠ .put lane key value)
    (made : system.step profile move = some (event, next)) :
    (event.at? lane key).bind KeyEvent.put? = none := by
  cases move with
  | put other otherKey value => exact absurd rfl (unlike other otherKey value)
  | connect up =>
    cases made
    rfl
  | start =>
    cases made
    rfl
  | stop =>
    cases made
    rfl
  | call number lanes =>
    obtain ⟨-, rfl, -⟩ := System.call_inv made
    rfl
  | drain number answer =>
    obtain ⟨occurrence, rfl, occurs, -⟩ := System.exists_occurrence_of_drain made
    exact put?_of_passStep (passStep_of_occurrence occurs) _
  | work accepted =>
    cases System.workEffect_of_work made with
    | left | began | rested => rfl
    | passed answered unblocked occurs => exact put?_of_passStep (passStep_of_occurrence occurs) _

/-- What has been put under a key stays as it is when nothing is put. -/
theorem puts_history_concat {events : List Event}
    (unput : (event.at? lane key).bind KeyEvent.put? = none) :
    puts (history lane key (events ++ [event])) = puts (history lane key events) := by
  rw [history_concat]
  cases seen : event.at? lane key with
  | none => rw [Option.toList_none, List.append_nil]
  | some happened =>
    rw [seen] at unput
    have silent : happened.put? = none := unput
    rw [Option.toList_some, puts_concat, silent, Option.toList_none, List.append_nil]

end Step

/-- Nothing happens to a key before something is put under it. -/
theorem KeyRun.unput {Value : Type} {rules : KeyRules Value} {events : List (KeyEvent Value)}
    {state : KeyState Value} (run : KeyRun rules events state) (unput : puts events = []) :
    events = [] ∧ state = {} := by
  induction run with
  | fresh => exact ⟨rfl, rfl⟩
  | @step events state next event run stepped inductionHypothesis =>
    rw [puts_concat] at unput
    obtain ⟨earlier, now⟩ := List.append_eq_nil_iff.1 unput
    obtain ⟨rfl, rfl⟩ := inductionHypothesis earlier
    -- A step from an empty queue without a batch on its way can only be a put.
    cases stepped with
    | put value => cases now
    | looked front nonempty | dropped front nonempty => exact absurd List.take_nil (front ▸ nonempty)

/-! ## Arrivals in the history of a run -/

/-- The key under which a value is put in an event. -/
def Event.arrived? : Event → Option (Lane × String)
  | put lane key _ => some (lane, key)
  | _ => none

/-- The keys under which values were put, one for each put. -/
def arrivals (events : List Event) : List (Lane × String) := events.filterMap Event.arrived?

variable {profile : Profile} {events : List Event} {system : System} {lane : Lane} {key : String}

/-- Nothing has been put under a key under which nothing arrived. -/
theorem Run.puts_eq_nil (run : Run profile events system) (unarrived : (lane, key) ∉ arrivals events) :
    puts (history lane key events) = [] := by
  induction run with
  | fresh => rfl
  | @step events system next event run move made inductionHypothesis =>
    have parted : arrivals (events ++ [event]) = arrivals events ++ event.arrived?.toList :=
      filterMap_concat _ _ _
    rw [parted, List.mem_append, not_or] at unarrived
    obtain ⟨earlier, now⟩ := unarrived
    refine (puts_history_concat ?_).trans (inductionHypothesis earlier)
    cases move with
    | put other otherKey value =>
      cases made
      have different : ¬ (other = lane ∧ otherKey = key) := by
        rintro ⟨rfl, rfl⟩
        exact now List.mem_cons_self
      have unseen : (Event.put other otherKey value).at? lane key = none :=
        Located.at?_of_ne (KeyEvent.put value) different
      rw [unseen]
      rfl
    | connect | start | stop | call | drain | work => exact put?_of_step (by simp) made

/-- Whatever happens to a key, something has been put under it. -/
theorem Run.mem_arrivals (run : Run profile events system) (happened : history lane key events ≠ []) :
    (lane, key) ∈ arrivals events := by
  by_contra unarrived
  exact happened ((run.keyRun lane key).unput (run.puts_eq_nil unarrived)).1

end EdgeGateway.Schedule
