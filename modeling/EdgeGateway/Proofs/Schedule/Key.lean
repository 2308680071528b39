import EdgeGateway.Proofs.Outbox.Queue
import EdgeGateway.Proofs.Schedule.Event

/-!
# One key at a time

Whatever goes on around an outbox, a single key sees little of it. `KeyStep` is all that can happen
to one: its state is its queue and the batch that a pass has taken up from it, if there is one.
What keys keep over a run is proved of this small machine, and holds wherever a run of the whole
system is, for each key, a run of it.
-/

namespace EdgeGateway.Schedule

/-! ## The machine of one key -/

/-- A batch that a pass has taken up and not yet put down. -/
inductive Flight (Value : Type) where
  /-- Its message is offered to the sink. -/
  | offered (batch : List Value) (message : Message)
  /-- It was accepted or given up, and is about to be acknowledged. -/
  | settled (batch : List Value)

/-- A key as its queue and the batch in flight. -/
structure KeyState (Value : Type) where
  queue : List Value := []
  flight? : Option (Flight Value) := none

/-- What a lane and a gateway fix for a key. -/
structure KeyRules (Value : Type) where
  retention : Retention
  /-- The greatest number of values in one batch. -/
  limit : Nat
  /-- The message of a batch. -/
  build : List Value → Except BuildError Message

/-- The rules of a key of a lane. -/
def keyRules (profile : Profile) (lane : Lane) (key : String) : KeyRules lane.Value where
  retention := lane.retention
  limit := profile.batchLimit lane
  build := profile.batchMessage lane key

section Key

variable {Value : Type}

/-- The batch that was settled and is not acknowledged yet, as a list. -/
def KeyState.settling (state : KeyState Value) : List (List Value) :=
  match state.flight? with
  | some (.settled batch) => [batch]
  | _ => []

/-- At most one batch is settled and not acknowledged. -/
theorem KeyState.length_settling_le (state : KeyState Value) : state.settling.length ≤ 1 := by
  unfold settling
  split
  · exact Nat.le_refl 1
  · exact Nat.zero_le 1

/-- The batch in flight, as a list. -/
def KeyState.flying (state : KeyState Value) : List (List Value) :=
  match state.flight? with
  | some (.offered batch _) => [batch]
  | some (.settled batch) => [batch]
  | none => []

/-- Everything that can happen to a key. -/
inductive KeyStep (rules : KeyRules Value) :
    KeyState Value → KeyEvent Value → KeyState Value → Prop where
  | put {queue : List Value} {flight? : Option (Flight Value)} (value : Value) :
      KeyStep rules ⟨queue, flight?⟩ (.put value) ⟨rules.retention.push queue value, flight?⟩
  | looked {queue batch : List Value} {message : Message} (front : queue.take rules.limit = batch)
      (nonempty : batch ≠ []) (built : rules.build batch = .ok message) :
      KeyStep rules ⟨queue, none⟩ (.looked batch message) ⟨queue, some (.offered batch message)⟩
  | dropped {queue batch : List Value} {cause : BuildError}
      (front : queue.take rules.limit = batch) (nonempty : batch ≠ [])
      (unbuilt : rules.build batch = .error cause) :
      KeyStep rules ⟨queue, none⟩ (.dropped batch) ⟨queue, some (.settled batch)⟩
  | accepted {queue batch : List Value} {message : Message} :
      KeyStep rules ⟨queue, some (.offered batch message)⟩ (.accepted batch message)
        ⟨queue, some (.settled batch)⟩
  | refused {queue batch : List Value} {message : Message} :
      KeyStep rules ⟨queue, some (.offered batch message)⟩ (.refused batch message) ⟨queue, none⟩
  | removed {queue batch : List Value} (front : queue.take batch.length = batch) :
      KeyStep rules ⟨queue, some (.settled batch)⟩ (.removed batch)
        ⟨queue.drop batch.length, none⟩
  | kept {queue batch : List Value} (changed : queue.take batch.length ≠ batch) :
      KeyStep rules ⟨queue, some (.settled batch)⟩ (.kept batch) ⟨queue, none⟩

/-- What has happened to a key since it was empty. -/
inductive KeyRun (rules : KeyRules Value) : List (KeyEvent Value) → KeyState Value → Prop where
  | fresh : KeyRun rules [] {}
  | step {events : List (KeyEvent Value)} {state next : KeyState Value} {event : KeyEvent Value}
      (run : KeyRun rules events state) (stepped : KeyStep rules state event next) :
      KeyRun rules (events ++ [event]) next

/-- A key makes the step that an event means for it, and stays as it is if the event is not about
it. -/
def Advances (rules : KeyRules Value) (state : KeyState Value) (event? : Option (KeyEvent Value))
    (next : KeyState Value) : Prop :=
  match event? with
  | some event => KeyStep rules state event next
  | none => next = state

/-- A run goes on with a step, or stays where nothing happens. -/
theorem KeyRun.advance {rules : KeyRules Value} {events : List (KeyEvent Value)}
    {state next : KeyState Value} {event? : Option (KeyEvent Value)}
    (run : KeyRun rules events state) (advances : Advances rules state event? next) :
    KeyRun rules (events ++ event?.toList) next := by
  cases event? with
  | none =>
    obtain rfl : next = state := advances
    rw [Option.toList_none, List.append_nil]
    exact run
  | some event => exact run.step advances

/-- A run has passed through a state after each of its events. -/
theorem KeyRun.before {rules : KeyRules Value} {first second : List (KeyEvent Value)}
    {state : KeyState Value} (run : KeyRun rules (first ++ second) state) :
    ∃ earlier, KeyRun rules first earlier := by
  generalize whole : first ++ second = events at run
  induction run generalizing second with
  | fresh =>
    obtain ⟨rfl, rfl⟩ := List.append_eq_nil_iff.1 whole
    exact ⟨_, .fresh⟩
  | @step events state next event run stepped inductionHypothesis =>
    rcases List.eq_nil_or_concat second with rfl | ⟨rest, last, rfl⟩
    · rw [List.append_nil] at whole
      rw [whole]
      exact ⟨_, run.step stepped⟩
    · rw [List.concat_eq_append, ← List.append_assoc] at whole
      exact inductionHypothesis (List.append_inj' whole rfl).1

end Key

/-- An event about one key makes that key step and leaves all the others as they are. -/
theorem advances_of_located {profile : Profile}
    {state next : (lane : Lane) → String → KeyState lane.Value} {lane : Lane} {key : String}
    {event : KeyEvent lane.Value}
    (own : KeyStep (keyRules profile lane key) (state lane key) event (next lane key))
    (others : ∀ other otherKey, ¬ (lane = other ∧ key = otherKey) →
      next other otherKey = state other otherKey) (other : Lane) (otherKey : String) :
    Advances (keyRules profile other otherKey) (state other otherKey)
      (Located.at? other otherKey (⟨lane, key, event⟩ : Located KeyEvent))
      (next other otherKey) := by
  by_cases same : lane = other ∧ key = otherKey
  · obtain ⟨rfl, rfl⟩ := same
    rw [Located.at?_self]
    exact own
  · rw [Located.at?_of_ne event same]
    exact others other otherKey same

/-- A key stays as it is under an event that is about no key. -/
theorem advances_of_unlocated {profile : Profile} {event : Event} {lane : Lane} {key : String}
    {state next : KeyState lane.Value} (unlocated : event.located? = none) (same : next = state) :
    Advances (keyRules profile lane key) state (event.at? lane key) next := by
  unfold Event.at?
  rw [unlocated]
  exact same

end EdgeGateway.Schedule
