import EdgeGateway.Proofs.Schedule.Arrival

/-!
# Refusals

A pass of the worker enters each lane once and takes up each key of a lane once (`Pass.Once`), and a
refusal ends its key. So a refusal is of a key that the pass still awaits and that it does not await
any more afterwards (`PassStep.refused_once`), and only the beginning of a pass makes it await a key
again. `System.refusals_le_of_step` puts this as a balance that every step keeps.
-/

namespace EdgeGateway

namespace Drain

instance (pass : Pass) (lane : Lane) (key : String) : Decidable (pass.Awaits lane key) :=
  inferInstanceAs (Decidable (lane ∈ pass.lanes ∨ key ∈ pass.stage.remaining lane))

/-- Whether a pass takes up no key twice: no lane is to be entered twice, no key of a lane is to be
taken up twice, and a lane whose keys are being taken up is not to be entered again. -/
structure Pass.Once (pass : Pass) : Prop where
  lanes : pass.lanes.Nodup
  keys : ∀ lane, (pass.stage.remaining lane).Nodup
  unentered : ∀ lane ∈ pass.lanes, pass.stage.remaining lane = []

/-- A pass that has entered no lane yet takes up no key twice if it is to enter no lane twice. -/
theorem Pass.once_of_nodup {lanes : List Lane} (nodup : lanes.Nodup) : Pass.Once { lanes } where
  lanes := nodup
  keys _ := List.nodup_nil
  unentered _ _ := rfl

/-- Going on to the next key leaves some of the keys of a lane. -/
theorem Stage.remaining_next_suffix (lane other : Lane) (key : String) (later : List String) :
    (Stage.next other later).remaining lane <:+ if other = lane then key :: later else [] := by
  rw [remaining_next]
  split
  · exact List.suffix_cons key later
  · exact List.suffix_rfl

/-- Whether a pass still awaits a key, as a number. -/
def Pass.awaited (pass : Pass) (place : Lane × String) : Nat :=
  if pass.Awaits place.1 place.2 then 1 else 0

/-- A key is awaited once at most. -/
theorem Pass.awaited_le_one (pass : Pass) (place : Lane × String) : pass.awaited place ≤ 1 := by
  unfold awaited
  split
  · exact Nat.le_refl 1
  · exact Nat.zero_le 1

/-- A pass with nothing to do awaits no key. -/
@[simp] theorem Pass.awaited_idle (place : Lane × String) : Pass.awaited { lanes := [] } place = 0 := by
  simp [awaited, Awaits, Stage.remaining]

end Drain

namespace Schedule

open Drain

/-! ## Refusals in a history -/

namespace Event

/-- The key of which an event says that the worker has had a batch refused. -/
def refused? : Event → Option (Lane × String)
  | passed .worker (.batch lane key (.refused _ _)) => some (lane, key)
  | _ => none

/-- Whether the worker begins a pass in an event. -/
def isWakeup : Event → Bool
  | began .worker => true
  | _ => false

/-- A refusal is a step of the worker's pass. -/
theorem refused?_eq_some_iff {event : Event} {lane : Lane} {key : String} :
    event.refused? = some (lane, key) ↔
      ∃ batch message, event = .passed .worker (.batch lane key (.refused batch message)) := by
  constructor
  · intro refused
    unfold refused? at refused
    split at refused
    · cases refused
      exact ⟨_, _, rfl⟩
    · cases refused
  · rintro ⟨batch, message, rfl⟩
    rfl

end Event

/-- The keys of which the worker has had batches refused, one for each refusal. -/
def refusals (events : List Event) : List (Lane × String) := events.filterMap Event.refused?

/-- How many passes the worker has begun. -/
def wakeups (events : List Event) : Nat := events.countP Event.isWakeup

/-- Only keys under which something arrived are refused. -/
theorem Run.refusals_subset {profile : Profile} {events : List Event} {system : System}
    (run : Run profile events system) : refusals events ⊆ arrivals events := by
  rintro ⟨lane, key⟩ refused
  obtain ⟨event, member, selected⟩ := List.mem_filterMap.1 refused
  obtain ⟨batch, message, rfl⟩ := Event.refused?_eq_some_iff.1 selected
  refine run.mem_arrivals (List.ne_nil_of_mem (a := KeyEvent.refused batch message) ?_)
  exact List.mem_filterMap.2 ⟨_, member, Located.at?_self lane key (KeyEvent.refused batch message)⟩

/-! ## Refusals by a pass -/

section Pass

variable {profile : Profile} {answer : Bool} {outbox after : Outbox Queues} {pass next : Pass}
  {occurrence : Occurrence}

/-- A step of a pass enters the next lane, or leaves some of what was to be done in its own. -/
theorem PassStep.remaining (stepped : PassStep profile outbox pass answer occurrence after next) :
    (next.lanes = pass.lanes ∧
        ∀ lane, next.stage.remaining lane <:+ pass.stage.remaining lane) ∨
      ∃ lane, pass.lanes = lane :: next.lanes ∧ next.stage = .next lane (outbox.keys lane) := by
  cases stepped with
  | entered => exact .inr ⟨_, rfl, rfl⟩
  | shut => exact .inl ⟨rfl, fun _ => List.nil_suffix⟩
  | admitted | looked | dropped | accepted | removed => exact .inl ⟨rfl, fun _ => List.suffix_rfl⟩
  | exhausted | refused | kept => exact .inl ⟨rfl, fun _ => Stage.remaining_next_suffix _ _ _ _⟩

/-- A step of a pass makes it await no key that it did not await before. -/
theorem PassStep.awaited_le (stepped : PassStep profile outbox pass answer occurrence after next)
    (place : Lane × String) : next.awaited place ≤ pass.awaited place := by
  have before : next.Awaits place.1 place.2 → pass.Awaits place.1 place.2 := by
    intro awaits
    rcases stepped.remaining with ⟨lanes, remaining⟩ | ⟨entered, lanes, stage⟩
    · exact awaits.imp (fun ahead => lanes ▸ ahead) fun here => (remaining place.1).mem here
    · left
      rw [lanes]
      rcases awaits with ahead | here
      · exact List.mem_cons_of_mem _ ahead
      · rw [stage, Stage.remaining_next] at here
        split at here
        · rename_i same
          rw [same]
          exact List.mem_cons_self
        · cases here
  unfold Pass.awaited
  split
  · rename_i awaits
    exact Nat.le_of_eq (if_pos (before awaits)).symm
  · exact Nat.zero_le _

/-- A pass that takes up no key twice goes on so, as no key is listed twice. -/
theorem PassStep.once (stepped : PassStep profile outbox pass answer occurrence after next)
    (once : pass.Once) (compact : outbox.Compact) : next.Once := by
  rcases stepped.remaining with ⟨lanes, remaining⟩ | ⟨entered, lanes, stage⟩
  · refine ⟨lanes ▸ once.lanes, fun lane => (once.keys lane).sublist (remaining lane).sublist, ?_⟩
    intro lane ahead
    have none : pass.stage.remaining lane = [] := once.unentered lane (lanes ▸ ahead)
    exact List.suffix_nil.1 (none ▸ remaining lane)
  · obtain ⟨unentered, nodup⟩ := List.nodup_cons.1 (lanes ▸ once.lanes)
    refine ⟨nodup, fun lane => ?_, fun lane ahead => ?_⟩
    · rw [stage, Stage.remaining_next]
      split
      · exact compact.nodup_keys entered
      · exact List.nodup_nil
    · have other : entered ≠ lane := fun same => unentered (same ▸ ahead)
      rw [stage, Stage.remaining_next, if_neg other]

/-- A refusal is of a key that was awaited and is not awaited any more. -/
theorem PassStep.refused_once {lane : Lane} {key : String} {batch : List lane.Value}
    {message : Message}
    (stepped : PassStep profile outbox pass answer (.batch lane key (.refused batch message)) after
      next) (once : pass.Once) : pass.Awaits lane key ∧ ¬ next.Awaits lane key := by
  cases stepped with
  | @refused lanes _ _ later report =>
    have here : Stage.remaining lane (.publish lane key later batch message) = key :: later :=
      if_pos rfl
    have keys : (key :: later).Nodup := here ▸ once.keys lane
    refine ⟨.inr (here ▸ List.mem_cons_self), ?_⟩
    rintro (ahead | remaining)
    · have none : key :: later = [] := here ▸ once.unentered lane ahead
      cases none
    · rw [Stage.remaining_next, if_pos rfl] at remaining
      exact (List.nodup_cons.1 keys).1 remaining

/-- A step of the worker's pass takes what it is refused from what it awaits. -/
theorem PassStep.refusals_le (stepped : PassStep profile outbox pass answer occurrence after next)
    (once : pass.Once) (place : Lane × String) :
    (refusals [.passed .worker occurrence]).count place + next.awaited place ≤
      pass.awaited place := by
  obtain ⟨lane, key⟩ := place
  by_cases refused : (Event.passed .worker occurrence).refused? = some (lane, key)
  · have counted : (refusals [.passed .worker occurrence]).count (lane, key) = 1 := by
      simp [refusals, refused]
    obtain ⟨batch, message, same⟩ := Event.refused?_eq_some_iff.1 refused
    cases same
    obtain ⟨awaits, done⟩ := stepped.refused_once once
    have before : pass.awaited (lane, key) = 1 := if_pos awaits
    have afterwards : next.awaited (lane, key) = 0 := if_neg done
    omega
  · have uncounted : (lane, key) ∉ refusals [.passed .worker occurrence] := by
      intro member
      obtain ⟨event, single, selected⟩ := List.mem_filterMap.1 member
      rw [List.mem_singleton.1 single] at selected
      exact refused selected
    rw [List.count_eq_zero.2 uncounted, Nat.zero_add]
    exact stepped.awaited_le (lane, key)

end Pass

/-! ## Refusals in a run -/

namespace System

variable {profile : Profile} {system next : System} {event : Event}

/-- A step is one of the worker, or it leaves the worker's pass alone. -/
theorem work_or_idle {move : Move} (sound : system.Sound)
    (made : system.step profile move = some (event, next)) :
    (∃ accepted, WorkEffect profile accepted system event next) ∨
      next.pass .worker = system.pass .worker ∧ event.refused? = none ∧ event.isWakeup = false := by
  cases move with
  | put lane key value =>
    cases made
    exact .inr ⟨rfl, rfl, rfl⟩
  | connect up =>
    cases made
    exact .inr ⟨rfl, rfl, rfl⟩
  | start =>
    cases made
    refine .inr ⟨?_, rfl, rfl⟩
    cases current : system.worker <;>
      simp [after, Depot.step, Depot.pass, Worker.pass, current]
  | stop =>
    cases made
    exact .inr ⟨rfl, rfl, rfl⟩
  | call number lanes =>
    obtain ⟨-, rfl, rfl⟩ := call_inv made
    exact .inr ⟨rfl, rfl, rfl⟩
  | drain number answer =>
    obtain ⟨⟨occurrence, rfl⟩, -, pass, -⟩ := drain_cases sound made
    exact .inr ⟨pass, rfl, rfl⟩
  | work accepted => exact .inl ⟨accepted, workEffect_of_work made⟩

/-- A step makes the worker's pass await keys only by beginning it, and takes what the worker is
refused from what it awaits. -/
theorem refusals_le_of_step {move : Move} (sound : system.Sound)
    (once : (system.pass .worker).Once) (made : system.step profile move = some (event, next))
    (place : Lane × String) :
    (refusals [event]).count place + (next.pass .worker).awaited place ≤
      wakeups [event] + (system.pass .worker).awaited place := by
  rcases work_or_idle sound made with ⟨accepted, effect⟩ | ⟨same, unrefused, asleep⟩
  · cases effect with
    | left stopped idle outbox pass | rested finished outbox pass =>
      rw [pass, Pass.awaited_idle]
      exact Nat.zero_le _
    | began signalled idle outbox pass =>
      have once : (next.pass .worker).awaited place ≤ 1 := Pass.awaited_le_one _ _
      exact Nat.le_add_right_of_le (Nat.add_comm _ _ ▸ once)
    | passed answered unblocked occurs outbox pass =>
      rw [pass]
      exact Nat.le_add_left_of_le ((passStep_of_occurrence occurs).refusals_le once place)
  · have unrefusals : refusals [event] = [] := by simp [refusals, unrefused]
    rw [unrefusals, same]
    exact Nat.add_le_add_right (Nat.zero_le _) _

end System

/-- In every run the worker's pass takes up no key twice. -/
theorem Run.once {profile : Profile} {events : List Event} {system : System}
    (run : Run profile events system) : (system.pass .worker).Once := by
  induction run with
  | fresh => exact Pass.once_of_nodup List.nodup_nil
  | step run move made inductionHypothesis =>
    rcases System.work_or_idle run.sound made with ⟨accepted, effect⟩ | ⟨same, -, -⟩
    · cases effect with
      | left stopped idle outbox pass | rested finished outbox pass =>
        rw [pass]
        exact Pass.once_of_nodup List.nodup_nil
      | began signalled idle outbox pass =>
        rw [pass]
        exact Pass.once_of_nodup (by decide)
      | passed answered unblocked occurs outbox pass =>
        rw [pass]
        exact (passStep_of_occurrence occurs).once inductionHypothesis run.compact
    · rw [same]
      exact inductionHypothesis

end Schedule

end EdgeGateway
