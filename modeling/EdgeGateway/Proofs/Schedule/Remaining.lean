import EdgeGateway.Proofs.Schedule.PassStep

/-!
# What a pass still has to do

A pass awaits the keys of the lanes that it has not entered and those of its own lane that it has
not passed. Under a gate that lets it through it is done with a key only once nothing waits under
it or a batch of it was refused (`PassStep.awaits`), provided that the batch on its way is still the
front of its queue when it is acknowledged.
-/

namespace EdgeGateway

namespace Drain

/-- The keys of a lane that are still to be taken up in a stage. -/
def Stage.remaining (lane : Lane) : Stage → List String
  | .enter => []
  | .ask other key later | .look other key later | .publish other key later _ _
  | .acknowledge other key later _ => if other = lane then key :: later else []

/-- Whether the batch that is on its way in a stage is the front of its queue. -/
def Stage.Fronts (outbox : Outbox Queues) : Stage → Prop
  | .publish lane key _ batch _ | .acknowledge lane key _ batch =>
    (outbox.queue lane key).take batch.length = batch
  | .enter | .ask _ _ _ | .look _ _ _ => True

/-- Whether a pass is still to take up a key. -/
def Pass.Awaits (pass : Pass) (lane : Lane) (key : String) : Prop :=
  lane ∈ pass.lanes ∨ key ∈ pass.stage.remaining lane

/-- Going on to the next key leaves the keys behind the current one. -/
@[simp] theorem Stage.remaining_next (lane other : Lane) (later : List String) :
    (Stage.next other later).remaining lane = if other = lane then later else [] := by
  cases later with
  | nil => simp [Stage.next, remaining]
  | cons key later => rfl

/-- No batch is on its way when a pass goes on to the next key. -/
@[simp] theorem Stage.fronts_next (outbox : Outbox Queues) (lane : Lane) (later : List String) :
    (Stage.next lane later).Fronts outbox := by
  cases later <;> trivial

/-- The batch on its way stays the front of its queue while no queue changes. -/
theorem Stage.Fronts.congr {outbox other : Outbox Queues} {stage : Stage}
    (fronts : stage.Fronts outbox) (queue : other.queue = outbox.queue) : stage.Fronts other := by
  cases stage with
  | enter | ask | look => trivial
  | publish lane key later batch message =>
    unfold Fronts
    rw [queue]
    exact fronts
  | acknowledge lane key later batch =>
    unfold Fronts
    rw [queue]
    exact fronts

/-- A finished pass has no key left. -/
theorem Pass.not_awaits_of_isFinished {pass : Pass} (finished : pass.isFinished = true)
    (lane : Lane) (key : String) : ¬ pass.Awaits lane key := by
  obtain ⟨lanes, stage, report⟩ := pass
  cases stage with
  | enter =>
    have none : lanes = [] := List.isEmpty_iff.1 finished
    simp [Awaits, Stage.remaining, none]
  | _ => cases finished

variable {profile : Profile} {answer : Bool} {outbox : Outbox Queues} {pass : Pass}

/-- A step of a pass leaves the outbox as it is, or removes the batch that it acknowledges. -/
theorem Pass.step_outbox :
    (pass.step profile answer outbox).1 = outbox ∨
      ∃ lane key later batch, pass.stage = .acknowledge lane key later batch ∧
        (pass.step profile answer outbox).1 = outbox.remove lane key batch.length := by
  obtain ⟨lanes, stage, report⟩ := pass
  cases stage with
  | enter =>
    left
    cases lanes <;> rfl
  | ask lane key later => exact .inl rfl
  | look lane key later =>
    left
    simp only [step, Outbox.peek_eq]
    split
    · rfl
    · split <;> rfl
  | publish lane key later batch message =>
    left
    cases answer <;> rfl
  | acknowledge lane key later batch =>
    simp only [step, Outbox.acknowledge_eq]
    split
    · exact .inr ⟨lane, key, later, batch, rfl, rfl⟩
    · exact .inl rfl

/-- A step of a pass keeps an outbox compact. -/
theorem Pass.compact_of_step (compact : outbox.Compact) :
    (pass.step profile answer outbox).1.Compact := by
  rcases pass.step_outbox with same | ⟨lane, key, later, batch, -, removed⟩
  · rw [same]
    exact compact
  · rw [removed]
    exact compact.remove _ _ _

/-- A step of a pass keeps the retentions of the stores. -/
theorem Pass.retains_of_step (retains : outbox.Retains) :
    (pass.step profile answer outbox).1.Retains := by
  rcases pass.step_outbox with same | ⟨lane, key, later, batch, -, removed⟩
  · rw [same]
    exact retains
  · rw [removed]
    exact retains.remove _ _ _

/-- A step of a pass puts nothing. -/
theorem Pass.queue_ne_nil_of_step {lane : Lane} {key : String}
    (waits : (pass.step profile answer outbox).1.queue lane key ≠ []) :
    outbox.queue lane key ≠ [] := by
  rcases pass.step_outbox with same | ⟨other, otherKey, later, batch, -, removed⟩
  · rwa [same] at waits
  · rw [removed] at waits
    by_cases here : other = lane ∧ otherKey = key
    · obtain ⟨rfl, rfl⟩ := here
      rw [Outbox.queue_remove_self] at waits
      rintro empty
      rw [empty] at waits
      exact waits List.drop_nil
    · rwa [Outbox.queue_remove_of_ne _ here] at waits

/-- A step of a pass leaves the flags of the outbox as they are. -/
theorem Pass.flags_of_step :
    (pass.step profile answer outbox).1.signalled = outbox.signalled ∧
      (pass.step profile answer outbox).1.mayPublish = outbox.mayPublish := by
  rcases pass.step_outbox with same | ⟨lane, key, later, batch, -, removed⟩
  · rw [same]
    exact ⟨rfl, rfl⟩
  · rw [removed]
    exact ⟨rfl, rfl⟩

/-- A step of a pass leaves the connection of the transport as it is. -/
theorem Pass.connected_of_step :
    (pass.step profile answer outbox).1.connected = outbox.connected := by
  rcases pass.step_outbox with same | ⟨lane, key, later, batch, -, removed⟩
  · rw [same]
  · rw [removed]
    rfl

/-- A pass that goes on to the next key still awaits every key but the current one. -/
theorem Pass.Awaits.next {lanes : List Lane} {stage : Stage} {report after : Report}
    {lane current : Lane} {key head : String} {later : List String}
    (awaits : Pass.Awaits ⟨lanes, stage, report⟩ lane key)
    (standing : stage.remaining lane = if current = lane then head :: later else [])
    (different : ¬ (current = lane ∧ head = key)) :
    Pass.Awaits ⟨lanes, .next current later, after⟩ lane key := by
  rcases awaits with ahead | here
  · exact .inl ahead
  · right
    rw [standing] at here
    rw [Stage.remaining_next]
    split at here
    · rename_i same
      rw [if_pos same]
      exact (List.mem_cons.1 here).resolve_left fun equal => different ⟨same, equal.symm⟩
    · cases here

end Drain

namespace Schedule

open Drain

section Pass

variable {profile : Profile} {answer : Bool} {outbox after : Outbox Queues} {pass next : Pass}
  {occurrence : Occurrence}

/-- A step of a pass leaves the front of its queue on its way, if it leaves a batch. -/
theorem PassStep.fronts (stepped : PassStep profile outbox pass answer occurrence after next)
    (fronts : pass.stage.Fronts outbox) : next.stage.Fronts after := by
  cases stepped with
  | entered | exhausted | refused | kept => exact Stage.fronts_next _ _ _
  | admitted | shut | removed => trivial
  | looked front | dropped front =>
    rw [← front]
    simp only [Stage.Fronts, List.length_take]
    exact List.take_eq_take_min.symm
  | accepted => exact fronts

/-- Under a gate that lets it through, a pass is done with a key only once nothing waits under it
or a batch of it has been refused. -/
theorem PassStep.awaits (stepped : PassStep profile outbox pass answer occurrence after next)
    (through : occurrence ≠ .asked false) (fronts : pass.stage.Fronts outbox) {lane : Lane}
    {key : String} (waits : outbox.queue lane key ≠ []) (awaits : pass.Awaits lane key) :
    next.Awaits lane key ∨
      ∃ batch message, occurrence = .batch lane key (.refused batch message) := by
  cases stepped with
  | @entered current lanes =>
    left
    have ahead : lane ∈ current :: lanes := awaits.resolve_right List.not_mem_nil
    by_cases same : current = lane
    · subst same
      have listed : key ∈ outbox.keys current := by
        refine Table.mem_keys_iff.2 (Option.isSome_iff_ne_none.2 fun none => waits ?_)
        simp [Outbox.queue, Queues.queue, none]
      right
      simpa using listed
    · exact .inl ((List.mem_cons.1 ahead).resolve_left (Ne.symm same))
  | admitted | looked | dropped | accepted | removed => exact .inl awaits
  | shut => exact absurd rfl through
  | @exhausted lanes current head later report answer empty =>
    refine .inl (awaits.next rfl ?_)
    rintro ⟨rfl, rfl⟩
    exact waits empty
  | @refused lanes current head later report batch message =>
    by_cases here : current = lane ∧ head = key
    · obtain ⟨rfl, rfl⟩ := here
      exact .inr ⟨batch, message, rfl⟩
    · exact .inl (awaits.next rfl here)
  | kept changed => exact absurd fronts changed

end Pass

end Schedule

end EdgeGateway
