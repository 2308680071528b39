import EdgeGateway.Proofs.Schedule.Key
import EdgeGateway.Proofs.Schedule.PassStep

/-!
# A pass as keys see it

A pass has at most one batch in flight, from the look that takes it up to its acknowledgement.
`PassEffect` is everything that a step of a pass does to the queues, to the batch in flight and to
the report: either nothing, or one step of the machine of one key.
-/

namespace EdgeGateway.Schedule

/-- The batch that a pass in a stage has in flight, with its key. -/
def located? : Drain.Stage → Option (Located Flight)
  | .publish lane key _ batch message => some ⟨lane, key, .offered batch message⟩
  | .acknowledge lane key _ batch => some ⟨lane, key, .settled batch⟩
  | .enter | .ask _ _ _ | .look _ _ _ => none

/-- A pass that goes on to the next key has nothing in flight. -/
@[simp] theorem located?_next (lane : Lane) (later : List String) :
    located? (.next lane later) = none := by
  cases later <;> rfl

/-- Whether the batch in flight, if there is one, is this one of this key. -/
def IsFlight (located : Option (Located Flight)) (lane : Lane) (key : String)
    (flight? : Option (Flight lane.Value)) : Prop :=
  located = flight?.map fun flight => ⟨lane, key, flight⟩

section Flight

variable {located : Option (Located Flight)} {lane : Lane} {key : String}
  {flight? : Option (Flight lane.Value)}

/-- A batch in flight is seen from its own key. -/
theorem IsFlight.bind_self (flying : IsFlight located lane key flight?) :
    located.bind (Located.at? lane key) = flight? := by
  unfold IsFlight at flying
  rw [flying]
  cases flight? with
  | none => rfl
  | some flight => exact Located.at?_self lane key flight

/-- A batch in flight is not seen from another key. -/
theorem IsFlight.bind_of_ne (flying : IsFlight located lane key flight?) {other : Lane}
    {otherKey : String} (different : ¬ (lane = other ∧ key = otherKey)) :
    located.bind (Located.at? other otherKey) = none := by
  unfold IsFlight at flying
  rw [flying]
  cases flight? with
  | none => rfl
  | some flight => exact Located.at?_of_ne flight different

end Flight

/-- Everything that a step of a pass can do. -/
inductive PassEffect (profile : Profile) (outbox : Outbox Queues) (pass : Drain.Pass) :
    Occurrence → Outbox Queues → Drain.Pass → Prop where
  /-- The pass moves on between batches. -/
  | moved {occurrence : Occurrence} {after : Outbox Queues} {next : Drain.Pass}
      (unlocated : ∀ agent, (Event.passed agent occurrence).located? = none)
      (same : after = outbox) (idle : located? pass.stage = none)
      (idleAfter : located? next.stage = none) (report : next.report = pass.report) :
      PassEffect profile outbox pass occurrence after next
  /-- Something happens to a batch, and to no key but its own. -/
  | batch {lane : Lane} {key : String} {event : KeyEvent lane.Value} {after : Outbox Queues}
      {next : Drain.Pass} {flight? flightAfter? : Option (Flight lane.Value)}
      (taken : IsFlight (located? pass.stage) lane key flight?)
      (left : IsFlight (located? next.stage) lane key flightAfter?)
      (stepped : KeyStep (keyRules profile lane key) ⟨outbox.queue lane key, flight?⟩ event
        ⟨after.queue lane key, flightAfter?⟩)
      (others : ∀ other otherKey, ¬ (lane = other ∧ key = otherKey) →
        after.queue other otherKey = outbox.queue other otherKey)
      (retains : outbox.Retains → after.Retains)
      (report : next.report = event.report pass.report) :
      PassEffect profile outbox pass (.batch lane key event) after next

/-- Every step of a pass has one of the two effects. -/
theorem PassStep.effect {profile : Profile} {answer : Bool} {outbox after : Outbox Queues}
    {pass next : Drain.Pass} {occurrence : Occurrence}
    (stepped : PassStep profile outbox pass answer occurrence after next) :
    PassEffect profile outbox pass occurrence after next := by
  cases stepped with
  | entered | exhausted => exact .moved (fun _ => rfl) rfl rfl (located?_next _ _) rfl
  | admitted | shut => exact .moved (fun _ => rfl) rfl rfl rfl rfl
  | looked front nonempty built =>
    refine .batch ?_ ?_ (.looked front nonempty built) (fun _ _ _ => rfl) id rfl
    · exact rfl
    · exact rfl
  | dropped front nonempty unbuilt =>
    refine .batch ?_ ?_ (.dropped front nonempty unbuilt) (fun _ _ _ => rfl) id rfl
    · exact rfl
    · exact rfl
  | accepted =>
    refine .batch ?_ ?_ .accepted (fun _ _ _ => rfl) id rfl
    · exact rfl
    · exact rfl
  | refused =>
    refine .batch ?_ ?_ .refused (fun _ _ _ => rfl) id rfl
    · exact rfl
    · exact located?_next _ _
  | @removed lanes lane key later report answer batch front =>
    have taken : IsFlight (located? (.acknowledge lane key later batch)) lane key
      (some (.settled batch)) := rfl
    have left : IsFlight (located? (.ask lane key later)) lane key none := rfl
    refine .batch taken left ?_ ?_ ?_ rfl
    · rw [Outbox.queue_remove_self]
      exact .removed front
    · intro other otherKey different
      exact Outbox.queue_remove_of_ne batch.length different
    · intro retains
      exact retains.remove lane key batch.length
  | kept changed =>
    refine .batch ?_ ?_ (.kept changed) (fun _ _ _ => rfl) id rfl
    · exact rfl
    · exact located?_next _ _

end EdgeGateway.Schedule
