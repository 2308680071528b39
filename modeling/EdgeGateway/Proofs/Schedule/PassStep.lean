import EdgeGateway.Proofs.Outbox.Queue
import EdgeGateway.Proofs.Schedule.Event

/-!
# The steps of a pass

`PassStep` lists everything that a step of a pass over queues can be: what it amounts to, what it
needs, and what the outbox and the pass are after it. `passStep_of_occurrence` says that the list is
complete, so whoever wants to know something of every step of a pass goes through the list.
-/

namespace EdgeGateway.Schedule

open Drain

/-- A step of a pass, the answer that it gets and what it amounts to, the outbox and the pass after
it. -/
inductive PassStep (profile : Profile) (outbox : Outbox Queues) :
    Pass → Bool → Occurrence → Outbox Queues → Pass → Prop where
  | entered {lane : Lane} {lanes : List Lane} {report : Report} {answer : Bool} :
      PassStep profile outbox ⟨lane :: lanes, .enter, report⟩ answer (.entered lane) outbox
        ⟨lanes, .next lane (outbox.keys lane), report⟩
  | admitted {lanes : List Lane} {lane : Lane} {key : String} {later : List String}
      {report : Report} :
      PassStep profile outbox ⟨lanes, .ask lane key later, report⟩ true (.asked true) outbox
        ⟨lanes, .look lane key later, report⟩
  | shut {lanes : List Lane} {lane : Lane} {key : String} {later : List String} {report : Report} :
      PassStep profile outbox ⟨lanes, .ask lane key later, report⟩ false (.asked false) outbox
        ⟨lanes, .enter, report⟩
  | exhausted {lanes : List Lane} {lane : Lane} {key : String} {later : List String}
      {report : Report} {answer : Bool} (empty : outbox.queue lane key = []) :
      PassStep profile outbox ⟨lanes, .look lane key later, report⟩ answer (.exhausted lane key)
        outbox ⟨lanes, .next lane later, report⟩
  | looked {lanes : List Lane} {lane : Lane} {key : String} {later : List String} {report : Report}
      {answer : Bool} {batch : List lane.Value} {message : Message}
      (front : (outbox.queue lane key).take (profile.batchLimit lane) = batch)
      (nonempty : batch ≠ []) (built : profile.batchMessage lane key batch = .ok message) :
      PassStep profile outbox ⟨lanes, .look lane key later, report⟩ answer
        (.batch lane key (.looked batch message)) outbox
        ⟨lanes, .publish lane key later batch message, report⟩
  | dropped {lanes : List Lane} {lane : Lane} {key : String} {later : List String}
      {report : Report} {answer : Bool} {batch : List lane.Value} {cause : BuildError}
      (front : (outbox.queue lane key).take (profile.batchLimit lane) = batch)
      (nonempty : batch ≠ []) (unbuilt : profile.batchMessage lane key batch = .error cause) :
      PassStep profile outbox ⟨lanes, .look lane key later, report⟩ answer
        (.batch lane key (.dropped batch)) outbox
        ⟨lanes, .acknowledge lane key later batch, (KeyEvent.dropped batch).report report⟩
  | accepted {lanes : List Lane} {lane : Lane} {key : String} {later : List String}
      {report : Report} {batch : List lane.Value} {message : Message} :
      PassStep profile outbox ⟨lanes, .publish lane key later batch message, report⟩ true
        (.batch lane key (.accepted batch message)) outbox
        ⟨lanes, .acknowledge lane key later batch, (KeyEvent.accepted batch message).report report⟩
  | refused {lanes : List Lane} {lane : Lane} {key : String} {later : List String}
      {report : Report} {batch : List lane.Value} {message : Message} :
      PassStep profile outbox ⟨lanes, .publish lane key later batch message, report⟩ false
        (.batch lane key (.refused batch message)) outbox
        ⟨lanes, .next lane later, (KeyEvent.refused batch message).report report⟩
  | removed {lanes : List Lane} {lane : Lane} {key : String} {later : List String}
      {report : Report} {answer : Bool} {batch : List lane.Value}
      (front : (outbox.queue lane key).take batch.length = batch) :
      PassStep profile outbox ⟨lanes, .acknowledge lane key later batch, report⟩ answer
        (.batch lane key (.removed batch)) (outbox.remove lane key batch.length)
        ⟨lanes, .ask lane key later, report⟩
  | kept {lanes : List Lane} {lane : Lane} {key : String} {later : List String} {report : Report}
      {answer : Bool} {batch : List lane.Value}
      (changed : (outbox.queue lane key).take batch.length ≠ batch) :
      PassStep profile outbox ⟨lanes, .acknowledge lane key later batch, report⟩ answer
        (.batch lane key (.kept batch)) outbox ⟨lanes, .next lane later, report⟩

variable {profile : Profile} {answer : Bool} {outbox : Outbox Queues} {occurrence : Occurrence}

/-- A look finds nothing, builds a message or gives a batch up. -/
theorem passStep_of_look {lanes : List Lane} {lane : Lane} {key : String} {later : List String}
    {report : Report}
    (occurs : occurrence? profile answer outbox ⟨lanes, .look lane key later, report⟩ =
      some occurrence) :
    PassStep profile outbox ⟨lanes, .look lane key later, report⟩ answer occurrence
      (Pass.step profile answer outbox ⟨lanes, .look lane key later, report⟩).1
      (Pass.step profile answer outbox ⟨lanes, .look lane key later, report⟩).2 := by
  simp only [occurrence?, Pass.step, Outbox.peek_eq] at occurs ⊢
  generalize front : (outbox.queue lane key).take (profile.batchLimit lane) = batch at occurs ⊢
  cases batch with
  | nil =>
    cases occurs
    have limited : profile.batchLimit lane ≠ 0 := Nat.ne_of_gt (batchLimit_pos profile lane)
    exact .exhausted ((List.take_eq_nil_iff.1 front).resolve_left limited)
  | cons first rest =>
    have nonempty : first :: rest ≠ [] := List.cons_ne_nil first rest
    cases built : profile.batchMessage lane key (first :: rest) with
    | ok message =>
      simp only [built, List.isEmpty_cons, Bool.false_eq_true, if_false] at occurs ⊢
      cases occurs
      exact .looked front nonempty built
    | error cause =>
      simp only [built, List.isEmpty_cons, Bool.false_eq_true, if_false] at occurs ⊢
      cases occurs
      exact .dropped front nonempty built

/-- Every step of a pass is in the list. -/
theorem passStep_of_occurrence {pass : Pass}
    (occurs : occurrence? profile answer outbox pass = some occurrence) :
    PassStep profile outbox pass answer occurrence (pass.step profile answer outbox).1
      (pass.step profile answer outbox).2 := by
  obtain ⟨lanes, stage, report⟩ := pass
  cases stage with
  | enter =>
    cases lanes with
    | nil => cases occurs
    | cons lane lanes =>
      cases occurs
      exact .entered
  | ask lane key later =>
    cases occurs
    cases answer with
    | true => exact .admitted
    | false => exact .shut
  | look lane key later => exact passStep_of_look occurs
  | publish lane key later batch message =>
    cases occurs
    cases answer with
    | true => exact .accepted
    | false => exact .refused
  | acknowledge lane key later batch =>
    simp only [occurrence?, Pass.step, Outbox.acknowledge_eq] at occurs ⊢
    by_cases front : (outbox.queue lane key).take batch.length = batch
    · simp only [front, if_true] at occurs ⊢
      cases occurs
      exact .removed front
    · simp only [front, if_false, Bool.false_eq_true] at occurs ⊢
      cases occurs
      exact .kept front

end EdgeGateway.Schedule
