import EdgeGateway.Proofs.Backlog.Queued
import EdgeGateway.Proofs.Drain.Batch

/-!
# Taking a batch through

A drain whose gate is always open and whose sink judges by the message alone (`judging`) takes a
course that can be told in advance, over any store that is read as queues. Here it is followed for
one batch: a batch that leaves its queue is removed, and its key is taken up again; a batch that is
refused stays, and the next key is taken up; and so it is if nothing is found.

`Running.Proceeds` counts the steps and lists the deeds of such a piece, so that pieces can be
strung together.
-/

namespace EdgeGateway

/-! ## Replacing a store -/

/-- Of two stores set for one lane the second stays. -/
@[simp] theorem Lanes.set_set {Backlog : Type → Type} (lanes : Lanes Backlog) (lane : Lane)
    (first second : Backlog lane.Value) :
    (lanes.set lane first).set lane second = lanes.set lane second := by
  cases lane <;> rfl

namespace Outbox

variable {Backlog : Type → Type}

/-- The outbox with the store of one lane replaced. -/
def withStore (outbox : Outbox Backlog) (lane : Lane) (store : Backlog lane.Value) :
    Outbox Backlog :=
  { outbox with lanes := outbox.lanes.set lane store }

variable (outbox : Outbox Backlog) (lane : Lane) (store : Backlog lane.Value)

/-- The store put in place is found there. -/
@[simp] theorem get_lanes_withStore : (outbox.withStore lane store).lanes.get lane = store :=
  Lanes.get_set_self _ _ _

/-- The other stores are left. -/
theorem get_lanes_withStore_of_ne {other : Lane} (different : other ≠ lane) :
    (outbox.withStore lane store).lanes.get other = outbox.lanes.get other :=
  Lanes.get_set_of_ne _ _ different

/-- Of two stores put in place of one the second stays. -/
@[simp] theorem withStore_withStore (second : Backlog lane.Value) :
    (outbox.withStore lane store).withStore lane second = outbox.withStore lane second := by
  simp [withStore]

/-- Putting in place what is there changes nothing. -/
@[simp] theorem withStore_get : outbox.withStore lane (outbox.lanes.get lane) = outbox := by
  simp [withStore]

variable [Store Backlog] (key : String)

/-- Looking at a key changes the store of its lane. -/
theorem peek_withStore (limit : Nat) :
    (outbox.withStore lane store).peek lane key limit =
      ((Store.peek store key limit).1,
        outbox.withStore lane (Store.peek store key limit).2) := by
  simp [peek, withStore]

variable [Queued Backlog] [LawfulQueued Backlog] {lane store key}

/-- What still stands in front of a queue is acknowledged. -/
theorem acknowledge_withStore {batch : List lane.Value}
    (front : (Queued.waiting store key).take batch.length = batch) :
    (outbox.withStore lane store).acknowledge lane key batch =
      (true, outbox.withStore lane
        (Store.remove (Store.peek store key batch.length).2 key batch.length)) := by
  have found : (Store.peek store key batch.length).1 = batch :=
    (LawfulQueued.values_peek store key batch.length).trans front
  rw [acknowledge, peek_withStore]
  simp only [found, if_true]
  simp [remove, withStore]

end Outbox

namespace Drain

/-! ## Proceeding -/

section Proceeding

variable {Backlog : Type → Type} [Store Backlog] {World : Type} {profile : Profile}
  {surroundings : Surroundings Backlog World}

namespace Running

/-- What a running pass does in some steps, and where it stands after them. -/
structure Proceeds (profile : Profile) (surroundings : Surroundings Backlog World)
    (start : Running Backlog World) (steps : Nat) (done : List Deed)
    (next : Running Backlog World) : Prop where
  deeds : ∀ fuel, start.deeds profile surroundings (fuel + steps) =
    done ++ next.deeds profile surroundings fuel
  finish : ∀ fuel, start.finish profile surroundings (fuel + steps) =
    next.finish profile surroundings fuel

variable {start middle next : Running Backlog World} {first second : Nat} {done more : List Deed}

/-- No steps lead nowhere. -/
theorem Proceeds.refl (start : Running Backlog World) :
    Proceeds profile surroundings start 0 [] start where
  deeds _ := rfl
  finish _ := rfl

/-- Steps after steps. -/
theorem Proceeds.trans (before : Proceeds profile surroundings start first done middle)
    (after : Proceeds profile surroundings middle second more next) :
    Proceeds profile surroundings start (first + second) (done ++ more) next where
  deeds fuel := by
    rw [Nat.add_comm first, ← Nat.add_assoc, before.deeds, after.deeds, List.append_assoc]
  finish fuel := by
    rw [Nat.add_comm first, ← Nat.add_assoc, before.finish, after.finish]

/-- A pass that is not finished makes a step. -/
theorem Proceeds.step (unfinished : start.pass.isFinished = false) (deed? : Option Deed)
    (does : start.deed? surroundings = deed?) (leads : start.advance profile surroundings = next) :
    Proceeds profile surroundings start 1 deed?.toList next where
  deeds fuel := by
    rw [Running.deeds, unfinished, does, leads]
    rfl
  finish fuel := by
    rw [Running.finish, unfinished, leads]
    rfl

/-- A pass that is finished does nothing more. -/
theorem Proceeds.finished (proceeds : Proceeds profile surroundings start first done next)
    (finished : next.pass.isFinished = true) {fuel : Nat} (enough : first ≤ fuel) :
    start.deeds profile surroundings fuel = done ∧
      start.finish profile surroundings fuel = next := by
  obtain ⟨rest, rfl⟩ := Nat.exists_eq_add_of_le' enough
  rw [proceeds.deeds, proceeds.finish]
  cases rest with
  | zero => exact ⟨List.append_nil _, rfl⟩
  | succ rest =>
    rw [Running.deeds, Running.finish, finished]
    exact ⟨List.append_nil _, rfl⟩

end Running

end Proceeding

/-- A gate that is always open, and a sink that judges by the message alone. -/
def judging {Backlog : Type → Type} (accepts : Message → Bool) : Surroundings Backlog Unit where
  gate _ _ := (true, ())
  publish message outbox _ := (accepts message, outbox, ())

open Running (Proceeds)

variable {Backlog : Type → Type} [Store Backlog]

/-- A drain in a stage of a lane, with a store in place of the lane's. -/
def standing (outbox : Outbox Backlog) (lanes : List Lane) {lane : Lane}
    (store : Backlog lane.Value) (stage : Stage) (report : Report) : Running Backlog Unit where
  outbox := outbox.withStore lane store
  world := ()
  pass := { lanes, stage, report }

variable {profile : Profile} {accepts : Message → Bool} {outbox : Outbox Backlog}
  {lanes : List Lane} {lane : Lane} {key : String} {later : List String} {report : Report}
  {store : Backlog lane.Value} {batch : List lane.Value} {message : Message}

/-! ## One batch -/

/-- A key is asked for. -/
theorem proceeds_asked :
    Proceeds profile (judging accepts)
      (standing outbox lanes store (.ask lane key later) report) 1 [.asked true]
      (standing outbox lanes store (.look lane key later) report) :=
  .step rfl _ rfl rfl

variable [Queued Backlog] [LawfulQueued Backlog]

/-- A pass that finds nothing goes on to the next key. -/
theorem proceeds_exhausted (empty : Queued.waiting store key = []) :
    Proceeds profile (judging accepts)
      (standing outbox lanes store (.ask lane key later) report) 2 [.asked true]
      (standing outbox lanes (Store.peek store key (profile.batchLimit lane)).2
        (.next lane later) report) := by
  refine proceeds_asked.trans (.step rfl none rfl ?_)
  have nothing := LawfulQueued.values_peek store key (profile.batchLimit lane)
  rw [empty, List.take_nil] at nothing
  simp only [standing, Running.advance, Pass.step, Outbox.peek_withStore, nothing,
    List.isEmpty_nil, if_true]

section Found

variable (front : (Queued.waiting store key).take (profile.batchLimit lane) = batch)
  (filled : batch ≠ [])

include front filled

/-- A pass that finds a batch builds its message. -/
theorem proceeds_built (built : profile.batchMessage lane key batch = .ok message) :
    Proceeds profile (judging accepts)
      (standing outbox lanes store (.ask lane key later) report) 2 [.asked true]
      (standing outbox lanes (Store.peek store key (profile.batchLimit lane)).2
        (.publish lane key later batch message) report) := by
  refine proceeds_asked.trans (.step rfl none rfl ?_)
  have found := LawfulQueued.values_peek store key (profile.batchLimit lane)
  rw [front] at found
  simp only [standing, Running.advance, Pass.step, Outbox.peek_withStore, found,
    List.isEmpty_eq_false_iff.2 filled, Bool.false_eq_true, if_false, built]

/-- A batch that has no message is counted as dropped and is about to be removed. -/
theorem proceeds_unbuilt {cause : BuildError}
    (unbuilt : profile.batchMessage lane key batch = .error cause) :
    Proceeds profile (judging accepts)
      (standing outbox lanes store (.ask lane key later) report) 2 [.asked true]
      (standing outbox lanes (Store.peek store key (profile.batchLimit lane)).2
        (.acknowledge lane key later batch) (report.merge (.ofFates [.dropped]))) := by
  refine proceeds_asked.trans (.step rfl none rfl ?_)
  have found := LawfulQueued.values_peek store key (profile.batchLimit lane)
  rw [front] at found
  simp only [standing, Running.advance, Pass.step, Outbox.peek_withStore, found,
    List.isEmpty_eq_false_iff.2 filled, Bool.false_eq_true, if_false, unbuilt]
  rfl

end Found

omit [Queued Backlog] [LawfulQueued Backlog] in
/-- A message that is accepted is counted, and its batch is about to be removed. -/
theorem proceeds_accepted (accepted : accepts message = true) :
    Proceeds profile (judging accepts)
      (standing outbox lanes store (.publish lane key later batch message) report) 1
      [.offered message true]
      (standing outbox lanes store (.acknowledge lane key later batch)
        (report.merge (.ofFates [.sent message]))) := by
  refine .step rfl (some (.offered message true)) ?_ ?_
  · simp only [standing, Running.deed?, judging, accepted]
  · simp only [standing, Running.advance, judging, Pass.step, accepted, if_true]
    rfl

omit [Queued Backlog] [LawfulQueued Backlog] in
/-- A message that is refused is counted, and the next key is taken up. -/
theorem proceeds_refused (refused : accepts message = false) :
    Proceeds profile (judging accepts)
      (standing outbox lanes store (.publish lane key later batch message) report) 1
      [.offered message false]
      (standing outbox lanes store (.next lane later)
        (report.merge (.ofFates [.refused message]))) := by
  refine .step rfl (some (.offered message false)) ?_ ?_
  · simp only [standing, Running.deed?, judging, refused]
  · simp only [standing, Running.advance, judging, Pass.step, refused, Bool.false_eq_true,
      if_false]
    rfl

/-- A batch that stands in front is removed, and its key is taken up again. -/
theorem proceeds_removed (front : (Queued.waiting store key).take batch.length = batch) :
    Proceeds profile (judging accepts)
      (standing outbox lanes store (.acknowledge lane key later batch) report) 1
      [.removed lane key batch]
      (standing outbox lanes
        (Store.remove (Store.peek store key batch.length).2 key batch.length)
        (.ask lane key later) report) := by
  have acknowledged := Outbox.acknowledge_withStore outbox front
  refine .step rfl (some (.removed lane key batch)) ?_ ?_
  · simp only [standing, Running.deed?, acknowledged, if_true]
  · simp only [standing, Running.advance, Pass.step, acknowledged, if_true]

/-- What is left of a store without a batch that was looked at, looked at again to see that it is
still in front, and removed. -/
def without (limit : Nat) (store : Backlog lane.Value) (key : String) (batch : List lane.Value) :
    Backlog lane.Value :=
  Store.remove (Store.peek (Store.peek store key limit).2 key batch.length).2 key batch.length

section Without

variable (orderly : Queued.Orderly store) (isKey : Queued.IsKey Backlog key) (limit : Nat)

include orderly

/-- The front of a queue is still in front once it was looked at. -/
theorem take_waiting_peek (front : (Queued.waiting store key).take limit = batch) :
    (Queued.waiting (Store.peek store key limit).2 key).take batch.length = batch := by
  rw [LawfulQueued.waiting_peek orderly, ← front]
  simp

include isKey

/-- Without a batch, everything under other keys is left. -/
theorem spares_without (batch : List lane.Value) :
    Queued.Spares key store (without limit store key batch) := by
  have looked := LawfulQueued.spares_peek orderly isKey limit
  have lookedAgain := LawfulQueued.spares_peek looked.orderly isKey batch.length
  exact (looked.trans lookedAgain).trans
    (LawfulQueued.spares_remove lookedAgain.orderly isKey batch.length)

/-- Without its front, what stood behind it is left of a queue. -/
theorem waiting_without (front : (Queued.waiting store key).take limit = batch) :
    Queued.waiting (without limit store key batch) key =
      (Queued.waiting store key).drop limit := by
  have looked := LawfulQueued.spares_peek orderly isKey limit
  have lookedAgain := LawfulQueued.spares_peek looked.orderly isKey batch.length
  rw [without, LawfulQueued.waiting_remove lookedAgain.orderly,
    LawfulQueued.waiting_peek looked.orderly, LawfulQueued.waiting_peek orderly, ← front]
  simp

end Without

/-- A batch that leaves its queue is taken through in four steps at most. -/
theorem exists_proceeds_departed (orderly : Queued.Orderly store)
    (front : (Queued.waiting store key).take (profile.batchLimit lane) = batch)
    (filled : batch ≠ []) (departs : departs profile accepts lane key batch = true) :
    ∃ steps ≤ 4, ∀ outbox lanes later report,
      Proceeds profile (judging accepts)
        (standing outbox lanes store (.ask lane key later) report) steps
        ((fate profile accepts lane key batch).deeds lane key batch)
        (standing outbox lanes (without (profile.batchLimit lane) store key batch)
          (.ask lane key later)
          (report.merge (.ofFates [fate profile accepts lane key batch]))) := by
  have frontAgain := take_waiting_peek orderly _ front
  unfold Drain.departs at departs
  obtain ⟨cause, unbuilt, fate⟩ | ⟨message, built, accepted, fate⟩ | ⟨message, -, -, fate⟩ :=
    fate_cases profile accepts lane key batch
  · rw [fate]
    exact ⟨3, by omega, fun _ _ _ _ =>
      (proceeds_unbuilt front filled unbuilt).trans (proceeds_removed frontAgain)⟩
  · rw [fate]
    exact ⟨4, by omega, fun _ _ _ _ => ((proceeds_built front filled built).trans
      (proceeds_accepted accepted)).trans (proceeds_removed frontAgain)⟩
  · rw [fate] at departs
    cases departs

/-- A batch that stays in its queue is refused, and the next key is taken up. -/
theorem proceeds_stayed (front : (Queued.waiting store key).take (profile.batchLimit lane) = batch)
    (filled : batch ≠ []) (stays : departs profile accepts lane key batch = false) :
    Proceeds profile (judging accepts)
      (standing outbox lanes store (.ask lane key later) report) 3
      ((fate profile accepts lane key batch).deeds lane key batch)
      (standing outbox lanes (Store.peek store key (profile.batchLimit lane)).2
        (.next lane later)
        (report.merge (.ofFates [fate profile accepts lane key batch]))) := by
  unfold departs at stays
  obtain ⟨cause, -, fate⟩ | ⟨message, -, -, fate⟩ | ⟨message, built, refused, fate⟩ :=
    fate_cases profile accepts lane key batch
  · rw [fate] at stays
    cases stays
  · rw [fate] at stays
    cases stays
  · rw [fate]
    exact (proceeds_built front filled built).trans (proceeds_refused refused)

end Drain

end EdgeGateway
