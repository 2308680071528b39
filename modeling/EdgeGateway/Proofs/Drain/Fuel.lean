import EdgeGateway.Drain.Run
import EdgeGateway.Proofs.Schedule.Remaining
import EdgeGateway.Worker
import Mathlib.Algebra.BigOperators.Ring.List
import Mathlib.Algebra.Order.BigOperators.Group.List
import Mathlib.Algebra.Order.Group.Nat
import Mathlib.Algebra.Ring.Nat
import Mathlib.Data.List.Perm.Subperm

/-!
# How long a pass takes

`Pass.cost` bounds the steps that a pass over queues in memory still makes. It allows four steps for
every value that waits and four for finding out that a key is exhausted, so a pass over every lane
costs no more than `stepBound`. Every step lowers the cost (`Pass.cost_lt_of_step`), provided that
nothing is put meanwhile and that no empty batch is on its way.

So a drain is never cut short by its fuel (`isFinished_of_stepBound`), and a worker settles
(`Worker.isIdle_settle`).
-/

namespace EdgeGateway

namespace Drain

/-! ## The cost of a pass -/

/-- What it costs to take up a key. -/
def keyCost (outbox : Outbox Queues) (lane : Lane) (key : String) : Nat :=
  4 * (outbox.queue lane key).length + 4

/-- What it costs to take up some keys of a lane. -/
def keysCost (outbox : Outbox Queues) (lane : Lane) (keys : List String) : Nat :=
  (keys.map (keyCost outbox lane)).sum

/-- What it costs to enter a lane and to take up its keys. -/
def laneCost (outbox : Outbox Queues) (lane : Lane) : Nat :=
  keysCost outbox lane (outbox.keys lane) + 1

/-- What it costs to leave the lane of a stage. -/
def Stage.cost (outbox : Outbox Queues) : Stage → Nat
  | .enter => 0
  | .ask lane key later => 4 * (outbox.queue lane key).length + 4 + keysCost outbox lane later
  | .look lane key later => 4 * (outbox.queue lane key).length + 3 + keysCost outbox lane later
  | .publish lane key later _ _ =>
    4 * (outbox.queue lane key).length + 2 + keysCost outbox lane later
  | .acknowledge lane key later _ =>
    4 * (outbox.queue lane key).length + 1 + keysCost outbox lane later

/-- What it costs to finish a pass. -/
def Pass.cost (outbox : Outbox Queues) (pass : Pass) : Nat :=
  (pass.lanes.map (laneCost outbox)).sum + pass.stage.cost outbox

/-- Whether the batch that is on its way in a stage, if there is one, has values. -/
def Stage.Loaded : Stage → Prop
  | .publish _ _ _ batch _ | .acknowledge _ _ _ batch => batch ≠ []
  | .enter | .ask _ _ _ | .look _ _ _ => True

/-- Going on to the next key costs what the keys cost that are left. -/
@[simp] theorem Stage.cost_next (outbox : Outbox Queues) (lane : Lane) (later : List String) :
    (Stage.next lane later).cost outbox = keysCost outbox lane later := by
  cases later <;> rfl

/-- Nothing is on its way when a pass goes on to the next key. -/
@[simp] theorem Stage.loaded_next (lane : Lane) (later : List String) :
    (Stage.next lane later).Loaded := by
  cases later <;> trivial

/-- Only batches with values are taken up. -/
theorem Pass.loaded_of_step {Backlog : Type → Type} [Store Backlog] {profile : Profile}
    {answer : Bool} {outbox : Outbox Backlog} {pass : Pass} (loaded : pass.stage.Loaded) :
    (pass.step profile answer outbox).2.stage.Loaded := by
  obtain ⟨lanes, stage, report⟩ := pass
  cases stage with
  | enter =>
    cases lanes with
    | nil => trivial
    | cons lane lanes => exact Stage.loaded_next _ _
  | ask lane key later => cases answer <;> trivial
  | look lane key later =>
    simp only [step]
    split
    · exact Stage.loaded_next _ _
    · rename_i nonempty
      have filled : (outbox.peek lane key (profile.batchLimit lane)).1 ≠ [] := fun empty =>
        nonempty (List.isEmpty_iff.2 empty)
      split <;> exact filled
  | publish lane key later batch message =>
    cases answer with
    | true => exact loaded
    | false => exact Stage.loaded_next _ _
  | acknowledge lane key later batch =>
    simp only [step]
    cases (outbox.acknowledge lane key batch).1 with
    | true => trivial
    | false => exact Stage.loaded_next _ _

/-! ## A pass over fewer values -/

/-- Things cost no more than all things among which they are, if none occurs twice. -/
theorem sum_le_of_subset {Thing : Type} (cost : Thing → Nat) {things all : List Thing}
    (once : things.Nodup) (among : things ⊆ all) : (things.map cost).sum ≤ (all.map cost).sum := by
  obtain ⟨same, permuted, sublist⟩ := once.subperm among
  calc
    (things.map cost).sum = (same.map cost).sum := (permuted.symm.map cost).sum_eq
    _ ≤ (all.map cost).sum := (sublist.map cost).sum_le_sum fun _ _ => Nat.zero_le _

section Fewer

variable {outbox fewer : Outbox Queues}

/-- Keys cost no more when fewer values wait. -/
theorem keysCost_mono
    (order : ∀ lane key, (fewer.queue lane key).length ≤ (outbox.queue lane key).length)
    (lane : Lane) (keys : List String) : keysCost fewer lane keys ≤ keysCost outbox lane keys := by
  refine List.sum_le_sum fun key _ => ?_
  have shorter := order lane key
  unfold keyCost
  omega

/-- A lane costs no more when fewer values wait. -/
theorem laneCost_mono (compact : outbox.Compact) (compactFewer : fewer.Compact)
    (order : ∀ lane key, (fewer.queue lane key).length ≤ (outbox.queue lane key).length)
    (lane : Lane) : laneCost fewer lane ≤ laneCost outbox lane := by
  have among : fewer.keys lane ⊆ outbox.keys lane := by
    intro key listed
    have waits := compactFewer.mem_keys_iff.1 listed
    refine compact.mem_keys_iff.2 fun empty => waits ?_
    have shorter := order lane key
    rw [empty] at shorter
    exact List.length_eq_zero_iff.1 (Nat.le_zero.1 shorter)
  have listed : keysCost outbox lane (fewer.keys lane) ≤ keysCost outbox lane (outbox.keys lane) :=
    sum_le_of_subset _ (compactFewer.nodup_keys lane) among
  have valued := keysCost_mono order lane (fewer.keys lane)
  unfold laneCost
  omega

/-- A removal leaves no more values waiting. -/
theorem length_queue_remove_le (outbox : Outbox Queues) (lane : Lane) (key : String) (limit : Nat)
    (other : Lane) (otherKey : String) :
    ((outbox.remove lane key limit).queue other otherKey).length ≤
      (outbox.queue other otherKey).length := by
  by_cases here : lane = other ∧ key = otherKey
  · obtain ⟨rfl, rfl⟩ := here
    rw [Outbox.queue_remove_self, List.length_drop]
    exact Nat.sub_le _ _
  · rw [Outbox.queue_remove_of_ne _ here]

/-- Lanes cost no more after a removal. -/
theorem lanesCost_remove_le (compact : outbox.Compact) (lane : Lane) (key : String) (limit : Nat)
    (lanes : List Lane) :
    (lanes.map (laneCost (outbox.remove lane key limit))).sum ≤
      (lanes.map (laneCost outbox)).sum :=
  List.sum_le_sum fun other _ =>
    laneCost_mono compact (compact.remove _ _ _) (length_queue_remove_le outbox lane key limit) other

end Fewer

/-! ## Every step lowers the cost -/

/-- Removing a batch with values pays for one more round of its key. -/
theorem Pass.cost_lt_of_removed {outbox : Outbox Queues} (compact : outbox.Compact) {lane : Lane}
    {key : String} {batch : List lane.Value} (loaded : batch ≠ [])
    (front : (outbox.queue lane key).take batch.length = batch) (lanes : List Lane)
    (later : List String) (report : Report) :
    Pass.cost (outbox.remove lane key batch.length) ⟨lanes, .ask lane key later, report⟩ <
      Pass.cost outbox ⟨lanes, .acknowledge lane key later batch, report⟩ := by
  have some : 0 < batch.length := List.length_pos_iff.2 loaded
  have whole : batch.length ≤ (outbox.queue lane key).length := by
    have taken := congrArg List.length front
    rw [List.length_take] at taken
    omega
  have lanesCost := lanesCost_remove_le compact lane key batch.length lanes
  have laterCost := keysCost_mono (length_queue_remove_le outbox lane key batch.length) lane later
  simp only [cost, Stage.cost, Outbox.queue_remove_self, List.length_drop]
  omega

/-- A step of a pass lowers its cost. -/
theorem Pass.cost_lt_of_step (profile : Profile) (answer : Bool) {outbox : Outbox Queues}
    {pass : Pass} (compact : outbox.Compact) (loaded : pass.stage.Loaded)
    (unfinished : pass.isFinished = false) :
    (pass.step profile answer outbox).2.cost (pass.step profile answer outbox).1 <
      pass.cost outbox := by
  obtain ⟨lanes, stage, report⟩ := pass
  cases stage with
  | enter =>
    cases lanes with
    | nil => cases unfinished
    | cons lane lanes =>
      simp only [step, cost, Stage.cost_next, List.map_cons, List.sum_cons, laneCost]
      omega
  | ask lane key later =>
    cases answer <;>
    · simp only [step, Bool.false_eq_true, if_true, if_false, cost, Stage.cost]
      omega
  | look lane key later =>
    simp only [step, Outbox.peek_eq]
    split
    · simp only [cost, Stage.cost_next]
      simp only [Stage.cost]
      omega
    · split <;>
      · simp only [cost, Stage.cost]
        omega
  | publish lane key later batch message =>
    cases answer with
    | true =>
      simp only [step, if_true, cost, Stage.cost]
      omega
    | false =>
      simp only [step, Bool.false_eq_true, if_false, cost, Stage.cost_next]
      simp only [Stage.cost]
      omega
  | acknowledge lane key later batch =>
    simp only [step, Outbox.acknowledge_eq]
    split
    · rename_i front
      exact cost_lt_of_removed compact loaded front lanes later report
    · simp only [Bool.false_eq_true, if_false, cost, Stage.cost_next]
      simp only [Stage.cost]
      omega

/-! ## Passes finish -/

/-- The keys of a lane cost eight steps for each value at most. -/
theorem keysCost_keys_le {outbox : Outbox Queues} (compact : outbox.Compact) (lane : Lane) :
    keysCost outbox lane (outbox.keys lane) ≤ 8 * (outbox.lanes.get lane).size := by
  have rowCost : ∀ row ∈ (outbox.lanes.get lane).pending.rows,
      keyCost outbox lane row.1 ≤ 8 * row.2.length := by
    intro row member
    have waiting : outbox.queue lane row.1 = row.2 :=
      Queues.Compact.queue_of_mem (compact lane) member
    have filled := List.length_pos_iff.2 ((compact lane).filled row member)
    unfold keyCost
    rw [waiting]
    omega
  have size : (outbox.lanes.get lane).size =
      ((outbox.lanes.get lane).pending.rows.map fun row => row.2.length).sum := by
    rw [List.sum_eq_foldl, List.foldl_map]
    rfl
  calc
    keysCost outbox lane (outbox.keys lane) =
        ((outbox.lanes.get lane).pending.rows.map fun row => keyCost outbox lane row.1).sum := by
      unfold keysCost
      rw [show outbox.keys lane = (outbox.lanes.get lane).pending.rows.map Prod.fst from rfl,
        List.map_map]
      rfl
    _ ≤ ((outbox.lanes.get lane).pending.rows.map fun row => 8 * row.2.length).sum :=
      List.sum_le_sum rowCost
    _ = 8 * (outbox.lanes.get lane).size := by rw [size, List.sum_map_mul_left]

/-- A pass that has not entered a lane yet takes no more steps than a drain allows. -/
theorem Pass.cost_le_stepBound {outbox : Outbox Queues} (compact : outbox.Compact)
    {lanes : List Lane} (once : lanes.Nodup) (arrivals : Nat) :
    Pass.cost outbox { lanes } + 4 ≤ stepBound outbox arrivals := by
  have lanesCost := sum_le_of_subset (laneCost outbox) once fun lane _ =>
    (by cases lane <;> decide : lane ∈ Lane.all)
  have readings := keysCost_keys_le compact .readings
  have alarms := keysCost_keys_le compact .alarms
  have statuses := keysCost_keys_le compact .statuses
  have configurations := keysCost_keys_le compact .configurations
  have size : outbox.size = (outbox.lanes.get .readings).size + (outbox.lanes.get .alarms).size +
      (outbox.lanes.get .statuses).size + (outbox.lanes.get .configurations).size := by
    change 0 + _ + _ + _ + _ = _
    rw [Nat.zero_add]
    rfl
  simp only [Lane.all, List.map_cons, List.map_nil, List.sum_cons, List.sum_nil,
    laneCost] at lanesCost
  simp only [Pass.cost, Stage.cost, stepBound, size]
  omega

/-- Whether a sink leaves the outbox alone while it publishes. -/
def Still {World : Type}
    (publish : Message → Outbox Queues → World → Bool × Outbox Queues × World) : Prop :=
  ∀ message outbox world, (publish message outbox world).2.1 = outbox

namespace Running

variable {World : Type} {profile : Profile} {surroundings : Surroundings Queues World}

/-- A running pass makes a step, whatever it is answered. -/
theorem exists_step_of_advance (profile : Profile) (still : Still surroundings.publish)
    (running : Running Queues World) :
    ∃ answer,
      (running.advance profile surroundings).outbox =
          (running.pass.step profile answer running.outbox).1 ∧
        (running.advance profile surroundings).pass =
          (running.pass.step profile answer running.outbox).2 := by
  obtain ⟨outbox, world, ⟨lanes, stage, report⟩⟩ := running
  cases stage with
  | publish lane key later batch message =>
    refine ⟨(surroundings.publish message outbox world).1, ?_⟩
    simp only [advance, still message outbox world, and_self]
  | ask lane key later => exact ⟨(surroundings.gate outbox world).1, rfl, rfl⟩
  | enter | look | acknowledge => exact ⟨false, rfl, rfl⟩

/-- A running pass finishes within as many steps as it costs. -/
theorem isFinished_finish (still : Still surroundings.publish) {fuel : Nat}
    {running : Running Queues World} (compact : running.outbox.Compact)
    (loaded : running.pass.stage.Loaded) (enough : running.pass.cost running.outbox ≤ fuel) :
    (running.finish profile surroundings fuel).pass.isFinished = true := by
  induction fuel generalizing running with
  | zero =>
    by_contra unfinished
    have less := Pass.cost_lt_of_step profile true compact loaded
      (Bool.not_eq_true _ ▸ unfinished)
    omega
  | succ fuel inductionHypothesis =>
    rw [finish]
    split
    · assumption
    · rename_i unfinished
      obtain ⟨answer, outbox, pass⟩ := exists_step_of_advance profile still running
      have less := Pass.cost_lt_of_step profile answer compact loaded
        (Bool.not_eq_true _ ▸ unfinished)
      rw [← outbox, ← pass] at less
      refine inductionHypothesis ?_ ?_ (by omega)
      · rw [outbox]
        exact Pass.compact_of_step compact
      · rw [pass]
        exact Pass.loaded_of_step loaded

end Running

/-- **Drains are not cut short.** The pass of a drain over some lanes is finished when the drain
ends. -/
theorem isFinished_of_stepBound {World : Type} {surroundings : Surroundings Queues World}
    (still : Still surroundings.publish) (profile : Profile) {outbox : Outbox Queues}
    (compact : outbox.Compact) {lanes : List Lane} (once : lanes.Nodup) (arrivals : Nat)
    (world : World) :
    (Running.finish profile surroundings (stepBound outbox arrivals)
      { outbox, world, pass := { lanes } }).pass.isFinished = true := by
  have bound := Pass.cost_le_stepBound compact once arrivals
  exact Running.isFinished_finish still compact trivial (Nat.le_of_add_right_le bound)

end Drain

/-! ## Workers settle -/

namespace Worker

open Drain (Still)

/-- What it costs to wake up, if there is reason to. -/
def wakeCost (outbox : Outbox Queues) : Nat :=
  if isWoken outbox then Drain.Pass.cost outbox { lanes := Lane.drainOrder } + 3 else 0

/-- What it costs a worker to become idle. -/
def cost (outbox : Outbox Queues) : Worker → Nat
  | waiting => wakeCost outbox
  | draining pass => pass.cost outbox + 1 + wakeCost outbox
  | left => 0

/-- Whether the batch that a worker has on its way, if there is one, has values. -/
def Loaded : Worker → Prop
  | draining pass => pass.stage.Loaded
  | waiting | left => True

variable {outbox : Outbox Queues} {worker : Worker}

/-- It costs no more to wake up after a step of a pass. -/
theorem wakeCost_le_of_step (profile : Profile) (answer : Bool) (compact : outbox.Compact)
    (pass : Drain.Pass) :
    wakeCost (pass.step profile answer outbox).1 ≤ wakeCost outbox := by
  rcases pass.step_outbox with same | ⟨lane, key, later, batch, -, removed⟩
  · rw [same]
  · have woken : isWoken (outbox.remove lane key batch.length) = isWoken outbox := rfl
    have lanesCost :=
      Drain.lanesCost_remove_le compact lane key batch.length Lane.drainOrder
    rw [removed]
    unfold wakeCost Drain.Pass.cost
    rw [woken]
    split
    · simp only [Drain.Stage.cost]
      omega
    · exact Nat.le_refl 0

/-- An idle worker does not drain. -/
theorem ne_draining_of_isIdle (idle : worker.isIdle outbox = true) (pass : Drain.Pass) :
    worker ≠ draining pass := by
  rintro rfl
  cases idle

/-- A step of a worker that is not idle lowers its cost. -/
theorem cost_lt_of_step (profile : Profile) (accepted : Bool) (compact : outbox.Compact)
    (loaded : worker.Loaded) (busy : worker.isIdle outbox = false) :
    (worker.step profile accepted outbox).2.cost (worker.step profile accepted outbox).1 <
      worker.cost outbox := by
  cases worker with
  | left => cases busy
  | waiting =>
    have woken : isWoken outbox = true := by simpa [isIdle] using busy
    by_cases running : outbox.running = true
    · have roused : (outbox.connected && outbox.signalled) = true := by
        simpa [isWoken, running] using woken
      have calm : isWoken { outbox with signalled := false } = false := by
        simp [isWoken, running]
      have began : waiting.step profile accepted outbox =
          ({ outbox with signalled := false }, draining { lanes := Lane.drainOrder }) := by
        simp [step, running, roused]
      have same : Drain.Pass.cost { outbox with signalled := false } { lanes := Lane.drainOrder } =
          Drain.Pass.cost outbox { lanes := Lane.drainOrder } := rfl
      rw [began]
      simp only [cost, wakeCost, calm, woken, same, Bool.false_eq_true, if_true, if_false]
      omega
    · simp [step, running, cost, wakeCost, woken]
  | draining pass =>
    simp only [step]
    split
    · simp only [cost]
      omega
    · rename_i unfinished
      have less := Drain.Pass.cost_lt_of_step profile (answer outbox accepted pass.stage)
        compact loaded
        (Bool.not_eq_true _ ▸ unfinished)
      have wake := wakeCost_le_of_step profile (answer outbox accepted pass.stage) compact pass
      simp only [cost]
      omega

/-- A step of a worker keeps an outbox compact. -/
theorem compact_of_step (profile : Profile) (accepted : Bool) (compact : outbox.Compact) :
    (worker.step profile accepted outbox).1.Compact := by
  cases worker with
  | left => exact compact
  | waiting =>
    simp only [step]
    split
    · exact compact
    · split
      · exact compact.congr rfl
      · exact compact
  | draining pass =>
    simp only [step]
    split
    · exact compact
    · exact Drain.Pass.compact_of_step compact

/-- A worker takes up only batches with values. -/
theorem loaded_of_step (profile : Profile) (accepted : Bool) (loaded : worker.Loaded) :
    (worker.step profile accepted outbox).2.Loaded := by
  cases worker with
  | left => trivial
  | waiting =>
    simp only [step]
    split
    · trivial
    · split <;> trivial
  | draining pass =>
    simp only [step]
    split
    · trivial
    · exact Drain.Pass.loaded_of_step loaded

variable {World : Type} {publish : Message → Outbox Queues → World → Bool × Outbox Queues × World}

/-- What a worker does within some fuel if it is not idle: one step, and then the rest. -/
theorem settleWithin_succ (still : Still publish) (profile : Profile) (fuel : Nat) (world : World)
    (busy : worker.isIdle outbox = false) :
    ∃ accepted after,
      settleWithin profile publish (fuel + 1) worker outbox world =
        settleWithin profile publish fuel (worker.step profile accepted outbox).2
          (worker.step profile accepted outbox).1 after := by
  rw [settleWithin, busy]
  cases worker.message? with
  | none => exact ⟨false, world, rfl⟩
  | some message =>
    refine ⟨(publish message outbox world).1, (publish message outbox world).2.2, ?_⟩
    simp only [still message outbox world, Bool.false_eq_true, if_false]

/-- A worker becomes idle within as many steps as it costs. -/
theorem isIdle_settleWithin (still : Still publish) (profile : Profile) {fuel : Nat} {world : World}
    (compact : outbox.Compact) (loaded : worker.Loaded) (enough : worker.cost outbox ≤ fuel) :
    let settled := settleWithin profile publish fuel worker outbox world
    settled.1.isIdle settled.2.1 = true := by
  induction fuel generalizing worker outbox world with
  | zero =>
    by_contra busy
    have less := cost_lt_of_step profile true compact loaded (Bool.not_eq_true _ ▸ busy)
    omega
  | succ fuel inductionHypothesis =>
    cases idle : worker.isIdle outbox with
    | true =>
      rw [settleWithin, idle]
      exact idle
    | false =>
      obtain ⟨accepted, after, stepped⟩ := settleWithin_succ still profile fuel world idle
      have less := cost_lt_of_step profile accepted compact loaded idle
      rw [stepped]
      exact inductionHypothesis (compact_of_step profile accepted compact)
        (loaded_of_step profile accepted loaded) (by omega)

/-- **Workers settle.** A worker that does not drain is idle again once it has settled. -/
theorem isIdle_settle (still : Still publish) (profile : Profile) (arrivals : Nat) (world : World)
    (compact : outbox.Compact) (outside : ∀ pass, worker ≠ draining pass) :
    let settled := worker.settle profile publish arrivals outbox world
    settled.1.isIdle settled.2.1 = true := by
  have bound : Drain.Pass.cost outbox { lanes := Lane.drainOrder } + 4 ≤
      Drain.stepBound outbox arrivals :=
    Drain.Pass.cost_le_stepBound compact (by decide) arrivals
  have passes : 2 * (Drain.stepBound outbox arrivals + 2) ≤
      (arrivals + 2) * (Drain.stepBound outbox arrivals + 2) :=
    Nat.mul_le_mul_right _ (Nat.le_add_left 2 arrivals)
  refine isIdle_settleWithin still profile compact ?_ ?_
  · cases worker with
    | draining pass => exact absurd rfl (outside pass)
    | waiting | left => trivial
  · cases worker with
    | draining pass => exact absurd rfl (outside pass)
    | left => exact Nat.zero_le _
    | waiting =>
      simp only [cost, wakeCost]
      split <;> omega

end Worker

end EdgeGateway
