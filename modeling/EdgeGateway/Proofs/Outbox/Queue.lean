import EdgeGateway.Backlog.Queues
import EdgeGateway.Outbox.Basic
import EdgeGateway.Table.Ascending

/-!
# The outbox in memory

Over queues in memory, an outbox is a queue for each lane and key. `Outbox.queue` is that view; each
operation has one equation for the queue it is about and one for all the others. Looking changes
nothing, so `peek` and `acknowledge` are given whole.

A key is dropped together with its last value (`Outbox.Compact`), so the keys that are listed are
those under which something waits.
-/

namespace EdgeGateway

/-- The queue of a key once a value is put under it. -/
def Retention.push {Value : Type} : Retention → List Value → Value → List Value
  | .fifo, queue, value => queue ++ [value]
  | .lastValue, _, value => [value]

/-- Setting the store that is there changes nothing. -/
@[simp] theorem Lanes.set_get {Backlog : Type → Type} (lanes : Lanes Backlog) (lane : Lane) :
    lanes.set lane (lanes.get lane) = lanes := by
  cases lane <;> rfl

/-- Removing values keeps a store's retention. -/
@[simp] theorem Queues.retention_remove {Value : Type} (queues : Queues Value) (key : String)
    (limit : Nat) : (queues.remove key limit).retention = queues.retention := by
  unfold Queues.remove
  split <;> rfl

namespace Queues

variable {Value : Type} {queues : Queues Value}

/-- Queues as they come about: something waits under every key that is listed, and keys are listed
in ascending order. -/
structure Compact (queues : Queues Value) : Prop where
  filled : ∀ row ∈ queues.pending.rows, row.2 ≠ []
  ascending : queues.pending.Ascending

/-- A put leaves no key without values. -/
theorem Compact.put (compact : queues.Compact) (key : String) (value : Value) :
    (queues.put key value).Compact where
  filled row member := by
    rcases Table.mem_insertRow member with rfl | old
    · exact List.append_ne_nil_of_right_ne_nil _ (List.cons_ne_nil _ _)
    · exact compact.filled row old
  ascending := compact.ascending.insert _ _

/-- A removal drops the key if it takes the last value. -/
theorem Compact.remove (compact : queues.Compact) (key : String) (limit : Nat) :
    (queues.remove key limit).Compact := by
  unfold Queues.remove
  split
  · refine ⟨fun row member => ?_, compact.ascending.erase key⟩
    exact compact.filled row (List.mem_filter.1 member).1
  · rename_i rest waits
    refine ⟨fun row member => ?_, compact.ascending.insert key _⟩
    rcases Table.mem_insertRow member with rfl | old
    · exact waits
    · exact compact.filled row old

/-- A row of compact queues is the queue of its key. -/
theorem Compact.queue_of_mem (compact : queues.Compact) {row : String × List Value}
    (member : row ∈ queues.pending.rows) : queues.queue row.1 = row.2 := by
  unfold queue
  rw [compact.ascending.find?_of_mem member, Option.getD_some]

/-- A key is listed exactly if something waits under it. -/
theorem Compact.mem_keys_iff (compact : queues.Compact) {key : String} :
    key ∈ queues.pending.keys ↔ queues.queue key ≠ [] := by
  constructor
  · intro listed
    obtain ⟨row, member, rfl⟩ := List.mem_map.1 listed
    rw [compact.queue_of_mem member]
    exact compact.filled row member
  · intro waits
    refine Table.mem_keys_iff.2 (Option.isSome_iff_ne_none.2 fun none => waits ?_)
    rw [queue, none, Option.getD_none]

/-- Compact queues without values have no keys. -/
theorem Compact.isEmpty (compact : queues.Compact) (drained : ∀ key, queues.queue key = []) :
    queues.pending.isEmpty = true := by
  refine List.isEmpty_iff.2 (List.eq_nil_iff_forall_not_mem.2 fun row member => ?_)
  have waiting := compact.queue_of_mem member
  rw [drained] at waiting
  exact compact.filled row member waiting.symm

end Queues

namespace Outbox

/-- The values waiting under a key of a lane, oldest first. -/
def queue (outbox : Outbox Queues) (lane : Lane) (key : String) : List lane.Value :=
  (outbox.lanes.get lane).queue key

/-- Every store has the retention of its lane. -/
def Retains (outbox : Outbox Queues) : Prop :=
  ∀ lane, (outbox.lanes.get lane).retention = lane.retention

/-- The queues of every lane are compact. -/
def Compact (outbox : Outbox Queues) : Prop := ∀ lane, (outbox.lanes.get lane).Compact

variable {outbox : Outbox Queues}

/-- Nothing waits in a fresh outbox. -/
@[simp] theorem queue_fresh (lane : Lane) (key : String) :
    (fresh : Outbox Queues).queue lane key = [] := by
  cases lane <;> rfl

/-- The stores of a fresh outbox have the retentions of their lanes. -/
theorem retains_fresh : (fresh : Outbox Queues).Retains := by
  intro lane
  cases lane <;> rfl

/-- Queues depend on the lanes alone. -/
theorem queue_congr {other : Outbox Queues} (same : other.lanes = outbox.lanes) :
    other.queue = outbox.queue := by
  unfold queue
  rw [same]

/-- Retentions depend on the lanes alone. -/
theorem Retains.congr {other : Outbox Queues} (retains : outbox.Retains)
    (same : other.lanes = outbox.lanes) : other.Retains := by
  unfold Retains
  rw [same]
  exact retains

/-- Putting a value keeps the retentions. -/
theorem Retains.put (retains : outbox.Retains) (lane : Lane) (key : String)
    (value : lane.Value) : (outbox.put lane key value).Retains := by
  intro other
  by_cases same : other = lane
  · subst same
    rw [get_lanes_put_self]
    exact retains other
  · rw [get_lanes_put_of_ne _ _ _ same]
    exact retains other

/-- Removing values keeps the retentions. -/
theorem Retains.remove (retains : outbox.Retains) (lane : Lane) (key : String) (limit : Nat) :
    (outbox.remove lane key limit).Retains := by
  intro other
  by_cases same : other = lane
  · subst same
    rw [get_lanes_remove_self]
    exact (Queues.retention_remove _ _ _).trans (retains other)
  · rw [get_lanes_remove_of_ne _ _ _ same]
    exact retains other

/-- A put pushes its value onto the queue of its key, as the lane retains it. -/
theorem queue_put_self (retains : outbox.Retains) (lane : Lane) (key : String)
    (value : lane.Value) :
    (outbox.put lane key value).queue lane key =
      lane.retention.push (outbox.queue lane key) value := by
  unfold queue
  rw [get_lanes_put_self, ← retains lane]
  refine (Queues.queue_put_self _ key value).trans ?_
  cases (outbox.lanes.get lane).retention <;> rfl

/-- A put leaves every other queue as it is. -/
theorem queue_put_of_ne {lane other : Lane} {key otherKey : String} (value : lane.Value)
    (different : ¬ (lane = other ∧ key = otherKey)) :
    (outbox.put lane key value).queue other otherKey = outbox.queue other otherKey := by
  unfold queue
  by_cases same : lane = other
  · subst same
    rw [get_lanes_put_self]
    exact Queues.queue_put_of_ne _ value fun equal => different ⟨rfl, equal.symm⟩
  · rw [get_lanes_put_of_ne _ _ _ (Ne.symm same)]

/-- A removal drops values from the front of its queue. -/
@[simp] theorem queue_remove_self (lane : Lane) (key : String) (limit : Nat) :
    (outbox.remove lane key limit).queue lane key = (outbox.queue lane key).drop limit := by
  unfold queue
  rw [get_lanes_remove_self]
  exact Queues.queue_remove_self _ key limit

/-- A removal leaves every other queue as it is. -/
theorem queue_remove_of_ne {lane other : Lane} {key otherKey : String} (limit : Nat)
    (different : ¬ (lane = other ∧ key = otherKey)) :
    (outbox.remove lane key limit).queue other otherKey = outbox.queue other otherKey := by
  unfold queue
  by_cases same : lane = other
  · subst same
    rw [get_lanes_remove_self]
    exact Queues.queue_remove_of_ne _ limit fun equal => different ⟨rfl, equal.symm⟩
  · rw [get_lanes_remove_of_ne _ _ _ (Ne.symm same)]

/-- Looking gives the front of a queue and changes nothing. -/
theorem peek_eq (outbox : Outbox Queues) (lane : Lane) (key : String) (limit : Nat) :
    outbox.peek lane key limit = ((outbox.queue lane key).take limit, outbox) := by
  change ((outbox.queue lane key).take limit,
    { outbox with lanes := outbox.lanes.set lane (outbox.lanes.get lane) }) = _
  rw [Lanes.set_get]

/-- A batch is acknowledged exactly if it is the front of its queue. -/
theorem acknowledge_eq (outbox : Outbox Queues) (lane : Lane) (key : String)
    (sent : List lane.Value) :
    outbox.acknowledge lane key sent =
      if (outbox.queue lane key).take sent.length = sent then
        (true, outbox.remove lane key sent.length)
      else (false, outbox) := by
  unfold acknowledge
  rw [peek_eq]

/-! ### Keys and values -/

/-- A fresh outbox is compact. -/
theorem compact_fresh : (fresh : Outbox Queues).Compact := by
  intro lane
  cases lane <;> exact ⟨nofun, Table.ascending_empty⟩

/-- Whether an outbox is compact depends on the lanes alone. -/
theorem Compact.congr {other : Outbox Queues} (compact : outbox.Compact)
    (same : other.lanes = outbox.lanes) : other.Compact := by
  unfold Compact
  rw [same]
  exact compact

/-- A put keeps an outbox compact. -/
theorem Compact.put (compact : outbox.Compact) (lane : Lane) (key : String) (value : lane.Value) :
    (outbox.put lane key value).Compact := by
  intro other
  by_cases same : other = lane
  · subst same
    rw [get_lanes_put_self]
    exact Queues.Compact.put (compact other) key value
  · rw [get_lanes_put_of_ne _ _ _ same]
    exact compact other

/-- A removal keeps an outbox compact. -/
theorem Compact.remove (compact : outbox.Compact) (lane : Lane) (key : String) (limit : Nat) :
    (outbox.remove lane key limit).Compact := by
  intro other
  by_cases same : other = lane
  · subst same
    rw [get_lanes_remove_self]
    exact Queues.Compact.remove (compact other) key limit
  · rw [get_lanes_remove_of_ne _ _ _ same]
    exact compact other

/-- A key is listed exactly if something waits under it. -/
theorem Compact.mem_keys_iff (compact : outbox.Compact) {lane : Lane} {key : String} :
    key ∈ outbox.keys lane ↔ outbox.queue lane key ≠ [] :=
  Queues.Compact.mem_keys_iff (compact lane)

/-- No key is listed twice. -/
theorem Compact.nodup_keys (compact : outbox.Compact) (lane : Lane) : (outbox.keys lane).Nodup :=
  List.Pairwise.map _ (fun _ _ less => String.ne_of_lt less) (compact lane).ascending

/-- A compact outbox in which nothing waits under any key is empty. -/
theorem Compact.isEmpty (compact : outbox.Compact)
    (drained : ∀ lane key, outbox.queue lane key = []) : outbox.isEmpty = true :=
  List.all_eq_true.2 fun lane _ => Queues.Compact.isEmpty (compact lane) (drained lane)

end Outbox

end EdgeGateway
