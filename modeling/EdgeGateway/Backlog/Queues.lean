import EdgeGateway.Backlog.Store
import EdgeGateway.Table

/-!
# Backlogs in memory

One queue per key. A key whose queue runs empty is dropped, so the keys of the table are exactly
those with something waiting. Nothing survives the process.
-/

namespace EdgeGateway

/-- Queues of values by key, none of them empty. -/
structure Queues (Value : Type) where
  retention : Retention
  pending : Table String (List Value) := .empty

namespace Queues

variable {Value : Type}

/-- The values waiting under a key, oldest first. -/
def queue (queues : Queues Value) (key : String) : List Value :=
  (queues.pending.find? key).getD []

/-- Puts a value behind, or in place of, the values of a key. -/
def put (queues : Queues Value) (key : String) (value : Value) : Queues Value :=
  let kept :=
    match queues.retention with
    | .fifo => queues.queue key
    | .lastValue => []
  { queues with pending := queues.pending.insert key (kept ++ [value]) }

/-- The first values of a key. -/
def peek (queues : Queues Value) (key : String) (limit : Nat) : List Value :=
  (queues.queue key).take limit

/-- Removes the first values of a key, and the key once nothing waits under it. -/
def remove (queues : Queues Value) (key : String) (limit : Nat) : Queues Value :=
  match (queues.queue key).drop limit with
  | [] => { queues with pending := queues.pending.erase key }
  | rest => { queues with pending := queues.pending.insert key rest }

/-- How many values wait in all. -/
def size (queues : Queues Value) : Nat :=
  queues.pending.rows.foldl (fun total row => total + row.2.length) 0

instance : Store Queues where
  fresh retention := { retention }
  retention queues := queues.retention
  put queues _ key value := queues.put key value
  peek queues key limit := (queues.peek key limit, queues)
  remove queues key limit := queues.remove key limit
  keys queues := queues.pending.keys
  isEmpty queues := queues.pending.isEmpty
  count queues key := (queues.queue key).length
  size := size
  reopen queues := { retention := queues.retention }

theorem queue_put_self (queues : Queues Value) (key : String) (value : Value) :
    (queues.put key value).queue key =
      match queues.retention with
      | .fifo => queues.queue key ++ [value]
      | .lastValue => [value] := by
  cases retention : queues.retention <;> simp [put, queue, retention]

theorem queue_put_of_ne (queues : Queues Value) {key other : String} (value : Value)
    (different : other ≠ key) : (queues.put key value).queue other = queues.queue other := by
  simp [put, queue, Table.find?_insert_of_ne, different]

@[simp] theorem queue_remove_self (queues : Queues Value) (key : String) (limit : Nat) :
    (queues.remove key limit).queue key = (queues.queue key).drop limit := by
  unfold remove
  split
  · rename_i drained
    rw [drained]
    simp [queue]
  · rename_i rest _
    simp [queue]

theorem queue_remove_of_ne (queues : Queues Value) {key other : String} (limit : Nat)
    (different : other ≠ key) : (queues.remove key limit).queue other = queues.queue other := by
  unfold remove
  split <;> simp [queue, Table.find?_insert_of_ne, Table.find?_erase_of_ne, different]

end Queues

end EdgeGateway
