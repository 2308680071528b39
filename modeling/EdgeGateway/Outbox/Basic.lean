import EdgeGateway.Outbox.Lane

/-!
# The outbox

The outbox holds the four lanes together with the flags that decide when they may be published:
whether the transport is connected, whether publishing is running, and whether something has
happened since a worker last looked. All four lanes draw their sequence numbers from one counter.

Each operation below is one step that nothing can interrupt.
-/

namespace EdgeGateway

/-- Pending values and the flags of their publication. -/
structure Outbox (Backlog : Type → Type) where
  lanes : Lanes Backlog
  /-- The sequence number of the next value that is put. -/
  sequence : Nat := 1
  /-- Whether the transport is connected. -/
  connected : Bool := false
  /-- Cleared when publishing is to stop. -/
  running : Bool := true
  /-- Whether there is reason to look for work: a value was put, the transport has come up, or
  publishing was started. -/
  signalled : Bool := true

namespace Outbox

variable {Backlog : Type → Type} [Store Backlog]

/-- An outbox without pending values. -/
def fresh : Outbox Backlog := { lanes := .fresh }

/-- Puts a value into a lane and raises the signal. -/
def put (outbox : Outbox Backlog) (lane : Lane) (key : String) (value : lane.Value) :
    Outbox Backlog :=
  let store := Store.put (outbox.lanes.get lane) outbox.sequence key value
  { outbox with
    lanes := outbox.lanes.set lane store
    sequence := outbox.sequence + 1
    signalled := true }

/-- Puts a value under the reference that it carries. -/
def add (outbox : Outbox Backlog) (lane : Lane) (value : lane.Value) : Outbox Backlog :=
  outbox.put lane (lane.reference value) value

/-- The first values of a key, at most so many. -/
def peek (outbox : Outbox Backlog) (lane : Lane) (key : String) (limit : Nat) :
    List lane.Value × Outbox Backlog :=
  let (values, store) := Store.peek (outbox.lanes.get lane) key limit
  (values, { outbox with lanes := outbox.lanes.set lane store })

/-- The first value of a key. -/
def get? (outbox : Outbox Backlog) (lane : Lane) (key : String) :
    Option lane.Value × Outbox Backlog :=
  let (value, store) := Store.get? (outbox.lanes.get lane) key
  (value, { outbox with lanes := outbox.lanes.set lane store })

/-- Removes the first values of a key, at most so many. -/
def remove (outbox : Outbox Backlog) (lane : Lane) (key : String) (limit : Nat) : Outbox Backlog :=
  { outbox with lanes := outbox.lanes.set lane (Store.remove (outbox.lanes.get lane) key limit) }

/-- Removes what was sent from the front of a key, if that is what still waits there. A value
that replaced it in the meantime stays. -/
def acknowledge (outbox : Outbox Backlog) (lane : Lane) (key : String) (sent : List lane.Value) :
    Bool × Outbox Backlog :=
  let (waiting, outbox) := outbox.peek lane key sent.length
  if waiting = sent then (true, outbox.remove lane key sent.length) else (false, outbox)

/-- The keys under which something waits in a lane, ascending. -/
def keys (outbox : Outbox Backlog) (lane : Lane) : List String :=
  Store.keys (outbox.lanes.get lane)

/-- How many entries wait under a key of a lane. -/
def count (outbox : Outbox Backlog) (lane : Lane) (key : String) : Nat :=
  Store.count (outbox.lanes.get lane) key

/-- Whether nothing waits in any lane. -/
def isEmpty (outbox : Outbox Backlog) : Bool := outbox.lanes.isEmpty

/-- How many entries wait in all lanes. -/
def size (outbox : Outbox Backlog) : Nat := outbox.lanes.size

omit [Store Backlog] in
/-- Records whether the transport is connected. Coming up raises the signal. -/
def setConnected (outbox : Outbox Backlog) (connected : Bool) : Outbox Backlog :=
  { outbox with
    connected
    signalled := outbox.signalled || (connected && !outbox.connected) }

omit [Store Backlog] in
/-- Whether a worker may publish now. -/
def mayPublish (outbox : Outbox Backlog) : Bool := outbox.connected && outbox.running

omit [Store Backlog] in
/-- Starts publishing and raises the signal. -/
def start (outbox : Outbox Backlog) : Outbox Backlog :=
  { outbox with running := true, signalled := true }

omit [Store Backlog] in
/-- Stops publishing. -/
def stop (outbox : Outbox Backlog) : Outbox Backlog := { outbox with running := false }

/-- A put adds the value to its lane, with the next sequence number. -/
@[simp] theorem get_lanes_put_self (outbox : Outbox Backlog) (lane : Lane) (key : String)
    (value : lane.Value) :
    (outbox.put lane key value).lanes.get lane =
      Store.put (outbox.lanes.get lane) outbox.sequence key value := by
  simp [put]

/-- A put leaves every other lane as it is. -/
theorem get_lanes_put_of_ne (outbox : Outbox Backlog) {lane other : Lane} (key : String)
    (value : lane.Value) (different : other ≠ lane) :
    (outbox.put lane key value).lanes.get other = outbox.lanes.get other :=
  Lanes.get_set_of_ne _ _ different

/-- A removal takes values from its own lane. -/
@[simp] theorem get_lanes_remove_self (outbox : Outbox Backlog) (lane : Lane) (key : String)
    (limit : Nat) :
    (outbox.remove lane key limit).lanes.get lane =
      Store.remove (outbox.lanes.get lane) key limit := by
  simp [remove]

/-- A removal leaves every other lane as it is. -/
theorem get_lanes_remove_of_ne (outbox : Outbox Backlog) {lane other : Lane} (key : String)
    (limit : Nat) (different : other ≠ lane) :
    (outbox.remove lane key limit).lanes.get other = outbox.lanes.get other :=
  Lanes.get_set_of_ne _ _ different

omit [Store Backlog] in
/-- The signal is up after a change of the connection if it was up before, or if the transport has
come up. -/
theorem signalled_setConnected {outbox : Outbox Backlog} {connected : Bool} :
    (outbox.setConnected connected).signalled ↔
      outbox.signalled ∨ (connected ∧ outbox.connected = false) := by
  simp [setConnected]

/-- The outbox found after the process has ended and everything is opened again: what the lanes
have kept, with fresh flags. -/
def reopen (outbox : Outbox Backlog) : Outbox Backlog :=
  { lanes := outbox.lanes.reopen, sequence := outbox.sequence }

end Outbox

end EdgeGateway
