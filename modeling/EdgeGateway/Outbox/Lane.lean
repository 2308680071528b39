import EdgeGateway.Telemetry.Entry

/-!
# Lanes

Pending values wait in four lanes, one for each type of value. Readings and alarms queue up;
statuses and configuration items hold the newest value of each key only.
-/

namespace EdgeGateway

/-- One of the four lanes. -/
inductive Lane where
  | readings
  | alarms
  | statuses
  | configurations
  deriving DecidableEq, Repr

namespace Lane

/-- Every lane, in the order in which backlogs are listed. -/
def all : List Lane := [readings, alarms, statuses, configurations]

/-- Every lane, in the order in which a full pass drains them. -/
def drainOrder : List Lane := [statuses, readings, alarms, configurations]

/-- The values that wait in a lane. -/
abbrev Value : Lane → Type
  | readings => Reading
  | alarms => Alarm
  | statuses => ActuatorStatus
  | configurations => ConfigurationItem

/-- The retention of a lane. -/
def retention : Lane → Retention
  | readings | alarms => .fifo
  | statuses | configurations => .lastValue

instance (lane : Lane) : DecidableEq lane.Value :=
  match lane with
  | readings => inferInstanceAs (DecidableEq Reading)
  | alarms => inferInstanceAs (DecidableEq Alarm)
  | statuses => inferInstanceAs (DecidableEq ActuatorStatus)
  | configurations => inferInstanceAs (DecidableEq ConfigurationItem)

instance (lane : Lane) : Entry lane.Value :=
  match lane with
  | readings => inferInstanceAs (Entry Reading)
  | alarms => inferInstanceAs (Entry Alarm)
  | statuses => inferInstanceAs (Entry ActuatorStatus)
  | configurations => inferInstanceAs (Entry ConfigurationItem)

/-- The reference that a value carries. -/
def reference : (lane : Lane) → lane.Value → String
  | readings, reading => Reading.reference reading
  | alarms, alarm => Alarm.reference alarm
  | statuses, status => ActuatorStatus.reference status
  | configurations, item => ConfigurationItem.key item

end Lane

/-- One store for each lane. -/
structure Lanes (Backlog : Type → Type) where
  readings : Backlog Reading
  alarms : Backlog Alarm
  statuses : Backlog ActuatorStatus
  configurations : Backlog ConfigurationItem

namespace Lanes

variable {Backlog : Type → Type}

/-- The store of a lane. -/
def get (lanes : Lanes Backlog) : (lane : Lane) → Backlog lane.Value
  | .readings => lanes.readings
  | .alarms => lanes.alarms
  | .statuses => lanes.statuses
  | .configurations => lanes.configurations

/-- The lanes with the store of one lane replaced. -/
def set (lanes : Lanes Backlog) (lane : Lane) (store : Backlog lane.Value) : Lanes Backlog :=
  match lane with
  | .readings => { lanes with readings := store }
  | .alarms => { lanes with alarms := store }
  | .statuses => { lanes with statuses := store }
  | .configurations => { lanes with configurations := store }

@[simp] theorem get_set_self (lanes : Lanes Backlog) (lane : Lane) (store : Backlog lane.Value) :
    (lanes.set lane store).get lane = store := by
  cases lane <;> rfl

theorem get_set_of_ne (lanes : Lanes Backlog) {lane other : Lane} (store : Backlog lane.Value)
    (different : other ≠ lane) : (lanes.set lane store).get other = lanes.get other := by
  cases lane <;> cases other <;> first | rfl | contradiction

variable [Store Backlog]

/-- Lanes without values. -/
def fresh : Lanes Backlog where
  readings := Store.fresh Lane.readings.retention
  alarms := Store.fresh Lane.alarms.retention
  statuses := Store.fresh Lane.statuses.retention
  configurations := Store.fresh Lane.configurations.retention

/-- Whether nothing waits in any lane. -/
def isEmpty (lanes : Lanes Backlog) : Bool :=
  Lane.all.all fun lane => Store.isEmpty (lanes.get lane)

/-- How many entries wait in all lanes. -/
def size (lanes : Lanes Backlog) : Nat :=
  Lane.all.foldl (fun total lane => total + Store.size (lanes.get lane)) 0

/-- What is found after the process has ended and the lanes are opened again. -/
def reopen (lanes : Lanes Backlog) : Lanes Backlog where
  readings := Store.reopen lanes.readings
  alarms := Store.reopen lanes.alarms
  statuses := Store.reopen lanes.statuses
  configurations := Store.reopen lanes.configurations

end Lanes

end EdgeGateway
