import EdgeGateway.Backlog.Store
import EdgeGateway.Json.Record
import EdgeGateway.Json.Writer
import EdgeGateway.Telemetry.Basic

/-!
# Values as journal entries

Each kind of value is kept as a JSON object of its fields. Decoding takes the fields in any
order, or an array of them in order, and insists on every field and its exact type. Other members are
passed over, but an entry has to be UTF-8 throughout, in them as well.
-/

namespace EdgeGateway

open EdgeGateway.Json

/-- A value that is written as a JSON record. -/
class JsonRecord (Value : Type) where
  toJson : Value → Json.Value
  ofTree? : Tree → Option Value

instance {Value : Type} [JsonRecord Value] : Entry Value where
  encode value := Bytes.ofText (JsonRecord.toJson value).text
  decode? bytes := do
    let text ← bytes.text?
    let tree ← Tree.ofText? text
    JsonRecord.ofTree? tree

/-- An array of strings. -/
def textsValue (texts : List String) : Json.Value := .array (texts.map .string)

/-- A timestamp as a JSON integer. -/
def timestampValue (timestamp : UInt64) : Json.Value := .number (.integer timestamp.toNat)

namespace Reading

/-- The record of a reading. -/
def toJson (reading : Reading) : Json.Value :=
  .object
    [("reference", .string reading.reference), ("values", textsValue reading.values),
      ("timestamp", timestampValue reading.timestamp)]

/-- The reading of a record. -/
def ofTree? (tree : Tree) : Option Reading := do
  let [reference, values, timestamp] ← tree.record? ["reference", "values", "timestamp"] | none
  return {
    reference := ← (← reference).text?
    values := ← (← values).texts?
    timestamp := ← (← timestamp).natural64? }

end Reading

instance : JsonRecord Reading := ⟨Reading.toJson, Reading.ofTree?⟩

namespace Alarm

/-- The record of an alarm. -/
def toJson (alarm : Alarm) : Json.Value :=
  .object
    [("reference", .string alarm.reference), ("active", .boolean alarm.active),
      ("timestamp", timestampValue alarm.timestamp)]

/-- The alarm of a record. -/
def ofTree? (tree : Tree) : Option Alarm := do
  let [reference, active, timestamp] ← tree.record? ["reference", "active", "timestamp"] | none
  return {
    reference := ← (← reference).text?
    active := ← (← active).boolean?
    timestamp := ← (← timestamp).natural64? }

end Alarm

instance : JsonRecord Alarm := ⟨Alarm.toJson, Alarm.ofTree?⟩

namespace ActuatorState

/-- The name of a state, or an object of the name `Unknown` and what was reported. -/
def toJson : ActuatorState → Json.Value
  | ready => .string "Ready"
  | busy => .string "Busy"
  | error => .string "Error"
  | unknown reported => .object [("Unknown", .string reported)]

/-- The state with a name of its own. -/
def ofName? (name : String) : Option ActuatorState :=
  if name = "Ready" then some ready
  else if name = "Busy" then some busy
  else if name = "Error" then some error
  else none

/-- The state of a tree: a name, or an object of one member that maps a name to null or `Unknown`
to what was reported. -/
def ofTree? : Tree → Option ActuatorState
  | .string units => do ofName? (← decodeText? units)
  | .object [(key, value)] => do
    let name ← decodeText? key
    if name = "Unknown" then return unknown (← value.text?)
    else
      let .null := value | none
      ofName? name
  | _ => none

end ActuatorState

namespace ActuatorStatus

/-- The record of a status. -/
def toJson (status : ActuatorStatus) : Json.Value :=
  .object
    [("reference", .string status.reference), ("value", .string status.value),
      ("state", status.state.toJson)]

/-- The status of a record. -/
def ofTree? (tree : Tree) : Option ActuatorStatus := do
  let [reference, value, state] ← tree.record? ["reference", "value", "state"] | none
  return {
    reference := ← (← reference).text?
    value := ← (← value).text?
    state := ← ActuatorState.ofTree? (← state) }

end ActuatorStatus

instance : JsonRecord ActuatorStatus := ⟨ActuatorStatus.toJson, ActuatorStatus.ofTree?⟩

namespace ConfigurationItem

/-- The record of a configuration item. -/
def toJson (item : ConfigurationItem) : Json.Value :=
  .object [("key", .string item.key), ("values", textsValue item.values)]

/-- The configuration item of a record. -/
def ofTree? (tree : Tree) : Option ConfigurationItem := do
  let [key, values] ← tree.record? ["key", "values"] | none
  return { key := ← (← key).text?, values := ← (← values).texts? }

end ConfigurationItem

instance : JsonRecord ConfigurationItem := ⟨ConfigurationItem.toJson, ConfigurationItem.ofTree?⟩

end EdgeGateway
