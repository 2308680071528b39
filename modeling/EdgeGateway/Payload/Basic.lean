import EdgeGateway.Json.Writer
import EdgeGateway.Telemetry.Basic

/-!
# Payloads

Readings and alarms travel as arrays of `data` objects that carry `utc` only where a timestamp is
set, statuses as an object of `status` and `value`, configuration items as one `data` object.
Several values of one reading or item are joined by commas.

The payload of a command is a JSON object whose `value` member carries what is to be set.
-/

namespace EdgeGateway.Payload

open EdgeGateway.Json

/-! ## What is reported -/

/-- Joins the values of one reading or configuration item. -/
def valueDelimiter : Char := ','

/-- The values joined, or the given error if there are none. -/
def joinedValues (values : List String) (cause : EncodeError) : Except PayloadError String :=
  if values = [] then .error (.encode cause) else .ok (",".intercalate values)

/-- The object of a reading, alarm or configuration item. An unset timestamp is left out. -/
def dataObject (timestamp : UInt64) (data : String) : Value :=
  .object <|
    (if timestamp = 0 then [] else [("utc", .number (.integer timestamp.toNat))])
      ++ [("data", .string data)]

/-- The object of one reading. -/
def readingValue (reading : Reading) : Except PayloadError Value := do
  let data ← joinedValues reading.values (.emptyReading reading.reference)
  return dataObject reading.timestamp data

/-- The object of one alarm. -/
def alarmValue (alarm : Alarm) : Value :=
  dataObject alarm.timestamp (if alarm.active then "ON" else "OFF")

/-- The payload of one reading. -/
def ofReading (reading : Reading) : Except PayloadError String :=
  (readingValue reading).map Value.text

/-- The payload of a batch of readings, in their order. The first reading without values is the
one an error names. -/
def ofReadings (readings : List Reading) : Except PayloadError String :=
  (readings.mapM readingValue).map fun values => (Value.array values).text

/-- The payload of one alarm. -/
def ofAlarm (alarm : Alarm) : Except PayloadError String :=
  .ok (alarmValue alarm).text

/-- The payload of a batch of alarms, in their order. -/
def ofAlarms (alarms : List Alarm) : Except PayloadError String :=
  .ok (Value.array (alarms.map alarmValue)).text

/-- The payload of an actuator status. -/
def ofStatus (status : ActuatorStatus) : Except PayloadError String :=
  .ok (Value.object
    [("status", .string status.state.wireName), ("value", .string status.value)]).text

/-- The payload of a configuration item. -/
def ofConfiguration (item : ConfigurationItem) : Except PayloadError String := do
  let data ← joinedValues item.values (.emptyConfiguration item.key)
  return (dataObject 0 data).text

/-! ## What is commanded -/

/-- The text that a member stands for: nothing and null are the empty text, a string is itself,
any other value its JSON text. -/
def memberText : Option Value → String
  | none | some .null => ""
  | some (.string text) => text
  | some value => value.text

/-- The text of the `value` member of a command payload. -/
def commandValue (payload : String) : Except PayloadError String :=
  match Value.ofText? payload with
  | none => .error .invalidJson
  | some (.object members) => .ok (memberText (members.lookup "value"))
  | some other => .error (.notAnObject other.kind)

/-- The values that a configuration text joins. The empty text joins one empty value. -/
def splitValues (text : String) : List String :=
  (text.toList.splitOn valueDelimiter).map String.ofList

/-- The configuration item that a command sets. -/
def configurationItem (reference payload : String) : Except PayloadError ConfigurationItem := do
  let text ← commandValue payload
  return { key := reference, values := splitValues text }

end EdgeGateway.Payload
