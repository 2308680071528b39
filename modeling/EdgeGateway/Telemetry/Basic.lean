/-!
# Locally produced values

What a gateway reports to its platform: sensor readings, alarms, actuator statuses and
configuration items. A timestamp counts milliseconds; zero means that none is set.
-/

namespace EdgeGateway

/-- One sensor reading. A multi-value sensor gives more than one value. -/
structure Reading where
  reference : String
  values : List String
  timestamp : UInt64
  deriving DecidableEq, Repr

/-- An alarm that is on or off. -/
structure Alarm where
  reference : String
  active : Bool
  timestamp : UInt64
  deriving DecidableEq, Repr

/-- The state of an actuator. -/
inductive ActuatorState where
  | ready
  | busy
  | error
  /-- Keeps what the device reported where that is none of the three states. -/
  | unknown (reported : String)
  deriving DecidableEq, Repr

namespace ActuatorState

/-- The state that a device reports, whatever the case of its ASCII letters. -/
def ofReported (reported : String) : ActuatorState :=
  let folded := reported.map Char.toUpper
  if folded = "READY" then .ready
  else if folded = "BUSY" then .busy
  else if folded = "ERROR" then .error
  else .unknown reported

/-- The name of a state in a message. What is unknown counts as an error. -/
def wireName : ActuatorState → String
  | ready => "READY"
  | busy => "BUSY"
  | error | unknown _ => "ERROR"

end ActuatorState

/-- The value and state of an actuator. -/
structure ActuatorStatus where
  reference : String
  value : String
  state : ActuatorState
  deriving DecidableEq, Repr

/-- The values of a configuration item. Its key is its reference. -/
structure ConfigurationItem where
  key : String
  values : List String
  deriving DecidableEq, Repr

/-- The unit handed between transports and the gateway: a channel and an opaque payload. -/
structure Message where
  channel : String
  payload : String
  deriving DecidableEq, Repr

end EdgeGateway
