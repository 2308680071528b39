import EdgeGateway.Channel.Address
import EdgeGateway.Payload.Basic

/-!
# Outbound messages

A message towards the platform is built from an addressing, a reference and values. References
come from pending values and may be any text, so the channel is built and then parsed: a message
exists only if its channel is well formed. The channel is checked before the payload.
-/

namespace EdgeGateway.Outbound

/-- The channel of outbound data, if it parses. -/
def channel (kind : MessageKind) (addressing : Addressing) (reference : String) :
    Except BuildError String := do
  let channel := { direction := .toPlatform, kind, addressing, reference : Address }.channel
  match Address.parse channel with
  | .ok _ => .ok channel
  | .error cause => .error (.channel cause)

/-- A message of outbound data with the given payload. -/
def message (kind : MessageKind) (addressing : Addressing) (reference : String)
    (payload : Except PayloadError String) : Except BuildError Message := do
  let channel ← channel kind addressing reference
  match payload with
  | .ok payload => .ok { channel, payload }
  | .error cause => .error (.payload cause)

/-- One message that carries a batch of readings of a reference. -/
def readings (addressing : Addressing) (reference : String) (batch : List Reading) :
    Except BuildError Message :=
  message .sensorReading addressing reference (Payload.ofReadings batch)

/-- One message that carries a batch of alarms of a reference. -/
def alarms (addressing : Addressing) (reference : String) (batch : List Alarm) :
    Except BuildError Message :=
  message .alarm addressing reference (Payload.ofAlarms batch)

/-- The message of an actuator status, on the status's own reference. -/
def status (addressing : Addressing) (status : ActuatorStatus) : Except BuildError Message :=
  message .actuatorStatus addressing status.reference (Payload.ofStatus status)

/-- The message of a configuration item, on the item's own key. -/
def configuration (addressing : Addressing) (item : ConfigurationItem) :
    Except BuildError Message :=
  message .configurationGet addressing item.key (Payload.ofConfiguration item)

end EdgeGateway.Outbound
