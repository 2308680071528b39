import EdgeGateway.Channel.Address

/-!
# Validators

Yes-or-no questions about channels. Each is answered from the direction and kind of the parsed
channel, so a malformed channel satisfies none of them.
-/

namespace EdgeGateway.Channel

/-- Direction, kind and depth of a well-formed channel. -/
def classify? (channel : String) : Option (Direction × MessageKind × AddressDepth) :=
  (Address.ofChannel? channel).map fun address =>
    (address.direction, address.kind, address.depth)

/-- Whether a channel is well formed and has the given direction. -/
def travels (direction : Direction) (channel : String) : Bool :=
  (classify? channel).any fun (found, _, _) => found = direction

/-- Whether a channel is well formed and has the given direction and kind. -/
def isOf (direction : Direction) (kind : MessageKind) (channel : String) : Bool :=
  (classify? channel).any fun (foundDirection, foundKind, _) =>
    foundDirection = direction ∧ foundKind = kind

/-- Whether the message goes to the platform. -/
def isToPlatform : String → Bool := travels .toPlatform

/-- Whether the message comes from the platform. -/
def isFromPlatform : String → Bool := travels .fromPlatform

/-- Whether the message carries sensor readings. -/
def isSensorReading : String → Bool := isOf .toPlatform .sensorReading

/-- Whether the message carries alarms. -/
def isAlarm : String → Bool := isOf .toPlatform .alarm

/-- Whether the message carries an actuator status. -/
def isActuatorStatus : String → Bool := isOf .toPlatform .actuatorStatus

/-- Whether the message reports the current values of a configuration item. -/
def isConfigurationResponse : String → Bool := isOf .toPlatform .configurationGet

/-- Whether the message asks to set an actuator. -/
def isActuatorSetRequest : String → Bool := isOf .fromPlatform .actuatorSet

/-- Whether the message asks for the state of an actuator. -/
def isActuatorGetRequest : String → Bool := isOf .fromPlatform .actuatorGet

/-- Whether the message asks to set a configuration item. -/
def isConfigurationSetRequest : String → Bool := isOf .fromPlatform .configurationSet

/-- Whether the message asks for the values of a configuration item. -/
def isConfigurationGetRequest : String → Bool := isOf .fromPlatform .configurationGet

end EdgeGateway.Channel
