/-!
# Directions and kinds of messages

The first token of a channel is the direction a message travels, the second one its kind. Each
has exactly one spelling, so a token is read by looking it up among the spellings.
-/

namespace EdgeGateway

/-- Which way a message travels. -/
inductive Direction where
  /-- From devices and the gateway towards the platform. -/
  | toPlatform
  /-- From the platform towards the gateway and its devices. -/
  | fromPlatform
  deriving DecidableEq, Repr

namespace Direction

/-- The spelling of a direction in a channel. -/
def token : Direction → String
  | toPlatform => "d2p"
  | fromPlatform => "p2d"

/-- The direction with the given spelling. -/
def ofToken? (text : String) : Option Direction :=
  [toPlatform, fromPlatform].find? fun direction => direction.token == text

/-- Reading a token undoes spelling it, and nothing else is a token. -/
theorem ofToken?_eq_some_iff {text : String} {direction : Direction} :
    ofToken? text = some direction ↔ direction.token = text := by
  constructor
  · intro found
    simpa using List.find?_some found
  · rintro rfl
    cases direction <;> rfl

end Direction

/-- What a message is about. -/
inductive MessageKind where
  | sensorReading
  | alarm
  | actuatorStatus
  | actuatorSet
  | actuatorGet
  | configurationSet
  /-- Travels both ways: a request from the platform, and the values that answer it. -/
  | configurationGet
  deriving DecidableEq, Repr

namespace MessageKind

/-- Every kind, once. -/
def all : List MessageKind :=
  [sensorReading, alarm, actuatorStatus, actuatorSet, actuatorGet, configurationSet,
    configurationGet]

/-- The spelling of a kind in a channel. -/
def token : MessageKind → String
  | sensorReading => "sensor_reading"
  | alarm => "events"
  | actuatorStatus => "actuator_status"
  | actuatorSet => "actuator_set"
  | actuatorGet => "actuator_get"
  | configurationSet => "configuration_set"
  | configurationGet => "configuration_get"

/-- The kind with the given spelling. -/
def ofToken? (text : String) : Option MessageKind :=
  all.find? fun kind => kind.token == text

/-- Reading a token undoes spelling it, and nothing else is a token. -/
theorem ofToken?_eq_some_iff {text : String} {kind : MessageKind} :
    ofToken? text = some kind ↔ kind.token = text := by
  constructor
  · intro found
    simpa using List.find?_some found
  · rintro rfl
    cases kind <;> rfl

/-- Whether the platform sends messages of this kind towards the gateway and its devices. -/
def isCommand : MessageKind → Bool
  | actuatorSet | actuatorGet | configurationSet | configurationGet => true
  | sensorReading | alarm | actuatorStatus => false

/-- Whether devices and the gateway send messages of this kind towards the platform. -/
def isData : MessageKind → Bool
  | sensorReading | alarm | actuatorStatus | configurationGet => true
  | actuatorSet | actuatorGet | configurationSet => false

end MessageKind

end EdgeGateway
