import EdgeGateway.Channel.Textual
import EdgeGateway.Payload.Basic

/-!
# Commands for the gateway itself

The platform may address the gateway's own actuators and configuration items. Such a message is
read as a `Command`, which is given to the handler of its kind. A gateway without a handler for a
kind accepts commands of that kind and does nothing.
-/

namespace EdgeGateway

/-- A command for the gateway's own actuators or configuration. -/
inductive Command where
  | setActuator (reference value : String)
  | getActuator (reference : String)
  | setConfiguration (item : ConfigurationItem)
  | getConfiguration (reference : String)
  deriving DecidableEq, Repr

namespace Command

/-- The kind of message that carries a command. -/
def kind : Command → MessageKind
  | setActuator _ _ => .actuatorSet
  | getActuator _ => .actuatorGet
  | setConfiguration _ => .configurationSet
  | getConfiguration _ => .configurationGet

/-- The command of a message of the given kind. Only messages that set something have a payload
to be read. -/
def ofMessage (kind : MessageKind) (message : Message) : Except RoutingError Command :=
  let reference := Address.textualReference message.channel
  match kind with
  | .actuatorSet =>
    match Payload.commandValue message.payload with
    | .ok value => .ok (setActuator reference value)
    | .error source => .error (.malformedPayload message.channel source)
  | .actuatorGet => .ok (getActuator reference)
  | .configurationSet =>
    match Payload.configurationItem reference message.payload with
    | .ok item => .ok (setConfiguration item)
    | .error source => .error (.malformedPayload message.channel source)
  | .configurationGet => .ok (getConfiguration reference)
  | .sensorReading | .alarm | .actuatorStatus => .error (.malformedChannel message.channel)

/-- A command is of the kind of the message that it was read from. -/
theorem kind_of_ofMessage {kind : MessageKind} {message : Message} {command : Command}
    (read : ofMessage kind message = .ok command) : command.kind = kind := by
  cases kind <;> simp only [ofMessage] at read
  case actuatorSet | configurationSet =>
    split at read
    · cases read
      rfl
    · cases read
  all_goals
    cases read
    try rfl

end Command

/-- The kinds of commands that a gateway has a handler for. -/
structure Handlers where
  actuatorSet : Bool := false
  actuatorGet : Bool := false
  configurationSet : Bool := false
  configurationGet : Bool := false
  deriving DecidableEq, Repr

namespace Handlers

/-- A handler for every kind of command. -/
def all : Handlers := ⟨true, true, true, true⟩

/-- The handlers of some kinds. -/
def ofKinds (kinds : List MessageKind) : Handlers where
  actuatorSet := kinds.contains .actuatorSet
  actuatorGet := kinds.contains .actuatorGet
  configurationSet := kinds.contains .configurationSet
  configurationGet := kinds.contains .configurationGet

/-- Whether there is a handler for a command. -/
def handles (handlers : Handlers) : Command → Bool
  | .setActuator _ _ => handlers.actuatorSet
  | .getActuator _ => handlers.actuatorGet
  | .setConfiguration _ => handlers.configurationSet
  | .getConfiguration _ => handlers.configurationGet

end Handlers

end EdgeGateway
