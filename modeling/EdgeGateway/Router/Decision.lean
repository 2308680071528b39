import EdgeGateway.Channel.Readdress
import EdgeGateway.Manifest.Json
import EdgeGateway.Router.Command

/-!
# Routing decisions

What becomes of an inbound message depends on its channel, on the gateway's key and on the
manifests of the bound devices; only a command that sets something has its payload read.

A command goes on to its device with the gateway's pair dropped, unless it is meant for the
gateway itself. Data of a bound device goes on to the platform with the gateway's pair put in
front, if the device has declared the reference; data of the gateway's own points goes on with
the device pair turned into a gateway pair. Everything else is refused, and the keys are always
checked: they keep the devices apart.
-/

namespace EdgeGateway

/-- The two sides that a gateway stands between. -/
inductive Side where
  | platform
  | devices
  deriving DecidableEq, Repr

/-- What is to be done with an inbound message. -/
inductive Decision where
  /-- Give a command to its handler. -/
  | handle (command : Command)
  /-- Publish a message to one side. -/
  | forward (side : Side) (message : Message)
  deriving DecidableEq, Repr

namespace Decision

/-- The message on another channel goes to a side. A readdressing without a result is an error of
the channel that came in. -/
def forwarding (side : Side) (message : Message) (channel : String) :
    Except RoutingError Decision :=
  if channel = "" then .error (.malformedChannel message.channel)
  else .ok (.forward side { message with channel })

/-- What is to be done with a message from the platform. -/
def fromPlatform (gatewayKey : String) (address : Address) (message : Message) :
    Except RoutingError Decision :=
  if !address.kind.isCommand then .error (.malformedChannel message.channel)
  else if address.addressing.gateway.getD "" ≠ gatewayKey then
    let key := (address.addressing.gateway.or address.addressing.device).getD ""
    .error (.mismatchedKey message.channel key)
  else
    match address.depth with
    | .gateway => (Command.ofMessage address.kind message).map .handle
    | .gatewayDevice =>
      if address.addressing.device = some gatewayKey then
        (Command.ofMessage address.kind message).map .handle
      else forwarding .devices message (Channel.toDevice message.channel gatewayKey)
    | .device => .error (.mismatchedKey message.channel "")

/-- What is to be done with a message towards the platform. Nothing but a gateway may use gateway
addressing. -/
def toPlatform (gatewayKey : String) (manifests : Manifests) (address : Address)
    (message : Message) : Except RoutingError Decision :=
  if !address.kind.isData then .error (.malformedChannel message.channel)
  else
    match address.depth, address.addressing.device with
    | .device, some device =>
      if device = gatewayKey then
        forwarding .platform message (Channel.collapse message.channel)
      else
        match manifests.resolve device with
        | none => .error (.mismatchedKey message.channel device)
        | some manifest =>
          let reference := Address.textualReference message.channel
          if manifest.declares address.kind reference then
            forwarding .platform message (Channel.throughGateway message.channel gatewayKey)
          else .error (.undeclaredReference device reference)
    | _, _ => .error (.mismatchedKey message.channel (Address.textualKey message.channel))

/-- What is to be done with an inbound message. -/
def ofMessage (gatewayKey : String) (manifests : Manifests) (message : Message) :
    Except RoutingError Decision := do
  let address ← Address.parse message.channel
  match address.direction with
  | .fromPlatform => fromPlatform gatewayKey address message
  | .toPlatform => toPlatform gatewayKey manifests address message

end Decision

end EdgeGateway
