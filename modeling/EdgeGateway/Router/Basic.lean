import EdgeGateway.Drain.Run
import EdgeGateway.Router.Decision

/-!
# The router

A router carries out routing decisions, and publishes what waits in the outbox. Sinks and handlers
are given as functions on a state of their own. Routing a message makes at most one call: of a
handler, or of the sink of one side.
-/

namespace EdgeGateway

/-- What a gateway routes by. -/
structure Router where
  profile : Profile
  handlers : Handlers := {}
  manifests : Manifests := .empty
  deriving DecidableEq, Repr

/-- What became of an inbound message. -/
inductive Outcome where
  /-- It was a command of this kind for the gateway itself. -/
  | handled (kind : MessageKind)
  /-- A sink accepted it on this channel. -/
  | forwarded (channel : String)
  /-- It was neither handled nor forwarded. -/
  | dropped (cause : RoutingError)
  deriving DecidableEq, Repr

/-- What a router calls. `World` is the state of everything that is called. -/
structure Callees (World : Type) where
  /-- Whether the sink of a side accepts a message, and what has changed when it has decided. -/
  publish : Side → Message → World → Bool × World
  /-- What has changed when the handler of a command is done. -/
  handle : Command → World → World

namespace Router

/-- Routes one inbound message. -/
def route {World : Type} (router : Router) (callees : Callees World) (message : Message)
    (world : World) : Outcome × World :=
  match Decision.ofMessage router.profile.gatewayKey router.manifests message with
  | .error cause => (.dropped cause, world)
  | .ok (.handle command) =>
    (.handled command.kind,
      if router.handlers.handles command then callees.handle command world else world)
  | .ok (.forward side forwarded) =>
    let (accepted, world) := callees.publish side forwarded world
    if accepted then (.forwarded forwarded.channel, world)
    else (.dropped (.refused forwarded.channel), world)

/-- The router with a device bound to a manifest. -/
def bind (router : Router) (device : String) (manifest : Manifest) : Router :=
  { router with manifests := router.manifests.bind device manifest }

/-- The router with a device unbound. -/
def unbind (router : Router) (device : String) : Router :=
  { router with manifests := router.manifests.unbind device }

end Router

end EdgeGateway
