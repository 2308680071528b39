import EdgeGateway.Channel.Kind
import EdgeGateway.Error
import EdgeGateway.Text.Ends

/-!
# Channel addresses

A channel is `<direction>/<kind>/[g/<gateway>/][d/<device>/]r/<reference>`. At least one of the
two address pairs is present, keys are not empty, and the reference is one or more non-empty
segments. One final delimiter is tolerated.

`Address.channel` writes an address down without checking it; `Address.ofChannel?` reads the
positional grammar and never searches, so keys and references may spell the markers.
-/

namespace EdgeGateway

/-- How deep the address part of a channel goes. -/
inductive AddressDepth where
  | gateway
  | device
  | gatewayDevice
  deriving DecidableEq, Repr

/-- The name of a depth. -/
def AddressDepth.name : AddressDepth → String
  | gateway => "Gateway"
  | device => "Device"
  | gatewayDevice => "GatewayDevice"

/-- The optional address pairs of a channel. -/
structure Addressing where
  gateway : Option String := none
  device : Option String := none
  deriving DecidableEq, Repr

/-- The depth of the address pairs, if there are any. -/
def Addressing.depth? : Addressing → Option AddressDepth
  | ⟨some _, none⟩ => some .gateway
  | ⟨none, some _⟩ => some .device
  | ⟨some _, some _⟩ => some .gatewayDevice
  | ⟨none, none⟩ => none

/-- A channel broken into the parts of its grammar. -/
structure Address where
  direction : Direction
  kind : MessageKind
  addressing : Addressing
  /-- Everything behind the positional `r` marker, which keeps a rebuilt channel identical. -/
  reference : String
  deriving DecidableEq, Repr

namespace Address

/-- Separates the tokens of a channel. -/
def delimiter : Char := '/'

/-- Marks the gateway pair. -/
def gatewayMarker : String := "g"

/-- Marks the device pair. -/
def deviceMarker : String := "d"

/-- Marks the reference. -/
def referenceMarker : String := "r"

/-- The depth of an address. One without any address pair counts as a device address. -/
def depth (address : Address) : AddressDepth :=
  address.addressing.depth?.getD .device

/-- One address pair as it stands in a channel, with its final delimiter. -/
def pairText (marker : String) : Option String → String
  | none => ""
  | some key => marker ++ "/" ++ key ++ "/"

/-- The channel of an address. The address is taken as valid. -/
def channel (address : Address) : String :=
  address.direction.token ++ "/" ++ address.kind.token ++ "/"
    ++ pairText gatewayMarker address.addressing.gateway
    ++ pairText deviceMarker address.addressing.device
    ++ referenceMarker ++ "/" ++ address.reference

/-- The tokens of a channel, once a final delimiter is dropped. -/
def tokens (channel : String) : List String :=
  ((Text.dropFinal delimiter channel.toList).splitOn delimiter).map String.ofList

/-- Reads an optional address pair off the front of the tokens. Once the marker is there, a
non-empty key has to follow. -/
def takePair? (marker : String) : List String → Option (Option String × List String)
  | [] => some (none, [])
  | token :: rest =>
    if token = marker then
      match rest with
      | [] => none
      | key :: rest => if key = "" then none else some (some key, rest)
    else some (none, token :: rest)

/-- Reads the reference: its marker, then one or more non-empty segments. -/
def takeReference? : List String → Option String
  | [] => none
  | token :: segments =>
    if token = referenceMarker ∧ segments ≠ [] ∧ "" ∉ segments then
      some ("/".intercalate segments)
    else none

/-- The address that a list of tokens spells. -/
def ofTokens? : List String → Option Address
  | direction :: kind :: rest => do
    let direction ← Direction.ofToken? direction
    let kind ← MessageKind.ofToken? kind
    let (gateway, rest) ← takePair? gatewayMarker rest
    let (device, rest) ← takePair? deviceMarker rest
    guard (gateway.isSome ∨ device.isSome)
    let reference ← takeReference? rest
    return { direction, kind, addressing := { gateway, device }, reference }
  | _ => none

/-- The address of a channel, if the channel is well formed. -/
def ofChannel? (channel : String) : Option Address :=
  ofTokens? (tokens channel)

/-- The address of a channel, or the error that names the malformed channel. -/
def parse (channel : String) : Except RoutingError Address :=
  match ofChannel? channel with
  | some address => .ok address
  | none => .error (.malformedChannel channel)

/-- A key of an address pair: not empty and without the delimiter. -/
def IsKey (key : String) : Prop :=
  key ≠ "" ∧ delimiter ∉ key.toList

instance (key : String) : Decidable (IsKey key) :=
  inferInstanceAs (Decidable (_ ∧ _))

end Address

end EdgeGateway
