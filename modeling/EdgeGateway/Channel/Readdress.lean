import EdgeGateway.Channel.Address

/-!
# Re-addressing

Every transform parses the channel, edits the address pairs and writes the address down again.
Where it does not apply there is no result. The textual forms of the transforms say so with the
empty text.
-/

namespace EdgeGateway

namespace Addressing

/-- Drops the gateway pair in front of a device pair, if it holds the gateway's key. -/
def toDevice? (gatewayKey : String) : Addressing → Option Addressing
  | ⟨some key, some device⟩ => if key = gatewayKey then some ⟨none, some device⟩ else none
  | _ => none

/-- Puts the gateway's pair in front of a device pair. The gateway's key may not be empty. -/
def throughGateway? (gatewayKey : String) : Addressing → Option Addressing
  | ⟨none, some device⟩ =>
    if gatewayKey = "" then none else some ⟨some gatewayKey, some device⟩
  | _ => none

/-- Turns a device address into the gateway address of the same key. -/
def collapse? : Addressing → Option Addressing
  | ⟨none, some key⟩ => some ⟨some key, none⟩
  | _ => none

/-- Turns a gateway address into the device address of the same key. -/
def expand? : Addressing → Option Addressing
  | ⟨some key, none⟩ => some ⟨none, some key⟩
  | _ => none

end Addressing

namespace Channel

/-- The channel with its address pairs edited, or the empty text if it is malformed or the edit
does not apply. -/
def readdress (edit : Addressing → Option Addressing) (channel : String) : String :=
  match Address.ofChannel? channel with
  | none => ""
  | some address =>
    match edit address.addressing with
    | none => ""
    | some addressing => { address with addressing }.channel

/-- Drops the gateway's own pair in front of a device pair. -/
def toDevice (channel gatewayKey : String) : String :=
  readdress (Addressing.toDevice? gatewayKey) channel

/-- Puts the gateway's own pair in front of a device pair. -/
def throughGateway (channel gatewayKey : String) : String :=
  readdress (Addressing.throughGateway? gatewayKey) channel

/-- Turns a device channel into the gateway channel of the same key. -/
def collapse (channel : String) : String :=
  readdress Addressing.collapse? channel

/-- Turns a gateway channel into the device channel of the same key. -/
def expand (channel : String) : String :=
  readdress Addressing.expand? channel

end Channel

end EdgeGateway
