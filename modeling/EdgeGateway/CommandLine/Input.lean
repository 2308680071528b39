import EdgeGateway.Json.Record
import EdgeGateway.Payload.Basic
import EdgeGateway.Text.Ends

/-!
# Input lines

Each line of the input is a JSON object: an inbound message, a reading or an alarm of the gateway
itself. The three forms are tried in this order; members that a form does not know do not matter
to it, and one that it knows may not be there twice.
-/

namespace EdgeGateway.CommandLine

open EdgeGateway.Json

/-- What a line says. -/
inductive Input where
  /-- A message came in. -/
  | message (message : Message)
  /-- A value was measured. -/
  | reading (reference value : String)
  /-- An alarm went on or off. -/
  | alarm (reference : String) (active : Bool)
  deriving DecidableEq, Repr

namespace Input

/-- The text of a member that has to be there. -/
def text? (members : List (String × Tree)) (name : String) : Option String := do
  let field ← Tree.field? members name
  (← field).text?

/-- The message of some members. The payload may be any value and may be absent. -/
def message? (members : List (String × Tree)) : Option Input := do
  let channel ← text? members "channel"
  let payload ←
    match ← Tree.field? members "payload" with
    | none => some none
    | some tree => (Value.ofTree? Value.depthLimit tree).map some
  return .message { channel, payload := Payload.memberText payload }

/-- The reading of some members. -/
def reading? (members : List (String × Tree)) : Option Input := do
  return .reading (← text? members "reading") (← text? members "value")

/-- The alarm of some members. -/
def alarm? (members : List (String × Tree)) : Option Input := do
  let reference ← text? members "alarm"
  let field ← Tree.field? members "active"
  return .alarm reference (← (← field).boolean?)

/-- What a line says, if it can be read. -/
def ofLine? (line : String) : Option Input := do
  let text := Text.trim line
  let .object members ← Tree.ofText? text | none
  -- the line as a whole has to have a value
  let _ ← Value.ofText? text
  let members ← Tree.decodedMembers? members
  (message? members).or ((reading? members).or (alarm? members))

end Input

end EdgeGateway.CommandLine
