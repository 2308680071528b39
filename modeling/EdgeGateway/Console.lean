import EdgeGateway.Json.Writer
import EdgeGateway.Telemetry.Basic

/-!
# Consoles

A console is a sink that writes each accepted message as one line: a JSON object of the sink's
name, the channel and the payload. Line breaks inside them are escaped, so a line holds exactly
one message.
-/

namespace EdgeGateway

/-- What a console writes to. -/
structure Writer where
  /-- Whether every write fails. -/
  broken : Bool := false
  /-- Everything that has been written. -/
  written : String := ""
  deriving DecidableEq, Repr

/-- Writes a text, and says whether that succeeded. -/
def Writer.write (text : String) (writer : Writer) : Bool × Writer :=
  if writer.broken then (false, writer)
  else (true, { writer with written := writer.written ++ text })

/-- A sink that writes lines. -/
structure Console where
  name : String
  connected : Bool := false
  deriving DecidableEq, Repr

namespace Console

open EdgeGateway.Json

/-- What is written for a message, without the line break. -/
def lineValue (name : String) (message : Message) : Value :=
  .object
    [("sink", .string name), ("channel", .string message.channel),
      ("payload", .string message.payload)]

/-- The line of a message. -/
def line (name : String) (message : Message) : String := (lineValue name message).text ++ "\n"

/-- Connects the console. This always succeeds. -/
def connect (console : Console) : Console := { console with connected := true }

/-- Disconnects the console. -/
def disconnect (console : Console) : Console := { console with connected := false }

/-- Writes a message if the console is connected, and says whether it was written. -/
def publish (console : Console) (message : Message) (writer : Writer) : Bool × Writer :=
  if console.connected then writer.write (line console.name message) else (false, writer)

end Console

end EdgeGateway
