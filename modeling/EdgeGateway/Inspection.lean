import EdgeGateway.Backlog.Journal
import EdgeGateway.Console
import EdgeGateway.Router.Basic
import EdgeGateway.Text.Quoted
import EdgeGateway.Text.Bytes

/-!
# Descriptions for inspection

How the parts of a gateway describe themselves: a type name and its fields in braces. What waits
in an outbox is not shown, only whether anything does. A journal can also list its entries.
-/

namespace EdgeGateway

/-- A type name with its fields. -/
def fieldsText (typeName : String) (fields : List (String × String)) : String :=
  let shown := fields.map fun (name, value) => name ++ ": " ++ value
  typeName ++ " \x7b " ++ ", ".intercalate shown ++ " \x7d"

/-- The name of a truth value. -/
def truthText (value : Bool) : String := if value then "true" else "false"

/-- The description of a console. -/
def Console.description (console : Console) : String :=
  fieldsText "ConsoleTransport"
    [("name", Text.quoted console.name), ("connected", truthText console.connected)]

/-- The description of an outbox. -/
def Outbox.description {Backlog : Type → Type} [Store Backlog] (outbox : Outbox Backlog) :
    String :=
  fieldsText "Outbox"
    [("connected", truthText outbox.connected), ("running", truthText outbox.running),
      ("empty", truthText outbox.isEmpty)]

/-- The description of the handlers: which of them there are. -/
def Handlers.description (handlers : Handlers) : String :=
  fieldsText "CommandHandlers"
    [("actuator_set", truthText handlers.actuatorSet),
      ("actuator_get", truthText handlers.actuatorGet),
      ("configuration_set", truthText handlers.configurationSet),
      ("configuration_get", truthText handlers.configurationGet)]

/-- The description of a router and its outbox. -/
def Router.description {Backlog : Type → Type} [Store Backlog] (router : Router)
    (outbox : Outbox Backlog) : String :=
  fieldsText "MessageRouter"
    [("gateway_key", Text.quoted router.profile.gatewayKey),
      ("batch_size", toString (max router.profile.batchSize 1)),
      ("handlers", router.handlers.description), ("outbox", outbox.description)]

namespace Journal

variable {Value : Type}

/-- The description of a journal. -/
def description (journal : Journal Value) : String :=
  fieldsText "SledStore"
    [("db", Text.quoted "sled::Db"), ("retention", journal.retention.name)]

/-- Whether a byte is an ASCII digit. -/
def isDigit (byte : UInt8) : Bool := 0x30 ≤ byte && byte ≤ 0x39

/-- An entry key as text. The digits of a sequence number are not shown. -/
def entryKeyText (entryKey : Bytes) : String :=
  let front := entryKey.take (entryKey.length - 20)
  let last := entryKey.drop (entryKey.length - 20)
  if 20 ≤ entryKey.length ∧ last.all isDigit then Bytes.shown front ++ "<seq>"
  else Bytes.shown entryKey

/-- The entries of a journal as texts, in the order of their keys. -/
def listing (journal : Journal Value) : List (String × String) :=
  journal.entries.rows.map fun (entryKey, bytes) => (entryKeyText entryKey, Bytes.shown bytes)

/-- Puts an entry as it is. -/
def insertEntry (journal : Journal Value) (entryKey bytes : Bytes) : Journal Value :=
  { journal with entries := journal.entries.insert entryKey bytes }

end Journal

end EdgeGateway
