import EdgeGateway.Settings.Basic
import EdgeGateway.Settings.EnvironmentFile
import EdgeGateway.Settings.Environment
import EdgeGateway.Settings.Toml.Document

/-!
# Loading settings

Settings come from a file, then from the environment, which is first extended by a `.env` file.
What no source sets has its default. Scalars are converted to what is asked for: every scalar has
a text, and numbers, truth values and some words count as naturals. Unknown settings are ignored.
-/

namespace EdgeGateway.Settings

open EdgeGateway.Decimal

/-- A settings file. -/
inductive File where
  | toml (text : String)
  | json (text : String)

/-- Everything that settings are loaded from. -/
structure Sources where
  file : Option File := none
  /-- The text of the `.env` file. -/
  environmentFile : String := ""
  /-- The variables of the environment with their values. -/
  environment : List (String × String) := []

namespace Tree

/-- The text of a scalar. -/
def text? : Tree → Option String
  | boolean value => some (if value then "true" else "false")
  | integer value => some (toString value)
  | real value => some value.text
  | text value => some value
  | null | list _ | table _ => none

/-- The natural below `2 ^ 64` that a scalar counts as. -/
def natural? : Tree → Option Nat
  | boolean value => some (if value then 1 else 0)
  | integer value => if 0 ≤ value then some value.toNat else none
  | real value => some value.toNatural64
  | text value =>
    let folded := String.ofList (value.toList.map Char.toLower)
    if ["true", "on", "yes"].contains folded then some 1
    else if ["false", "off", "no"].contains folded then some 0
    else natural64? value.toList
  | null | list _ | table _ => none

/-- The backend that a setting names, by a text or by the only member of a table. -/
def backend? : Tree → Option Backend
  | text value => Backend.ofName? value
  | table [(name, _)] => Backend.ofName? name
  | _ => none

/-- What an optional setting says, `none` inside if it is null. -/
def optional? {α : Type} (convert : Tree → Option α) : Tree → Option (Option α)
  | null => some none
  | setting => (convert setting).map some

/-- The fields of a record: the members of a table with these names, or the items of a list in
this order. -/
def fields? (names : List String) : Tree → Option (List (Option Tree))
  | table members => some (names.map fun name => members.lookup name)
  | list items => some ((List.range names.length).map fun index => items[index]?)
  | _ => none

/-- The settings of a section, null where they are absent. A list has to hold all of them. -/
def entries? (names : List String) : Tree → Option (List Tree)
  | null => some (names.map fun _ => null)
  | table members => some (names.map fun name => (members.lookup name).getD null)
  | list items => if names.length ≤ items.length then some (items.take names.length) else none
  | _ => none

/-- A list of texts. -/
def texts? : Tree → Option (List String)
  | list items => items.mapM text?
  | _ => none

/-- A list of texts that is empty if it is absent. -/
def textsOrNone? : Option Tree → Option (List String)
  | none => some []
  | some setting => setting.texts?

/-- The settings of a device. -/
def device? (setting : Tree) : Option DeviceSettings := do
  let [key, sensors, alarms, actuators, configurations] ←
    setting.fields? ["key", "sensors", "alarms", "actuators", "configurations"] | none
  return {
    key := ← (← key).text?
    sensors := ← textsOrNone? sensors
    alarms := ← textsOrNone? alarms
    actuators := ← textsOrNone? actuators
    configurations := ← textsOrNone? configurations }

/-- The settings of a list of devices. -/
def devices? : Tree → Option (List DeviceSettings)
  | list items => items.mapM device?
  | _ => none

/-- The settings that a tree spells; `none` if one of them is not what it should be. -/
def settings? (tree : Tree) : Option Settings := do
  let member (name : String) : Tree := (tree.members.lookup name).getD null
  let [key] ← (member "gateway").entries? ["key"] | none
  let [batchSize] ← (member "publisher").entries? ["batch_size"] | none
  let [backend, path] ← (member "persistence").entries? ["backend", "path"] | none
  let [level] ← (member "logging").entries? ["level"] | none
  let unset : Settings := {}
  return {
    gatewayKey := (← key.optional? text?).getD unset.gatewayKey
    batchSize := (← batchSize.optional? natural?).getD unset.batchSize
    backend := (← backend.optional? backend?).getD unset.backend
    path := (← path.optional? text?).getD unset.path
    level := (← level.optional? text?).getD unset.level
    devices := (← (member "devices").optional? devices?).getD unset.devices }

end Tree

/-- The text of a file without its byte order mark. -/
def File.contents : File → String
  | toml text | json text => String.ofList (Text.dropByteOrderMark text.toList)

/-- The settings of a file by name. A JSON file has to hold an object. -/
def File.settings? (file : File) : Option (List (String × Tree)) :=
  match file with
  | toml _ => Toml.ofText? file.contents
  | json _ =>
    match Json.Value.ofText? file.contents with
    | some (.object members) => some (Tree.ofMembers members)
    | _ => none

/-- Loads settings; `none` if a source is malformed or a setting is not what it should be. -/
def load? (sources : Sources) : Option Settings := do
  let file ←
    match sources.file with
    | some file => file.settings?
    | none => some []
  let environment := EnvironmentFile.extend sources.environment sources.environmentFile
  let tree := ((Tree.table []).assign file).assign (Environment.settings environment)
  tree.settings?

end EdgeGateway.Settings
