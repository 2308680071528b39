import EdgeGateway.Channel.Kind
import EdgeGateway.Json.Record
import EdgeGateway.Table.Ascending

/-!
# Device manifests

A device is bound to the gateway while the repository holds a manifest for its key. The manifest
lists the references on which the device may publish, grouped by what they are.

As JSON a manifest is written as an object of up to four lists, or as an array of them in their
order. Missing lists are empty.
-/

namespace EdgeGateway

/-- The references that a device declares, each group in ascending order without repetitions. -/
structure Manifest where
  sensors : List String := []
  alarms : List String := []
  actuators : List String := []
  configurations : List String := []
  deriving DecidableEq, Repr

namespace Manifest

/-- The manifest that declares some references, given in any order and number. -/
def declaring (sensors alarms actuators configurations : List String) : Manifest where
  sensors := ascendingTexts sensors
  alarms := ascendingTexts alarms
  actuators := ascendingTexts actuators
  configurations := ascendingTexts configurations

/-- The group in which messages of a kind have to be declared. -/
def group (manifest : Manifest) : MessageKind → List String
  | .sensorReading => manifest.sensors
  | .alarm => manifest.alarms
  | .actuatorStatus | .actuatorSet | .actuatorGet => manifest.actuators
  | .configurationSet | .configurationGet => manifest.configurations

/-- Whether a reference is declared for messages of a kind. -/
def declares (manifest : Manifest) (kind : MessageKind) (reference : String) : Bool :=
  (manifest.group kind).contains reference

/-- A manifest declares for a kind exactly the references that were listed in its group. -/
theorem declares_declaring_iff {sensors alarms actuators configurations : List String}
    {kind : MessageKind} {reference : String} :
    (declaring sensors alarms actuators configurations).declares kind reference ↔
      reference ∈ group ⟨sensors, alarms, actuators, configurations⟩ kind := by
  cases kind <;> simp [declares, group, declaring]

/-- Every declared reference. -/
def references (manifest : Manifest) : List String :=
  ascendingTexts
    (manifest.sensors ++ manifest.alarms ++ manifest.actuators ++ manifest.configurations)

/-! ### Written manifests -/

/-- The fields of a written manifest, in their order. -/
def fieldNames : List String := ["sensors", "alarms", "actuators", "configurations"]

/-- The references of one field; none if the field is absent. -/
def group? : Option Json.Tree → Option (List String)
  | none => some []
  | some tree => tree.texts?

/-- The manifest that a JSON text spells. -/
def ofText? (text : String) : Option Manifest := do
  let tree ← Json.Tree.ofText? text
  let [sensors, alarms, actuators, configurations] ← tree.record? fieldNames | none
  return declaring (← group? sensors) (← group? alarms) (← group? actuators)
    (← group? configurations)

end Manifest

/-- The manifests of the bound devices, by device key. -/
abbrev Manifests := Table String Manifest

namespace Manifests

/-- Binds a device, replacing what it declared before. -/
def bind (manifests : Manifests) (device : String) (manifest : Manifest) : Manifests :=
  manifests.insert device manifest

/-- Unbinds a device. -/
def unbind (manifests : Manifests) (device : String) : Manifests := manifests.erase device

/-- The manifest of a device, if it is bound. -/
def resolve (manifests : Manifests) (device : String) : Option Manifest := manifests.find? device

end Manifests

end EdgeGateway
