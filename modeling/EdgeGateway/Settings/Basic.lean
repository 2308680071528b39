import EdgeGateway.Channel.Address
import EdgeGateway.Drain.Pass
import EdgeGateway.Manifest.Json

/-!
# Settings

What a gateway is configured with, and the settings that a router cannot work with.
-/

namespace EdgeGateway

/-- Where pending values are kept. -/
inductive Backend where
  /-- In memory, for as long as the process runs. -/
  | memory
  /-- In a journal on disk. -/
  | durable
  deriving DecidableEq, Repr

namespace Backend

/-- The name of a backend in settings. -/
def name : Backend → String
  | memory => "memory"
  | durable => "sled"

/-- The backend of a name. -/
def ofName? (text : String) : Option Backend := [memory, durable].find? (·.name = text)

end Backend

/-- A device that is bound when the gateway starts, with the references it declares as they were
listed. -/
structure DeviceSettings where
  key : String
  sensors : List String := []
  alarms : List String := []
  actuators : List String := []
  configurations : List String := []
  deriving DecidableEq, Repr

/-- The manifest of a device. -/
def DeviceSettings.manifest (device : DeviceSettings) : Manifest :=
  .declaring device.sensors device.alarms device.actuators device.configurations

/-- Everything that a gateway is configured with. -/
structure Settings where
  gatewayKey : String := "gateway"
  /-- The greatest number of readings or alarms in one message. -/
  batchSize : Nat := 50
  backend : Backend := .memory
  /-- Where a durable backlog lives. -/
  path : String := "data/backlog"
  level : String := "info"
  devices : List DeviceSettings := []
  deriving DecidableEq, Repr

/-- Why a router cannot work with some settings. -/
inductive SettingError where
  /-- A key is empty or contains the delimiter of channels. -/
  | invalidKey (setting key : String)
  /-- Messages would be empty. -/
  | zeroBatchSize
  /-- A device would be mistaken for the gateway itself. -/
  | ownKey (key : String)
  deriving DecidableEq, Repr

/-- The wording of a setting error. -/
def SettingError.message : SettingError → String
  | invalidKey setting key =>
    "invalid setting: " ++ setting ++ " '" ++ key ++ "' must be non-empty and contain no '/'"
  | zeroBatchSize => "invalid setting: publisher.batch_size must be at least 1"
  | ownKey key => "invalid setting: device '" ++ key ++ "' uses the gateway's own key"

namespace Settings

/-- Checks that a key can stand in a channel. -/
def checkKey (setting key : String) : Except SettingError Unit :=
  if Address.IsKey key then .ok () else .error (.invalidKey setting key)

/-- Checks the key of a device. -/
def checkDevice (gatewayKey : String) (device : DeviceSettings) : Except SettingError Unit := do
  checkKey "devices.key" device.key
  if device.key = gatewayKey then .error (.ownKey device.key) else .ok ()

/-- Refuses settings that a router cannot work with. The first error wins: the gateway's key, the
batch size, then the devices in their order. -/
def validate (settings : Settings) : Except SettingError Unit := do
  checkKey "gateway.key" settings.gatewayKey
  if settings.batchSize = 0 then .error .zeroBatchSize
  else settings.devices.forM (checkDevice settings.gatewayKey)

/-- What a router with these settings publishes by. -/
def profile (settings : Settings) : Profile where
  gatewayKey := settings.gatewayKey
  batchSize := settings.batchSize

/-- The manifests of the devices; of devices with the same key the last one counts. -/
def manifests (settings : Settings) : Manifests :=
  .ofList (settings.devices.map fun device => (device.key, device.manifest))

end Settings

end EdgeGateway
