import DeviceClaims.Api.Device
import DeviceClaims.Api.Parameters

namespace DeviceClaims

open Json

/-- A device with the environment that it adds. -/
structure RuntimeDevice where
  name : String
  env : List String := []
  deriving DecidableEq, Inhabited

/-- A specification of devices. Each device adds environment variables to the containers that use it. A
node has one common specification, and every prepared claim one of its own. -/
structure DeviceSpec where
  cdiVersion : String
  kind : String
  devices : List RuntimeDevice
  deriving DecidableEq, Inhabited

namespace RuntimeDevice

def toJson (d : RuntimeDevice) : Json := ofFields
  [("name", some (.str d.name)),
    ("containerEdits", some (ofFields [("env", unlessEmpty .str d.env)]))]

def decode : Decoder RuntimeDevice :=
  .record "Device" ["name", "containerEdits"] fun r =>
    .mk <$> r.field 0 "name" .str <*> r.field 1 "containerEdits"
      (.record "ContainerEdits" ["env"] fun r => r.fieldOr 0 "env" (.list .str) [])

end RuntimeDevice

namespace DeviceSpec

def toJson (s : DeviceSpec) : Json := ofFields
  [("cdiVersion", some (.str s.cdiVersion)), ("kind", some (.str s.kind)),
    ("devices", some (.arr (s.devices.map RuntimeDevice.toJson)))]

def decode : Decoder DeviceSpec :=
  .record "Spec" ["cdiVersion", "kind", "devices"] fun r =>
    .mk <$> r.field 0 "cdiVersion" .str <*> r.field 1 "kind" .str
      <*> r.field 2 "devices" (.list RuntimeDevice.decode)

def vendor : String := "k8s." ++ driverName

def deviceKind : String := vendor ++ "/" ++ "fake"

/-- The name of the device that every claim uses. -/
def commonName : String := "common"

/-- The name by which a container refers to a device. -/
def qualifiedName (name : String) : String := deviceKind ++ "=" ++ name

/-- The names of a claim's devices: the common one, then each prepared one. -/
def claimNames (devices : List DeviceUuid) : List String :=
  qualifiedName commonName :: devices.map fun d => qualifiedName d.text

/-- The specification of the common device, which names the node and the driver. -/
def common (node : String) : DeviceSpec where
  cdiVersion := "0.3.0"
  kind := deviceKind
  devices := [⟨commonName,
    ["FAKE_NODE_NAME=" ++ node, "DRA_RESOURCE_DRIVER_NAME=" ++ driverName]⟩]

/-- The devices of a claim, each with a variable that numbers it. -/
def numbered : Nat → List DeviceUuid → List RuntimeDevice
  | _, [] => []
  | i, d :: rest =>
    ⟨d.text, ["FAKE_DEVICE_" ++ Decimal.text i ++ "=" ++ d.text]⟩ :: numbered (i + 1) rest

def ofClaim (devices : List DeviceUuid) : DeviceSpec where
  cdiVersion := "0.3.0"
  kind := deviceKind
  devices := numbered 0 devices

/-- The name of the file that holds a specification. -/
def fileName (id : String) : String := vendor ++ "_" ++ "fake" ++ "_" ++ id ++ ".json"

end DeviceSpec

end DeviceClaims
