import DeviceClaims.Json.Decode
import DeviceClaims.Json.Encode

namespace DeviceClaims

open Json

/-- The kinds of devices. Each list of devices says of what kind they are. -/
inductive DeviceKind
  | fake
  deriving DecidableEq, Inhabited

namespace DeviceKind

def name : DeviceKind → String
  | fake => "fake"

def toJson (k : DeviceKind) : Json := .str k.name

def decode : Decoder DeviceKind := .enumeration [("fake", fake)]

end DeviceKind

/-- A device that a node offers. -/
structure AllocatableDevice where
  uuid : DeviceUuid
  model : String
  deriving DecidableEq

/-- A device that a claim holds, to be split into so many parts; zero leaves it whole. -/
structure AllocatedDevice where
  uuid : DeviceUuid
  split : UInt32 := 0
  deriving DecidableEq

/-- A device made ready for a claim: itself, or a part of its parent. -/
structure PreparedDevice where
  uuid : DeviceUuid
  parent : Option DeviceUuid := none
  deriving DecidableEq

def fakeModel : String := "LATEST-FAKE-MODEL"

namespace AllocatableDevice

def toJson (d : AllocatableDevice) : Json := ofFields
  [("type", some DeviceKind.fake.toJson), ("uuid", some (.str d.uuid.text)),
    ("model", some (.str d.model))]

/-- Reads the fields beside the kind. -/
def decodeFields : Decoder AllocatableDevice :=
  .record "AllocatableFake" ["uuid", "model"] fun r =>
    .mk <$> r.field 0 "uuid" (.ident DeviceUuid.parse) <*> r.field 1 "model" .str

def decode : Decoder AllocatableDevice := .tagged "AllocatableDevice" "type" [("fake", decodeFields)]

end AllocatableDevice

namespace AllocatedDevice

def toJson (d : AllocatedDevice) : Json := ofFields
  [("uuid", some (.str d.uuid.text)), ("split", unlessZero d.split)]

def decode : Decoder AllocatedDevice :=
  .record "AllocatedFake" ["uuid", "split"] fun r =>
    .mk <$> r.field 0 "uuid" (.ident DeviceUuid.parse) <*> r.fieldOr 1 "split" .u32 0

end AllocatedDevice

namespace PreparedDevice

/-- The device that a prepared device was made of. -/
def source (d : PreparedDevice) : DeviceUuid := d.parent.getD d.uuid

def toJson (d : PreparedDevice) : Json := ofFields
  [("uuid", some (.str d.uuid.text)), ("parentUuid", d.parent.map fun p => .str p.text)]

def decode : Decoder PreparedDevice :=
  .record "PreparedFake" ["uuid", "parentUuid"] fun r =>
    .mk <$> r.field 0 "uuid" (.ident DeviceUuid.parse)
      <*> r.fieldOr 1 "parentUuid" (.option (.ident DeviceUuid.parse)) none

end PreparedDevice

/-- The JSON form of a list of devices of one kind. -/
def devicesToJson {α : Type} (f : α → Json) (ds : List α) : Json := ofFields
  [("type", some DeviceKind.fake.toJson), ("devices", some (.arr (ds.map f)))]

def decodeDevices {α : Type} (sum record : String) (d : Decoder α) : Decoder (List α) :=
  .tagged sum "type" [("fake", .record record ["devices"] fun r => r.fieldOr 0 "devices" (.list d) [])]

namespace AllocatedDevice

def listToJson (ds : List AllocatedDevice) : Json := devicesToJson toJson ds

/-- Reads the JSON form of what a claim holds. -/
def decodeList : Decoder (List AllocatedDevice) :=
  decodeDevices "AllocatedDevices" "AllocatedFakes" decode

end AllocatedDevice

namespace PreparedDevice

/-- The JSON form of what is prepared for a claim. -/
def listToJson (ds : List PreparedDevice) : Json := devicesToJson toJson ds

/-- Reads the JSON form of what is prepared for a claim. -/
def decodeList : Decoder (List PreparedDevice) :=
  decodeDevices "PreparedDevices" "PreparedFakes" decode

end PreparedDevice

end DeviceClaims
