import DeviceClaims.Api.Device
import DeviceClaims.Api.Meta

namespace DeviceClaims

open Json

/-- The name of the driver, which is also the group of its parameters. -/
def driverName : String := "fake.resource.3-shake.com"

/-- Restricts devices by their model. -/
structure FakeSelector where
  model : Option String := none
  deriving DecidableEq, Inhabited

namespace FakeSelector

/-- The selector as an expression over the attributes of a device. -/
def expression (s : FakeSelector) : String :=
  match s.model with
  | some model => "attributes.string[\"model\"] == " ++ Quoted.write model
  | none => "true"

def toJson (s : FakeSelector) : Json := ofFields [("model", s.model.map .str)]

def decode : Decoder FakeSelector :=
  .record "FakeSelector" ["model"] fun r =>
    .mk <$> r.fieldOr 0 "model" (.option .str) none

end FakeSelector

/-- What a claim asks for: how many devices, into how many parts each is split, and which. -/
structure ClaimParameters where
  count : UInt32 := 1
  split : UInt32 := 0
  selector : Option FakeSelector := none
  deriving DecidableEq, Inhabited

namespace ClaimParameters

def kind : String := "FakeClaimParameters"

def fields (p : ClaimParameters) : List (String × Option Json) :=
  [("count", some (ofU32 p.count)), ("split", unlessZero p.split),
    ("selector", p.selector.map FakeSelector.toJson)]

/-- The JSON form without the kind. -/
def specToJson (p : ClaimParameters) : Json := ofFields p.fields

/-- Reads the JSON form without the kind. -/
def decodeSpec : Decoder ClaimParameters :=
  .record "FakeClaimParametersSpec" ["count", "split", "selector"] fun r =>
    .mk <$> r.fieldOr 0 "count" .u32 1 <*> r.fieldOr 1 "split" .u32 0
      <*> r.fieldOr 2 "selector" (.option FakeSelector.decode) none

def toJson (p : ClaimParameters) : Json := ofFields (("kind", some (.str kind)) :: p.fields)

def decode : Decoder ClaimParameters := .tagged "ClaimParameters" "kind" [(kind, decodeSpec)]

end ClaimParameters

/-- A stored object with a claim's parameters. -/
structure ClaimParametersObject where
  metadata : ObjectMeta
  spec : ClaimParameters := {}
  deriving DecidableEq, Inhabited

namespace ClaimParametersObject

def toJson (p : ClaimParametersObject) : Json := ofFields
  [("metadata", some p.metadata.toJson), ("spec", some p.spec.specToJson)]

def decode : Decoder ClaimParametersObject :=
  .record "FakeClaimParameters" ["metadata", "spec"] fun r =>
    .mk <$> r.field 0 "metadata" ObjectMeta.decode <*> r.fieldOr 1 "spec" ClaimParameters.decodeSpec {}

end ClaimParametersObject

/-- Devices of a kind by name. -/
structure DeviceSelector where
  kind : DeviceKind
  name : String
  deriving DecidableEq, Inhabited

namespace DeviceSelector

def toJson (s : DeviceSelector) : Json := ofFields
  [("type", some s.kind.toJson), ("name", some (.str s.name))]

def decode : Decoder DeviceSelector :=
  .record "DeviceSelector" ["type", "name"] fun r =>
    .mk <$> r.field 0 "type" DeviceKind.decode <*> r.field 1 "name" .str

end DeviceSelector

/-- The devices of a class. -/
structure ClassParameters where
  selectors : List DeviceSelector := [⟨.fake, "*"⟩]
  deriving DecidableEq, Inhabited

namespace ClassParameters

def kind : String := "DeviceClassParameters"

def toJson (p : ClassParameters) : Json := ofFields
  [("deviceSelector", some (.arr (p.selectors.map DeviceSelector.toJson)))]

def decode : Decoder ClassParameters :=
  .record "DeviceClassParametersSpec" ["deviceSelector"] fun r =>
    .mk <$> r.field 0 "deviceSelector" (.list DeviceSelector.decode)

end ClassParameters

/-- A stored object with a class's parameters. -/
structure ClassParametersObject where
  metadata : ObjectMeta
  spec : ClassParameters := {}
  deriving DecidableEq, Inhabited

namespace ClassParametersObject

def toJson (p : ClassParametersObject) : Json := ofFields
  [("metadata", some p.metadata.toJson), ("spec", some p.spec.toJson)]

def decode : Decoder ClassParametersObject :=
  .record "DeviceClassParameters" ["metadata", "spec"] fun r =>
    .mk <$> r.field 0 "metadata" ObjectMeta.decode <*> r.fieldOr 1 "spec" ClassParameters.decode {}

end ClassParametersObject

/-- What structured parameters were made from. -/
structure GeneratedFrom where
  apiGroup : String
  kind : String
  name : String
  deriving DecidableEq, Inhabited

namespace GeneratedFrom

def toJson (g : GeneratedFrom) : Json := ofFields
  [("apiGroup", some (.str g.apiGroup)), ("kind", some (.str g.kind)),
    ("name", some (.str g.name))]

def decode : Decoder GeneratedFrom :=
  .record "ResourceClaimParametersReference" ["apiGroup", "kind", "name"] fun r =>
    .mk <$> r.field 0 "apiGroup" .str <*> r.field 1 "kind" .str <*> r.field 2 "name" .str

end GeneratedFrom

/-- The requests to one driver: its own parameters, and a selector for every device. -/
structure DriverRequests where
  driverName : String
  vendorParameters : FreeForm
  selectors : List String
  deriving DecidableEq, Inhabited

namespace DriverRequests

def requestToJson (selector : String) : Json := ofFields
  [("namedResources", some (ofFields [("selector", some (.str selector))]))]

def decodeRequest : Decoder String :=
  .record "ResourceRequest" ["namedResources"] fun r =>
    r.field 0 "namedResources" (.record "NamedResourcesRequest" ["selector"] fun r =>
      r.field 0 "selector" .str)

def toJson (d : DriverRequests) : Json := ofFields
  [("driverName", some (.str d.driverName)), ("vendorParameters", some d.vendorParameters.json),
    ("requests", some (.arr (d.selectors.map requestToJson)))]

def decode : Decoder DriverRequests :=
  .record "DriverRequests" ["driverName", "vendorParameters", "requests"] fun r =>
    .mk <$> r.field 0 "driverName" .str <*> r.field 1 "vendorParameters" .freeForm
      <*> r.field 2 "requests" (.list decodeRequest)

end DriverRequests

/-- Structured parameters of a claim. -/
structure StructuredParameters where
  metadata : ObjectMeta
  generatedFrom : GeneratedFrom
  driverRequests : List DriverRequests
  shareable : Bool
  deriving DecidableEq, Inhabited

namespace StructuredParameters

def kind : String := "ResourceClaimParameters"

def toJson (p : StructuredParameters) : Json := ofFields
  [("metadata", some p.metadata.toJson), ("generatedFrom", some p.generatedFrom.toJson),
    ("driverRequests", some (.arr (p.driverRequests.map DriverRequests.toJson))),
    ("shareable", some (.bool p.shareable))]

def decode : Decoder StructuredParameters :=
  .record "ResourceClaimParameters" ["metadata", "generatedFrom", "driverRequests", "shareable"]
    fun r => .mk <$> r.field 0 "metadata" ObjectMeta.decode
      <*> r.field 1 "generatedFrom" GeneratedFrom.decode
      <*> r.field 2 "driverRequests" (.list DriverRequests.decode)
      <*> r.field 3 "shareable" .bool

end StructuredParameters

end DeviceClaims
