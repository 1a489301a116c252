import DeviceClaims.Json.Decode
import DeviceClaims.Json.Encode

namespace DeviceClaims

open Json

/-- A named attribute, which may have a text as its value. -/
structure Attribute where
  name : String
  stringValue : Option String := none
  deriving DecidableEq, Inhabited

namespace Attribute

def toJson (a : Attribute) : Json := ofFields
  [("name", some (.str a.name)), ("stringValue", a.stringValue.map .str)]

def decode : Decoder Attribute :=
  .record "NamedResourcesAttribute" ["name", "stringValue"] fun r =>
    .mk <$> r.field 0 "name" .str <*> r.fieldOr 1 "stringValue" (.option .str) none

end Attribute

/-- A named resource. -/
structure NamedResource where
  name : String
  attributes : List Attribute := []
  deriving DecidableEq, Inhabited

namespace NamedResource

/-- The text of the first attribute with a name. -/
def stringAttribute (n : NamedResource) (name : String) : Option String :=
  (n.attributes.find? (·.name = name)).bind (·.stringValue)

def toJson (n : NamedResource) : Json := ofFields
  [("name", some (.str n.name)), ("attributes", some (.arr (n.attributes.map Attribute.toJson)))]

def decode : Decoder NamedResource :=
  .record "NamedResourcesInstance" ["name", "attributes"] fun r =>
    .mk <$> r.field 0 "name" .str <*> r.fieldOr 1 "attributes" (.list Attribute.decode) []

end NamedResource

/-- The named resources of a node. -/
structure ResourceModel where
  instances : List NamedResource := []
  deriving DecidableEq, Inhabited

namespace ResourceModel

def toJson (m : ResourceModel) : Json := ofFields
  [("namedResources", some (ofFields
    [("instances", some (.arr (m.instances.map NamedResource.toJson)))]))]

def decode : Decoder ResourceModel :=
  .record "ResourceModel" ["namedResources"] fun r =>
    r.field 0 "namedResources" (.record "NamedResourcesResources" ["instances"] fun r =>
      .mk <$> r.fieldOr 0 "instances" (.list NamedResource.decode) [])

end ResourceModel

/-- The named resources that a scheduler chose on a node, with the driver's own parameters. -/
structure StructuredHandle where
  vendorParameters : Option FreeForm := none
  nodeName : String := ""
  results : List String := []
  deriving DecidableEq, Inhabited

namespace StructuredHandle

def resultToJson (name : String) : Json := ofFields
  [("namedResources", some (ofFields [("name", some (.str name))]))]

def decodeResult : Decoder String :=
  .record "DriverAllocationResult" ["namedResources"] fun r =>
    r.field 0 "namedResources" (.record "NamedResourcesAllocationResult" ["name"] fun r =>
      r.field 0 "name" .str)

def toJson (h : StructuredHandle) : Json := ofFields
  [("vendorClaimParameters", h.vendorParameters.map (·.json)),
    ("nodeName", some (.str h.nodeName)),
    ("results", some (.arr (h.results.map resultToJson)))]

def decode : Decoder StructuredHandle :=
  .record "StructuredResourceHandle" ["vendorClaimParameters", "nodeName", "results"] fun r =>
    .mk <$> r.fieldOr 0 "vendorClaimParameters" (.option .freeForm) none
      <*> r.fieldOr 1 "nodeName" .str "" <*> r.fieldOr 2 "results" (.list decodeResult) []

end StructuredHandle

end DeviceClaims
