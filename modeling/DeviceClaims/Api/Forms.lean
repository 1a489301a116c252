import DeviceClaims.Api.Claim
import DeviceClaims.Api.DeviceSpec
import DeviceClaims.Api.Inventory
import DeviceClaims.Api.NodeRecord
import DeviceClaims.Json.Printer

namespace DeviceClaims.Forms

open Json

/-- The normal form of a text in some form. -/
def normal {α : Type} (d : Decoder α) (toJson : α → Json) (text : String) : Except Fault String :=
  (d.run text).map fun a => (toJson a).text

def named : List (String × (String → Except Fault String)) :=
  [("ClaimUid", normal (.ident ClaimUid.parse) (.str ·.text)),
    ("DeviceUuid", normal (.ident DeviceUuid.parse) (.str ·.text)),
    ("DeviceMap", normal (.map DeviceUuid.parse .u32) (ofMap DeviceUuid.text ofU32)),
    ("ObjectMeta", normal ObjectMeta.decode ObjectMeta.toJson),
    ("NodeAllocationStateStatus", normal Readiness.decode Readiness.toJson),
    ("NodeAllocationStateSpec", normal NodeSpec.decode NodeSpec.toJson),
    ("NodeAllocationState", normal NodeRecord.decode NodeRecord.toJson),
    ("DeviceType", normal DeviceKind.decode DeviceKind.toJson),
    ("AllocatableDevice", normal AllocatableDevice.decode AllocatableDevice.toJson),
    ("AllocatedFake", normal AllocatedDevice.decode AllocatedDevice.toJson),
    ("PreparedFake", normal PreparedDevice.decode PreparedDevice.toJson),
    ("AllocatedDevices", normal AllocatedDevice.decodeList AllocatedDevice.listToJson),
    ("PreparedDevices", normal PreparedDevice.decodeList PreparedDevice.listToJson),
    ("FakeSelector", normal FakeSelector.decode FakeSelector.toJson),
    ("FakeClaimParametersSpec", normal ClaimParameters.decodeSpec ClaimParameters.specToJson),
    ("FakeClaimParameters", normal ClaimParametersObject.decode ClaimParametersObject.toJson),
    ("ClaimParameters", normal ClaimParameters.decode ClaimParameters.toJson),
    ("DeviceSelector", normal DeviceSelector.decode DeviceSelector.toJson),
    ("DeviceClassParametersSpec", normal ClassParameters.decode ClassParameters.toJson),
    ("DeviceClassParameters", normal ClassParametersObject.decode ClassParametersObject.toJson),
    ("ParametersRef", normal ParametersRef.decode ParametersRef.toJson),
    ("ResourceClass", normal ResourceClass.decode ResourceClass.toJson),
    ("ResourceClaim", normal ResourceClaim.decode ResourceClaim.toJson),
    ("Pod", normal Pod.decode Pod.toJson),
    ("ClaimAllocation", normal ClaimAllocation.decode ClaimAllocation.toJson),
    ("AllocationResult", normal AllocationResult.decode AllocationResult.toJson),
    ("NodeSelectorOperator", normal SelectorOperator.decode SelectorOperator.toJson),
    ("NodeSelectorRequirement", normal NodeRequirement.decode NodeRequirement.toJson),
    ("NodeSelectorTerm", normal NodeTerm.decode NodeTerm.toJson),
    ("NodeSelector", normal NodeSelector.decode NodeSelector.toJson),
    ("NamedResourcesAttribute", normal Attribute.decode Attribute.toJson),
    ("NamedResourcesInstance", normal NamedResource.decode NamedResource.toJson),
    ("ResourceModel", normal ResourceModel.decode ResourceModel.toJson),
    ("DriverRequests", normal DriverRequests.decode DriverRequests.toJson),
    ("ResourceClaimParametersReference", normal GeneratedFrom.decode GeneratedFrom.toJson),
    ("ResourceClaimParameters", normal StructuredParameters.decode StructuredParameters.toJson),
    ("StructuredResourceHandle", normal StructuredHandle.decode StructuredHandle.toJson),
    ("Device", normal RuntimeDevice.decode RuntimeDevice.toJson),
    ("Spec", normal DeviceSpec.decode DeviceSpec.toJson)]

/-- The normal form of a text in the form of a name, if there is such a form. -/
def normal? (form text : String) : Option (Except Fault String) := (named.lookup form).map (· text)

/-- The form of an empty list of devices without their kind. -/
def noDevices : Json := ofFields [("devices", some (.arr []))]

/-- The values that stand for fields that are left out, by the names of their forms. -/
def defaults : List (String × Json) :=
  [("ObjectMeta", ObjectMeta.toJson ⟨"", "", 0⟩),
    ("NodeAllocationStateStatus", Readiness.toJson .notReady),
    ("NodeAllocationStateSpec", NodeSpec.toJson {}),
    ("NodeAllocationState", (NodeRecord.new "" "").toJson),
    ("AllocatedFakes", noDevices),
    ("PreparedFakes", noDevices),
    ("FakeSelector", FakeSelector.toJson {}),
    ("FakeClaimParametersSpec", ClaimParameters.specToJson {}),
    ("DeviceClassParametersSpec", ClassParameters.toJson {}),
    ("NodeSelector", NodeSelector.toJson {}),
    ("NodeSelectorTerm", NodeTerm.toJson {}),
    ("NamedResourcesResources", ofFields [("instances", some (.arr []))]),
    ("ResourceModel", ResourceModel.toJson {}),
    ("ContainerEdits", ofFields [])]

end DeviceClaims.Forms
