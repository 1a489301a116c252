import DeviceClaims.Controller.Basic
import DeviceClaims.Wire.Convert
import DeviceClaims.Wire.Message

namespace DeviceClaims

/-- What the controller can be asked. -/
inductive ControllerMethod
  | classParameters
  | claimParameters
  | allocate
  | deallocate
  | unsuitableNodes
  | structuredParameters
  | structuredList
  deriving DecidableEq

namespace ControllerMethod

open Wire (MessageType)

def ofName? : String → Option ControllerMethod
  | "GetClassParameters" => some classParameters
  | "GetClaimParameters" => some claimParameters
  | "Allocate" => some allocate
  | "Deallocate" => some deallocate
  | "UnsuitableNodes" => some unsuitableNodes
  | "GetResourceClaimParameters" => some structuredParameters
  | "ListResourceClaimParameters" => some structuredList
  | _ => none

def request : ControllerMethod → MessageType
  | classParameters => .classParametersRequest
  | claimParameters => .claimParametersRequest
  | allocate => .allocateRequest
  | deallocate => .deallocateRequest
  | unsuitableNodes => .unsuitableNodesRequest
  | structuredParameters => .structuredParametersRequest
  | structuredList => .structuredListRequest

def response : ControllerMethod → MessageType
  | classParameters | claimParameters => .parametersResponse
  | allocate => .allocateResponse
  | deallocate => .deallocateResponse
  | unsuitableNodes => .unsuitableNodesResponse
  | structuredParameters => .structuredParametersResponse
  | structuredList => .structuredListResponse

end ControllerMethod

/-- Reads the JSON text of a field of a request. The fields of a request are read one after the other,
and the first that cannot be read is reported. -/
def readArgument {α : Type} (field : String) (d : Json.Decoder α) (text : String) :
    Except Status α :=
  (d.run text).mapError fun f =>
    { (ConvertError.invalidJson field f).status with place := f.place? text }

/-- Whether a fault of a claim's parameters is one of their tag; else it has no place, since the other
fields are read as a whole before. -/
def isTagFault : Json.Fault → Bool
  | .unknownVariant .. => true
  | .wrongType _ wanted =>
    wanted = "variant identifier" || wanted = "internally tagged enum ClaimParameters"
  | _ => false

def readParametersArgument (text : String) : Except Status ClaimParameters :=
  (ClaimParameters.decode.run text).mapError fun f =>
    { (ConvertError.invalidJson "claim_parameters" f).status with
      place := if isTagFault f then f.place? text else none }

namespace Controller

/-- The class and its parameters that a remote caller asks for. -/
def callClassParameters (c : Controller) (text : String) : Except Status String := do
  let cls ← readArgument "class" ResourceClass.decode text
  let found ← (c.classParameters cls).mapError DriverError.status
  return found.toJson.text

/-- The parameters of a claim that a remote caller asks for. -/
def callClaimParameters (c : Controller) (m : Wire.ClaimParametersRequest) : Except Status String := do
  let claim ← readArgument "claim" ResourceClaim.decode m.claim
  let _ ← readArgument "class" ResourceClass.decode m.resourceClass
  let found ← (c.claimParameters claim).mapError DriverError.status
  return found.toJson.text

def allocateArgument (m : Wire.AllocateRequest) : Except Status ResourceClaim := do
  let claim ← readArgument "claim" ResourceClaim.decode m.claim
  let _ ← readParametersArgument m.claimParameters
  let _ ← readArgument "class" ResourceClass.decode m.resourceClass
  let _ ← readArgument "class_parameters" ClassParameters.decode m.classParameters
  return claim

/-- The pod's claims of a request for unsuitable nodes. -/
def unsuitableNodesArgument (m : Wire.UnsuitableNodesRequest) :
    Except Status (List ClaimAllocation) := do
  let _ ← readArgument "pod" Pod.decode m.pod
  convertEach (readArgument "claim_allocations" ClaimAllocation.decode) m.claims

def call (c : Controller) : (m : ControllerMethod) → m.request.Carrier →
    Prog (Except Status m.response.Carrier)
  | .classParameters, text => .done (c.callClassParameters text)
  | .claimParameters, m => .done (c.callClaimParameters m)
  | .allocate, m => match allocateArgument m with
    | .error e => .done (.error e)
    | .ok claim => (c.allocate claim.uid m.selectedNode).bind fun r =>
      .done ((r.mapError DriverError.status).map fun a => a.toJson.text)
  | .deallocate, text => match readArgument "claim" ResourceClaim.decode text with
    | .error e => .done (.error e)
    | .ok claim => (c.deallocate claim).bind fun r => .done (r.mapError DriverError.status)
  | .unsuitableNodes, m => match unsuitableNodesArgument m with
    | .error e => .done (.error e)
    | .ok pod => (c.unsuitableNodes pod m.nodes).bind fun pod =>
      .done (.ok (pod.map fun a => a.toJson.text))
  | .structuredParameters, key =>
    .done (((c.structuredParameters key.space key.name).mapError DriverError.status).map fun p =>
      p.toJson.text)
  | .structuredList, (space : String) =>
    let space := if space = "" then none else some space
    .done (.ok ((c.registry.list space).map fun p => p.toJson.text))

end Controller

end DeviceClaims
