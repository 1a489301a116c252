import DeviceClaims.Api.Inventory
import DeviceClaims.Api.Meta
import DeviceClaims.Wire.Codec

namespace DeviceClaims.Wire

/-- Resources that a scheduler chose. Each result may lack its name. -/
structure Handle where
  /-- The driver's own parameters as JSON text, empty if there are none. -/
  vendorParameters : String := ""
  nodeName : String := ""
  results : List (Option String) := []
  deriving DecidableEq, Inhabited

/-- A claim that is to be used on a node. -/
structure Claim where
  space : String := ""
  uid : String := ""
  name : String := ""
  handles : List Handle := []
  deriving DecidableEq, Inhabited

/-- What came of preparing a claim; the failure is empty if there is none. -/
structure PrepareAnswer where
  devices : List String := []
  failure : String := ""
  deriving DecidableEq, Inhabited

/-- Asks for a claim's parameters, with the claim and its class as JSON text. -/
structure ClaimParametersRequest where
  claim : String := ""
  resourceClass : String := ""
  deriving DecidableEq, Inhabited

/-- Asks for a claim to be allocated, with all but the node as JSON text. -/
structure AllocateRequest where
  claim : String := ""
  claimParameters : String := ""
  resourceClass : String := ""
  classParameters : String := ""
  selectedNode : String := ""
  deriving DecidableEq, Inhabited

/-- Asks which nodes cannot hold a pod's claims, with the pod and the claims as JSON text. -/
structure UnsuitableNodesRequest where
  pod : String := ""
  claims : List String := []
  nodes : List String := []
  deriving DecidableEq, Inhabited

namespace Codec

def resourceAttribute : Codec Attribute where
  zero := ⟨"", none⟩
  fields := [.text 1 "name" (·.name) (fun s m => { m with name := s }),
    .optionalText 2 "string_value" (·.stringValue) (fun s m => { m with stringValue := s })]

def namedResource : Codec NamedResource where
  zero := ⟨"", []⟩
  fields := [.text 1 "name" (·.name) (fun s m => { m with name := s }),
    .messages resourceAttribute 2 "attributes" (·.attributes) (fun l m => { m with attributes := l })]

def namedResources : Codec ResourceModel where
  zero := ⟨[]⟩
  fields := [.messages namedResource 1 "instances" (·.instances) (fun l _ => ⟨l⟩)]

def handle : Codec Handle where
  zero := {}
  fields := [.text 1 "vendor_claim_parameters" (·.vendorParameters) (fun s m => { m with vendorParameters := s }),
    .text 2 "node_name" (·.nodeName) (fun s m => { m with nodeName := s }),
    .messages (optional "named_resources" (text "name")) 3 "results" (·.results) (fun l m => { m with results := l })]

def claim : Codec Claim where
  zero := {}
  fields := [.text 1 "namespace" (·.space) (fun s m => { m with space := s }),
    .text 2 "uid" (·.uid) (fun s m => { m with uid := s }),
    .text 3 "name" (·.name) (fun s m => { m with name := s }),
    .messages handle 4 "structured_resource_handle" (·.handles) (fun l m => { m with handles := l })]

def prepareAnswer : Codec PrepareAnswer where
  zero := {}
  fields := [.texts 1 "cdi_devices" (·.devices) (fun l m => { m with devices := l }),
    .text 2 "error" (·.failure) (fun s m => { m with failure := s })]

def claimParametersRequest : Codec ClaimParametersRequest where
  zero := {}
  fields := [.text 1 "claim" (·.claim) (fun s m => { m with claim := s }),
    .text 2 "class" (·.resourceClass) (fun s m => { m with resourceClass := s })]

def allocateRequest : Codec AllocateRequest where
  zero := {}
  fields := [.text 1 "claim" (·.claim) (fun s m => { m with claim := s }),
    .text 2 "claim_parameters" (·.claimParameters) (fun s m => { m with claimParameters := s }),
    .text 3 "class" (·.resourceClass) (fun s m => { m with resourceClass := s }),
    .text 4 "class_parameters" (·.classParameters) (fun s m => { m with classParameters := s }),
    .text 5 "selected_node" (·.selectedNode) (fun s m => { m with selectedNode := s })]

def unsuitableNodesRequest : Codec UnsuitableNodesRequest where
  zero := {}
  fields := [.text 1 "pod" (·.pod) (fun s m => { m with pod := s }),
    .texts 2 "claim_allocations" (·.claims) (fun l m => { m with claims := l }),
    .texts 3 "potential_nodes" (·.nodes) (fun l m => { m with nodes := l })]

def objectKey : Codec ObjectKey where
  zero := ⟨"", ""⟩
  fields := [.text 1 "namespace" (·.space) (fun s m => { m with space := s }),
    .text 2 "name" (·.name) (fun s m => { m with name := s })]

end Codec

/-- The types of messages. -/
inductive MessageType
  | watchRequest
  | inventory
  | resourceModel
  | namedResources
  | namedResource
  | resourceAttribute
  | prepareRequest
  | prepareResponse
  | prepareAnswer
  | unprepareRequest
  | unprepareResponse
  | unprepareAnswer
  | claim
  | handle
  | handleResult
  | chosenResource
  | classParametersRequest
  | claimParametersRequest
  | parametersResponse
  | allocateRequest
  | allocateResponse
  | deallocateRequest
  | deallocateResponse
  | unsuitableNodesRequest
  | unsuitableNodesResponse
  | structuredParametersRequest
  | structuredParametersResponse
  | structuredListRequest
  | structuredListResponse
  deriving DecidableEq

namespace MessageType

@[reducible] def Carrier : MessageType → Type
  | watchRequest | deallocateResponse => Unit
  | inventory => List (Option ResourceModel)
  | resourceModel => Option ResourceModel
  | namedResources => ResourceModel
  | namedResource => NamedResource
  | resourceAttribute => Attribute
  | prepareRequest | unprepareRequest => List Claim
  | prepareResponse => SortedMap String PrepareAnswer
  | prepareAnswer => PrepareAnswer
  | unprepareResponse => SortedMap String String
  | claim => Claim
  | handle => Handle
  | handleResult => Option String
  | unprepareAnswer | chosenResource | classParametersRequest | parametersResponse
  | allocateResponse | deallocateRequest | structuredParametersResponse
  | structuredListRequest => String
  | claimParametersRequest => ClaimParametersRequest
  | allocateRequest => AllocateRequest
  | unsuitableNodesRequest => UnsuitableNodesRequest
  | unsuitableNodesResponse | structuredListResponse => List String
  | structuredParametersRequest => ObjectKey

/-- How messages of a type are written and read. -/
def codec : (t : MessageType) → Codec t.Carrier
  | watchRequest | deallocateResponse => .unit
  | inventory => .list "resources" (.optional "named_resources" .namedResources)
  | resourceModel => .optional "named_resources" .namedResources
  | namedResources => .namedResources
  | namedResource => .namedResource
  | resourceAttribute => .resourceAttribute
  | prepareRequest | unprepareRequest => .list "claims" .claim
  | prepareResponse => .table "claims" .prepareAnswer
  | prepareAnswer => .prepareAnswer
  | unprepareResponse => .table "claims" (.text "error")
  | unprepareAnswer => .text "error"
  | claim => .claim
  | handle => .handle
  | handleResult => .optional "named_resources" (.text "name")
  | chosenResource => .text "name"
  | classParametersRequest => .text "class"
  | claimParametersRequest => .claimParametersRequest
  | parametersResponse | structuredParametersResponse => .text "parameters"
  | allocateRequest => .allocateRequest
  | allocateResponse => .text "allocation"
  | deallocateRequest => .text "claim"
  | unsuitableNodesRequest => .unsuitableNodesRequest
  | unsuitableNodesResponse => .texts "claim_allocations"
  | structuredParametersRequest => .objectKey
  | structuredListRequest => .text "namespace"
  | structuredListResponse => .texts "items"

def named : List (String × MessageType) :=
  [("NodeListAndWatchResourcesRequest", watchRequest),
    ("NodeListAndWatchResourcesResponse", inventory),
    ("ResourceModel", resourceModel),
    ("NamedResourcesResources", namedResources),
    ("NamedResourcesInstance", namedResource),
    ("NamedResourcesAttribute", resourceAttribute),
    ("NodePrepareResourcesRequest", prepareRequest),
    ("NodePrepareResourcesResponse", prepareResponse),
    ("NodePrepareResourceResponse", prepareAnswer),
    ("NodeUnprepareResourcesRequest", unprepareRequest),
    ("NodeUnprepareResourcesResponse", unprepareResponse),
    ("NodeUnprepareResourceResponse", unprepareAnswer),
    ("Claim", claim),
    ("StructuredResourceHandle", handle),
    ("DriverAllocationResult", handleResult),
    ("NamedResourcesAllocationResult", chosenResource),
    ("GetClassParametersRequest", classParametersRequest),
    ("GetClaimParametersRequest", claimParametersRequest),
    ("ParametersResponse", parametersResponse),
    ("AllocateRequest", allocateRequest),
    ("AllocateResponse", allocateResponse),
    ("DeallocateRequest", deallocateRequest),
    ("DeallocateResponse", deallocateResponse),
    ("UnsuitableNodesRequest", unsuitableNodesRequest),
    ("UnsuitableNodesResponse", unsuitableNodesResponse),
    ("GetResourceClaimParametersRequest", structuredParametersRequest),
    ("ResourceClaimParametersResponse", structuredParametersResponse),
    ("ListResourceClaimParametersRequest", structuredListRequest),
    ("ListResourceClaimParametersResponse", structuredListResponse)]

def ofName? (name : String) : Option MessageType := named.lookup name

end MessageType

end DeviceClaims.Wire
