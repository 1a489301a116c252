import DeviceClaims.Controller.Allocator
import DeviceClaims.Controller.Parameters
import DeviceClaims.Controller.Registry
import DeviceClaims.Store.Client

namespace DeviceClaims

/-- What the controller knows beside what it shares. -/
structure Controller where
  /-- The namespace of the nodes' records. -/
  space : String
  parameters : ParametersStore := {}
  registry : Registry := {}
  retry : RetryPolicy := {}
  deriving Inhabited

/-- A list with every element only where it stands first. -/
def firsts {α : Type} [DecidableEq α] : List α → List α
  | [] => []
  | a :: l => a :: (firsts l).filter (· ≠ a)

namespace Controller

def recordKey (c : Controller) (node : String) : ObjectKey := ⟨c.space, node⟩

def publish (c : Controller) (ps : List ClaimParametersObject) : Controller :=
  { c with registry := ps.foldl (fun r p => (r.put p).2) c.registry }

def structuredParameters (c : Controller) (space name : String) :
    Except DriverError StructuredParameters :=
  match c.registry.get? space ⟨driverName, ClaimParameters.kind, name⟩ with
  | some p => .ok p
  | none => .error (.parametersNotFound StructuredParameters.kind (ObjectKey.text ⟨space, name⟩))

/-- Refuses a reference to another group or another kind of parameters. -/
def checkReference (p : ParametersRef) (kind referrer : String) : Except DriverError Unit :=
  if p.apiGroup ≠ driverName then .error (.unknownKind ("incorrect API group: " ++ p.apiGroup))
  else if p.kind ≠ kind then
    .error (.unknownKind ("unknown " ++ referrer ++ ".ParametersRef.Kind: " ++ p.kind))
  else .ok ()

/-- The parameters of a class: those it refers to, or else the default ones. -/
def classParameters (c : Controller) (cls : ResourceClass) : Except DriverError ClassParameters :=
  match cls.parametersRef with
  | none => .ok {}
  | some p => do
    checkReference p ClassParameters.kind "ResourceClass"
    match c.parameters.classParameters p.name with
    | some found => .ok found
    | none => .error (.parametersNotFound p.kind p.name)

/-- The parameters of a claim: those it refers to in its namespace if they are valid, or else the
default ones. -/
def claimParameters (c : Controller) (claim : ResourceClaim) : Except DriverError ClaimParameters :=
  match claim.parametersRef with
  | none => .ok {}
  | some p => do
    checkReference p ClaimParameters.kind "ResourceClaim"
    match c.parameters.claimParameters ⟨claim.space, p.name⟩ with
    | some found => do
      found.validate
      .ok found
    | none => .error (.parametersNotFound p.kind p.name)

/-- One attempt to record a claim on a node; whether there was something to record. -/
def allocateOnce (c : Controller) (claim : ClaimUid) (node : String) :
    Prog (Except DriverError Bool) :=
  ((StoreClient.get (c.recordKey node)).mapError .store).thenOk fun record =>
    if record.spec.allocated.contains claim then .done (.ok false)
    else if !record.isReady then .done (.error (.notReady node))
    else (Allocator.assign record.spec claim node).thenOk fun spec =>
      ((StoreClient.updateSpec record spec).mapError .store).thenOk fun _ => .done (.ok true)

/-- Allocates a claim to a node on which devices are set aside for it, and then forgets what is
set aside for it anywhere. A claim that the node's record knows stays as it is. -/
def allocate (c : Controller) (claim : ClaimUid) (node : String) :
    Prog (Except DriverError AllocationResult) :=
  if node.isEmpty then .done (.error .noNodeSelected)
  else .locked node <| ((c.allocateOnce claim node).retry c.retry).thenOk fun recorded =>
    (if recorded then PendingClient.remove claim else .done ()).bind fun _ =>
      .done (.ok (.forNode node true))

/-- One attempt to take a claim off a node's record. -/
def deallocateOnce (c : Controller) (claim : ClaimUid) (node : String) :
    Prog (Except DriverError Unit) :=
  ((StoreClient.get (c.recordKey node)).mapError .store).thenOk fun record =>
    (PendingClient.remove claim).bind fun _ =>
      if record.spec.allocated.contains claim then
        let spec := { record.spec with allocated := record.spec.allocated.erase claim }
        ((StoreClient.updateSpec record spec).mapError .store).thenOk fun _ => .done (.ok ())
      else .done (.ok ())

/-- Takes a claim back from the node of its allocation, if it has one. -/
def deallocate (c : Controller) (claim : ResourceClaim) : Prog (Except DriverError Unit) :=
  match claim.allocation.bind AllocationResult.selectedNode with
  | none => .done (.ok ())
  | some node => .locked node ((c.deallocateOnce claim.uid node).retry c.retry)

/-- Tries the claims of a pod on a node. A node whose record cannot be read or that is not ready is
rejected. -/
def tryNode (c : Controller) (pod : List ClaimAllocation) (node : String) :
    Prog (List ClaimAllocation) :=
  .locked node <| (StoreClient.get (c.recordKey node)).bind fun
    | .error _ => .done (pod.map (·.reject node))
    | .ok record =>
      if !record.isReady then .done (pod.map (·.reject node))
      else if pod.isEmpty then .done pod
      else (Allocator.tryNode record (pod.map ClaimAllocation.request) pod node).bind fun r =>
        .done r.2

/-- Tries the claims of a pod on nodes in turn. -/
def tryNodes (c : Controller) : List String → List ClaimAllocation → Prog (List ClaimAllocation)
  | [], pod => .done pod
  | node :: rest, pod => (c.tryNode pod node).bind (c.tryNodes rest)

/-- The claims of a pod with the nodes that cannot hold them, each node once. -/
def unsuitableNodes (c : Controller) (pod : List ClaimAllocation) (nodes : List String) :
    Prog (List ClaimAllocation) :=
  (c.tryNodes nodes pod).bind fun pod =>
    .done (pod.map fun a => { a with unsuitableNodes := firsts a.unsuitableNodes })

end Controller

end DeviceClaims
