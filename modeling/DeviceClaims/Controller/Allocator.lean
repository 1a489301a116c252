import DeviceClaims.Api.Claim
import DeviceClaims.Api.NodeRecord
import DeviceClaims.Controller.Error
import DeviceClaims.Pending.Visit

namespace DeviceClaims

/-- Whether a node can hold a batch of claims. A node fits a batch of claims if it has devices for all
of them; what it has is then set aside, so that the next batch is not offered the same. -/
inductive NodeFit
  | suitable
  | unsuitable
  deriving DecidableEq

/-- What a claim of a batch asks for. -/
structure ClaimRequest where
  uid : ClaimUid
  params : ClaimParameters
  deriving DecidableEq

namespace ClaimParameters

/-- Refuses parameters that ask for no devices or for no parts of them. -/
def validate (p : ClaimParameters) : Except DriverError Unit :=
  if p.count = 0 then
    .error (.validation ("invalid number of Fakes requested: count=" ++ Decimal.text p.count.toNat))
  else if p.split = 0 then
    .error (.validation
      ("invalid number of virtual Fakes requested: split=" ++ Decimal.text p.split.toNat))
  else .ok ()

end ClaimParameters

namespace ClaimAllocation

def request (a : ClaimAllocation) : ClaimRequest := ⟨a.claim.uid, a.claimParameters⟩

/-- The claim with one more node that cannot hold it. -/
def reject (a : ClaimAllocation) (node : String) : ClaimAllocation :=
  { a with unsuitableNodes := a.unsuitableNodes ++ [node] }

end ClaimAllocation

namespace Allocator

/-- What claims hold on a node, by claim. -/
abbrev Holdings := SortedMap ClaimUid (List AllocatedDevice)

/-- The devices of a node that no claim holds, in ascending order. -/
def free (spec : NodeSpec) (held : Holdings) : List DeviceUuid :=
  let taken := (held.values.flatMap id).map (·.uuid)
  spec.allocatableUuids.filter (· ∉ taken)

/-- Picks devices for requests in turn: what a claim holds already, or the first free ones, as many
as it asks for if there are so many. -/
def pick (held : Holdings) : List ClaimRequest → List DeviceUuid → SortedMap ClaimUid (List DeviceUuid) →
    SortedMap ClaimUid (List DeviceUuid)
  | [], _, picked => picked
  | q :: rest, free, picked => match held.get? q.uid with
    | some devices => pick held rest free (picked.insert q.uid (devices.map (·.uuid)))
    | none =>
      let n := q.params.count.toNat
      pick held rest (free.drop n) (picked.insert q.uid (free.take n))

/-- Whether a request got as many devices as it asks for. -/
def served (picked : SortedMap ClaimUid (List DeviceUuid)) (q : ClaimRequest) : Bool :=
  q.params.count.toNat ≤ ((picked.get? q.uid).getD []).length

/-- Adds what is set aside on a node to what its record says. What is set aside for a claim that
the record knows is out of date and is forgotten. -/
def holdings (record : NodeRecord) (node : String) : Prog Holdings :=
  PendingClient.visitNode node (s := record.spec.allocated) fun held claim _ devices =>
    if record.spec.allocated.contains claim then
      (PendingClient.remove claim).bind fun _ => .done held
    else .done (held.insert claim devices)

def setAside (node : String) (picked : SortedMap ClaimUid (List DeviceUuid)) :
    List ClaimRequest → Prog Unit
  | [] => .done ()
  | q :: rest =>
    let devices := ((picked.get? q.uid).getD []).map fun uuid => ⟨uuid, q.params.split⟩
    (PendingClient.set q.uid node devices).bind fun _ => setAside node picked rest

/-- Tries a batch on a node. If a request of it is not served, the node is rejected for all claims
of the pod and nothing is set aside. -/
def tryNode (record : NodeRecord) (batch : List ClaimRequest) (pod : List ClaimAllocation)
    (node : String) : Prog (NodeFit × List ClaimAllocation) :=
  (holdings record node).bind fun held =>
    let picked := pick held batch (free record.spec held) .empty
    if batch.all (served picked) then
      (setAside node picked batch).bind fun _ => .done (.suitable, pod)
    else .done (.unsuitable, pod.map (·.reject node))

/-- Records what is set aside for a claim on a node as the claim's. -/
def assign (spec : NodeSpec) (claim : ClaimUid) (node : String) : Prog (Except DriverError NodeSpec) :=
  (PendingClient.get claim node).bind fun
    | none => .done (.error (.pendingNotFound claim node))
    | some devices => .done (.ok { spec with allocated := spec.allocated.insert claim devices })

end Allocator

end DeviceClaims
