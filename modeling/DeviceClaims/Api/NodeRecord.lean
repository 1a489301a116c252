import DeviceClaims.Api.Device
import DeviceClaims.Api.Meta

namespace DeviceClaims

open Json

/-- Whether a node takes part in allocation. -/
inductive Readiness
  | ready
  | notReady
  deriving DecidableEq, Inhabited

namespace Readiness

def name : Readiness → String
  | ready => "Ready"
  | notReady => "NotReady"

def ofName? (s : String) : Option Readiness :=
  if s = "Ready" then some ready else if s = "NotReady" then some notReady else none

/-- What is said of a name that is no status. -/
def unknownMessage (s : String) : String :=
  "unknown NodeAllocationState status: " ++ s ++ " (expected Ready or NotReady)"

def toJson (s : Readiness) : Json := .str s.name

def decode : Decoder Readiness := .enumeration [("Ready", ready), ("NotReady", notReady)]

end Readiness

/-- What a node's record says of devices. -/
structure NodeSpec where
  allocatable : List AllocatableDevice := []
  allocated : SortedMap ClaimUid (List AllocatedDevice) := .empty
  prepared : SortedMap ClaimUid (List PreparedDevice) := .empty
  deriving DecidableEq, Inhabited

/-- The record of a node. -/
structure NodeRecord where
  metadata : ObjectMeta
  spec : NodeSpec := {}
  status : Readiness := .notReady
  deriving DecidableEq, Inhabited

namespace NodeSpec

def toJson (s : NodeSpec) : Json := ofFields
  [("allocatableDevices", unlessEmpty AllocatableDevice.toJson s.allocatable),
    ("allocatedClaims", unlessEmptyMap ClaimUid.text AllocatedDevice.listToJson s.allocated),
    ("preparedDevices", unlessEmptyMap ClaimUid.text PreparedDevice.listToJson s.prepared)]

def decode : Decoder NodeSpec :=
  .record "NodeAllocationStateSpec" ["allocatableDevices", "allocatedClaims", "preparedDevices"]
    fun r => .mk <$> r.fieldOr 0 "allocatableDevices" (.list AllocatableDevice.decode) []
      <*> r.fieldOr 1 "allocatedClaims" (.map ClaimUid.parse AllocatedDevice.decodeList) .empty
      <*> r.fieldOr 2 "preparedDevices" (.map ClaimUid.parse PreparedDevice.decodeList) .empty

/-- The devices that the node offers, each once and in ascending order. -/
def allocatableUuids (s : NodeSpec) : List DeviceUuid :=
  (SortedMap.ofList (s.allocatable.map fun d => (d.uuid, ()))).keys

theorem mem_allocatableUuids {s : NodeSpec} {uuid : DeviceUuid} :
    uuid ∈ s.allocatableUuids ↔ uuid ∈ s.allocatable.map (·.uuid) := by
  rw [allocatableUuids, SortedMap.mem_keys_iff]
  constructor
  · rintro ⟨_, found⟩
    obtain ⟨d, listed, same⟩ := List.mem_map.mp (SortedMap.mem_of_get?_ofList found)
    cases same
    exact List.mem_map_of_mem listed
  · intro listed
    obtain ⟨d, at_d, rfl⟩ := List.mem_map.mp listed
    exact SortedMap.exists_get?_ofList (List.mem_map_of_mem at_d)

/-- The devices that claims hold, each once and in ascending order. -/
def allocatedUuids (s : NodeSpec) : List DeviceUuid :=
  (SortedMap.ofList ((s.allocated.values.flatMap id).map fun d => (d.uuid, ()))).keys

/-- The first device that the node offers under an identifier. -/
def findAllocatable (s : NodeSpec) (uuid : DeviceUuid) : Option AllocatableDevice :=
  s.allocatable.find? (·.uuid = uuid)

end NodeSpec

namespace NodeRecord

def new (name space : String) : NodeRecord := { metadata := { name, space } }

def key (r : NodeRecord) : ObjectKey := r.metadata.key

def version (r : NodeRecord) : UInt64 := r.metadata.version

def withVersion (r : NodeRecord) (v : UInt64) : NodeRecord :=
  { r with metadata := { r.metadata with version := v } }

def isReady (r : NodeRecord) : Bool := r.status = .ready

def toJson (r : NodeRecord) : Json := ofFields
  [("metadata", some r.metadata.toJson), ("spec", some r.spec.toJson),
    ("status", some r.status.toJson)]

def decode : Decoder NodeRecord :=
  .record "NodeAllocationState" ["metadata", "spec", "status"] fun r =>
    .mk <$> r.field 0 "metadata" ObjectMeta.decode <*> r.fieldOr 1 "spec" NodeSpec.decode {}
      <*> r.fieldOr 2 "status" Readiness.decode .notReady

end NodeRecord

end DeviceClaims
