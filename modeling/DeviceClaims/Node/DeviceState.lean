import DeviceClaims.Api.Inventory
import DeviceClaims.Api.NodeRecord
import DeviceClaims.Node.Emulator
import DeviceClaims.Node.Error

namespace DeviceClaims

/-- The devices of a node and those prepared for claims. The specification of a prepared claim's devices
is kept in step with it. -/
structure DeviceState where
  devices : SortedMap DeviceUuid AllocatableDevice := .empty
  prepared : SortedMap ClaimUid (List DeviceInfo) := .empty
  deriving DecidableEq, Inhabited

namespace DeviceState

def ofDevices (ds : List AllocatableDevice) : DeviceState where
  devices := .ofList (ds.map fun d => (d.uuid, d))

def isPrepared (s : DeviceState) (claim : ClaimUid) : Bool := s.prepared.contains claim

/-- The names of a claim's devices for the container runtime. -/
def names (ds : List DeviceInfo) : List String := DeviceSpec.claimNames (ds.map (·.uuid))

/-- The names of the devices prepared for a claim. -/
def claimNames? (s : DeviceState) (claim : ClaimUid) : Option (List String) :=
  (s.prepared.get? claim).map names

/-- The devices that an allocated device is made into. -/
def expand (s : DeviceState) (a : AllocatedDevice) : Except PluginError (List DeviceInfo) :=
  match s.devices.get? a.uuid with
  | none => .error (.deviceNotFound a.uuid)
  | some d =>
    if a.split = 0 then .ok [⟨d.uuid, d.model, none⟩]
    else .ok (Emulator.parts a.uuid d.model a.split.toNat)

/-- The devices that an allocation is made into, in its order. -/
def expandAll (s : DeviceState) : List AllocatedDevice → Except PluginError (List DeviceInfo)
  | [] => .ok []
  | a :: rest => match s.expand a with
    | .error e => .error e
    | .ok ds => match s.expandAll rest with
      | .error e => .error e
      | .ok ds' => .ok (ds ++ ds')

/-- Prepares a claim's devices, which are then named. Those of a prepared claim are named again. -/
def prepare (s : DeviceState) (claim : ClaimUid) (allocation : List AllocatedDevice) :
    Prog (Except PluginError (List String) × DeviceState) :=
  match s.claimNames? claim with
  | some ns => .done (.ok ns, s)
  | none => match s.expandAll allocation with
    | .error e => .done (.error e, s)
    | .ok ds => (Prog.spec (.writeClaim claim (.ofClaim (ds.map (·.uuid))))).bind fun
      | .error detail => .done (.error (.specFile detail), s)
      | .ok () => .done (.ok (names ds), { s with prepared := s.prepared.insert claim ds })

/-- Gives up what is prepared for a claim, if anything is. -/
def unprepare (s : DeviceState) (claim : ClaimUid) : Prog (Except PluginError Unit × DeviceState) :=
  if s.isPrepared claim then (Prog.spec (.deleteClaim claim)).bind fun
    | .error detail => .done (.error (.specFile detail), s)
    | .ok () => .done (.ok (), { s with prepared := s.prepared.erase claim })
  else .done (.ok (), s)

/-- What is prepared, as the record keeps it. -/
def recorded (s : DeviceState) : SortedMap ClaimUid (List PreparedDevice) :=
  s.prepared.mapValues (·.map DeviceInfo.prepared)

/-- A record's contents with the devices of this state and what it has prepared. -/
def updatedSpec (s : DeviceState) (base : NodeSpec) : NodeSpec :=
  { base with allocatable := s.devices.values, prepared := s.recorded }

def restore (s : DeviceState) (d : PreparedDevice) : Except PluginError DeviceInfo :=
  match s.devices.get? d.source with
  | none => .error (.deviceNotFound d.source)
  | some found => .ok ⟨d.uuid, found.model, d.parent⟩

/-- The devices that a record says are prepared for claims. -/
def restoreAll (s : DeviceState) : List (ClaimUid × List PreparedDevice) →
    Except PluginError (List (ClaimUid × List DeviceInfo))
  | [] => .ok []
  | (claim, ds) :: rest => do
    let ds ← ds.mapM s.restore
    let rest ← s.restoreAll rest
    return (claim, ds) :: rest

def sync (s : DeviceState) (spec : NodeSpec) : Except PluginError DeviceState :=
  (s.restoreAll spec.prepared.entries).map fun es => { s with prepared := .ofList es }

def resourceModel (s : DeviceState) : ResourceModel where
  instances := s.devices.values.map fun d =>
    ⟨d.uuid.resourceName, [⟨"uuid", some d.uuid.text⟩, ⟨"model", some d.model⟩]⟩

end DeviceState

end DeviceClaims
