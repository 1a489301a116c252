import DeviceClaims.Node.Claim
import DeviceClaims.Node.DeviceState
import DeviceClaims.Store.Client

namespace DeviceClaims

/-- What a plugin knows beside its devices. What is prepared is kept in three places: in the plugin, in
the node's record and in the specifications. -/
structure Plugin where
  /-- The key of the node's record; its name is the node. -/
  key : ObjectKey
  retry : RetryPolicy := {}
  deriving Inhabited

namespace Plugin

def get (p : Plugin) : Prog (Except PluginError NodeRecord) :=
  (StoreClient.get p.key).mapError .store

/-- Writes a record that was read with other contents. -/
def update (base : NodeRecord) (spec : NodeSpec) : Prog (Except PluginError NodeRecord) :=
  (StoreClient.updateSpec base spec).mapError .store

/-- Writes a record that was read with another status. -/
def setStatus (base : NodeRecord) (status : Readiness) : Prog (Except PluginError NodeRecord) :=
  (StoreClient.updateStatus base status).mapError .store

def write (a : SpecAccess) : Prog (Except PluginError Unit) :=
  (Prog.spec a).mapError .specFile

/-- One attempt to publish so many devices on a record: it is made not ready and read for what is
prepared; then the devices are published and the record is made ready. There is no going on with more
devices than can be kept. -/
def publishOn (p : Plugin) (count : Nat) (record : NodeRecord) :
    Prog (Except PluginError DeviceState) :=
  (setStatus record .notReady).thenOk fun record =>
  if Emulator.maxDeviceCount < count then .crash else
  (write (.writeCommon (.common p.key.name))).thenOk fun _ =>
    match (DeviceState.ofDevices (Emulator.devices p.key.name count)).sync record.spec with
    | .error e => .done (.error e)
    | .ok state =>
      (update record (state.updatedSpec record.spec)).thenOk fun record =>
      (setStatus record .ready).thenOk fun _ => .done (.ok state)

/-- One attempt to start with so many devices, which are published on the record that is adopted or
created. -/
def startOnce (p : Plugin) (count : Nat) : Prog (Except PluginError DeviceState) :=
  ((StoreClient.getOrCreate p.key).mapError .store).thenOk (p.publishOn count)

def start (p : Plugin) (count : Nat) : Prog (Except PluginError DeviceState) :=
  (p.startOnce count).retry p.retry

/-- Makes the record not ready. -/
def shutdown (p : Plugin) : Prog (Except PluginError Unit) :=
  Prog.retry p.retry <| p.get.thenOk fun record =>
    (setStatus record .notReady).thenOk fun _ => .done (.ok ())

/-- Writes what is prepared into the record, except for a claim that is being given up. -/
def persist (p : Plugin) (s : DeviceState) (released : Option ClaimUid) :
    Prog (Except PluginError Unit) :=
  Prog.retry p.retry <| p.get.thenOk fun record =>
    let spec := s.updatedSpec record.spec
    let spec := match released with
      | none => spec
      | some claim => { spec with prepared := spec.prepared.erase claim }
    (update record spec).thenOk fun _ => .done (.ok ())

/-- The devices that a handle names, with the parameters it carries. -/
def handleDevices (h : StructuredHandle) : Except PluginError (List AllocatedDevice) := do
  let params ← match h.vendorParameters with
    | none => .error (.invalidHandle "missing vendor claim parameters")
    | some v => (ClaimParameters.decodeSpec.ofValue v.json).mapError fun f =>
      .invalidHandle ("vendor claim parameters: " ++ f.message)
  convertEach (fun name => match DeviceUuid.ofResourceName name with
    | .ok uuid => .ok ⟨uuid, params.split⟩
    | .error f => .error (.invalidHandle ("resource " ++ Quoted.write name ++ ": " ++ f.message)))
    h.results

def assign (p : Plugin) (claim : ClaimUid) (devices : List AllocatedDevice) :
    Prog (Except PluginError Unit) :=
  Prog.retry p.retry <| p.get.thenOk fun record =>
    let spec := { record.spec with allocated := record.spec.allocated.insert claim devices }
    (update record spec).thenOk fun _ => .done (.ok ())

/-- Takes a claim off the record if it is there. -/
def release (p : Plugin) (claim : ClaimUid) : Prog (Except PluginError Unit) :=
  Prog.retry p.retry <| p.get.thenOk fun record =>
    if record.spec.allocated.contains claim then
      let spec := { record.spec with allocated := record.spec.allocated.erase claim }
      (update record spec).thenOk fun _ => .done (.ok ())
    else .done (.ok ())

/-- The devices of a claim: those of its first handle, which are recorded, or else those that its
record holds for it. -/
def allocation (p : Plugin) (record : NodeRecord) (c : NodeClaim) :
    Prog (Except PluginError (List AllocatedDevice)) :=
  match c.handles with
  | h :: _ => match handleDevices h with
    | .error e => .done (.error e)
    | .ok devices => (p.assign c.uid devices).thenOk fun _ => .done (.ok devices)
  | [] => match record.spec.allocated.get? c.uid with
    | none => .done (.error (.allocationNotFound c.uid))
    | some devices => .done (.ok devices)

/-- Prepares a claim's devices and names them. If they cannot be recorded, they are given up. -/
def prepareClaim (p : Plugin) (c : NodeClaim) (s : DeviceState) :
    Prog (Except PluginError (List String) × DeviceState) :=
  p.get.bind fun
  | .error e => .done (.error e, s)
  | .ok record => match s.claimNames? c.uid with
    | some names => .done (.ok names, s)
    | none => (p.allocation record c).bind fun
      | .error e => .done (.error e, s)
      | .ok devices => (s.prepare c.uid devices).bind fun
        | (.error e, s) => .done (.error e, s)
        | (.ok names, s) => (p.persist s none).bind fun
          | .ok () => .done (.ok names, s)
          | .error e => (s.unprepare c.uid).bind fun r => .done (.error e, r.2)

/-- Gives up what is prepared for a claim, and its allocation if it came with a handle. -/
def unprepareClaim (p : Plugin) (c : NodeClaim) (s : DeviceState) :
    Prog (Except PluginError Unit × DeviceState) :=
  p.get.bind fun
  | .error e => .done (.error e, s)
  | .ok record =>
    if s.isPrepared c.uid then
      (if c.handles.isEmpty then .done (.ok ()) else p.release c.uid).bind fun
      | .error e => .done (.error e, s)
      | .ok () => (p.persist s (some c.uid)).bind fun
        | .error e => .done (.error e, s)
        | .ok () => s.unprepare c.uid
    else if record.spec.prepared.contains c.uid then
      (p.persist s none).bind fun r => .done (r, s)
    else .done (.ok (), s)

/-- Prepares a claim and reports what came of it. -/
def prepare (p : Plugin) (c : NodeClaim) (s : DeviceState) : Prog (PrepareOutcome × DeviceState) :=
  (p.prepareClaim c s).bind fun
  | (.ok names, s) => .done ({ names }, s)
  | (.error e, s) =>
    let text := "error preparing devices for claim " ++ c.uid.text ++ ": " ++ e.message
    .done ({ failure := some text }, s)

/-- Gives up a claim and reports what came of it. -/
def unprepare (p : Plugin) (c : NodeClaim) (s : DeviceState) :
    Prog (UnprepareOutcome × DeviceState) :=
  (p.unprepareClaim c s).bind fun
  | (.ok (), s) => .done ({}, s)
  | (.error e, s) =>
    let text := "error unpreparing devices for claim " ++ c.uid.text ++ ": " ++ e.message
    .done ({ failure := some text }, s)

/-- Does the same for each claim in turn; of two outcomes for a claim the later counts. -/
def forEach {α : Type} (f : NodeClaim → DeviceState → Prog (α × DeviceState)) :
    List NodeClaim → SortedMap ClaimUid α → DeviceState → Prog (SortedMap ClaimUid α × DeviceState)
  | [], outcomes, s => .done (outcomes, s)
  | c :: rest, outcomes, s => (f c s).bind fun (outcome, s) =>
    forEach f rest (outcomes.insert c.uid outcome) s

def prepareAll (p : Plugin) (cs : List NodeClaim) (s : DeviceState) :
    Prog (SortedMap ClaimUid PrepareOutcome × DeviceState) := forEach p.prepare cs .empty s

def unprepareAll (p : Plugin) (cs : List NodeClaim) (s : DeviceState) :
    Prog (SortedMap ClaimUid UnprepareOutcome × DeviceState) := forEach p.unprepare cs .empty s

end Plugin

end DeviceClaims
