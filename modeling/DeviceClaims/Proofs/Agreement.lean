import DeviceClaims.Proofs.Conflicts.Calls
import DeviceClaims.Proofs.Proposal
import DeviceClaims.Proofs.Structured

namespace DeviceClaims

theorem Change.apply_key (change : Change) (r : NodeRecord) : (change.apply r).key = r.key :=
  congrArg ObjectMeta.key (change.apply_metadata r)

theorem Change.apply_version (change : Change) (r : NodeRecord) : (change.apply r).version = r.version :=
  congrArg ObjectMeta.version (change.apply_metadata r)

/-- A record that was read from memory can be written back with a change. -/
theorem MemoryStore.update_change {m : MemoryStore} {r : NodeRecord} (read : m.get r.key = .ok r)
    (change : Change) :
    m.update (change.apply r) = (.ok (change.on r), ⟨m.records.insert r.key (change.on r)⟩) := by
  have found : m.records.get? r.key = some r := by
    unfold get at read
    split at read
    · cases read
      assumption
    · cases read
  simp only [update, change.apply_key, change.apply_version, found, ne_eq, not_true, if_false, Change.on]

theorem TableStore.update_change {t : TableStore} {r : NodeRecord} (read : t.get r.key = .ok r)
    (change : Change) :
    t.update (change.apply r) =
      (.ok (change.on r), ⟨t.rows.insert r.key (rowOf (change.on r))⟩) := by
  obtain ⟨row, found, version⟩ : ∃ row, t.rows.get? r.key = some row ∧ row.version = r.version.toInt64 := by
    unfold get at read
    split at read
    · cases read
    · next row found =>
      refine ⟨row, found, ?_⟩
      unfold ofRow at read
      split at read
      · cases read
      · cases read
        simp [NodeRecord.withVersion, NodeRecord.version]
  simp only [update, change.apply_key, change.apply_version, found, version, if_true, Change.on]

namespace Backend

/-- A store that is not open for reading only. -/
def Writable : Backend → Prop
  | memory _ | table _ => True
  | readOnly _ => False

/-- A record that was read is replaced, and what replaces it is read from then on. -/
theorem apply_update_change {b : Backend} {r : NodeRecord} (writable : b.Writable) (read : b.get r.key = .ok r)
    (change : Change) :
    ∃ b', b.apply (.update (change.apply r)) = (.ok (change.on r), b') ∧ b'.get r.key = .ok (change.on r) ∧
      b'.Writable := by
  cases b with
  | memory m =>
    have written : m.update (change.apply r) = _ := MemoryStore.update_change read change
    refine ⟨.memory ⟨m.records.insert r.key (change.on r)⟩, ?_, ?_, trivial⟩
    · rw [apply, MemoryStore.apply, written]
    · simp only [get, apply, MemoryStore.apply, MemoryStore.get, SortedMap.get?_insert_self]
  | table t =>
    have written : t.update (change.apply r) = _ := TableStore.update_change read change
    refine ⟨.table ⟨t.rows.insert r.key (TableStore.rowOf (change.on r))⟩, ?_, ?_, trivial⟩
    · rw [apply, TableStore.apply, written]
    · simp only [get, apply, TableStore.apply, TableStore.get, SortedMap.get?_insert_self,
        TableStore.ofRow_rowOf]
  | readOnly t => exact writable.elim

end Backend

section

variable {inner inner' : Backend} {pending : PendingTracker} {specs : FaultySpecDir} {calls : Nat}

/-- Attempts to change a record succeed at once where the store does as it should. -/
theorem Prog.run_modify {α ε : Type} [Retryable ε] {policy : RetryPolicy} {key : ObjectKey}
    {wrap : StoreError → ε} {change : NodeRecord → NodeSpec} {a : α} {r stored : NodeRecord}
    (read : inner.get key = .ok r)
    (written : inner.apply (.update { r with spec := change r }) = (.ok stored, inner')) :
    Site.run (.retry policy (((StoreClient.get key).mapError wrap).thenOk fun r =>
        ((StoreClient.updateSpec r (change r)).mapError wrap).thenOk fun _ => .done (.ok a)))
      (.conflicting inner pending specs calls 0) =
        (some (.ok a), .conflicting inner' pending specs (calls + 1) 0) := by
  refine run_attempts_last ?_ nofun
  rw [Prog.thenOk, run_read, read]
  change Site.run (((Prog.done (inner.apply (.update { r with spec := change r })).1).mapError wrap).thenOk _)
    (.conflicting (inner.apply (.update { r with spec := change r })).2 pending specs (calls + 1) 0) = _
  rw [written]
  rfl

/-- Where devices are set aside for a claim that the record of a ready node does not know, they are
recorded and forgotten. -/
theorem Controller.run_allocate {c : Controller} {claim : ClaimUid} {node : String} (named : node ≠ "")
    {r : NodeRecord} (read : inner.get (c.recordKey node) = .ok r) (ready : r.status = .ready)
    (unknown : r.spec.allocated.get? claim = none) {devices : List AllocatedDevice}
    (aside : pending.get? claim node = some devices)
    (written : inner.apply (.update ((Change.allocate claim devices).apply r)) =
      (.ok ((Change.allocate claim devices).on r), inner')) :
    Site.run (c.allocate claim node) (.conflicting inner pending specs calls 0) =
      (some (.ok (.forNode node true)), .conflicting inner' (pending.remove claim) specs (calls + 1) 0) := by
  have once : Site.run (c.allocateOnce claim node) (.conflicting inner pending specs calls 0) =
      (some (.ok true), .conflicting inner' pending specs (calls + 1) 0) := by
    have absent : ¬ r.spec.allocated.contains claim := by simp [SortedMap.contains, unknown]
    have isReady : ¬ (!r.isReady) = true := by simp [NodeRecord.isReady, ready]
    rw [allocateOnce, Prog.thenOk, Prog.run_read, read]
    change Site.run (ite _ _ _) _ = _
    rw [if_neg absent, if_neg isReady, Allocator.assign, Prog.thenOk, Prog.bind_assoc,
      run_look (s := .conflicting inner pending specs calls 0) aside]
    change Site.run (((Prog.done (inner.apply (.update ((Change.allocate claim devices).apply r))).1).mapError
      DriverError.store).thenOk _) (.conflicting (inner.apply (.update
        ((Change.allocate claim devices).apply r))).2 pending specs (calls + 1) 0) = _
    rw [written]
    rfl
  have named : ¬ node.isEmpty := by simpa using named
  rw [allocate, if_neg named, Prog.run_locked, Prog.thenOk, Prog.retry,
    Prog.site_run_bind (Prog.run_attempts_last once (by rintro _ ⟨⟩))]
  rfl

namespace Plugin

variable {p : Plugin} {c : NodeClaim} {claim : ClaimUid} {r : NodeRecord} {state : DeviceState}
  {devices : List AllocatedDevice}

/-- What is left of a preparation once the devices of the claim are known. -/
def settle (p : Plugin) (claim : ClaimUid) (devices : List AllocatedDevice) (s : DeviceState) :
    Prog (Except PluginError (List String) × DeviceState) :=
  (s.prepare claim devices).bind fun
  | (.error e, s) => .done (.error e, s)
  | (.ok names, s) => (p.persist s none).bind fun
    | .ok () => .done (.ok names, s)
    | .error e => (s.unprepare claim).bind fun r => .done (.error e, r.2)

/-- To prepare a claim that is not prepared yet is to find its devices and to prepare these. -/
theorem run_prepareClaim {s : Site} (read : inner.get p.key = .ok r) (new : state.prepared.get? c.uid = none)
    (allocated : Site.run (p.allocation r c) (.conflicting inner pending specs calls 0) =
      (some (.ok devices), s)) :
    Site.run (p.prepareClaim c state) (.conflicting inner pending specs calls 0) =
      Site.run (p.settle c.uid devices state) s := by
  have unnamed : state.claimNames? c.uid = none := Option.map_eq_none_iff.mpr new
  unfold prepareClaim get
  rw [Prog.run_read, read]
  simp only [mapError_ok, unnamed]
  rw [Prog.site_run_bind allocated]
  rfl

/-- What is told of a preparation. -/
def told (claim : ClaimUid) :
    Except PluginError (List String) × DeviceState → PrepareOutcome × DeviceState
  | (.ok names, s) => ({ names }, s)
  | (.error e, s) =>
    ({ failure := some ("error preparing devices for claim " ++ claim.text ++ ": " ++ e.message) }, s)

theorem run_prepare {s s' : Site} {result : Except PluginError (List String) × DeviceState}
    (ran : Site.run (p.prepareClaim c state) s = (some result, s')) :
    Site.run (p.prepare c state) s = (some (told c.uid result), s') := by
  rw [prepare, Prog.site_run_bind ran]
  obtain ⟨_ | _, _⟩ := result <;> rfl

end Plugin

/-- Specifications of claims can be written. -/
def FaultySpecDir.Works (d : FaultySpecDir) : Prop := d.failWrites = 0 ∧ d.inner.present = true

theorem FaultySpecDir.Works.apply_writeClaim {d : FaultySpecDir} (works : d.Works) (claim : ClaimUid)
    (spec : DeviceSpec) : d.apply (.writeClaim claim spec) =
      (.ok (), { d with inner := { d.inner with claims := d.inner.claims.insert claim spec } }) := by
  simp only [FaultySpecDir.apply, works.1, pass, SpecDir.apply, works.2, if_true]

/-- What is left of a preparation is the same whatever is set aside. Where specifications can be written
and the plugin has the devices, they are prepared, which the record and the specifications show. -/
theorem Plugin.settle_runs {p : Plugin} {claim : ClaimUid} {r : NodeRecord} {state : DeviceState}
    (specs : FaultySpecDir) (calls : Nat) (writable : inner.Writable) (read : inner.get r.key = .ok r)
    (own : r.key = p.key) (new : state.prepared.get? claim = none) (devices : List AllocatedDevice) :
    ∃ result inner' specs' more,
      (∀ pending, Site.run (p.settle claim devices state) (.conflicting inner pending specs calls 0) =
        (some result, .conflicting inner' pending specs' (calls + more) 0)) ∧
      (specs.Works → ∀ ds, state.expandAll devices = .ok ds →
        result.1 = .ok (DeviceState.names ds) ∧
        inner'.get p.key = .ok ((Change.publish state.devices.values
          (state.recorded.insert claim (ds.map DeviceInfo.prepared))).on r) ∧
        specs'.inner.claims.get? claim = some (.ofClaim (ds.map (·.uuid)))) := by
  have unnamed : state.claimNames? claim = none := Option.map_eq_none_iff.mpr new
  unfold settle DeviceState.prepare
  rw [unnamed]
  cases expanded : state.expandAll devices with
  | error e => exact ⟨_, inner, specs, 0, fun _ => rfl, fun _ _ same => by cases same⟩
  | ok ds =>
    dsimp only
    rw [Prog.bind_assoc]
    simp only [Prog.run_spec]
    cases answered : specs.apply (.writeClaim claim (.ofClaim (ds.map (·.uuid)))) with
    | mk answer specs' =>
      cases answer with
      | error detail =>
        refine ⟨_, inner, specs', 0, fun _ => rfl, fun works => ?_⟩
        rw [works.apply_writeClaim] at answered
        cases answered
      | ok _ =>
        obtain ⟨inner', written, after, _⟩ := Backend.apply_update_change writable read
          (.publish state.devices.values (state.recorded.insert claim (ds.map DeviceInfo.prepared)))
        rw [← DeviceState.recorded_insert] at written
        have persisted : ∀ pending, Site.run
            (p.persist { state with prepared := state.prepared.insert claim ds } none)
            (.conflicting inner pending specs' calls 0) =
              (some (.ok ()), .conflicting inner' pending specs' (calls + 1) 0) := fun pending =>
          Prog.run_modify (own ▸ read) written
        refine ⟨_, inner', specs', 1, fun pending => Prog.site_run_bind (persisted pending), ?_⟩
        intro works ds' same
        cases same
        refine ⟨rfl, own ▸ after, ?_⟩
        rw [works.apply_writeClaim] at answered
        cases answered
        exact SortedMap.get?_insert_self ..

/-- A claim without a handle has the devices that the record lists for it. -/
theorem Plugin.run_allocation_plain {p : Plugin} {c : NodeClaim} {r : NodeRecord}
    {devices : List AllocatedDevice} (plain : c.handles = [])
    (allocated : r.spec.allocated.get? c.uid = some devices) (s : Site) :
    Site.run (p.allocation r c) s = (some (.ok devices), s) := by
  unfold allocation
  rw [plain]
  dsimp only
  rw [allocated]
  rfl

/-- A claim with a handle has the devices that the handle names, and the record lists
them from then on. -/
theorem Plugin.run_allocation_handed {p : Plugin} {c : NodeClaim} {r : NodeRecord} {h : StructuredHandle}
    {devices : List AllocatedDevice} (handles : c.handles = [h]) (reads : handleDevices h = .ok devices)
    (read : inner.get p.key = .ok r)
    (written : inner.apply (.update ((Change.allocate c.uid devices).apply r)) =
      (.ok ((Change.allocate c.uid devices).on r), inner')) :
    Site.run (p.allocation r c) (.conflicting inner pending specs calls 0) =
      (some (.ok devices), .conflicting inner' pending specs (calls + 1) 0) := by
  have assigned : Site.run (p.assign c.uid devices) (.conflicting inner pending specs calls 0) =
      (some (.ok ()), .conflicting inner' pending specs (calls + 1) 0) := Prog.run_modify read written
  unfold allocation
  rw [handles]
  dsimp only
  rw [reads]
  exact Prog.site_run_bind assigned

end

/-- A claim is prepared with devices: the record of the node says so, and which parts they were made into,
the specification of the claim lists these, and their names were told. -/
structure Site.Equips (key : ObjectKey) (claim : ClaimUid) (devices : List AllocatedDevice)
    (outcome : PrepareOutcome) (s : Site) : Prop where
  record : ∃ r, s.store.inner.get key = .ok r ∧ r.spec.allocated.get? claim = some devices ∧
    r.spec.prepared.get? claim = some (devices.flatMap AllocatedDevice.expansion)
  specification : s.specs.inner.claims.get? claim =
    some (.ofClaim ((devices.flatMap AllocatedDevice.expansion).map (·.uuid)))
  names : outcome = { names :=
    DeviceSpec.claimNames ((devices.flatMap AllocatedDevice.expansion).map (·.uuid)) }

/-- Of a claim that a ready node does not know, and for which devices are set aside there, the one way to
prepare it ends as the other one does: to have it recorded by the controller and to prepare it as it is,
or to prepare it with a handle that is read as these devices. -/
theorem Plugin.prepare_alike {c : Controller} {p : Plugin} {claim : ClaimUid} {inner : Backend}
    {pending : PendingTracker} {specs : FaultySpecDir} {calls : Nat} {r : NodeRecord} {state : DeviceState}
    {devices : List AllocatedDevice} {h : StructuredHandle} (space : c.space = p.key.space)
    (named : p.key.name ≠ "") (writable : inner.Writable) (read : inner.get p.key = .ok r)
    (own : r.key = p.key) (ready : r.status = .ready) (keyed : state.Keyed)
    (found : ∀ d ∈ devices, ∃ a, state.devices.get? d.uuid = some a)
    (unknown : r.spec.allocated.get? claim = none) (new : state.prepared.get? claim = none)
    (aside : pending.get? claim p.key.name = some devices) (reads : handleDevices h = .ok devices) :
    ∃ taken result prepared,
      Site.run (c.allocate claim p.key.name) (.conflicting inner pending specs calls 0) =
        (some (.ok (.forNode p.key.name true)), taken) ∧
      (∀ plain : NodeClaim, plain.uid = claim → plain.handles = [] →
        Site.run (p.prepare plain state) taken = (some result, prepared)) ∧
      (∀ handed : NodeClaim, handed.uid = claim → handed.handles = [h] →
        Site.run (p.prepare handed state) (.conflicting inner pending specs calls 0) =
          (some result, { prepared with pending })) ∧
      (specs.Works → prepared.Equips p.key claim devices result.1) := by
  have key : c.recordKey p.key.name = p.key := congrArg (ObjectKey.mk · p.key.name) space
  obtain ⟨inner₁, written, read₁, writable₁⟩ :=
    Backend.apply_update_change writable (own ▸ read) (.allocate claim devices)
  let r₁ := (Change.allocate claim devices).on r
  have own₁ : r₁.key = p.key := (Change.on_key ..).trans own
  have recorded : r₁.spec.allocated.get? claim = some devices := SortedMap.get?_insert_self ..
  rw [own] at read₁
  obtain ⟨result, inner₂, specs₂, more, settled, equips⟩ :=
    settle_runs specs (calls + 1) writable₁ (own₁ ▸ read₁) own₁ new devices
  let prepared : Site := .conflicting inner₂ (pending.remove claim) specs₂ (calls + 1 + more) 0
  refine ⟨_, told claim result, prepared,
    Controller.run_allocate named (key ▸ read) ready unknown aside written, ?_, ?_, fun works => ?_⟩
  · rintro plain rfl none
    refine run_prepare ((run_prepareClaim read₁ new (run_allocation_plain none recorded _)).trans ?_)
    exact settled _
  · rintro handed rfl handles
    refine run_prepare ((run_prepareClaim read new
      (run_allocation_handed handles reads read written)).trans ?_)
    exact settled _
  · obtain ⟨ds, expanded⟩ := DeviceState.exists_expandAll found
    obtain ⟨names, record, specification⟩ := equips works ds expanded
    have parts := DeviceState.expandAll_prepared keyed expanded
    have uuids : ds.map (·.uuid) = (devices.flatMap AllocatedDevice.expansion).map (·.uuid) := by
      rw [← parts, List.map_map]
      rfl
    refine ⟨⟨_, record, recorded, ?_⟩, ?_, ?_⟩
    · rw [← parts]
      exact SortedMap.get?_insert_self ..
    · rw [← uuids]
      exact specification
    · rw [← uuids]
      obtain ⟨_, _⟩ := result
      cases names
      rfl

open Wire in
/-- A claim with a handle is prepared as one that the controller allocated. Let the controller's filter,
asked for the parameters of an object, propose devices of a ready node for a claim that is not known
there. Then the structured parameters of the object make as many requests as there are devices; the
node's resource model names each of the devices; and a claim whose handle carries the parameters of the
request and these names comes back from its message as it was. To prepare it gives the same result, to
the caller and to the plugin, and leaves the same store and specifications as to allocate the claim
through the controller and to prepare it without a handle; only what is set aside is not forgotten. If
specifications can be written, the claim is equipped with the devices either way. -/
theorem Plugin.handle_prepares_alike {c : Controller} {p : Plugin} {o : ClaimParametersObject}
    {claim : NodeClaim} {pod pod' : List ClaimAllocation} {nodes : List String} (host : String)
    {inner : Backend} {pending : PendingTracker} {specs : FaultySpecDir} {calls : Nat} {r : NodeRecord}
    {state : DeviceState} {steps : List (Step Site)} {s : Site} {devices : List AllocatedDevice}
    (counts : 1 ≤ o.spec.count) (space : c.space = p.key.space) (named : p.key.name ≠ "")
    (writable : inner.Writable) (read : inner.get p.key = .ok r) (own : r.key = p.key)
    (ready : r.status = .ready) (published : r.spec.allocatable = state.devices.values)
    (keyed : state.Keyed) (unknown : r.spec.allocated.get? claim.uid = none)
    (fresh : pending.get? claim.uid p.key.name = none) (new : state.prepared.get? claim.uid = none)
    (asks : ∀ a ∈ pod, a.claim.uid = claim.uid → a.claimParameters = o.spec)
    (filtered : Prog.Course .alone (c.unsuitableNodes pod nodes) (.conflicting inner pending specs calls 0)
      steps pod' s)
    (proposed : s.pending.get? claim.uid p.key.name = some devices) :
    ∃ q names received, o.structured.driverRequests = [q] ∧ q.selectors.length = devices.length ∧
      devices.map (fun d => state.resourceModel.nameOf? d.uuid) = names.map some ∧
      let handed : NodeClaim := { claim with handles := [⟨some q.vendorParameters, host, names⟩] }
      NodeClaim.ofMessage handed.toMessage = .ok received ∧
      (Announced (MessageType.claim.codec.size handed.toMessage) →
        (MessageType.claim.codec.read (MessageType.claim.codec.write handed.toMessage)).map
          NodeClaim.ofMessage = some (.ok received)) ∧
      ∃ taken result prepared,
        Site.run (c.allocate claim.uid p.key.name) s = (some (.ok (.forNode p.key.name true)), taken) ∧
        Site.run (p.prepare { claim with handles := [] } state) taken = (some result, prepared) ∧
        Site.run (p.prepare received state) s = (some result, { prepared with pending := s.pending }) ∧
        (s.specs.Works → prepared.Equips p.key claim.uid devices result.1) := by
  have key : c.recordKey p.key.name = p.key := congrArg (ObjectKey.mk · p.key.name) space
  obtain ⟨store, proposes⟩ := (Controller.unsuitableNodes_propose (s := .conflicting inner pending specs calls 0)
    rfl (key ▸ read) unknown fresh asks []).post_of_course filtered
  have offers : r.spec.Offers o.spec devices := proposes devices proposed
  have found : ∀ d ∈ devices, ∃ a, state.devices.get? d.uuid = some a := fun d at_d =>
    DeviceState.found_of_published keyed published (offers.listed d at_d)
  let h : StructuredHandle := ⟨some o.spec.vendorForm, host, devices.map (·.uuid.resourceName)⟩
  let handed : NodeClaim := { claim with handles := [h] }
  have carriable : ∀ h ∈ handed.handles, h.Carriable :=
    List.forall_mem_singleton.mpr (StructuredHandle.carriable_vendorForm o.spec host _)
  refine ⟨_, h.results, handed, rfl, ?_, ?_, NodeClaim.ofMessage_toMessage carriable,
    NodeClaim.read_write carriable, ?_⟩
  · rw [List.length_replicate, ClaimParameters.requested_eq counts, offers.length]
  · rw [List.map_map]
    refine List.map_congr_left fun d at_d => ?_
    obtain ⟨a, at_a⟩ := found d at_d
    exact DeviceState.nameOf?_resourceModel keyed at_a
  · obtain ⟨_, tracker, dir⟩ := s
    obtain rfl := store
    obtain ⟨taken, result, prepared, allocated, plain, told, equips⟩ := prepare_alike space named
      writable read own ready keyed found unknown new proposed (handleDevices_named o.spec offers.split host)
    exact ⟨taken, result, prepared, allocated, plain _ rfl rfl, told handed rfl rfl, equips⟩

namespace Candidates

def plugin : Plugin := { key := record.key }

def parameters : ClaimParametersObject :=
  { metadata := { name := "parameters", space := "default" }, spec := { split := 2 } }

def claim : NodeClaim := ⟨"default", ⟨.filled 2⟩, "claim", []⟩

def state : DeviceState := .ofDevices record.spec.allocatable

end Candidates

open Candidates in
/-- The node of the candidates has one device, which the claim is given in two parts. -/
theorem Plugin.handle_prepares_alike_candidates :
    ∃ steps pod' s devices q names received taken result prepared,
      Prog.Course .alone (controller.unsuitableNodes pod ["node", "absent"]) site steps pod' s ∧
      s.pending.get? claim.uid "node" = some devices ∧ parameters.structured.driverRequests = [q] ∧
      q.selectors.length = devices.length ∧
      NodeClaim.ofMessage (NodeClaim.toMessage
        { claim with handles := [⟨some q.vendorParameters, "node", names⟩] }) = .ok received ∧
      Site.run (plugin.prepare claim state) taken = (some result, prepared) ∧
      Site.run (plugin.prepare received state) s = (some result, { prepared with pending := s.pending }) ∧
      prepared.Equips plugin.key claim.uid devices result.1 := by
  have shown : ((controller.unsuitableNodes pod ["node", "absent"]).follow
      (fun a s => some (Site.answer a s)) site).any
      (fun (_, _, s) => (s.pending.get? claim.uid "node").isSome && decide (s.specs = {})) = true := by
    decide +kernel
  obtain ⟨⟨steps, pod', s⟩, followed, shown⟩ := (Option.any_eq_true _ _).mp shown
  obtain ⟨proposed, specs⟩ := Bool.and_eq_true_iff.mp shown
  obtain ⟨devices, proposed⟩ := Option.isSome_iff_exists.mp proposed
  have filtered := Prog.Alone.course_alone followed
  have writable : site.store.inner.Writable := trivial
  have read : site.store.inner.get record.key = .ok record := by decide +kernel
  have published : record.spec.allocatable = state.devices.values := by decide
  have unknown : record.spec.allocated.get? claim.uid = none := rfl
  have fresh : site.pending.get? claim.uid plugin.key.name = none := rfl
  have new : state.prepared.get? claim.uid = none := rfl
  have asks : ∀ a ∈ pod, a.claim.uid = claim.uid → a.claimParameters = parameters.spec := by decide
  obtain ⟨q, names, received, requests, length, -, carried, -, taken, result, prepared, -, plain, handed,
    equips⟩ := Plugin.handle_prepares_alike (c := controller) (p := plugin) (o := parameters) "node"
      (by decide) rfl (by decide) writable read rfl rfl published (DeviceState.keyed_ofDevices _) unknown
      fresh new asks filtered proposed
  exact ⟨steps, pod', s, devices, q, names, received, taken, result, prepared, filtered, proposed, requests,
    length, carried, plain, handed, equips (of_decide_eq_true specs ▸ ⟨rfl, rfl⟩)⟩

end DeviceClaims
