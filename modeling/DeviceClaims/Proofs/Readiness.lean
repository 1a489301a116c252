import DeviceClaims.Proofs.Footprint.Calls
import DeviceClaims.Proofs.Prepared

namespace DeviceClaims

/-- The devices of a node that has so many, in the order of their identifiers. -/
def inventory (node : String) (count : Nat) : List AllocatableDevice :=
  (DeviceState.ofDevices (Emulator.devices node count)).devices.values

/-- An inventory has just the devices that are generated for the node. -/
theorem mem_inventory {node : String} {count : Nat} {d : AllocatableDevice} :
    d ∈ inventory node count ↔ d ∈ Emulator.devices node count := by
  have generated : ∀ {uuid d}, (DeviceState.ofDevices (Emulator.devices node count)).devices.get? uuid =
      some d → d ∈ Emulator.devices node count ∧ d.uuid = uuid := by
    intro uuid d found
    obtain ⟨d', member, same⟩ := List.mem_map.mp (SortedMap.mem_of_get?_ofList found)
    cases same
    exact ⟨member, rfl⟩
  have model : ∀ d ∈ Emulator.devices node count, d.model = fakeModel := by
    intro d member
    obtain ⟨_, _, rfl⟩ := List.mem_map.mp member
    rfl
  constructor
  · intro member
    obtain ⟨uuid, found⟩ := SortedMap.mem_values_iff.mp member
    exact (generated found).1
  · intro member
    obtain ⟨d', found⟩ := SortedMap.exists_get?_ofList (List.mem_map_of_mem
      (f := fun d : AllocatableDevice => (d.uuid, d)) member)
    obtain ⟨member', uuid⟩ := generated found
    have same : d' = d := by
      cases d
      cases d'
      simp only [AllocatableDevice.mk.injEq]
      exact ⟨uuid, (model _ member').trans (model _ member).symm⟩
    exact SortedMap.mem_values_iff.mpr ⟨d.uuid, same ▸ found⟩

/-- An inventory is in the order of the identifiers, each of which it has once. -/
theorem inventory_ascending (node : String) (count : Nat) :
    ((inventory node count).map (·.uuid)).Pairwise (· < ·) := by
  have keyed := DeviceState.keyed_ofDevices (Emulator.devices node count)
  have keys : (inventory node count).map (·.uuid) =
      (DeviceState.ofDevices (Emulator.devices node count)).devices.keys := by
    rw [inventory, SortedMap.values, List.map_map]
    exact List.map_congr_left fun e member => keyed e.1 e.2 (SortedMap.mem_entries_iff.mp member)
  rw [keys, SortedMap.keys, List.pairwise_map]
  exact SortedMap.sorted _

namespace World

variable {w w' : World} {key : ObjectKey}

/-- A record that is ready offers just these devices. -/
def Offers (w : World) (key : ObjectKey) (ds : List AllocatableDevice) : Prop :=
  ∀ r, w.record key = some r → r.status = .ready → r.spec.allocatable = ds

/-- There is a record, which is not ready. -/
def Unready (w : World) (key : ObjectKey) : Prop :=
  ∃ r, w.record key = some r ∧ r.status = .notReady

theorem Offers.congr {ds : List AllocatableDevice} (offers : w.Offers key ds)
    (same : w'.record key = w.record key) : w'.Offers key ds :=
  fun r at_key => offers r (same ▸ at_key)

theorem Unready.congr (unready : w.Unready key) (same : w'.record key = w.record key) :
    w'.Unready key :=
  unready.imp fun _ found => ⟨same.trans found.1, found.2⟩

/-- While a record is not ready, nothing is said of what it offers. -/
theorem Unready.offers_any (unready : w.Unready key) (ds : List AllocatableDevice) : w.Offers key ds := by
  obtain ⟨r, at_key, status⟩ := unready
  intro r' at_key' ready
  cases at_key.symm.trans at_key'
  rw [status] at ready
  cases ready

end World

/-- What a move of a call does to the status of a node's record and to the devices that it offers. -/
inductive Readies (key : ObjectKey) (op : Operation) (w w' : World) : Prop
  | same (record : w'.record key = w.record key)
  | unready (unready : w'.Unready key)
  | kept {r r' : NodeRecord} (before : w.record key = some r) (after : w'.record key = some r')
      (status : r'.status = r.status) (offered : r'.spec.allocatable = r.spec.allocatable)
      (plain : ∀ p count, op ≠ .start p count)
  | published {p : Plugin} {count : Nat} {r : NodeRecord} (starts : op = .start p count)
      (own : p.key = key) (before : w.Unready key) (after : w'.record key = some r)
      (ready : r.status = .ready) (offered : r.spec.allocatable = inventory key.name count)

namespace Readies

variable {key : ObjectKey} {op : Operation} {w w' : World}

/-- A call that does not have the plugin in hand leaves what is offered. -/
theorem keeps_offers (readies : Readies key op w w') (apart : op.takes ≠ some key)
    {ds : List AllocatableDevice} (offers : w.Offers key ds) : w'.Offers key ds := by
  cases readies with
  | same record => exact offers.congr record
  | unready unready => exact unready.offers_any ds
  | kept before after status offered =>
    intro r at_key ready
    cases after.symm.trans at_key
    exact offered.trans (offers _ before (status.symm.trans ready))
  | published starts own =>
    subst starts own
    exact absurd rfl apart

/-- Nobody but the plugin's own start makes its record ready. -/
theorem stays_unready (readies : Readies key op w w') (apart : op.takes ≠ some key)
    (unready : w.Unready key) : w'.Unready key := by
  cases readies with
  | same record => exact unready.congr record
  | unready unready => exact unready
  | kept before after status =>
    obtain ⟨r, at_key, notReady⟩ := unready
    cases before.symm.trans at_key
    exact ⟨_, after, status.trans notReady⟩
  | published starts own =>
    subst starts own
    exact absurd rfl apart

/-- A change that leaves the status and what is offered, in a move that is not of a start. -/
theorem of_change {r : NodeRecord} {change : Change} (at_key : w.record key = some r)
    (after : w'.record key = some (change.on r)) (status : change.part ≠ .status)
    (devices : change.part ≠ .devices) (plain : ∀ p count, op ≠ .start p count) :
    Readies key op w w' :=
  .kept at_key after (change.same_on r status.symm) (change.same_on r devices.symm).1 plain

end Readies

theorem Change.unready_on (r : NodeRecord) : ((Change.status .notReady).on r).status = .notReady := rfl

/-- What a call may do that has not the plugin in hand and does not set the status. -/
theorem Footprint.readies_of_quiet {S : Setting} {op : Operation} {w w' : World} {key : ObjectKey}
    (footprint : Footprint S op w w') (apart : op.takes ≠ some key)
    (quiet : ∀ status policy, op ≠ .setStatus key status policy) : Readies key op w w' := by
  have rewrites := footprint.records key
  generalize before : w.record key = old at rewrites
  generalize after : w'.record key = new at rewrites
  cases rewrites with
  | same => exact .same (after.trans before.symm)
  | created starts =>
    obtain ⟨p, count, rfl, rfl⟩ := starts
    exact absurd rfl apart
  | changed r change at_r makes =>
    subst at_r
    cases op with
    | filter => exact makes.elim
    | allocate c claim node =>
      obtain ⟨_, _, _, _, rfl⟩ := makes
      exact .of_change before after nofun nofun nofun
    | deallocate c claim =>
      obtain ⟨_, rfl⟩ := makes
      exact .of_change before after nofun nofun nofun
    | shutdown p =>
      obtain ⟨_, rfl⟩ := makes
      exact .unready ⟨_, after, Change.unready_on r⟩
    | setStatus k status policy =>
      obtain ⟨same, _⟩ := makes
      exact absurd (congrArg (Operation.setStatus · status policy) same.symm) (quiet status policy)
    | start p count => exact absurd (congrArg some makes.1.symm) apart
    | prepare p claim => exact absurd (congrArg some makes.1.symm) apart
    | unprepare p claim => exact absurd (congrArg some makes.1.symm) apart

/-- Any calls there may be, but nobody sets the status of one node's record by hand. -/
def Setting.ofLifecycle (key : ObjectKey) : Setting where
  mayCall op := ∀ status policy, op ≠ .setStatus key status policy

/-- While a plugin waits for its next call, the record offers the plugin's devices if it is ready; a
call that has the plugin in hand may rely on what is offered. -/
def offering (key : ObjectKey) : Discipline where
  inv w := ∀ s, w.plugins key = .up s → w.Offers key s.devices.values
  rely call w w' := ∀ preparing, w.plugins key = .busy call preparing →
    w'.plugins key = .busy call preparing ∧ ∀ ds, w.Offers key ds → w'.Offers key ds
  promise _ op w w' := Readies key op w w'
  rely_refl _ _ := fun _ busy => ⟨busy, fun _ => id⟩
  rely_trans first last := fun preparing busy =>
    have middle := first preparing busy
    have after := last preparing middle.1
    ⟨after.1, fun ds offers => after.2 ds (middle.2 ds offers)⟩
  promise_refl _ _ _ := .same rfl

/-- A call has the plugin in hand. -/
def World.Busy (w : World) (key : ObjectKey) (call : Nat) : Prop :=
  ∃ preparing, w.plugins key = .busy call preparing

/-- A call has the plugin in hand, and the record offers these devices if it is ready. -/
structure Tends (key : ObjectKey) (call : Nat) (ds : List AllocatableDevice) (w : World) : Prop where
  busy : w.Busy key call
  offers : w.Offers key ds

variable {key : ObjectKey} {S : Setting} {call : Nat} {op : Operation} {w w' : World}
  {ds : List AllocatableDevice} {α β ε : Type}

theorem World.Busy.of_later (busy : w.Busy key call) (later : (offering key).Later call w w') :
    w'.Busy key call :=
  busy.imp fun preparing busy => later.leaves.plugin key preparing busy

/-- What a start has written stays while it goes on, for others write no devices. -/
theorem Tends.of_later (tends : Tends key call ds w) (later : (offering key).Later call w w') :
    Tends key call ds w' := by
  obtain ⟨preparing, busy⟩ := tends.busy
  obtain ⟨busy, offers⟩ := later.rely preparing busy
  exact ⟨⟨preparing, busy⟩, offers ds tends.offers⟩

/-- A move of a call that has the plugin in hand need only keep its promise. -/
theorem World.Busy.permits_of_readies (busy : w'.Busy key call) (same : w'.plugins key = w.plugins key)
    (readies : Readies key op w w') : (offering key).Permits call op w w' := by
  obtain ⟨preparing, busy⟩ := busy
  refine ⟨fun other unlike preparing' busy' => ?_, fun s up => ?_, readies⟩
  · cases (same.trans busy').symm.trans busy
    exact absurd rfl unlike
  · cases up.symm.trans busy

end DeviceClaims
