import DeviceClaims.Proofs.Footprint.Calls

namespace DeviceClaims

/-- Every claim that a record says is prepared is prepared as the record says it is allocated. -/
def NodeRecord.Expanded (r : NodeRecord) : Prop :=
  ∀ claim ds, r.spec.prepared.get? claim = some ds → ∃ devices,
    r.spec.allocated.get? claim = some devices ∧ ds = devices.flatMap AllocatedDevice.expansion

/-- Only parts of devices that a claim is allocated are prepared for it. -/
theorem NodeRecord.Expanded.source_mem {r : NodeRecord} (expanded : r.Expanded) {claim : ClaimUid}
    {ds : List PreparedDevice} {source : DeviceUuid} (found : r.spec.prepared.get? claim = some ds)
    (member : source ∈ ds.map (·.source)) :
    source ∈ ((r.spec.allocated.get? claim).getD []).map (·.uuid) := by
  obtain ⟨devices, allocated, rfl⟩ := expanded claim ds found
  obtain ⟨d, at_d, rfl⟩ := List.mem_map.mp member
  obtain ⟨device, at_device, part⟩ := List.mem_flatMap.mp at_d
  rw [allocated, AllocatedDevice.source_expansion part]
  exact List.mem_map.mpr ⟨device, at_device, rfl⟩

/-- To publish what is prepared keeps every claim prepared as it is allocated, if each claim that is
added is. -/
theorem NodeRecord.Expanded.publish_on {r : NodeRecord} (expanded : r.Expanded)
    {prepared : SortedMap ClaimUid (List PreparedDevice)} (allocatable : List AllocatableDevice)
    (more : ∀ claim ds, prepared.get? claim = some ds → r.spec.prepared.get? claim = some ds ∨
      ∃ devices, r.spec.allocated.get? claim = some devices ∧
        ds = devices.flatMap AllocatedDevice.expansion) :
    ((Change.publish allocatable prepared).on r).Expanded :=
  fun claim ds found => (more claim ds found).elim (expanded claim ds) id

namespace World

def published (w : World) (key : ObjectKey) : Option (SortedMap ClaimUid (List PreparedDevice)) :=
  (w.record key).map (·.spec.prepared)

/-- A claim is in use on a node: its record says that it is prepared, or it is being prepared. -/
def Uses (w : World) (key : ObjectKey) (claim : ClaimUid) : Prop :=
  (∃ r ds, w.record key = some r ∧ r.spec.prepared.get? claim = some ds) ∨
    ∃ call, w.plugins key = .busy call (some claim)

theorem published_of_record {w : World} {key : ObjectKey} {r : NodeRecord}
    (at_key : w.record key = some r) : w.published key = some r.spec.prepared := by
  rw [published, at_key]
  rfl

theorem allocation_of_record {w : World} {key : ObjectKey} {r : NodeRecord}
    (at_key : w.record key = some r) (claim : ClaimUid) :
    w.allocation key claim = r.spec.allocated.get? claim := by
  rw [allocation, at_key]
  rfl

end World

namespace Footprint

variable {S : Setting} {op : Operation} {w w' : World} {key : ObjectKey}

/-- Only the calls that own what a plugin publishes change what its record says is prepared. -/
theorem published_of_not_owns (footprint : Footprint S op w w') (foreign : ¬ op.Owns key .devices) :
    w'.published key = w.published key := by
  unfold World.published
  cases at_key : w.record key with
  | some r =>
    obtain ⟨r', at_key', _, same⟩ := footprint.exists_same_of_not_owns foreign at_key
    rw [at_key', Option.map_some, Option.map_some, same]
  | none =>
    have rewrites := footprint.records key
    rw [at_key] at rewrites
    generalize w'.record key = new at rewrites
    cases rewrites with
    | same => rfl
    | created starts =>
      obtain ⟨p, count, rfl, rfl⟩ := starts
      exact absurd ⟨rfl, .inr rfl⟩ foreign

/-- What a claim is allocated stays over the moves of a call that takes no plugin and does not take the
claim back. -/
theorem allocation_some (footprint : Footprint S op w w') (takes : op.takes = none) {claim : ClaimUid}
    (keeps : ∀ c taken, op = .deallocate c taken → S.mayStep op w → taken.uid ≠ claim)
    {devices : List AllocatedDevice} (found : w.allocation key claim = some devices) :
    w'.allocation key claim = some devices := by
  rcases footprint.may with unchanged | may
  · rw [World.allocation, unchanged key]
    exact found
  · by_cases owns : op.Owns key (.claim claim)
    · cases at_key : w.record key with
      | none => simp [World.allocation, at_key] at found
      | some r =>
        rw [World.allocation_of_record at_key] at found
        cases op with
        | allocate c claim' node =>
          have rewrites := footprint.records key
          rw [at_key] at rewrites
          generalize at_key' : w'.record key = new at rewrites
          cases rewrites with
          | same => rw [World.allocation_of_record at_key', found]
          | changed _ change _ makes =>
            obtain ⟨_, same⟩ := owns
            obtain ⟨_, _, absent, _⟩ := makes
            cases Part.claim.inj same
            cases absent.symm.trans found
        | deallocate c taken =>
          obtain ⟨_, same⟩ := owns
          exact absurd (Part.claim.inj same).symm (keeps c taken rfl may)
        | _ => simp_all [Operation.Owns, Operation.takes]
    · rw [footprint.allocation_of_not_owns owns]
      exact found

end Footprint

/-- The plugin that is looked at, and whether claims in use stay allocated and calls are always
carried through. -/
structure Custody where
  key : ObjectKey
  guarded : Prop
  lasting : Prop

namespace Custody

/-- What is always true of a plugin, its record and its specifications. -/
structure Sound (C : Custody) (w : World) : Prop where
  up : ∀ s, w.plugins C.key = .up s → w.published C.key = some s.recorded ∧ s.Keyed
  files : C.lasting → (∀ call preparing, w.plugins C.key ≠ .busy call preparing) →
    (w.specs C.key).present = true ∧
      (w.specs C.key).claims = rendered ((w.published C.key).getD .empty)
  expanded : C.guarded → ∀ r, w.record C.key = some r → r.Expanded

/-- What others leave to the call that has the plugin in hand. -/
structure Left (C : Custody) (preparing : Option ClaimUid) (w w' : World) : Prop where
  plugins : w'.plugins C.key = w.plugins C.key
  published : w'.published C.key = w.published C.key
  specs : w'.specs C.key = w.specs C.key
  allocation : C.guarded → ∀ claim devices, preparing = some claim →
    w.allocation C.key claim = some devices → w'.allocation C.key claim = some devices

/-- A call relies on what it is left while it has the plugin in hand. -/
def Rely (C : Custody) (call : Nat) (w w' : World) : Prop :=
  ∀ preparing, w.plugins C.key = .busy call preparing → C.Left preparing w w'

/-- While a call has the plugin in hand, nobody else changes what the node's record says is prepared, or
the specifications; between calls the plugin knows what the record says. -/
def discipline (C : Custody) : Discipline where
  inv := C.Sound
  rely := C.Rely
  rely_refl _ _ _ _ := ⟨rfl, rfl, rfl, fun _ _ _ _ => id⟩
  rely_trans := by
    intro call u v w first last preparing busy
    have left := first preparing busy
    have left' := last preparing (left.plugins.trans busy)
    exact ⟨left'.plugins.trans left.plugins, left'.published.trans left.published,
      left'.specs.trans left.specs, fun guarded claim devices prepares found =>
        left'.allocation guarded claim devices prepares
          (left.allocation guarded claim devices prepares found)⟩

/-- What a call knows that has the plugin in hand: which claim it prepares, what the record says is
prepared, the specifications, and what the claim is allocated. -/
structure View where
  preparing : Option ClaimUid
  published : Option (SortedMap ClaimUid (List PreparedDevice))
  files : SortedMap ClaimUid DeviceSpec
  grant : Option (List AllocatedDevice) := none

/-- A view in which the specifications are in step with the record. -/
def View.settled (preparing : Option ClaimUid)
    (published : Option (SortedMap ClaimUid (List PreparedDevice))) : View where
  preparing := preparing
  published := published
  files := rendered (published.getD .empty)

structure Knows (C : Custody) (call : Nat) (v : View) (w : World) : Prop where
  busy : w.plugins C.key = .busy call v.preparing
  published : w.published C.key = v.published
  files : C.lasting → (w.specs C.key).present = true ∧ (w.specs C.key).claims = v.files
  granted : C.guarded → ∀ claim devices, v.preparing = some claim → v.grant = some devices →
    w.allocation C.key claim = some devices

variable {C : Custody} {S : Setting} {call : Nat} {op : Operation} {v : View} {w w' : World}

/-- What a call knows that has the plugin in hand stays true while others leave it what they must. -/
theorem Knows.of_left (knows : C.Knows call v w) (left : C.Left v.preparing w w') : C.Knows call v w' where
  busy := left.plugins.trans knows.busy
  published := left.published.trans knows.published
  files lasting := by
    rw [left.specs]
    exact knows.files lasting
  granted guarded claim devices prepares granted :=
    left.allocation guarded claim devices prepares (knows.granted guarded claim devices prepares granted)

theorem Knows.of_later (knows : C.Knows call v w) (later : C.discipline.Later call w w') :
    C.Knows call v w' :=
  knows.of_left (later.rely v.preparing knows.busy)

theorem knows_stable (v : View) : C.discipline.Stable call (C.Knows call v) :=
  fun _ _ later knows => knows.of_later later

/-- While a call has the plugin in hand its own moves need only leave it so. -/
theorem permits_of_busy {preparing : Option ClaimUid} (busy : w.plugins C.key = .busy call preparing)
    (still : w'.plugins C.key = .busy call preparing)
    (expanded : C.guarded → ∀ r, w'.record C.key = some r → r.Expanded) :
    C.discipline.Permits call op w w' := by
  refine ⟨fun other unlike _ at_other => ?_, ⟨fun s up => ?_, fun _ idle => ?_, expanded⟩, trivial⟩
  · cases busy.symm.trans at_other
    exact absurd rfl unlike
  · cases still.symm.trans up
  · exact absurd still (idle call preparing)

/-- To write the record makes known what it then says is prepared. -/
theorem Knows.put {r : NodeRecord} (knows : C.Knows call v w) (key : r.key = C.key)
    (allocated : C.guarded → ∀ claim devices, w.allocation C.key claim = some devices →
      r.spec.allocated.get? claim = some devices) :
    C.Knows call { v with published := some r.spec.prepared } (w.put r) := by
  have at_key : (w.put r).record C.key = some r := key ▸ World.record_put_self w r
  refine ⟨knows.busy, World.published_of_record at_key, knows.files,
    fun guarded claim devices prepares granted => ?_⟩
  rw [World.allocation_of_record at_key]
  exact allocated guarded claim devices (knows.granted guarded claim devices prepares granted)

open Discipline

/-- The call that has the plugin in hand may change the record if the claims stay prepared as they are
allocated. -/
theorem writes_of_knows {change : Change} {r : NodeRecord} {after : World → Prop} (key : r.key = C.key)
    (allocated : C.guarded → (change.on r).spec.allocated = r.spec.allocated)
    (expanded : ∀ w', C.Knows call v w' → w'.record C.key = some r → C.guarded → r.Expanded →
      (change.on r).Expanded)
    (gives : ∀ w', v.published = some r.spec.prepared →
      C.Knows call { v with published := some (change.on r).spec.prepared } w' → after w') :
    C.discipline.Writes S call op change r (C.Knows call v) after := by
  intro w later _ at_key knows
  rw [key] at at_key
  have on_key : (change.on r).key = C.key := (change.on_key r).trans key
  have at_key' : (w.put (change.on r)).record C.key = some (change.on r) :=
    on_key ▸ World.record_put_self w _
  refine ⟨permits_of_busy knows.busy knows.busy fun guarded r' at_r' => ?_,
    gives _ (knows.published.symm.trans (World.published_of_record at_key))
      (knows.put on_key fun guarded claim devices found => ?_)⟩
  · cases at_key'.symm.trans at_r'
    exact expanded w knows at_key guarded (later.inv.expanded guarded r at_key)
  · rw [allocated guarded, ← World.allocation_of_record at_key]
    exact found

def filesAfter (files : SortedMap ClaimUid DeviceSpec) : SpecAccess → SortedMap ClaimUid DeviceSpec
  | .writeCommon _ => files
  | .writeClaim claim spec => files.insert claim spec
  | .deleteClaim claim => files.erase claim

/-- A directory does what it is asked, or it is missing, which a deletion does not notice. -/
theorem apply_cases (d : SpecDir) (a : SpecAccess) :
    (∃ detail, d.apply a = (.error detail, d) ∧ ∀ claim, a ≠ .deleteClaim claim) ∨
      ∃ d', d.apply a = (.ok (), d') ∧ d'.present = d.present ∧ d'.claims = filesAfter d.claims a := by
  cases a with
  | deleteClaim claim => exact .inr ⟨_, rfl, rfl, rfl⟩
  | writeCommon common =>
    by_cases present : d.present
    · exact .inr ⟨_, if_pos present, rfl, rfl⟩
    · exact .inl ⟨_, if_neg present, nofun⟩
  | writeClaim claim written =>
    by_cases present : d.present
    · exact .inr ⟨_, if_pos present, rfl, rfl⟩
    · exact .inl ⟨_, if_neg present, nofun⟩

/-- To change the specifications makes known what they then are. -/
theorem Knows.setSpecs (knows : C.Knows call v w) (dir : SpecDir)
    {files : SortedMap ClaimUid DeviceSpec}
    (same : C.lasting → dir.present = true ∧ dir.claims = files) :
    C.Knows call { v with files } (w.setSpecs C.key dir) := by
  refine ⟨knows.busy, knows.published, fun lasting => ?_, knows.granted⟩
  have at_key : (w.setSpecs C.key dir).specs C.key = dir := Function.update_self ..
  rw [at_key]
  exact same lasting

/-- The call that has the plugin in hand asks the directory of specifications, which does not fail
unless it is missing. -/
theorem files_of_knows {a : SpecAccess} {after failed : C.discipline.Lasting call}
    (takes : op.takes = some C.key) (perfect : ¬ S.faulty)
    (answered : ∀ w', C.Knows call { v with files := filesAfter v.files a } w' → after w')
    (missing : (∀ claim, a ≠ .deleteClaim claim) → ∀ w', C.Knows call v w' → failed w') :
    C.discipline.Files S call op a (C.Knows call v) after failed := by
  refine fun w knows => Meets.ask_spec (fun w₁ later key own => ?_) fun _ _ faulty => absurd faulty perfect
  cases takes.symm.trans own
  have knows := knows.of_later later
  refine ⟨permits_of_busy knows.busy knows.busy fun guarded r at_key => later.inv.expanded guarded r at_key, ?_⟩
  have same := knows.files
  obtain ⟨detail, asked, writes⟩ | ⟨dir, asked, present, claims⟩ := apply_cases (w₁.specs C.key) a
  · have knows := missing writes _ (knows.setSpecs (w₁.specs C.key) same)
    rw [asked]
    exact fun w₂ later => failed.stable _ _ later knows
  · have knows := answered _ (knows.setSpecs dir fun lasting =>
      ⟨present.trans (same lasting).1, claims.trans (congrArg (filesAfter · a) (same lasting).2)⟩)
    rw [asked]
    exact fun w₂ later => after.stable _ _ later knows

end Custody

end DeviceClaims
