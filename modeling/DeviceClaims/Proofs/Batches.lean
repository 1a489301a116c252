import DeviceClaims.Proofs.Batches.Refusals
import Mathlib.Data.List.Nodup

namespace DeviceClaims

namespace SortedMap

variable {κ α β : Type} [KeyOrder κ]

/-- Stores a value for a key, or forgets the key. -/
def setTo (m : SortedMap κ α) (k : κ) : Option α → SortedMap κ α
  | some v => m.insert k v
  | none => m.erase k

theorem get?_setTo (m : SortedMap κ α) (k k' : κ) (v : Option α) :
    (m.setTo k v).get? k' = if k = k' then v else m.get? k' := by
  cases v with
  | some v => exact get?_insert ..
  | none => exact get?_erase ..

theorem setTo_comm (m : SortedMap κ α) {k k' : κ} (apart : k ≠ k') (v v' : Option α) :
    (m.setTo k v).setTo k' v' = (m.setTo k' v').setTo k v := by
  refine ext_get? fun k'' => ?_
  simp only [get?_setTo]
  by_cases first : k = k''
  · subst first
    simp [apart.symm]
  · simp [first]

end SortedMap

/-- What is done for a claim: the record says anew which devices it is allocated, or the claim is kept as
prepared in all places. -/
inductive Deed
  | allot (devices : Option (List AllocatedDevice))
  | keep (devices : Option (List DeviceInfo))

namespace Standing

variable {x : Standing} {claim claim' : ClaimUid}

/-- Does something for a claim, which is one write of the record. -/
def deed (x : Standing) (claim : ClaimUid) : Deed → Standing
  | .allot devices => { x with
      record := { x.record with spec := { x.record.spec with
        allocated := x.record.spec.allocated.setTo claim devices } }.withVersion (x.record.version + 1) }
  | .keep devices =>
    let state : DeviceState := { x.state with prepared := x.state.prepared.setTo claim devices }
    { state
      record := (Change.publish state.devices.values state.recorded).on x.record
      specs := { x.specs with inner := { x.specs.inner with
        claims := x.specs.inner.claims.setTo claim (devices.map fun ds => .ofClaim (ds.map (·.uuid))) } } }

def deeds (x : Standing) (claim : ClaimUid) (ds : List Deed) : Standing :=
  ds.foldl (fun x d => x.deed claim d) x

theorem deeds_append (x : Standing) (claim : ClaimUid) (ds ds' : List Deed) :
    x.deeds claim (ds ++ ds') = (x.deeds claim ds).deeds claim ds' := List.foldl_append

/-- Deeds for two claims may be done in either order. -/
theorem deed_comm (apart : claim ≠ claim') (d d' : Deed) :
    (x.deed claim d).deed claim' d' = (x.deed claim' d').deed claim d := by
  cases d with
  | allot devices =>
    cases d' with
    | allot devices' =>
      have same := x.record.spec.allocated.setTo_comm apart devices devices'
      simp only [deed, NodeRecord.withVersion, NodeRecord.version, same]
    | keep devices' => rfl
  | keep devices =>
    cases d' with
    | allot devices' => rfl
    | keep devices' =>
      have same := x.state.prepared.setTo_comm apart devices devices'
      have files := x.specs.inner.claims.setTo_comm apart
        (devices.map fun ds => DeviceSpec.ofClaim (ds.map (·.uuid)))
        (devices'.map fun ds => DeviceSpec.ofClaim (ds.map (·.uuid)))
      simp only [deed, same, files]
      rfl

/-- Deeds for different claims may be done in either order. -/
theorem deeds_comm (apart : claim ≠ claim') (ds ds' : List Deed) :
    (x.deeds claim ds).deeds claim' ds' = (x.deeds claim' ds').deeds claim ds := by
  have past : ∀ d (x : Standing), (x.deed claim d).deeds claim' ds' = (x.deeds claim' ds').deed claim d := by
    intro d
    induction ds' with
    | nil => exact fun _ => rfl
    | cons d' ds' ih =>
      intro x
      show ((x.deed claim d).deed claim' d').deeds claim' ds' = ((x.deed claim' d').deeds claim' ds').deed claim d
      rw [deed_comm apart, ih]
  induction ds generalizing x with
  | nil => rfl
  | cons d ds ih =>
    show ((x.deed claim d).deeds claim ds).deeds claim' ds' = ((x.deeds claim' ds').deed claim d).deeds claim ds
    rw [ih, past]

end Standing

/-- Requests for claims' specifications succeed. -/
def FaultySpecDir.Obliges (d : FaultySpecDir) : Prop := d.Works ∧ d.failDeletes = 0

theorem FaultySpecDir.Obliges.apply_deleteClaim {d : FaultySpecDir} (obliges : d.Obliges) (claim : ClaimUid) :
    d.apply (.deleteClaim claim) =
      (.ok (), { d with inner := { d.inner with claims := d.inner.claims.erase claim } }) := by
  simp only [apply, obliges.2, pass, SpecDir.apply]

/-- What a plugin keeps between its calls: the record is its own, no claim is prepared there that the plugin does
not know, and the specifications can be changed. -/
structure Plugin.Orderly (p : Plugin) (x : Standing) : Prop where
  own : x.record.key = p.key
  known : ∀ claim, x.record.spec.prepared.contains claim → x.state.isPrepared claim
  obliges : x.specs.Obliges

/-- So it is where the record says just what the plugin knows. -/
theorem Plugin.Orderly.of_recorded {p : Plugin} {x : Standing} (own : x.record.key = p.key)
    (recorded : x.record.spec.prepared = x.state.recorded) (obliges : x.specs.Obliges) : p.Orderly x :=
  ⟨own, fun claim => by rw [recorded, DeviceState.contains_recorded]; exact id, obliges⟩

theorem Plugin.Orderly.deed {p : Plugin} {x : Standing} (orderly : p.Orderly x) (claim : ClaimUid) (d : Deed) :
    p.Orderly (x.deed claim d) := by
  cases d with
  | allot devices => exact ⟨orderly.own, orderly.known, orderly.obliges⟩
  | keep devices => exact .of_recorded ((Change.on_key ..).trans orderly.own) rfl orderly.obliges

theorem Plugin.Orderly.deeds {p : Plugin} {x : Standing} (orderly : p.Orderly x) (claim : ClaimUid)
    (ds : List Deed) : p.Orderly (x.deeds claim ds) := by
  induction ds generalizing x with
  | nil => exact orderly
  | cons d ds ih => exact ih (orderly.deed claim d)

namespace Plugin

/-- The devices that a claim is to be prepared with. -/
def due (c : NodeClaim) (r : NodeRecord) : Except PluginError (List AllocatedDevice) :=
  match c.handles with
  | h :: _ => handleDevices h
  | [] => match r.spec.allocated.get? c.uid with
    | none => .error (.allocationNotFound c.uid)
    | some devices => .ok devices

/-- The devices of a handle are recorded. -/
def allotting (c : NodeClaim) (devices : List AllocatedDevice) : List Deed :=
  if c.handles.isEmpty then [] else [.allot (some devices)]

def preparing (c : NodeClaim) (x : Standing) : Except PluginError (List String) × List Deed :=
  match x.state.claimNames? c.uid with
  | some names => (.ok names, [])
  | none => match due c x.record with
    | .error e => (.error e, [])
    | .ok devices => match x.state.expandAll devices with
      | .error e => (.error e, allotting c devices)
      | .ok ds => (.ok (DeviceState.names ds), allotting c devices ++ [.keep (some ds)])

/-- A claim that came with a handle is taken off the record if it is there. -/
def releasing (c : NodeClaim) (x : Standing) : List Deed :=
  if !c.handles.isEmpty && x.record.spec.allocated.contains c.uid then [.allot none] else []

def unpreparing (c : NodeClaim) (x : Standing) : List Deed :=
  if x.state.isPrepared c.uid then releasing c x ++ [.keep none] else []

end Plugin

/-- What calls for claims come to, where each looks only at its own claim. -/
structure Work (α : Type) where
  act : NodeClaim → Standing → α × List Deed
  minds : ∀ c x claim d, claim ≠ c.uid → act c (x.deed claim d) = act c x

namespace DeviceState

theorem expandAll_congr {s s' : DeviceState} (same : s'.devices = s.devices) (l : List AllocatedDevice) :
    s'.expandAll l = s.expandAll l := by
  induction l with
  | nil => rfl
  | cons a rest ih => simp only [expandAll, expand, same, ih]

end DeviceState

namespace Standing

variable {x : Standing} {claim claim' : ClaimUid} (apart : claim ≠ claim') (d : Deed)

theorem devices_deed (x : Standing) (claim : ClaimUid) (d : Deed) :
    (x.deed claim d).state.devices = x.state.devices := by
  cases d <;> rfl

include apart

/-- A deed for one claim leaves what another is allocated. -/
theorem allocated_deed :
    (x.deed claim d).record.spec.allocated.get? claim' = x.record.spec.allocated.get? claim' := by
  cases d with
  | allot devices => exact (SortedMap.get?_setTo ..).trans (if_neg apart)
  | keep devices => rfl

theorem prepared_deed : (x.deed claim d).state.prepared.get? claim' = x.state.prepared.get? claim' := by
  cases d with
  | allot devices => rfl
  | keep devices => exact (SortedMap.get?_setTo ..).trans (if_neg apart)

end Standing

namespace Work

/-- What comes of preparing claims. -/
def prepares : Work PrepareOutcome where
  act c x := ((Plugin.told c.uid ((Plugin.preparing c x).1, {})).1, (Plugin.preparing c x).2)
  minds c x claim d apart := by
    have same : Plugin.preparing c (x.deed claim d) = Plugin.preparing c x := by
      have expands := DeviceState.expandAll_congr (x.devices_deed claim d)
      simp only [Plugin.preparing, Plugin.due, DeviceState.claimNames?, Standing.prepared_deed apart,
        Standing.allocated_deed apart, expands]
    rw [same]

/-- What comes of giving up claims. -/
def unprepares : Work UnprepareOutcome where
  act c x := ({}, Plugin.unpreparing c x)
  minds c x claim d apart := by
    have prepared : (x.deed claim d).state.isPrepared c.uid = x.state.isPrepared c.uid :=
      congrArg Option.isSome (Standing.prepared_deed apart d)
    have allocated : (x.deed claim d).record.spec.allocated.contains c.uid =
        x.record.spec.allocated.contains c.uid := congrArg Option.isSome (Standing.allocated_deed apart d)
    rw [Plugin.unpreparing, Plugin.unpreparing, Plugin.releasing, Plugin.releasing, prepared, allocated]

variable {α : Type} (w : Work α)

def after (c : NodeClaim) (x : Standing) : Standing := x.deeds c.uid (w.act c x).2

/-- What comes of calls for claims, one after the other. -/
def all (cs : List NodeClaim) (outcomes : SortedMap ClaimUid α) (x : Standing) :
    SortedMap ClaimUid α × Standing :=
  cs.foldl (fun (outcomes, x) c => (outcomes.insert c.uid (w.act c x).1, w.after c x)) (outcomes, x)

variable {w} {c : NodeClaim} {cs cs' : List NodeClaim} {claim : ClaimUid}

theorem act_deeds (apart : claim ≠ c.uid) (x : Standing) (ds : List Deed) :
    w.act c (x.deeds claim ds) = w.act c x := by
  induction ds generalizing x with
  | nil => rfl
  | cons d ds ih => exact (ih _).trans (w.minds c x claim d apart)

/-- Of calls for distinct claims two may change places. -/
theorem all_perm (distinct : (cs.map (·.uid)).Nodup) (perm : cs'.Perm cs) (outcomes : SortedMap ClaimUid α)
    (x : Standing) : w.all cs' outcomes x = w.all cs outcomes x := by
  refine (perm.symm.foldl_eq' (fun c at_c c' at_c' => ?_) (outcomes, x)).symm
  rintro ⟨outcomes, x⟩
  by_cases same : c.uid = c'.uid
  · rw [List.inj_on_of_nodup_map distinct at_c at_c' same]
  · have earlier : w.act c (w.after c' x) = w.act c x := act_deeds (Ne.symm same) x _
    have later : w.act c' (w.after c x) = w.act c' x := act_deeds same x _
    have places : w.after c' (w.after c x) = w.after c (w.after c' x) := by
      rw [after, later, after, after, earlier, after]
      exact Standing.deeds_comm same _ _
    have maps := outcomes.setTo_comm same (some (w.act c x).1) (some (w.act c' x).1)
    dsimp only
    rw [earlier, later, places]
    exact congrArg (·, w.after c (w.after c' x)) maps

theorem get?_all_of_not_mem (absent : claim ∉ cs.map (·.uid)) (outcomes : SortedMap ClaimUid α) (x : Standing) :
    (w.all cs outcomes x).1.get? claim = outcomes.get? claim := by
  induction cs generalizing outcomes x with
  | nil => rfl
  | cons c cs ih =>
    rw [List.map_cons, List.mem_cons, not_or] at absent
    exact (ih absent.2 ..).trans (SortedMap.get?_insert_ne _ (Ne.symm absent.1) _)

/-- Each claim is answered as it would have been at the beginning. -/
theorem get?_all (distinct : (cs.map (·.uid)).Nodup) (member : c ∈ cs) (outcomes : SortedMap ClaimUid α)
    (x : Standing) : (w.all cs outcomes x).1.get? c.uid = some (w.act c x).1 := by
  have first : (c :: cs.erase c).Perm cs := (List.perm_cons_erase member).symm
  rw [← all_perm distinct first]
  have apart : c.uid ∉ (cs.erase c).map (·.uid) :=
    (List.nodup_cons.mp ((first.map (·.uid)).nodup_iff.mpr distinct)).1
  exact (get?_all_of_not_mem apart ..).trans (SortedMap.get?_insert_self ..)

end Work

end DeviceClaims
