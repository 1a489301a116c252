import DeviceClaims.Proofs.ClaimForm
import DeviceClaims.Proofs.Course.Controller
import DeviceClaims.Proofs.Tenancy.Runs

namespace DeviceClaims

open Json.Decoder in
/-- The node of an allocation is found in its result also after the result was written and read. -/
theorem AllocationResult.selectedNode_carried {carried : Option AllocationResult} {node : String}
    {shareable : Bool} (carries : carried = some (.forNode node shareable) ∨ ∃ read,
      decode.run (AllocationResult.forNode node shareable).toJson.text = .ok read ∧ carried = some read) :
    carried.bind selectedNode = some node := by
  rcases carries with rfl | ⟨read, was_read, rfl⟩
  · rfl
  · rw [run_text] at was_read
    cases was_read
    rfl

namespace Controller

variable {claim : ClaimUid} {node : String} {steps : List (Step World)} {w v : World}

theorem Wrote.record_eq {change : Change} {r : NodeRecord} (wrote : Wrote claim change r w steps v)
    (key : ObjectKey) : v.record key = (w.put (change.on r)).record key := by
  rw [World.record, World.record, wrote.store]

/-- A device that a claim alone may hold is still that once a call has changed what is recorded for the
claim. -/
theorem Wrote.keeps_clear {change : Change} {r : NodeRecord} {space : String} {uuid : DeviceUuid}
    (wrote : Wrote claim change r w steps v) (claims : change.part = .claim claim)
    (key : r.key = ⟨space, node⟩) (clear : w.Clear space node claim uuid) :
    v.Clear space node claim uuid := by
  let changed := w.put (change.on r)
  have put : changed.Clear space node claim uuid := by
    refine ⟨Tenancy.listed_change claims wrote.replaced node ▸ clear.listed, fun other unlike member => ?_⟩
    have same := Tenancy.allocated_change claims key wrote.replaced fun _ : node = node => unlike
    refine clear.apart other unlike ?_
    rw [World.held, same] at member
    exact member
  have forgotten : (changed.setPending (changed.pending.remove claim)).Clear space node claim uuid := by
    have adds : World.Adds space node claim [] changed (changed.setPending (changed.pending.remove claim)) :=
      .remove changed
    exact put.mono rfl fun other uuid member =>
      (adds.mem_held member).resolve_right fun new => List.not_mem_nil new.2
  exact forgotten.of_same wrote.record_eq wrote.pending

end Controller

namespace Operation

/-- A call that asks which nodes can hold a pod. -/
def Asks : Operation → Prop
  | filter .. => True
  | _ => False

/-- A call that takes a claim back. -/
def TakesBack (claim : ClaimUid) : Operation → Prop
  | deallocate _ returned => returned.uid = claim
  | _ => False

/-- A call that allocates a claim. -/
def Assigns (claim : ClaimUid) : Operation → Prop
  | allocate _ other _ => other = claim
  | _ => False

end Operation

namespace Controller

variable {c k : Controller} {claim : ClaimUid} {node : String} {steps : List (Step World)}
  {w w' : World}

/-- An allocation that writes a record gives the claim devices that no other claim holds. -/
theorem Wrote.tenant_of_allocated {r : NodeRecord} {devices : List AllocatedDevice}
    (wrote : Wrote claim (.allocate claim devices) r w steps w') (key : r.key = c.recordKey node)
    (rightful : w.Rightful c.space) (unknown : r.spec.allocated.get? claim = none)
    (aside : w.pending.get? claim node = some devices) : w'.Tenant c.space node claim devices := by
  refine ⟨?_, fun uuid member => wrote.keeps_clear rfl key ?_⟩
  · have at_key : w'.record ⟨c.space, node⟩ = some ((Change.allocate claim devices).on r) := by
      have same : ((Change.allocate claim devices).on r).key = ⟨c.space, node⟩ := key
      rw [wrote.record_eq, ← same, World.record_put_self]
    rw [World.allocation, at_key]
    exact SortedMap.get?_insert_self ..
  · have is_aside : uuid ∈ w.setAside node claim := by
      rw [World.setAside, aside]
      exact member
    have key : r.key = ⟨c.space, node⟩ := key
    rcases rightful node claim uuid is_aside with by_record | clear
    · rw [World.allocated_of_unknown (key ▸ wrote.replaced) unknown] at by_record
      cases by_record
    · exact clear

/-- Once a claim is taken back from a node it holds nothing there. -/
theorem Wrote.held_eq_nil {r : NodeRecord} (wrote : Wrote claim (.release claim) r w steps w')
    (key : r.key = c.recordKey node) :
    w'.allocation (c.recordKey node) claim = none ∧ w'.held c.space node claim = [] := by
  have unknown : w'.allocation (c.recordKey node) claim = none := by
    have same : ((Change.release claim).on r).key = c.recordKey node := key
    rw [World.allocation, wrote.record_eq, ← same, World.record_put_self]
    exact SortedMap.get?_erase_self ..
  refine ⟨unknown, ?_⟩
  rw [World.held, World.allocated, World.setAside, wrote.pending, PendingTracker.get?_remove, if_pos rfl]
  have unknown : w'.allocation ⟨c.space, node⟩ claim = none := unknown
  rw [unknown]
  rfl

/-- A device that a claim alone may hold is held by none once the claim is taken back. -/
theorem Wrote.not_held_of_clear {r : NodeRecord} {uuid : DeviceUuid}
    (wrote : Wrote claim (.release claim) r w steps w') (key : r.key = c.recordKey node)
    (clear : w.Clear c.space node claim uuid) (other : ClaimUid) : uuid ∉ w'.held c.space node other := by
  by_cases own : other = claim
  · rw [own, (wrote.held_eq_nil key).2]
    exact List.not_mem_nil
  · exact (wrote.keeps_clear rfl key clear).apart other own

/-- To allocate a claim that the record of the node does not know writes the record. -/
theorem Allots.exists_wrote {result : AllocationResult} (allots : c.Allots claim node w steps (.ok result) w')
    (unknown : w.allocation (c.recordKey node) claim = none) :
    result = .forNode node true ∧ ∃ r devices, r.key = c.recordKey node ∧
      r.spec.allocated.get? claim = none ∧ w.pending.get? claim node = some devices ∧
      Wrote claim (.allocate claim devices) r w steps w' := by
  cases allots with
  | recorded key absent aside wrote => exact ⟨rfl, _, _, key, absent, aside, wrote⟩
  | known recorded => cases unknown.symm.trans recorded

/-- To take back a claim that the record of the node knows writes the record. -/
theorem Returns.exists_wrote {devices : List AllocatedDevice}
    (returns : c.Returns claim node w steps (.ok ()) w')
    (recorded : w.allocation (c.recordKey node) claim = some devices) :
    ∃ r, r.key = c.recordKey node ∧ r.spec.allocated.get? claim = some devices ∧
      Wrote claim (.release claim) r w steps w' := by
  cases returns with
  | released key at_claim wrote =>
    rw [World.allocation, ← key, wrote.replaced] at recorded
    exact ⟨_, key, recorded, wrote⟩
  | unknown absent => cases absent.symm.trans recorded

/-- A claim that a node's record knows is not allocated there again. -/
theorem Allots.keepsStore_of_recorded {result : Except DriverError AllocationResult}
    {devices : List AllocatedDevice}
    (allots : c.Allots claim node w steps result w')
    (recorded : w.allocation (c.recordKey node) claim = some devices) : ∀ s ∈ steps, s.KeepsStore := by
  cases allots with
  | recorded key unknown _ wrote =>
    rw [World.allocation, ← key, wrote.replaced] at recorded
    cases unknown.symm.trans recorded
  | known _ left => exact left.still
  | refused left => exact left.still

/-- To take back a claim that the record does not list writes nothing. -/
theorem Returns.keepsStore_of_unknown {result : Except DriverError Unit}
    (returns : c.Returns claim node w steps result w')
    (unknown : w.allocation (c.recordKey node) claim = none) : ∀ s ∈ steps, s.KeepsStore := by
  cases returns with
  | released key recorded wrote =>
    rw [World.allocation, ← key, wrote.replaced] at unknown
    cases unknown.symm.trans recorded
  | unknown _ left => exact left.still
  | refused left => exact left.still

/-- From whatever records a controller begins, and whatever calls it has made: an allocation of a claim
that a node's record does not know, and after any calls that do not take the claim back the call that
does, with the result of the allocation or with what is read from its text, each change the node's
record once, the one by an entry for the claim and the other one by its removal. The devices of the
claim are found free from then on until somebody asks which nodes can hold a pod. To allocate the claim
again before it is taken back writes nothing, nor does it to take it back again. -/
theorem deallocate_undoes_allocate {result : AllocationResult} {returned : ResourceClaim}
    {w₀ w₁ w₂ w₃ w₄ : World} {taken given : List (Step World)} (wellKeyed : w₀.WellKeyed)
    (nothing : w₀.pending = {})
    (before : Machine.Reach (.ofCalls c.space fun _ => True) (.idle w₀) (.idle w₁))
    (unknown : w₁.allocation (c.recordKey node) claim = none)
    (allocated : (Operation.allocate c claim node).Runs w₁ taken (.ok result) w₂)
    (between : Machine.Reach (.ofCalls c.space fun op => ¬ op.TakesBack claim) (.idle w₂) (.idle w₃))
    (same : k.space = c.space) (uid : returned.uid = claim)
    (carries : returned.allocation = some result ∨ ∃ read,
      AllocationResult.decode.run result.toJson.text = .ok read ∧ returned.allocation = some read)
    (deallocated : (Operation.deallocate k returned).Runs w₃ given (.ok ()) w₄) :
    AllocationResult.decode.run result.toJson.text = .ok result ∧
    ∃ r r' devices,
      (r.key = c.recordKey node ∧ Wrote claim (.allocate claim devices) r w₁ taken w₂) ∧
      (r'.key = c.recordKey node ∧ Wrote claim (.release claim) r' w₃ given w₄ ∧
        r'.spec.allocated.get? claim = some devices) ∧
      (∀ w record free, Machine.Reach (.ofCalls c.space fun op => ¬ op.Asks) (.idle w₄) (.idle w) →
        w.record (c.recordKey node) = some record → Allocator.Finds w node record free →
          devices.map (·.uuid) ⊆ free) ∧
      (∀ w, Machine.Reach (.ofCalls c.space fun op => ¬ op.TakesBack claim) (.idle w₂) (.idle w) →
        ∀ (c' : Controller) steps result w', c'.space = c.space →
          (Operation.allocate c' claim node).Runs w steps result w' → ∀ s ∈ steps, s.KeepsStore) ∧
      ∀ w, Machine.Reach (.ofCalls c.space fun op => ¬ op.Assigns claim) (.idle w₄) (.idle w) →
        ∀ (k' : Controller) steps result w', k'.space = c.space →
          (Operation.deallocate k' returned).Runs w steps result w' → ∀ s ∈ steps, s.KeepsStore := by
  subst uid
  have recordKey : ∀ other : Controller, other.space = c.space →
      other.recordKey node = c.recordKey node := fun _ same => congrArg (ObjectKey.mk · node) same
  have wellKeyed₁ := (before.keeps_ground wellKeyed).wellKeyed
  have rightful₁ := before.world_rightful wellKeyed (.of_pending_empty nothing)
  have made : Machine.Reach (.ofCalls c.space fun _ => True) (.idle w₁) (.idle w₂) :=
    allocated.reach_idle ⟨⟨c, rfl, rfl⟩, trivial⟩ (fun _ => trivial) trivial
  have wellKeyed₂ := (made.keeps_ground wellKeyed₁).wellKeyed
  have rightful₂ := made.world_rightful wellKeyed₁ rightful₁
  have wellKeyed₃ := (between.keeps_ground wellKeyed₂).wellKeyed
  have rightful₃ := between.world_rightful wellKeyed₂ rightful₂
  have undone : Machine.Reach (.ofCalls c.space fun _ => True) (.idle w₃) (.idle w₄) :=
    deallocated.reach_idle ⟨⟨k, rfl, same⟩, trivial⟩ (fun _ => trivial) trivial
  have wellKeyed₄ := (undone.keeps_ground wellKeyed₃).wellKeyed
  have rightful₄ := undone.world_rightful wellKeyed₃ rightful₃
  obtain ⟨rfl, r, devices, key, absent, aside, wrote⟩ :=
    (allocated.allots_of_allocate wellKeyed₁).exists_wrote unknown
  have keeps : ∀ w, Machine.Reach (.ofCalls c.space fun op => ¬ op.TakesBack returned.uid) (.idle w₂)
      (.idle w) → w.Tenant c.space node returned.uid devices := fun w reach =>
    reach.world_tenant wellKeyed₂ rightful₂ (fun _ _ others => others)
      (wrote.tenant_of_allocated key rightful₁ absent aside)
  have tenant := keeps w₃ between
  have recorded₃ : w₃.allocation (k.recordKey node) returned.uid = some devices :=
    recordKey k same ▸ tenant.recorded
  obtain ⟨r', key', recorded, wrote'⟩ :=
    (deallocated.returns_of_deallocate (AllocationResult.selectedNode_carried carries)
      wellKeyed₃).exists_wrote recorded₃
  rw [recordKey k same] at key'
  have unknown₄ := (wrote'.held_eq_nil key').1
  refine ⟨AllocationResult.run_text _, r, r', devices, ⟨key, wrote⟩, ⟨key', wrote', recorded⟩,
    fun w record free reach at_key finds uuid member => ?_,
    fun w reach c' steps result w' same runs => ?_, fun w reach k' steps result w' same runs => ?_⟩
  · have clear := tenant.clear uuid member
    exact reach.finds_free (fun _ _ _ asks => asks trivial) wellKeyed₄ rightful₄
      (wrote'.keeps_clear rfl key' clear).listed (wrote'.not_held_of_clear key' clear) at_key finds
  · have still := (reach.keeps_ground wellKeyed₂).wellKeyed
    have known : w.allocation (c'.recordKey node) returned.uid = some devices :=
      recordKey c' same ▸ (keeps w reach).recorded
    exact (runs.allots_of_allocate still).keepsStore_of_recorded known
  · have still := (reach.keeps_ground wellKeyed₄).wellKeyed
    have unknown : w.allocation (k'.recordKey node) returned.uid = none :=
      recordKey k' same ▸ reach.allocation_eq_none wellKeyed₄ rightful₄ (fun _ _ assigns => assigns rfl) unknown₄
    have selected := AllocationResult.selectedNode_carried carries
    exact (runs.returns_of_deallocate selected still).keepsStore_of_unknown unknown

end Controller

namespace Lent

def controller : Controller := { space := "default" }

def claim : ClaimUid := ⟨.filled 7⟩

def other : ClaimUid := ⟨.filled 8⟩

def world : World :=
  World.put {}
    { metadata := { name := "node", space := "default" }
      spec := { allocatable :=
        [⟨⟨.filled 1⟩, "model"⟩, ⟨⟨.filled 2⟩, "model"⟩] }
      status := .ready }

def returned : ResourceClaim :=
  { uid := claim, name := "claim", allocation := some (.forNode "node" true) }

def ask (claim : ClaimUid) : Operation :=
  .filter controller [⟨{ uid := claim, name := "claim" }, { name := "class" }, {}, {}, []⟩] ["node"]

def take (claim : ClaimUid) : Operation := .allocate controller claim "node"

end Lent

open Lent in
/-- A node of two devices, and two claims that are given one each. -/
theorem Controller.deallocate_undoes_allocate_lent :
    ∃ (w₁ w₂ w₃ w₄ : World) (taken given : List (Step World)) (result : AllocationResult)
      (r record : NodeRecord) (devices : List AllocatedDevice) (free : List DeviceUuid),
      w₁.allocation (controller.recordKey "node") claim = none ∧
      (take claim).Runs w₁ taken (.ok result) w₂ ∧
      (w₃.allocation (controller.recordKey "node") other).isSome ∧
      (Operation.deallocate controller returned).Runs w₃ given (.ok ()) w₄ ∧
      Step.Once (.release claim) r given ∧ r.spec.allocated.get? claim = some devices ∧
      devices.length = 1 ∧ w₄.record (controller.recordKey "node") = some record ∧
      Allocator.Finds w₄ "node" record free ∧ devices.map (·.uuid) ⊆ free := by
  have wellKeyed : world.WellKeyed := World.WellKeyed.put (fun _ _ absent => by cases absent) _
  have shown : ((ask claim).made world).any (fun (_, _, w₁) =>
      ((take claim).made w₁).any fun (_, result, w₂) =>
      ((ask other).made w₂).any fun (_, _, w) => ((take other).made w).any fun (_, _, w₃) =>
      ((Operation.deallocate controller returned).made w₃).any fun (_, last, w₄) =>
      (w₄.record (controller.recordKey "node")).any fun record =>
      ((Allocator.holdings record "node").follow (fun a w => w.answer? 0 (ask claim) a)
        (w₄.setHolder "node" (some 0))).any fun _ =>
      decide (w₁.allocation (controller.recordKey "node") claim = none ∧
        (w₃.allocation (controller.recordKey "node") other).isSome ∧
        ((w₃.allocation (controller.recordKey "node") claim).map List.length) = some 1 ∧
        Except.toOption result = some (.forNode "node" true) ∧ (Except.toOption last).isSome)) = true := by
    decide +kernel
  simp only [Option.any_eq_true] at shown
  obtain ⟨⟨_, _, w₁⟩, filtered, ⟨taken, result, w₂⟩, allocated, ⟨_, _, w⟩, filtered', ⟨_, _, w₃⟩,
    allocated', ⟨given, last, w₄⟩, deallocated, record, at_key, ⟨_, held, _⟩, course, shown⟩ := shown
  obtain ⟨unknown, others, single, isResult, isOk⟩ := of_decide_eq_true shown
  have takes := Operation.Runs.of_made allocated
  have returns := Operation.Runs.of_made deallocated
  cases result with
  | error e => cases isResult
  | ok result =>
    cases isResult
    cases last with
    | error e => cases isOk
    | ok last =>
      have before : Machine.Reach (.ofCalls controller.space fun _ => True) (.idle world) (.idle w₁) :=
        (Operation.Runs.of_made filtered).reach_idle ⟨⟨controller, rfl, rfl⟩, trivial⟩ (fun _ => trivial)
          trivial
      have asks : Machine.Reach (.ofCalls controller.space fun op => ¬ op.TakesBack claim) (.idle w₂)
          (.idle w) :=
        (Operation.Runs.of_made filtered').reach_idle ⟨⟨controller, rfl, rfl⟩, id⟩ (fun _ => trivial) trivial
      have takes' : Machine.Reach (.ofCalls controller.space fun op => ¬ op.TakesBack claim) (.idle w)
          (.idle w₃) :=
        (Operation.Runs.of_made allocated').reach_idle ⟨⟨controller, rfl, rfl⟩, id⟩ (fun _ => trivial) trivial
      obtain ⟨_, _, r, devices, _, ⟨key, wrote, recorded⟩, found, _⟩ :=
        deallocate_undoes_allocate wellKeyed rfl before unknown takes (asks.trans takes') rfl rfl
          (.inl rfl) returns
      have finds : Allocator.Finds w₄ "node" record (Allocator.free record.spec held) :=
        ⟨0, ask claim, _, held, _, Prog.course_of_follow (fun _ => rfl)
          (fun _ _ _ _ => World.answers_of_answer?) course, rfl⟩
      have at_r : w₃.record (controller.recordKey "node") = some r := key ▸ wrote.replaced
      rw [World.allocation, at_r, Option.bind_some, recorded] at single
      exact ⟨w₁, w₂, w₃, w₄, taken, given, _, r, record, devices, _, unknown, takes, others, returns,
        wrote.once, recorded, Option.some.inj single, at_key, finds, found w₄ record _ .start at_key finds⟩

end DeviceClaims
