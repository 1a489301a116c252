import DeviceClaims.Proofs.Course.Solo
import DeviceClaims.Proofs.Tenancy.Calls

namespace DeviceClaims

open Allocator

namespace Footprint

variable {S : Setting} {op : Operation} {w w' : World} {key : ObjectKey} {claim : ClaimUid}

/-- What is recorded for a claim stays recorded in a move of the controller, unless the claim is taken
back. -/
theorem allocation_kept {devices : List AllocatedDevice} (footprint : Footprint S op w w')
    (controlled : op.controller? ≠ none)
    (keeps : ∀ c returned, op = .deallocate c returned → returned.uid ≠ claim)
    (recorded : w.allocation key claim = some devices) : w'.allocation key claim = some devices := by
  by_cases owns : op.Owns key (.claim claim)
  · cases op with
    | allocate c other node =>
      obtain ⟨_, same⟩ := owns
      cases same
      obtain ⟨r, at_key, known⟩ := Option.bind_eq_some_iff.mp recorded
      have rewrites := footprint.records key
      rw [at_key] at rewrites
      unfold World.allocation
      generalize w'.record key = new at rewrites ⊢
      cases rewrites with
      | same => exact known
      | changed _ change at_r makes =>
        obtain ⟨_, _, unknown, _⟩ := makes
        cases unknown.symm.trans known
    | deallocate c returned => exact absurd (Part.claim.inj owns.2).symm (keeps c returned rfl)
    | filter => exact owns.elim
    | _ => exact absurd rfl controlled
  · rw [footprint.allocation_of_not_owns owns, recorded]

/-- A claim of which a record says nothing stays unknown to it in a move of the controller, unless it
is allocated. -/
theorem allocation_unknown (footprint : Footprint S op w w') (controlled : op.controller? ≠ none)
    (keeps : ∀ c node, op ≠ .allocate c claim node) (unknown : w.allocation key claim = none) :
    w'.allocation key claim = none := by
  by_cases owns : op.Owns key (.claim claim)
  · cases op with
    | deallocate c returned =>
      obtain ⟨_, same⟩ := owns
      cases same
      have rewrites := footprint.records key
      unfold World.allocation at unknown ⊢
      generalize w.record key = old at rewrites unknown
      generalize w'.record key = new at rewrites ⊢
      cases rewrites with
      | same => exact unknown
      | created starts =>
        obtain ⟨_, _, starts, _⟩ := starts
        cases starts
      | changed r change at_r makes =>
        obtain ⟨_, rfl⟩ := makes
        exact SortedMap.get?_erase_self ..
    | allocate c other node =>
      obtain ⟨_, same⟩ := owns
      cases same
      exact absurd rfl (keeps c node)
    | filter => exact owns.elim
    | _ => exact absurd rfl controlled
  · rw [footprint.allocation_of_not_owns owns, unknown]

end Footprint

variable {space : String} {vacant : String → DeviceUuid → Prop} {sort : Operation → Prop}
  {w₀ w w' : World} {m : Machine} {node : String} {claim : ClaimUid} {uuid : DeviceUuid}

/-- A claim has devices by a node's record, and no other claim holds any of them there. -/
structure World.Tenant (w : World) (space node : String) (claim : ClaimUid)
    (devices : List AllocatedDevice) : Prop where
  recorded : w.allocation ⟨space, node⟩ claim = some devices
  clear : ∀ uuid ∈ devices.map (·.uuid), w.Clear space node claim uuid

theorem World.Tenant.subset_held {devices : List AllocatedDevice} (tenant : w.Tenant space node claim devices) :
    devices.map (·.uuid) ⊆ w.held space node claim := by
  intro uuid member
  refine List.mem_append_left _ ?_
  rw [World.allocated, tenant.recorded]
  exact member

namespace Machine

/-- Every machine that only a controller's calls have reached keeps the discipline. -/
theorem Reach.keeps_tenancy (either : (∀ c pod nodes, ¬ sort (.filter c pod nodes)) ∨
      ∀ node uuid, ¬ vacant node uuid)
    (wellKeyed : w₀.WellKeyed) (inv : (DeviceClaims.tenancy space vacant).inv w₀)
    (reach : Reach (.ofCalls space sort) (.idle w₀) m) :
    (DeviceClaims.tenancy space vacant).Keeps (.ofCalls space sort) (fun _ => True) m :=
  (tenancy_governs either).keeps_reach (.idle wellKeyed inv) (fun _ _ _ _ _ => trivial) reach

/-- What every move of the controller preserves that gives devices to nobody but those who alone may
hold them, a run of its calls preserves. -/
theorem Reach.preserves_of_step {P : World → Prop} (wellKeyed : w₀.WellKeyed) (rightful : w₀.Rightful space)
    (step : ∀ op w w', (Setting.ofCalls space sort).mayCall op →
      Footprint (.ofCalls space sort) op w w' → World.Grants space w w' → P w → P w')
    (first : P w₀) (reach : Reach (.ofCalls space sort) (.idle w₀) m) : P m.world := by
  induction reach with
  | start => exact first
  | @next m m' e before _ move ih =>
    cases caller : e.caller? with
    | none =>
      cases move with
      | outside others => exact others.elim
      | _ => cases caller
    | some called =>
      obtain ⟨call, op⟩ := called
      have governs : (DeviceClaims.tenancy space fun _ _ => False).Governs (.ofCalls space sort) _ _ :=
        tenancy_governs (.inr fun _ _ => id)
      have keeps := Reach.keeps_tenancy (.inr fun _ _ => id) wellKeyed ⟨rightful, fun _ _ => False.elim⟩ before
      have grants := ((governs.keeps_move keeps move fun _ _ _ => trivial).2 call op caller).promise
      obtain ⟨may, allows⟩ := Reach.mayCall_and_allows wellKeyed before move call op caller
      exact step op _ _ may allows.promise grants ih

/-- Devices are set aside rightfully wherever a controller's calls lead. -/
theorem Reach.world_rightful (wellKeyed : w₀.WellKeyed) (rightful : w₀.Rightful space)
    (reach : Reach (.ofCalls space sort) (.idle w₀) m) : m.world.Rightful space :=
  (reach.keeps_tenancy (.inr fun _ _ => id) wellKeyed ⟨rightful, fun _ _ => False.elim⟩).inv.1

/-- A claim keeps its devices for itself until it is taken back. -/
theorem Reach.world_tenant {devices : List AllocatedDevice} (wellKeyed : w₀.WellKeyed)
    (rightful : w₀.Rightful space)
    (keeps : ∀ c returned, sort (.deallocate c returned) → returned.uid ≠ claim)
    (tenant : w₀.Tenant space node claim devices)
    (reach : Reach (.ofCalls space sort) (.idle w₀) m) :
    m.world.Tenant space node claim devices := by
  refine reach.preserves_of_step wellKeyed rightful (P := fun w => w.Tenant space node claim devices)
    (fun op w w' may footprint grants tenant => ?_) tenant
  obtain ⟨⟨c, caller, _⟩, sorted⟩ := may
  refine ⟨footprint.allocation_kept (by rw [caller]; nofun) ?_ tenant.recorded, fun uuid member =>
    (tenant.clear uuid member).of_grants (tenant.subset_held member) grants⟩
  rintro c returned rfl
  exact keeps c returned sorted

/-- A claim that a node does not know stays unknown to it until it is allocated. -/
theorem Reach.allocation_eq_none (wellKeyed : w₀.WellKeyed) (rightful : w₀.Rightful space)
    (keeps : ∀ c node, ¬ sort (.allocate c claim node))
    (unknown : w₀.allocation ⟨space, node⟩ claim = none)
    (reach : Reach (.ofCalls space sort) (.idle w₀) m) :
    m.world.allocation ⟨space, node⟩ claim = none := by
  refine reach.preserves_of_step wellKeyed rightful (P := fun w => w.allocation ⟨space, node⟩ claim = none)
    (fun op w w' may footprint grants unknown => ?_) unknown
  obtain ⟨⟨c, caller, _⟩, sorted⟩ := may
  refine footprint.allocation_unknown (by rw [caller]; nofun) ?_ unknown
  rintro c node rfl
  exact keeps c node sorted

end Machine

/-- What a pass over a node that has its lock, and that read a record, finds free there. -/
def Allocator.Finds (w : World) (node : String) (record : NodeRecord) (free : List DeviceUuid) : Prop :=
  ∃ call op steps held w', Prog.Course (.solo call op) (holdings record node)
    (w.setHolder node (some call)) steps held w' ∧ free = Allocator.free record.spec held

/-- What a node lists and no claim holds there is found free. -/
theorem Allocator.Finds.of_vacant {record : NodeRecord} {free : List DeviceUuid}
    (finds : Finds w node record free) (wellKeyed : w.WellKeyed) (inv : (tenancy space vacant).inv w)
    (at_key : w.record ⟨space, node⟩ = some record) (listed : uuid ∈ w.listed space node)
    (is_vacant : vacant node uuid) : uuid ∈ free := by
  obtain ⟨call, op, steps, held, w', course, rfl⟩ := finds
  let locked := w.setHolder node (some call)
  have own : locked.holder node = some call := Function.update_self ..
  have wellKeyed : locked.WellKeyed := wellKeyed
  have inv : (tenancy space vacant).inv locked := Tenancy.inv_of_same inv (fun _ => rfl) rfl
  have census : Census space vacant call node record [] held w' :=
    (holdings_census (S := {}) own at_key).post_of_course (fun _ => trivial) trivial wellKeyed inv course
  rw [World.listed_of_record at_key] at listed
  exact mem_free_iff.mpr ⟨listed, census.spared uuid is_vacant⟩

namespace Machine

/-- Devices that no claim holds are found free until somebody asks which nodes can hold a pod. -/
theorem Reach.finds_free (filterless : ∀ c pod nodes, ¬ sort (.filter c pod nodes))
    (wellKeyed : w₀.WellKeyed) (rightful : w₀.Rightful space) (listed : uuid ∈ w₀.listed space node)
    (unheld : ∀ claim, uuid ∉ w₀.held space node claim)
    (reach : Reach (.ofCalls space sort) (.idle w₀) (.idle w)) {record : NodeRecord}
    (at_key : w.record ⟨space, node⟩ = some record) {free : List DeviceUuid}
    (finds : Finds w node record free) : uuid ∈ free := by
  have inv : (DeviceClaims.tenancy space fun place other => place = node ∧ other = uuid).inv w₀ := by
    refine ⟨rightful, ?_⟩
    rintro _ _ ⟨rfl, rfl⟩
    exact unheld
  have keeps := reach.keeps_tenancy (.inl filterless) wellKeyed inv
  have still : uuid ∈ w.listed space node :=
    reach.preserves_of_step wellKeyed rightful (P := fun w => uuid ∈ w.listed space node)
      (fun _ _ _ _ _ grants listed => grants.listed node ▸ listed) listed
  exact finds.of_vacant keeps.wellKeyed keeps.inv at_key still ⟨rfl, rfl⟩

end Machine

end DeviceClaims
