import DeviceClaims.Proofs.Footprint.Calls
import Mathlib.Data.List.Nodup

namespace DeviceClaims

namespace World

/-- The devices that a node's record says a claim holds. -/
def allocated (w : World) (space node : String) (claim : ClaimUid) : List DeviceUuid :=
  ((w.allocation ⟨space, node⟩ claim).getD []).map (·.uuid)

/-- The devices that are set aside for a claim on a node. -/
def setAside (w : World) (node : String) (claim : ClaimUid) : List DeviceUuid :=
  ((w.pending.get? claim node).getD []).map (·.uuid)

def held (w : World) (space node : String) (claim : ClaimUid) : List DeviceUuid :=
  w.allocated space node claim ++ w.setAside node claim

/-- Devices that a claim may hold on a node: each once, and none that another claim holds. -/
structure Reserves (w : World) (space node : String) (claim : ClaimUid)
    (uuids : List DeviceUuid) : Prop where
  once : uuids.Nodup
  apart : ∀ other, other ≠ claim → uuids.Disjoint (w.held space node other)

/-- No two claims hold the same device, and none is listed twice. -/
structure Exclusive (space : String) (w : World) : Prop where
  allocated : ∀ node claim, w.Reserves space node claim (w.allocated space node claim)
  setAside : ∀ node claim, w.Reserves space node claim (w.setAside node claim)

/-- One claim may come to hold other devices on a node, all others keep theirs or give them up. -/
structure Adds (space node : String) (claim : ClaimUid) (uuids : List DeviceUuid)
    (w w' : World) : Prop where
  allocated : ∀ place other, w'.allocated space place other = [] ∨
    w'.allocated space place other = w.allocated space place other ∨
    (place = node ∧ other = claim) ∧ w'.allocated space place other = uuids
  setAside : ∀ place other, w'.setAside place other = [] ∨
    w'.setAside place other = w.setAside place other ∨
    (place = node ∧ other = claim) ∧ w'.setAside place other = uuids

variable {space : String} {w w' : World} {node : String} {claim : ClaimUid} {uuids : List DeviceUuid}

theorem Reserves.nil (w : World) (space node : String) (claim : ClaimUid) :
    w.Reserves space node claim [] := ⟨List.nodup_nil, fun _ _ => List.disjoint_nil_left _⟩

theorem Reserves.mono (reserves : w.Reserves space node claim uuids)
    (fewer : ∀ other, w'.held space node other ⊆ w.held space node other) :
    w'.Reserves space node claim uuids :=
  ⟨reserves.once, fun other unlike _ is_uuid is_held => reserves.apart other unlike is_uuid
    (fewer other is_held)⟩

theorem Adds.mem_held (adds : Adds space node claim uuids w w') {place : String} {other : ClaimUid}
    {uuid : DeviceUuid} (member : uuid ∈ w'.held space place other) :
    uuid ∈ w.held space place other ∨ (place = node ∧ other = claim) ∧ uuid ∈ uuids := by
  have step : ∀ {l l₁ : List DeviceUuid}, uuid ∈ l → l₁ ⊆ w.held space place other →
      l = [] ∨ l = l₁ ∨ (place = node ∧ other = claim) ∧ l = uuids →
      uuid ∈ w.held space place other ∨ (place = node ∧ other = claim) ∧ uuid ∈ uuids := by
    rintro l l₁ within fewer (rfl | rfl | ⟨at_claim, rfl⟩)
    · cases within
    · exact .inl (fewer within)
    · exact .inr ⟨at_claim, within⟩
  rcases List.mem_append.mp member with by_record | by_tracker
  · exact step by_record (List.subset_append_left ..) (adds.allocated place other)
  · exact step by_tracker (List.subset_append_right ..) (adds.setAside place other)

/-- Devices that nobody else holds may be added to a claim. -/
theorem Exclusive.of_adds (exclusive : w.Exclusive space) (reserves : w.Reserves space node claim uuids)
    (adds : Adds space node claim uuids w w') : w'.Exclusive space := by
  have step : ∀ {place other} {l l₁ : List DeviceUuid}, w.Reserves space place other l₁ →
      l₁ ⊆ w.held space place other →
      l = [] ∨ l = l₁ ∨ (place = node ∧ other = claim) ∧ l = uuids →
      w'.Reserves space place other l := by
    rintro place other l l₁ before within (rfl | rfl | ⟨⟨rfl, rfl⟩, rfl⟩)
    · exact .nil ..
    · refine ⟨before.once, fun third unlike uuid is_old is_held => ?_⟩
      rcases adds.mem_held is_held with old | ⟨⟨rfl, rfl⟩, is_new⟩
      · exact before.apart third unlike is_old old
      · exact reserves.apart other unlike.symm is_new (within is_old)
    · refine ⟨reserves.once, fun third unlike uuid is_new is_held => ?_⟩
      rcases adds.mem_held is_held with old | ⟨⟨_, same⟩, _⟩
      · exact reserves.apart third unlike is_new old
      · exact unlike same
  exact ⟨fun place other => step (exclusive.allocated place other) (List.subset_append_left ..)
      (adds.allocated place other),
    fun place other => step (exclusive.setAside place other) (List.subset_append_right ..)
      (adds.setAside place other)⟩

theorem setAside_setPending_set (w : World) (claim other : ClaimUid) (node place : String)
    (devices : List AllocatedDevice) :
    (w.setPending (w.pending.set claim node devices)).setAside place other =
      if claim = other ∧ node = place then devices.map (·.uuid) else w.setAside place other := by
  have found := w.pending.get?_set claim other node place devices
  unfold setAside setPending
  rw [found]
  split <;> rfl

theorem setAside_setPending_remove (w : World) (claim other : ClaimUid) (node : String) :
    (w.setPending (w.pending.remove claim)).setAside node other =
      if claim = other then [] else w.setAside node other := by
  have found := w.pending.get?_remove claim other node
  unfold setAside setPending
  rw [found]
  split <;> rfl

theorem Adds.set (w : World) (devices : List AllocatedDevice) :
    Adds space node claim (devices.map (·.uuid)) w
      (w.setPending (w.pending.set claim node devices)) where
  allocated _ _ := .inr (.inl rfl)
  setAside place other := by
    rw [setAside_setPending_set]
    split
    · next same => exact .inr (.inr ⟨⟨same.2.symm, same.1.symm⟩, rfl⟩)
    · exact .inr (.inl rfl)

theorem Adds.remove (w : World) :
    Adds space node claim [] w (w.setPending (w.pending.remove claim)) where
  allocated _ _ := .inr (.inl rfl)
  setAside place other := by
    rw [setAside_setPending_remove]
    split
    · exact .inl rfl
    · exact .inr (.inl rfl)

theorem allocated_put {r : NodeRecord} (key : r.key = ⟨space, node⟩) (w : World) (place : String)
    (other : ClaimUid) :
    (w.put r).allocated space place other = if node = place
      then ((r.spec.allocated.get? other).getD []).map (·.uuid) else w.allocated space place other := by
  unfold allocated allocation
  rw [record_put, key]
  by_cases same : node = place
  · rw [if_pos same, if_pos (congrArg (ObjectKey.mk space) same)]
    rfl
  · rw [if_neg same, if_neg (fun keys => same (congrArg ObjectKey.name keys))]

theorem allocated_of_record {r : NodeRecord} (at_key : w.record ⟨space, node⟩ = some r)
    (other : ClaimUid) :
    w.allocated space node other = ((r.spec.allocated.get? other).getD []).map (·.uuid) := by
  unfold allocated allocation
  rw [at_key]
  rfl

theorem Adds.allocate {r : NodeRecord} (key : r.key = ⟨space, node⟩)
    (at_key : w.record r.key = some r) (devices : List AllocatedDevice) :
    Adds space node claim (devices.map (·.uuid)) w (w.put ((Change.allocate claim devices).on r)) where
  allocated place other := by
    rw [allocated_put (((Change.allocate claim devices).on_key r).trans key)]
    split
    · next same =>
      subst same
      by_cases unlike : claim = other
      · subst unlike
        refine .inr (.inr ⟨⟨rfl, rfl⟩, ?_⟩)
        exact congrArg (fun found => (Option.getD found []).map AllocatedDevice.uuid)
          (SortedMap.get?_insert_self ..)
      · refine .inr (.inl ?_)
        rw [allocated_of_record (key ▸ at_key)]
        exact congrArg (fun found => (Option.getD found []).map AllocatedDevice.uuid)
          (SortedMap.get?_insert_ne _ unlike _)
    · exact .inr (.inl rfl)
  setAside _ _ := .inr (.inl rfl)

theorem Adds.release {r : NodeRecord} (key : r.key = ⟨space, node⟩)
    (at_key : w.record r.key = some r) :
    Adds space node claim [] w (w.put ((Change.release claim).on r)) where
  allocated place other := by
    rw [allocated_put (((Change.release claim).on_key r).trans key)]
    split
    · next same =>
      subst same
      by_cases unlike : claim = other
      · subst unlike
        refine .inl ?_
        exact congrArg (fun found => (Option.getD found []).map AllocatedDevice.uuid)
          (SortedMap.get?_erase_self ..)
      · refine .inr (.inl ?_)
        rw [allocated_of_record (key ▸ at_key)]
        exact congrArg (fun found => (Option.getD found []).map AllocatedDevice.uuid)
          (SortedMap.get?_erase_ne _ unlike)
    · exact .inr (.inl rfl)
  setAside _ _ := .inr (.inl rfl)

/-- What a call finds of the nodes whose locks it has: no claim has come to hold anything there. -/
def Guarded (space : String) (call : Nat) (w w' : World) : Prop :=
  ∀ node, w.holder node = some call → w'.holder node = some call ∧
    ∀ claim, w'.allocated space node claim ⊆ w.allocated space node claim ∧
      w'.setAside node claim ⊆ w.setAside node claim

theorem Guarded.refl (space : String) (call : Nat) (w : World) : Guarded space call w w :=
  fun _ held => ⟨held, fun _ => ⟨fun _ => id, fun _ => id⟩⟩

theorem Guarded.trans {call : Nat} {u v w : World} (first : Guarded space call u v)
    (last : Guarded space call v w) : Guarded space call u w := by
  intro node held
  obtain ⟨held, fewer⟩ := first node held
  obtain ⟨held, fewer'⟩ := last node held
  exact ⟨held, fun claim => ⟨fun _ member => (fewer claim).1 ((fewer' claim).1 member),
    fun _ member => (fewer claim).2 ((fewer' claim).2 member)⟩⟩

/-- On a node whose lock a call holds, the others add to no claim. -/
theorem Guarded.held_subset {call : Nat} (guarded : Guarded space call w w') (own : w.holder node = some call)
    (claim : ClaimUid) : w'.held space node claim ⊆ w.held space node claim := by
  obtain ⟨_, fewer⟩ := guarded node own
  intro uuid member
  rcases List.mem_append.mp member with by_record | by_tracker
  · exact List.mem_append_left _ ((fewer claim).1 by_record)
  · exact List.mem_append_right _ ((fewer claim).2 by_tracker)

end World

/-- Claims hold different devices, and locks guard what they hold. A call of the controller relies on
its lock of a node: no other call adds to what claims hold there. -/
def exclusion (space : String) : Discipline where
  inv := World.Exclusive space
  rely := World.Guarded space
  rely_refl := World.Guarded.refl space
  rely_trans := World.Guarded.trans

variable {space : String} {call : Nat} {op : Operation} {w w' : World} {node : String}
  {claim : ClaimUid} {uuids : List DeviceUuid}

/-- Under the lock of a node a claim may be given devices there. -/
theorem World.Adds.permits_of_reserves (adds : World.Adds space node claim uuids w w')
    (exclusive : w.Exclusive space) (reserves : w.Reserves space node claim uuids)
    (own : uuids = [] ∨ w.holder node = some call) (holder : w'.holder = w.holder) :
    (exclusion space).Permits call op w w' := by
  refine ⟨fun other unlike place held => ⟨?_, fun third => ?_⟩, exclusive.of_adds reserves adds, trivial⟩
  · rw [holder]
    exact held
  · have step : ∀ {l l₁ : List DeviceUuid},
        l = [] ∨ l = l₁ ∨ (place = node ∧ third = claim) ∧ l = uuids → l ⊆ l₁ := by
      rintro l l₁ (rfl | rfl | ⟨⟨rfl, rfl⟩, rfl⟩)
      · exact List.nil_subset _
      · exact fun _ => id
      · rcases own with rfl | own
        · exact List.nil_subset _
        · exact absurd (Option.some.inj (held.symm.trans own)) unlike
    exact ⟨step (adds.allocated place third), step (adds.setAside place third)⟩

/-- A move that changes neither records nor the tracker, and leaves the others their locks, is
permitted. -/
theorem permits_of_same (exclusive : w.Exclusive space)
    (allocated : ∀ place other, w'.allocated space place other = w.allocated space place other)
    (setAside : ∀ place other, w'.setAside place other = w.setAside place other)
    (holder : ∀ place other, other ≠ call → w.holder place = some other →
      w'.holder place = some other) : (exclusion space).Permits call op w w' := by
  have held : ∀ place other, w'.held space place other ⊆ w.held space place other := by
    intro place other
    unfold World.held
    rw [allocated, setAside]
    exact fun _ => id
  refine ⟨fun other unlike place at_place => ⟨holder place other unlike at_place, fun third => ?_⟩,
    ⟨fun place other => ?_, fun place other => ?_⟩, trivial⟩
  · rw [allocated, setAside]
    exact ⟨fun _ => id, fun _ => id⟩
  · rw [allocated]
    exact (exclusive.allocated place other).mono (held place)
  · rw [setAside]
    exact (exclusive.setAside place other).mono (held place)

/-- Other calls than the controller's change nothing of what claims hold, unless one comes with a
handle. -/
theorem allows_of_footprint {S : Setting} (exclusive : w.Exclusive space)
    (foreign : ∀ key claim, ¬ op.Owns key (.claim claim)) (controlled : op.controller? = none)
    (allows : (ground S).Allows call op w w') : (exclusion space).Allows call op w w' := by
  have allocated : ∀ place other, w'.allocated space place other = w.allocated space place other := by
    intro place other
    unfold World.allocated
    rw [allows.promise.allocation_of_not_owns (foreign _ _)]
  have setAside : ∀ place other, w'.setAside place other = w.setAside place other := by
    intro place other
    unfold World.setAside
    rw [allows.promise.pending controlled]
  have permits : (exclusion space).Permits call op w w' := permits_of_same exclusive allocated setAside
    fun place other unlike => (allows.leaves other unlike).holder place
  exact ⟨allows.leaves, permits.rely, allows.wellKeyed, permits.inv, trivial⟩

end DeviceClaims
