import DeviceClaims.Controller.Allocator
import Mathlib.Data.List.Nodup

namespace DeviceClaims.Allocator

def holds (held : Holdings) (claim : ClaimUid) : List DeviceUuid :=
  ((held.get? claim).getD []).map (·.uuid)

def chosen (picked : SortedMap ClaimUid (List DeviceUuid)) (claim : ClaimUid) : List DeviceUuid :=
  (picked.get? claim).getD []

theorem holds_insert (held : Holdings) (claim other : ClaimUid) (devices : List AllocatedDevice) :
    holds (held.insert claim devices) other =
      if claim = other then devices.map (·.uuid) else holds held other := by
  unfold holds
  rw [SortedMap.get?_insert]
  split <;> rfl

theorem chosen_insert (picked : SortedMap ClaimUid (List DeviceUuid)) (claim other : ClaimUid)
    (uuids : List DeviceUuid) :
    chosen (picked.insert claim uuids) other = if claim = other then uuids else chosen picked other := by
  unfold chosen
  rw [SortedMap.get?_insert]
  split <;> rfl

/-- Every claim holds a device once, and no two claims hold the same. -/
structure Separate (held : Holdings) : Prop where
  once : ∀ claim, (holds held claim).Nodup
  apart : ∀ claim other, claim ≠ other → (holds held claim).Disjoint (holds held other)

theorem free_nodup (spec : NodeSpec) (held : Holdings) : (free spec held).Nodup :=
  (SortedMap.nodup_keys _).filter _

theorem mem_holds_iff {held : Holdings} {claim : ClaimUid} {uuid : DeviceUuid} :
    uuid ∈ holds held claim ↔ ∃ devices, held.get? claim = some devices ∧ uuid ∈ devices.map (·.uuid) := by
  unfold holds
  cases held.get? claim <;> simp

/-- A device is free if the node offers it and no claim holds it. -/
theorem mem_free_iff {spec : NodeSpec} {held : Holdings} {uuid : DeviceUuid} :
    uuid ∈ free spec held ↔ uuid ∈ spec.allocatableUuids ∧ ∀ claim, uuid ∉ holds held claim := by
  have taken : uuid ∈ (held.values.flatMap id).map (·.uuid) ↔ ∃ claim, uuid ∈ holds held claim := by
    simp only [List.mem_map, List.mem_flatMap, SortedMap.mem_values_iff, mem_holds_iff, id]
    constructor
    · rintro ⟨device, ⟨devices, ⟨claim, at_claim⟩, member⟩, rfl⟩
      exact ⟨claim, devices, at_claim, device, member, rfl⟩
    · rintro ⟨claim, devices, at_claim, device, member, rfl⟩
      exact ⟨device, ⟨devices, ⟨claim, at_claim⟩, member⟩, rfl⟩
  simp only [free, List.mem_filter, decide_eq_true_eq, taken, not_exists]

theorem free_apart (spec : NodeSpec) (held : Holdings) (claim : ClaimUid) :
    (holds held claim).Disjoint (free spec held) :=
  fun _ is_held is_free => (mem_free_iff.mp is_free).2 claim is_held

/-- What is picked while some devices are still free. -/
structure Picks (held : Holdings) (free : List DeviceUuid)
    (picked : SortedMap ClaimUid (List DeviceUuid)) : Prop where
  once : ∀ claim, (chosen picked claim).Nodup
  held : ∀ claim other, claim ≠ other → (chosen picked claim).Disjoint (holds held other)
  apart : ∀ claim other, claim ≠ other → (chosen picked claim).Disjoint (chosen picked other)
  rest : ∀ claim, (chosen picked claim).Disjoint free

theorem Picks.empty (held : Holdings) (free : List DeviceUuid) : Picks held free .empty :=
  ⟨fun _ => List.nodup_nil, fun _ _ _ => List.disjoint_nil_left _,
    fun _ _ _ => List.disjoint_nil_left _, fun _ => List.disjoint_nil_left _⟩

/-- What is picked for one more claim, in place of what was picked for it before. -/
theorem Picks.insert {held : Holdings} {free rest uuids : List DeviceUuid}
    {picked : SortedMap ClaimUid (List DeviceUuid)} (picks : Picks held free picked) (claim : ClaimUid)
    (fewer : rest ⊆ free) (once : uuids.Nodup)
    (apart : ∀ other, other ≠ claim → uuids.Disjoint (holds held other))
    (others : ∀ other, other ≠ claim → uuids.Disjoint (chosen picked other))
    (left : uuids.Disjoint rest) : Picks held rest (picked.insert claim uuids) := by
  refine ⟨fun a => ?_, fun a b unlike => ?_, fun a b unlike => ?_, fun a => ?_⟩
  · rw [chosen_insert]
    split
    · exact once
    · exact picks.once a
  · rw [chosen_insert]
    split
    · next same => exact apart b (same ▸ unlike.symm)
    · exact picks.held a b unlike
  · rw [chosen_insert, chosen_insert]
    split
    · next same =>
      rw [if_neg (same ▸ unlike)]
      exact others b (same ▸ unlike.symm)
    · next other =>
      split
      · exact List.disjoint_symm (others a (Ne.symm other))
      · exact picks.apart a b unlike
  · rw [chosen_insert]
    split
    · exact left
    · exact fun uuid is_chosen is_rest => picks.rest a is_chosen (fewer is_rest)

/-- Whatever is asked for, what is picked stays apart from what is held and free. -/
theorem pick_picks {held : Holdings} (separate : Separate held) (batch : List ClaimRequest)
    {free : List DeviceUuid} {picked : SortedMap ClaimUid (List DeviceUuid)} (once : free.Nodup)
    (apart : ∀ claim, (holds held claim).Disjoint free) (picks : Picks held free picked) :
    ∃ rest, Picks held rest (pick held batch free picked) := by
  induction batch generalizing free picked with
  | nil => exact ⟨free, picks⟩
  | cons q batch ih =>
    rw [pick]
    cases at_claim : held.get? q.uid with
    | some devices =>
      have same : devices.map (·.uuid) = holds held q.uid := by simp [holds, at_claim]
      dsimp only
      rw [same]
      refine ih once apart (picks.insert q.uid (fun _ => id) (separate.once q.uid) ?_ ?_
        (apart q.uid))
      · exact fun other unlike => separate.apart q.uid other unlike.symm
      · exact fun other unlike => List.disjoint_symm (picks.held other q.uid unlike)
    | none =>
      have taken := List.take_subset q.params.count.toNat free
      have fewer := List.drop_subset q.params.count.toNat free
      refine ih (once.sublist (List.drop_sublist _ _)) (fun claim uuid is_held is_rest =>
        apart claim is_held (fewer is_rest)) (picks.insert q.uid fewer
          (once.sublist (List.take_sublist _ _)) ?_ ?_ (List.disjoint_take_drop once (Nat.le_refl _)))
      · exact fun other _ uuid is_taken is_held => apart other is_held (taken is_taken)
      · exact fun other _ uuid is_taken is_chosen => picks.rest other is_chosen (taken is_taken)

/-- What is picked whatever claims hold: a claim that holds devices gets no others, and claims that
hold none get different ones of those that were free. -/
structure Draws (held : Holdings) (unheld free : List DeviceUuid)
    (picked : SortedMap ClaimUid (List DeviceUuid)) : Prop where
  holder : ∀ claim devices, held.get? claim = some devices → chosen picked claim ⊆ holds held claim
  fresh : ∀ claim, held.get? claim = none → chosen picked claim ⊆ unheld
  apart : ∀ claim other, claim ≠ other → held.get? claim = none → held.get? other = none →
    (chosen picked claim).Disjoint (chosen picked other)
  rest : ∀ claim, held.get? claim = none → (chosen picked claim).Disjoint free

theorem Draws.empty (held : Holdings) (unheld : List DeviceUuid) : Draws held unheld unheld .empty :=
  ⟨fun _ _ _ => List.nil_subset _, fun _ _ => List.nil_subset _,
    fun _ _ _ _ _ => List.disjoint_nil_left _, fun _ _ => List.disjoint_nil_left _⟩

variable {held : Holdings} {unheld free : List DeviceUuid}
  {picked : SortedMap ClaimUid (List DeviceUuid)} {claim : ClaimUid}

/-- A claim that holds devices is given these and none of the free ones. -/
theorem Draws.insert_held (draws : Draws held unheld free picked) {devices : List AllocatedDevice}
    (at_claim : held.get? claim = some devices) :
    Draws held unheld free (picked.insert claim (devices.map (·.uuid))) := by
  have unlike : ∀ {other}, held.get? other = none → claim ≠ other := by
    rintro other absent rfl
    cases at_claim.symm.trans absent
  refine ⟨fun other others at_other => ?_, fun other absent => ?_,
    fun one other apart absent absent' => ?_, fun other absent => ?_⟩
  · rw [chosen_insert]
    split
    · next same =>
      subst same
      simp [holds, at_claim]
    · exact draws.holder other others at_other
  · rw [chosen_insert, if_neg (unlike absent)]
    exact draws.fresh other absent
  · rw [chosen_insert, chosen_insert, if_neg (unlike absent), if_neg (unlike absent')]
    exact draws.apart one other apart absent absent'
  · rw [chosen_insert, if_neg (unlike absent)]
    exact draws.rest other absent

/-- A claim that holds nothing is given the first of the free devices. -/
theorem Draws.insert_taken (draws : Draws held unheld free picked) (absent : held.get? claim = none)
    (within : free ⊆ unheld) (once : free.Nodup) (n : Nat) :
    Draws held unheld (free.drop n) (picked.insert claim (free.take n)) := by
  have taken := List.take_subset n free
  have fewer := List.drop_subset n free
  refine ⟨fun other others at_other => ?_, fun other absent => ?_,
    fun one other apart absent absent' => ?_, fun other absent => ?_⟩
  · have unlike : claim ≠ other := by
      rintro rfl
      cases absent.symm.trans at_other
    rw [chosen_insert, if_neg unlike]
    exact draws.holder other others at_other
  · rw [chosen_insert]
    split
    · exact fun uuid member => within (taken member)
    · exact draws.fresh other absent
  · rw [chosen_insert, chosen_insert]
    split
    · next same =>
      rw [if_neg (same ▸ apart)]
      exact fun uuid is_taken is_chosen => draws.rest other absent' is_chosen (taken is_taken)
    · split
      · exact fun uuid is_chosen is_taken => draws.rest one absent is_chosen (taken is_taken)
      · exact draws.apart one other apart absent absent'
  · rw [chosen_insert]
    split
    · exact List.disjoint_take_drop once (Nat.le_refl _)
    · exact fun uuid is_chosen is_rest => draws.rest other absent is_chosen (fewer is_rest)

/-- What is picked for a batch is drawn from the free devices in the order in which they come. -/
theorem pick_draws (batch : List ClaimRequest) (draws : Draws held unheld free picked)
    (within : free ⊆ unheld) (once : free.Nodup) :
    ∃ rest, Draws held unheld rest (pick held batch free picked) := by
  induction batch generalizing free picked with
  | nil => exact ⟨free, draws⟩
  | cons q batch ih =>
    rw [pick]
    cases at_claim : held.get? q.uid with
    | some devices => exact ih (draws.insert_held at_claim) within once
    | none =>
      exact ih (draws.insert_taken at_claim within once q.params.count.toNat)
        (fun uuid member => within (List.drop_subset _ _ member)) (once.sublist (List.drop_sublist _ _))

end DeviceClaims.Allocator
