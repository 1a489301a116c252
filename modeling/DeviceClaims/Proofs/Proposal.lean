import DeviceClaims.Proofs.Picking
import DeviceClaims.Proofs.Verdicts

namespace DeviceClaims

/-- Devices of a node by which a claim is served: as many as its parameters ask for, split as these
say. -/
structure NodeSpec.Offers (spec : NodeSpec) (params : ClaimParameters) (devices : List AllocatedDevice) :
    Prop where
  length : devices.length = params.count.toNat
  split : ∀ d ∈ devices, d.split = params.split
  listed : ∀ d ∈ devices, d.uuid ∈ spec.allocatableUuids

/-- Whatever is set aside for a claim on a node serves it. -/
def Site.Proposes (spec : NodeSpec) (params : ClaimParameters) (claim : ClaimUid) (node : String)
    (s : Site) : Prop :=
  ∀ devices, s.pending.get? claim node = some devices → spec.Offers params devices

namespace Allocator

variable {held : Holdings} {batch : List ClaimRequest} {picked : SortedMap ClaimUid (List DeviceUuid)}
  {claim : ClaimUid} {node : String} {s : Site} {record : NodeRecord} {params : ClaimParameters}

/-- No more is picked for a claim than it asks for, unless it holds more. -/
theorem length_pick_le {n : Nat} {free : List DeviceUuid} (holding : (holds held claim).length ≤ n)
    (asks : ∀ q ∈ batch, q.uid = claim → q.params.count.toNat ≤ n)
    (before : (chosen picked claim).length ≤ n) :
    (chosen (pick held batch free picked) claim).length ≤ n := by
  induction batch generalizing free picked with
  | nil => exact before
  | cons q rest ih =>
    obtain ⟨first, others⟩ := List.forall_mem_cons.mp asks
    rw [pick]
    cases at_claim : held.get? q.uid with
    | some devices =>
      refine ih others ?_
      rw [chosen_insert]
      split
      · next same =>
        subst same
        simpa [holds, at_claim] using holding
      · exact before
    | none =>
      refine ih others ?_
      rw [chosen_insert]
      split
      · next same => exact Nat.le_trans (List.length_take_le ..) (first same)
      · exact before

/-- What is picked for a claim that is served serves it: a claim that holds devices keeps them, and one
that holds none is given free ones. -/
theorem pick_offers {spec : NodeSpec}
    (holding : ∀ devices, held.get? claim = some devices → spec.Offers params devices)
    (asks : ∀ q ∈ batch, q.uid = claim → q.params = params) (member : claim ∈ batch.map (·.uid))
    (serves : batch.all (served (pick held batch (free spec held) .empty)) = true) :
    spec.Offers params
      ((chosen (pick held batch (free spec held) .empty) claim).map (⟨·, params.split⟩)) where
  length := by
    obtain ⟨q, at_q, own⟩ := List.mem_map.mp member
    have enough := List.all_eq_true.mp serves q at_q
    rw [served, decide_eq_true_eq, own, asks q at_q own] at enough
    rw [List.length_map]
    refine Nat.le_antisymm (length_pick_le ?_ (fun q at_q own => ?_) (Nat.zero_le _)) enough
    · rw [holds]
      cases at_claim : held.get? claim with
      | none => exact Nat.zero_le _
      | some devices => simpa using Nat.le_of_eq (holding devices at_claim).length
    · exact Nat.le_of_eq (congrArg (·.count.toNat) (asks q at_q own))
  split := by
    intro d at_d
    obtain ⟨_, _, rfl⟩ := List.mem_map.mp at_d
    rfl
  listed := by
    intro d at_d
    obtain ⟨uuid, is_chosen, rfl⟩ := List.mem_map.mp at_d
    obtain ⟨rest, draws⟩ := pick_draws batch (.empty held (free spec held)) (List.Subset.refl _)
      (free_nodup spec held)
    cases at_claim : held.get? claim with
    | none => exact (mem_free_iff.mp (draws.fresh claim at_claim is_chosen)).1
    | some devices =>
      have is_held := draws.holder claim devices at_claim is_chosen
      rw [holds, at_claim] at is_held
      obtain ⟨a, at_a, rfl⟩ := List.mem_map.mp is_held
      exact (holding devices at_claim).listed a at_a

/-- A claim of a batch has set aside what was picked for it, split as its requests say; for others it is as
before. -/
theorem setAside_splits {split : UInt32} (picked : SortedMap ClaimUid (List DeviceUuid))
    (asks : ∀ q ∈ batch, q.uid = claim → q.params.split = split) :
    (setAside node picked batch).Alone (fun _ s' => s'.pending.get? claim node =
      if claim ∈ batch.map (·.uid) then some ((chosen picked claim).map (⟨·, split⟩))
      else s.pending.get? claim node) s := by
  induction batch generalizing s with
  | nil => exact .done rfl
  | cons q rest ih =>
    obtain ⟨first, others⟩ := List.forall_mem_cons.mp asks
    refine Prog.Alone.ask_pendingSet ((ih others).weaken fun _ s' aside => ?_)
    rw [aside, List.map_cons]
    by_cases later : claim ∈ rest.map (·.uid)
    · rw [if_pos later, if_pos (List.mem_cons_of_mem _ later)]
    · rw [if_neg later, PendingTracker.get?_set]
      by_cases own : q.uid = claim
      · subst own
        rw [if_pos ⟨rfl, rfl⟩, if_pos List.mem_cons_self, first rfl]
        rfl
      · rw [if_neg (own ·.1), if_neg]
        simp [later, Ne.symm own]

/-- On the node itself a pass proposes again what is set aside, or the first devices that are free. -/
theorem tryNode_proposes {pod : List ClaimAllocation}
    (unknown : record.spec.allocated.get? claim = none)
    (asks : ∀ q ∈ batch, q.uid = claim → q.params = params)
    (before : s.Proposes record.spec params claim node) :
    (tryNode record batch pod node).Alone (fun _ s' => s'.Proposes record.spec params claim node) s := by
  refine .bind (holdings_held.weaken fun held s₁ is_held => ?_)
  have aside : held.get? claim = s.pending.get? claim node := by
    rw [is_held.held, unknown, Option.none_or]
  have kept : s₁.pending.get? claim node = s.pending.get? claim node := by
    rw [is_held.pending, SortedMap.contains, unknown]
    rfl
  have before₁ : s₁.Proposes record.spec params claim node := fun devices found =>
    before devices (kept.symm.trans found)
  dsimp only
  split
  · next serves =>
    refine .bind ((setAside_splits _ fun q member own => congrArg _ (asks q member own)).weaken
      fun _ s₂ after => .done fun devices found => ?_)
    rw [after] at found
    split at found
    · next member =>
      cases found
      exact pick_offers (fun devices at_claim => before devices (aside.symm.trans at_claim)) asks member
        serves
    · exact before₁ devices found
  · exact .done before₁

end Allocator

namespace Controller

variable {c : Controller} {pod : List ClaimAllocation} {claim : ClaimUid} {node : String}
  {nodes : List String} {s : Site} {record : NodeRecord} {params : ClaimParameters}

/-- A pass over one node proposes for the claim what was proposed before, or, on its node, what it asks
for. -/
theorem tryNode_proposes {place : String} (sound : s.store.failGets = 0)
    (read : s.store.inner.get (c.recordKey node) = .ok record)
    (unknown : record.spec.allocated.get? claim = none)
    (asks : ∀ q ∈ pod.map ClaimAllocation.request, q.uid = claim → q.params = params)
    (before : s.Proposes record.spec params claim node) :
    (c.tryNode pod place).Alone (fun _ s' => s'.Proposes record.spec params claim node) s := by
  refine .locked (.ask_get ?_)
  rw [FaultyStore.get_sound sound]
  cases found : s.store.inner.get (c.recordKey place) with
  | error e => exact .done before
  | ok r =>
    change Prog.Alone _ (ite _ _ _) s
    split
    · exact .done before
    split
    · exact .done before
    by_cases same : place = node
    · subst same
      cases read.symm.trans found
      exact .bind ((Allocator.tryNode_proposes unknown asks before).weaken fun _ _ after => .done after)
    · -- A pass elsewhere at most forgets the claim.
      refine .bind (Allocator.tryNode_judges.weaken fun _ s' judged => .done fun devices aside => ?_)
      rw [judged.2.2 node (Ne.symm same) claim] at aside
      split at aside
      · cases aside
      · exact before devices aside

/-- A pass over candidates proposes for the claim on its node what it asks for, whatever comes of the
others. -/
theorem tryNodes_propose (sound : s.store.failGets = 0)
    (read : s.store.inner.get (c.recordKey node) = .ok record)
    (unknown : record.spec.allocated.get? claim = none)
    (asks : ∀ q ∈ pod.map ClaimAllocation.request, q.uid = claim → q.params = params)
    (before : s.Proposes record.spec params claim node) :
    (c.tryNodes nodes pod).Alone
      (fun _ s' => s'.store = s.store ∧ s'.Proposes record.spec params claim node) s := by
  induction nodes generalizing pod s with
  | nil => exact .done ⟨rfl, before⟩
  | cons place rest ih =>
    refine .bind (((tryNode_judges sound).and (tryNode_proposes sound read unknown asks before)).weaken ?_)
    rintro _ s₁ ⟨⟨rfl, store, -⟩, proposes⟩
    have requests (nodes : List String) : (pod.map (·.rejectAll nodes)).map ClaimAllocation.request =
        pod.map ClaimAllocation.request := List.map_map
    have sound₁ : s₁.store.failGets = 0 := by rw [store, sound]
    have read₁ : s₁.store.inner.get (c.recordKey node) = .ok record := by rw [store, read]
    refine (ih sound₁ read₁ ((requests _).symm ▸ asks) proposes).weaken fun _ s' after => ?_
    exact ⟨after.1.trans store, after.2⟩

/-- Whatever candidates are judged for whatever pod: what is set aside for a claim on a node that does not
know it yet serves the claim, and the store is only read. -/
theorem unsuitableNodes_propose (sound : s.store.failGets = 0)
    (read : s.store.inner.get (c.recordKey node) = .ok record)
    (unknown : record.spec.allocated.get? claim = none) (fresh : s.pending.get? claim node = none)
    (asks : ∀ a ∈ pod, a.claim.uid = claim → a.claimParameters = params) :
    (c.unsuitableNodes pod nodes).Alone
      (fun _ s' => s'.store = s.store ∧ s'.Proposes record.spec params claim node) s := by
  have nothing : s.Proposes record.spec params claim node := fun devices aside => by
    cases fresh.symm.trans aside
  have requests : ∀ q ∈ pod.map ClaimAllocation.request, q.uid = claim → q.params = params := by
    rintro q at_q own
    obtain ⟨a, at_a, rfl⟩ := List.mem_map.mp at_q
    exact asks a at_a own
  exact .bind ((tryNodes_propose sound read unknown requests nothing).weaken fun _ _ after => .done after)

end Controller

end DeviceClaims
