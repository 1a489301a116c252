import DeviceClaims.Proofs.Forgetting

namespace DeviceClaims

namespace PendingTracker

/-- What is set aside on a node, by claim. -/
def onNode (t : PendingTracker) (node : String) : SortedMap ClaimUid (List AllocatedDevice) :=
  .ofList (t.claims.keys.filterMap fun claim => (t.get? claim node).map (claim, ·))

theorem get?_onNode (t : PendingTracker) (node : String) (claim : ClaimUid) :
    (t.onNode node).get? claim = t.get? claim node := by
  have sound : ∀ devices, (t.onNode node).get? claim = some devices →
      t.get? claim node = some devices := by
    intro devices found
    obtain ⟨other, -, listed⟩ := List.mem_filterMap.mp (SortedMap.mem_of_get?_ofList found)
    obtain ⟨_, held, same⟩ := Option.map_eq_some_iff.mp listed
    cases same
    exact held
  cases held : t.get? claim node with
  | none =>
    cases found : (t.onNode node).get? claim with
    | none => rfl
    | some devices => cases held.symm.trans (sound devices found)
  | some devices =>
    have known : claim ∈ t.claims.keys := by
      by_cases absent : claim ∉ t.claims.keys
      · cases held.symm.trans (get?_of_not_mem absent node)
      · exact Decidable.not_not.mp absent
    have listed : (claim, devices) ∈
        t.claims.keys.filterMap fun claim => (t.get? claim node).map (claim, ·) :=
      List.mem_filterMap.mpr ⟨claim, known, by rw [held]; rfl⟩
    obtain ⟨devices', found⟩ := SortedMap.exists_get?_ofList listed
    have same := (sound devices' found).symm.trans held
    exact found.trans same

end PendingTracker

namespace Allocator

variable {record : NodeRecord} {node : String} {batch : List ClaimRequest} {s : Site}

/-- What claims hold on a node: what its record says, and for claims that it does not know what is set
aside for them. -/
def counted (record : NodeRecord) (t : PendingTracker) (node : String) : Holdings :=
  (t.onNode node).union record.spec.allocated

/-- A claim is counted with what the record lists for it, or else with what is set aside for it on the
node. -/
theorem get?_counted (record : NodeRecord) (t : PendingTracker) (node : String) (claim : ClaimUid) :
    (counted record t node).get? claim =
      (record.spec.allocated.get? claim).or (t.get? claim node) := by
  rw [counted, SortedMap.get?_union, PendingTracker.get?_onNode]

/-- A walk over the claims in any order gathers the same. -/
theorem Held.eq_counted {held : Holdings} {s' : Site} (is_held : Held record node s held s') :
    held = counted record s.pending node :=
  SortedMap.ext_get? fun claim => (is_held.held claim).trans (get?_counted ..).symm

/-- Whether all requests of a batch are served from what they hold and from what is free. -/
def fits (record : NodeRecord) (t : PendingTracker) (node : String) (batch : List ClaimRequest) : Bool :=
  let held := counted record t node
  batch.all (served (pick held batch (free record.spec held) .empty))

/-- A pass over a node judges the batch by what is counted there. On another node all is left as it was,
unless devices were set aside there for a claim that is now forgotten. -/
theorem tryNode_judges {pod : List ClaimAllocation} :
    (tryNode record batch pod node).Alone (fun result s' =>
      result.2 = (if fits record s.pending node batch then pod else pod.map (·.reject node)) ∧
        s'.store = s.store ∧
        ∀ place, place ≠ node → ∀ claim, s'.pending.get? claim place =
          if record.spec.allocated.contains claim ∧ s.pending.contains claim node then none
          else s.pending.get? claim place) s := by
  refine .bind (holdings_held.weaken fun held s₁ is_held => ?_)
  cases is_held.eq_counted
  by_cases suits : fits record s.pending node batch
  · have served : batch.all (served (pick (counted record s.pending node) batch
      (free record.spec (counted record s.pending node)) .empty)) := suits
    simp only [suits, served, if_true]
    refine .bind ((setAside_aside _ batch).weaken fun _ s₂ aside => .done ⟨rfl, ?_, ?_⟩)
    · exact aside.store.trans is_held.store
    · intro place apart claim
      rw [aside.others claim place (.inl apart), is_held.pending]
  · have unserved : ¬ batch.all (served (pick (counted record s.pending node) batch
      (free record.spec (counted record s.pending node)) .empty)) := suits
    simp only [suits, unserved, Bool.false_eq_true, if_false]
    exact .done ⟨rfl, is_held.store, fun place _ claim => is_held.pending claim place⟩

end Allocator

namespace Controller

open Allocator

variable {c : Controller} {batch : List ClaimRequest} {pod : List ClaimAllocation} {store : Backend}
  {t t' : PendingTracker} {node : String} {nodes : List String} {s : Site}

/-- Whether a node can hold a batch: its record can be read, it is ready and the batch fits. -/
def admits (c : Controller) (batch : List ClaimRequest) (store : Backend) (t : PendingTracker)
    (node : String) : Bool :=
  match store.get (c.recordKey node) with
  | .error _ => false
  | .ok r => r.isReady && fits r t node batch

/-- The verdict on a node depends on what is set aside there only. -/
theorem admits_congr (same : ∀ claim, t.get? claim node = t'.get? claim node) :
    c.admits batch store t node = c.admits batch store t' node := by
  have counted (r : NodeRecord) : counted r t node = counted r t' node :=
    SortedMap.ext_get? fun claim => by rw [get?_counted, get?_counted, same]
  simp only [admits, fits, counted]

/-- Those of some nodes that cannot hold a batch. -/
def refused (c : Controller) (batch : List ClaimRequest) (store : Backend) (t : PendingTracker)
    (nodes : List String) : List String :=
  nodes.filter fun node => !c.admits batch store t node

theorem refused_cons (node : String) (nodes : List String) :
    c.refused batch store t (node :: nodes) =
      c.refused batch store t [node] ++ c.refused batch store t nodes := by
  simp only [refused, List.filter_cons, List.filter_nil]
  split <;> rfl

theorem refused_single (node : String) :
    c.refused batch store t [node] = if c.admits batch store t node then [] else [node] := by
  simp only [refused, List.filter_cons, List.filter_nil]
  cases c.admits batch store t node <;> rfl

/-- A claim that the record of a ready node lists and that has devices set aside there has none set aside
on another. -/
def Spares (c : Controller) (store : Backend) (t : PendingTracker) (node place : String) : Prop :=
  ∀ r, store.get (c.recordKey node) = .ok r → r.isReady → ∀ claim, r.spec.allocated.contains claim →
    t.contains claim node → t.get? claim place = none

/-- A pass over one node rejects it by its record and what is set aside there, and changes nothing that
is set aside on nodes that it spares. -/
theorem tryNode_judges (sound : s.store.failGets = 0) :
    (c.tryNode pod node).Alone (fun pod' s' =>
      pod' = pod.map (·.rejectAll
        (c.refused (pod.map ClaimAllocation.request) s.store.inner s.pending [node])) ∧
      s'.store = s.store ∧
      ∀ place, place ≠ node → c.Spares s.store.inner s.pending node place →
        ∀ claim, s'.pending.get? claim place = s.pending.get? claim place) s := by
  have accepted : pod = pod.map (·.rejectAll []) := by simp [ClaimAllocation.rejectAll]
  refine .locked (.ask_get ?_)
  rw [FaultyStore.get_sound sound]
  cases found : s.store.inner.get (c.recordKey node) with
  | error e =>
    have refuses : c.refused (pod.map ClaimAllocation.request) s.store.inner s.pending [node] =
        [node] := by
      rw [refused_single, admits, found]
      rfl
    simp only [refuses]
    exact .done ⟨rfl, rfl, fun _ _ _ _ => rfl⟩
  | ok record =>
    have verdict : c.refused (pod.map ClaimAllocation.request) s.store.inner s.pending [node] =
        if record.isReady && fits record s.pending node (pod.map ClaimAllocation.request) then []
        else [node] := by
      rw [refused_single, admits, found]
    change Prog.Alone _ (ite _ _ _) s
    split
    · next unready =>
      have unready : record.isReady = false := by simpa using unready
      rw [unready] at verdict
      exact .done ⟨by rw [verdict]; rfl, rfl, fun _ _ _ _ => rfl⟩
    · next ready =>
      have ready : record.isReady = true := by simpa using ready
      rw [ready, Bool.true_and] at verdict
      change Prog.Alone _ (ite _ _ _) s
      split
      · next empty =>
        have none : pod = [] := List.isEmpty_iff.mp empty
        subst none
        exact .done ⟨rfl, rfl, fun _ _ _ _ => rfl⟩
      · refine .bind (Allocator.tryNode_judges.weaken fun result s' judged => .done ?_)
        obtain ⟨outcome, store, elsewhere⟩ := judged
        refine ⟨?_, store, fun place apart spares claim => ?_⟩
        · rw [outcome, verdict]
          cases fits record s.pending node (pod.map ClaimAllocation.request) with
          | true => exact accepted
          | false => rfl
        · rw [elsewhere place apart claim]
          split
          · next forgotten => exact (spares record found ready claim forgotten.1 forgotten.2).symm
          · rfl

/-- Candidates that spare each other are each judged as they stand at the beginning. -/
theorem tryNodes_judge (sound : s.store.failGets = 0) (once : nodes.Nodup)
    (spares : ∀ node ∈ nodes, ∀ place ∈ nodes, place ≠ node →
      c.Spares s.store.inner s.pending node place) :
    (c.tryNodes nodes pod).Alone (fun pod' _ => pod' = pod.map (·.rejectAll
      (c.refused (pod.map ClaimAllocation.request) s.store.inner s.pending nodes))) s := by
  induction nodes generalizing pod s with
  | nil =>
    refine .done ?_
    simp [ClaimAllocation.rejectAll, refused]
  | cons node rest ih =>
    obtain ⟨absent, once⟩ := List.nodup_cons.mp once
    refine .bind ((tryNode_judges sound).weaken ?_)
    rintro _ s₁ ⟨rfl, store, elsewhere⟩
    have untouched : ∀ place ∈ rest, ∀ claim,
        s₁.pending.get? claim place = s.pending.get? claim place := by
      intro place member
      have apart : place ≠ node := fun same => absent (same ▸ member)
      exact elsewhere place apart
        (spares node List.mem_cons_self place (List.mem_cons_of_mem _ member) apart)
    have spares₁ : ∀ node ∈ rest, ∀ place ∈ rest, place ≠ node →
        c.Spares s₁.store.inner s₁.pending node place := by
      intro node' at_node place at_place apart r found isReady claim listed aside
      rw [store] at found
      rw [PendingTracker.contains, untouched node' at_node claim] at aside
      rw [untouched place at_place claim]
      exact spares node' (List.mem_cons_of_mem _ at_node) place (List.mem_cons_of_mem _ at_place) apart
        r found isReady claim listed aside
    have sound₁ : s₁.store.failGets = 0 := by rw [store, sound]
    have requests (nodes : List String) : (pod.map (·.rejectAll nodes)).map ClaimAllocation.request =
        pod.map ClaimAllocation.request := List.map_map
    refine (ih sound₁ once spares₁).weaken ?_
    rintro _ s' rfl
    rw [requests, List.map_map]
    have same : c.refused (pod.map ClaimAllocation.request) s₁.store.inner s₁.pending rest =
        c.refused (pod.map ClaimAllocation.request) s.store.inner s.pending rest := by
      refine List.filter_congr fun place member => ?_
      rw [store, admits_congr (untouched place member)]
    refine List.map_congr_left fun a _ => ?_
    rw [Function.comp_apply, rejectAll_append, same, ← refused_cons]

/-- Candidates are judged each on its own, by its record and by what is set aside there, and so in any
order alike: as long as no claim that one candidate's record lists, and that has devices set aside there,
has devices set aside on another candidate. -/
theorem unsuitableNodes_judge_each (c : Controller) (pod : List ClaimAllocation) (store : Backend)
    (t : PendingTracker) {nodes : List String} (once : nodes.Nodup)
    (spares : ∀ node ∈ nodes, ∀ place ∈ nodes, place ≠ node → c.Spares store t node place) :
    ∀ order, order.Perm nodes →
      (c.unsuitableNodes pod order).Alone (fun pod' _ => pod' = pod.map fun a =>
        { a with unsuitableNodes := (a.unsuitableNodes ++
          c.refused (pod.map ClaimAllocation.request) store t order).eraseDups })
        { store := { inner := store }, pending := t } := by
  intro order same
  have once : order.Nodup := same.nodup_iff.mpr once
  have spares : ∀ node ∈ order, ∀ place ∈ order, place ≠ node → c.Spares store t node place :=
    fun node at_node place at_place =>
      spares node (same.mem_iff.mp at_node) place (same.mem_iff.mp at_place)
  refine .bind ((tryNodes_judge rfl once spares).weaken ?_)
  rintro _ s' rfl
  refine .done ?_
  rw [List.map_map]
  refine List.map_congr_left fun a _ => ?_
  simp only [Function.comp, ClaimAllocation.rejectAll, firsts_eq_eraseDups]

end Controller

namespace Rivals

/-- The first claim is allocated to the node that is near, and is tried there once more. -/
def reserved : Site :=
  (((tried site).run (controller.allocate (claim 1).uid "near")).2.run
    (controller.unsuitableNodes [wants 1] ["near"])).2

/-- What the claim is allocated on that node is set aside for it again. -/
theorem reserved_pending : reserved.pending =
    ({} : PendingTracker).set (claim 1).uid "near" [⟨⟨⟨List.replicate 16 3, rfl⟩⟩, 2⟩] := by
  decide +kernel

end Rivals

open Rivals in
/-- The record of the near node lists a claim that has a device set aside there, and only there: the far
node is judged before the near one as it would be after it. -/
theorem Controller.unsuitableNodes_judge_each_reserved :
    ∃ steps pod s', Prog.Course .alone (controller.unsuitableNodes [wants 2] ["far", "near"])
        { store := { inner := reserved.store.inner }, pending := reserved.pending } steps pod s' ∧
      ((reserved.store.inner.get (controller.recordKey "near")).toOption.any fun r =>
        r.isReady && r.spec.allocated.contains (claim 1).uid) = true ∧
      reserved.pending.contains (claim 1).uid "near" = true ∧
      controller.refused [(wants 2).request] reserved.store.inner reserved.pending ["far", "near"] =
        ["near"] ∧
      pod.map (·.unsuitableNodes) = [["near"]] := by
  have listed : ((reserved.store.inner.get (controller.recordKey "near")).toOption.any fun r =>
      r.isReady && r.spec.allocated.contains (claim 1).uid) = true := by decide +kernel
  have refused : controller.refused [(wants 2).request] reserved.store.inner reserved.pending
      ["far", "near"] = ["near"] := by decide +kernel
  have aside : ∀ claim' node, reserved.pending.contains claim' node →
      (claim 1).uid = claim' ∧ "near" = node := by
    intro claim' node found
    rw [reserved_pending, PendingTracker.contains, PendingTracker.get?_set] at found
    split at found
    · next same => exact same
    · cases found
  have spares : ∀ node ∈ ["near", "far"], ∀ place ∈ ["near", "far"], place ≠ node →
      controller.Spares reserved.store.inner reserved.pending node place := by
    intro node _ place _ apart r _ _ claim' _ here
    refine Option.not_isSome_iff_eq_none.mp fun there => apart ?_
    exact (aside claim' place there).2.symm.trans (aside claim' node here).2
  have shown : ((controller.unsuitableNodes [wants 2] ["far", "near"]).follow
      (fun a s => some (Site.answer a s))
      { store := { inner := reserved.store.inner }, pending := reserved.pending }).isSome := by
    decide +kernel
  obtain ⟨⟨steps, pod, s'⟩, followed⟩ := Option.isSome_iff_exists.mp shown
  obtain ⟨course, judged⟩ := (controller.unsuitableNodes_judge_each [wants 2] reserved.store.inner
    reserved.pending (by decide) spares ["far", "near"] (.swap ..)).course_and_post followed
  refine ⟨steps, pod, s', course, listed, by decide +kernel, refused, ?_⟩
  have judged : pod = [wants 2].map fun a =>
      { a with unsuitableNodes := (a.unsuitableNodes ++ ["near"]).eraseDups } := refused ▸ judged
  rw [judged]
  decide

open Rivals in
/-- The first claim is allocated to the node that is near, and has devices set aside on both. If the
near one is tried first, the device that was set aside on the far one is free for the second claim. -/
theorem Controller.unsuitableNodes_depend_on_order :
    (retried.run (controller.unsuitableNodes [wants 2] ["near", "far"])).1.map
        (·.map (·.unsuitableNodes)) = some [["near"]] ∧
      (retried.run (controller.unsuitableNodes [wants 2] ["far", "near"])).1.map
        (·.map (·.unsuitableNodes)) = some [["far", "near"]] := by
  decide +kernel

end DeviceClaims
