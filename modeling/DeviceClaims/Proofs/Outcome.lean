import DeviceClaims.Proofs.Picking
import DeviceClaims.Proofs.Verdicts
import Mathlib.Data.List.Induction

namespace DeviceClaims

namespace Allocator

/-- What claims hold on a node, and in ascending order the devices of the node that none of them holds. -/
structure Stock (record : NodeRecord) (t : PendingTracker) (node : String) (held : Holdings)
    (unheld : List DeviceUuid) : Prop where
  claims : ∀ claim, held.get? claim = (record.spec.allocated.get? claim).or (t.get? claim node)
  ascending : unheld.Pairwise (· < ·)
  devices : ∀ uuid, uuid ∈ unheld ↔ uuid ∈ record.spec.allocatable.map (·.uuid) ∧
    ∀ claim devices, held.get? claim = some devices → uuid ∉ devices.map (·.uuid)

theorem free_ascending (spec : NodeSpec) (held : Holdings) : (free spec held).Pairwise (· < ·) :=
  (List.pairwise_map.mpr (SortedMap.sorted _)).filter _

theorem stock_counted (record : NodeRecord) (t : PendingTracker) (node : String) :
    Stock record t node (counted record t node) (free record.spec (counted record t node)) where
  claims := get?_counted record t node
  ascending := free_ascending ..
  devices uuid := by
    simp only [mem_free_iff, NodeSpec.mem_allocatableUuids, mem_holds_iff, not_exists, not_and]

variable {held : Holdings} {unheld : List DeviceUuid} {before after batch : List ClaimRequest}
  {q : ClaimRequest} {claim : ClaimUid} {picked : SortedMap ClaimUid (List DeviceUuid)}

/-- How many devices some requests ask for whose claims hold none. -/
def wanted (held : Holdings) (batch : List ClaimRequest) : Nat :=
  ((batch.filter fun q => !held.contains q.uid).map (·.params.count.toNat)).sum

theorem wanted_nil (held : Holdings) : wanted held [] = 0 := rfl

theorem wanted_append (held : Holdings) (before after : List ClaimRequest) :
    wanted held (before ++ after) = wanted held before + wanted held after := by
  rw [wanted, List.filter_append, List.map_append, List.sum_append, wanted, wanted]

theorem wanted_cons (held : Holdings) (q : ClaimRequest) (rest : List ClaimRequest) :
    wanted held (q :: rest) =
      (if held.contains q.uid then 0 else q.params.count.toNat) + wanted held rest := by
  cases contained : held.contains q.uid <;> simp [wanted, contained]

/-- What is due to a request after others: what its claim holds, or else as many of the free devices as
it asks for, after those that are due to the others. -/
def due (held : Holdings) (unheld : List DeviceUuid) (before : List ClaimRequest) (q : ClaimRequest) :
    List DeviceUuid :=
  match held.get? q.uid with
  | some devices => devices.map (·.uuid)
  | none => (unheld.drop (wanted held before)).take q.params.count.toNat

/-- What is due to a request lies behind what is due to the requests before it. -/
theorem due_cons (p : ClaimRequest) :
    due held unheld (p :: before) q =
      due held (if held.contains p.uid then unheld else unheld.drop p.params.count.toNat) before q := by
  rw [due, due, wanted_cons]
  cases held.get? q.uid with
  | some devices => rfl
  | none =>
    dsimp only
    split
    · rw [Nat.zero_add]
    · rw [List.drop_drop]

/-- One request is served, and the next ones from what is left. -/
theorem pick_cons (q : ClaimRequest) (rest : List ClaimRequest) :
    pick held (q :: rest) unheld picked =
      pick held rest (if held.contains q.uid then unheld else unheld.drop q.params.count.toNat)
        (picked.insert q.uid (due held unheld [] q)) := by
  rw [pick, SortedMap.contains, due]
  cases held.get? q.uid <;> rfl

theorem chosen_pick_of_not_mem (absent : claim ∉ batch.map (·.uid)) :
    chosen (pick held batch unheld picked) claim = chosen picked claim := by
  induction batch generalizing unheld picked with
  | nil => rfl
  | cons q rest ih =>
    obtain ⟨other, absent⟩ := not_or.mp (mt List.mem_cons.mpr absent)
    rw [pick_cons, ih absent, chosen_insert, if_neg (Ne.symm other)]

/-- If no claim asks twice, what is picked for a request is what is due to it. -/
theorem chosen_pick (once : ((before ++ q :: after).map (·.uid)).Nodup) :
    chosen (pick held (before ++ q :: after) unheld picked) q.uid = due held unheld before q := by
  induction before generalizing unheld picked with
  | nil =>
    have absent : q.uid ∉ after.map (·.uid) := (List.nodup_cons.mp once).1
    rw [List.nil_append, pick_cons, chosen_pick_of_not_mem absent, chosen_insert, if_pos rfl]
  | cons p before ih =>
    rw [List.cons_append, pick_cons, ih (List.nodup_cons.mp once).2, due_cons]

/-- Requests can all have what is due to them if claims hold enough and enough is free for the others. -/
theorem forall_le_due_iff :
    (∀ before q after, batch = before ++ q :: after →
        q.params.count.toNat ≤ (due held unheld before q).length) ↔
      (∀ q ∈ batch, ∀ devices, held.get? q.uid = some devices →
        q.params.count.toNat ≤ devices.length) ∧ wanted held batch ≤ unheld.length := by
  constructor
  · intro each
    refine ⟨fun q member devices holding => ?_, ?_⟩
    · obtain ⟨before, after, split⟩ := List.append_of_mem member
      simpa [due, holding] using each before q after split
    · -- The last request that is due a block has room after all the others.
      induction batch using List.reverseRecOn with
      | nil => exact Nat.zero_le _
      | append_singleton before q ih =>
        have earlier : wanted held before ≤ unheld.length :=
          ih fun before' q' after' split => each before' q' (after' ++ [q]) (by simp [split])
        have last := each before q [] rfl
        rw [wanted_append, wanted_cons, wanted_nil, SortedMap.contains]
        cases holding : held.get? q.uid with
        | some devices => simpa using earlier
        | none =>
          simp only [due, holding, List.length_take, List.length_drop] at last
          simp only [Option.isSome_none, Bool.false_eq_true, if_false]
          omega
  · rintro ⟨holders, enough⟩ before q after rfl
    rw [wanted_append, wanted_cons, SortedMap.contains] at enough
    rw [due]
    cases holding : held.get? q.uid with
    | some devices => simpa using holders q (by simp) devices holding
    | none =>
      simp only [holding, Option.isSome_none, Bool.false_eq_true, if_false] at enough
      simp only [List.length_take, List.length_drop]
      omega

/-- A batch is served if and only if what its claims hold already is enough for each of them and the
free devices are enough for all the others. -/
theorem all_served_iff (once : (batch.map (·.uid)).Nodup) :
    batch.all (served (pick held batch unheld .empty)) ↔
      (∀ q ∈ batch, ∀ devices, held.get? q.uid = some devices →
        q.params.count.toNat ≤ devices.length) ∧ wanted held batch ≤ unheld.length := by
  have each : ∀ before q after, batch = before ++ q :: after →
      (served (pick held batch unheld .empty) q ↔
        q.params.count.toNat ≤ (due held unheld before q).length) := by
    rintro before q after rfl
    rw [served, decide_eq_true_eq, ← chosen_pick once]
    rfl
  rw [← forall_le_due_iff, List.all_eq_true]
  refine ⟨fun all before q after split => (each before q after split).mp (all q (by simp [split])),
    fun all q member => ?_⟩
  obtain ⟨before, after, split⟩ := List.append_of_mem member
  exact (each before q after split).mpr (all before q after split)

variable {record : NodeRecord} {pod : List ClaimAllocation} {node : String} {s : Site}

/-- What is chosen for the claims of a batch is set aside for each of them as it asks. -/
theorem setAside_each (once : (batch.map (·.uid)).Nodup) :
    (setAside node picked batch).Alone (fun _ s' => ∀ q ∈ batch, s'.pending.get? q.uid node =
      some ((chosen picked q.uid).map (⟨·, q.params.split⟩))) s := by
  induction batch generalizing s with
  | nil => exact .done nofun
  | cons q rest ih =>
    obtain ⟨absent, once⟩ := List.nodup_cons.mp once
    refine .ask_pendingSet (((ih once).and (setAside_aside picked rest)).weaken ?_)
    rintro _ s' ⟨later, aside⟩
    refine List.forall_mem_cons.mpr ⟨?_, later⟩
    rw [aside.others q.uid node (.inr absent), PendingTracker.get?_set, if_pos ⟨rfl, rfl⟩]
    rfl

/-- What comes of a pass over a node, from what claims hold there and what devices none of them holds. -/
structure Outcome (record : NodeRecord) (batch : List ClaimRequest) (pod : List ClaimAllocation)
    (node : String) (held : Holdings) (unheld : List DeviceUuid) (s : Site)
    (result : NodeFit × List ClaimAllocation) (s' : Site) : Prop where
  suitable_iff : result.1 = .suitable ↔
    (∀ q ∈ batch, ∀ devices, held.get? q.uid = some devices →
      q.params.count.toNat ≤ devices.length) ∧ wanted held batch ≤ unheld.length
  accepts : result.1 = .suitable → result.2 = pod
  rejects : result.1 = .unsuitable →
    result.2 = pod.map fun a => { a with unsuitableNodes := a.unsuitableNodes ++ [node] }
  holders : result.1 = .suitable → ∀ q ∈ batch, ∀ devices, held.get? q.uid = some devices →
    s'.pending.get? q.uid node = some (devices.map fun d => ⟨d.uuid, q.params.split⟩)
  blocks : result.1 = .suitable → ∀ before q after, batch = before ++ q :: after →
    held.get? q.uid = none →
      let block := (unheld.drop (wanted held before)).take q.params.count.toNat
      block.length = q.params.count.toNat ∧
        s'.pending.get? q.uid node = some (block.map (⟨·, q.params.split⟩))
  others : ∀ claim place,
    (result.1 = .suitable → place ≠ node ∨ claim ∉ batch.map (·.uid)) →
      s'.pending.get? claim place =
        if record.spec.allocated.contains claim ∧ s.pending.contains claim node then none
        else s.pending.get? claim place
  store : s'.store = s.store

/-- Whatever claims hold on a node, and in whatever order the tracker lists them: a pass over the node for
requests of different claims comes out in one way only. -/
theorem tryNode_outcome (record : NodeRecord) (pod : List ClaimAllocation) (node : String) (s : Site)
    (once : (batch.map (·.uid)).Nodup) :
    ∃ held unheld, Stock record s.pending node held unheld ∧
      (tryNode record batch pod node).Alone (Outcome record batch pod node held unheld s) s := by
  refine ⟨_, _, stock_counted record s.pending node, .bind (holdings_held.weaken fun held s₁ is_held => ?_)⟩
  cases is_held.eq_counted
  dsimp only
  split
  · next served =>
    have suits := (all_served_iff once).mp served
    refine .bind (((setAside_each once).and (setAside_aside _ batch)).weaken ?_)
    rintro _ s₂ ⟨each, aside⟩
    have given : ∀ before q after, batch = before ++ q :: after → s₂.pending.get? q.uid node = some
        ((due (counted record s.pending node) (free record.spec (counted record s.pending node)) before
          q).map (⟨·, q.params.split⟩)) := by
      rintro before q after rfl
      rw [each q (by simp), chosen_pick once]
    refine .done ⟨iff_of_true rfl suits, fun _ => rfl, nofun, fun _ q member devices holding => ?_,
      fun _ before q after split fresh => ⟨?_, ?_⟩, fun claim place apart => ?_,
      aside.store.trans is_held.store⟩
    · obtain ⟨before, after, split⟩ := List.append_of_mem member
      rw [given before q after split, due, holding]
      simp
    · have enough := forall_le_due_iff.mpr suits before q after split
      rw [due, fresh] at enough
      exact Nat.le_antisymm (List.length_take_le ..) enough
    · rw [given before q after split, due, fresh]
    · rw [aside.others claim place (apart rfl), is_held.pending]
  · next unserved =>
    refine .done ⟨iff_of_false nofun fun suits => unserved ((all_served_iff once).mpr suits), nofun,
      fun _ => rfl, nofun, nofun, fun claim place _ => is_held.pending claim place, is_held.store⟩

end Allocator

namespace Mixed

def uid (n : UInt8) : ClaimUid := ⟨.filled n⟩

def device (n : UInt8) : DeviceUuid := ⟨.filled n⟩

def record : NodeRecord where
  metadata := { name := "node", space := "default" }
  spec := {
    allocatable := [5, 3, 1, 4, 2].map fun n => ⟨device n, "model"⟩
    allocated := .single (uid 1) [⟨device 4, 1⟩] }

def site : Site where
  store := { inner := .memory ⟨.empty⟩ }
  pending := ((({} : PendingTracker).set (uid 1) "node" [⟨device 1, 2⟩]).set (uid 1) "far"
    [⟨device 1, 2⟩]).set (uid 2) "node" [⟨device 2, 1⟩]

def batch : List ClaimRequest :=
  [(3, 1), (1, 1), (4, 2), (2, 1)].map fun (n, count) => ⟨uid n, { count, split := 2 }⟩

/-- The free devices go to the claims that hold none, and what was out of date is forgotten. -/
def expected : List (ClaimUid × String × List AllocatedDevice) :=
  [(1, [4]), (2, [2]), (3, [1]), (4, [3, 5])].map fun (n, devices) =>
    (uid n, "node", devices.map (⟨device ·, 2⟩))

end Mixed

open Allocator Mixed in
/-- The record lists a claim that has devices set aside on two nodes as well; for another claim of the
batch there is a device set aside. -/
theorem Allocator.tryNode_outcome_mixed :
    ∃ held unheld, Stock record site.pending "node" held unheld ∧
      ∃ steps result s', Prog.Course .alone (tryNode record batch [] "node") site steps result s' ∧
        Outcome record batch [] "node" held unheld site result s' ∧
        result.1 = .suitable ∧ s'.pending.entries = expected := by
  have shown : ((tryNode record batch [] "node").follow (fun a s => some (Site.answer a s)) site).any
      (fun (_, result, s') => decide (result.1 = .suitable ∧ s'.pending.entries = expected)) = true := by
    decide +kernel
  obtain ⟨⟨steps, result, s'⟩, followed, shown⟩ := (Option.any_eq_true _ _).mp shown
  have once : (batch.map (·.uid)).Nodup := by decide +kernel
  obtain ⟨held, unheld, stock, alone⟩ := tryNode_outcome record [] "node" site once
  obtain ⟨course, outcome⟩ := alone.course_and_post followed
  exact ⟨held, unheld, stock, steps, result, s', course, outcome, of_decide_eq_true shown⟩

end DeviceClaims
