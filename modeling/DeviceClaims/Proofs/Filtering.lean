import DeviceClaims.Controller.Basic
import DeviceClaims.Proofs.Course.Alone

namespace DeviceClaims

theorem firsts_filter {α : Type} [DecidableEq α] (p : α → Bool) (l : List α) :
    firsts (l.filter p) = (firsts l).filter p := by
  induction l with
  | nil => rfl
  | cons a l ih =>
    by_cases kept : p a
    · simp only [firsts, List.filter_cons, kept, if_true, ih, List.filter_filter, Bool.and_comm]
    · have apart : ∀ b, p b = true → b ≠ a := by rintro b kept' rfl; exact kept kept'
      simp only [firsts, List.filter_cons, kept, Bool.false_eq_true, if_false, ih, List.filter_filter]
      refine List.filter_congr fun b _ => ?_
      cases at_b : p b <;> simp [apart, at_b]

theorem firsts_eq_eraseDups {α : Type} [DecidableEq α] : ∀ l : List α, firsts l = l.eraseDups
  | [] => rfl
  | a :: l => by
    have shorter : (l.filter fun b => !b == a).length < l.length + 1 :=
      Nat.lt_succ_of_le (List.length_filter_le ..)
    rw [List.eraseDups_cons, ← firsts_eq_eraseDups (l.filter fun b => !b == a), firsts_filter, firsts]
    congr 1
    exact List.filter_congr fun b _ => by by_cases same : b = a <;> simp [same]
termination_by l => l.length

namespace FaultyStore

theorem get_snd (s : FaultyStore) (key : ObjectKey) :
    (s.get key).2 = { s with failGets := s.failGets - 1 } := by
  rcases s with ⟨inner, _ | n, _, _, _, _, _⟩ <;> rfl

theorem get_ok {s : FaultyStore} {key : ObjectKey} {r : NodeRecord} (read : (s.get key).1 = .ok r) :
    s.failGets = 0 ∧ s.inner.get key = .ok r := by
  unfold get at read
  cases planned : s.failGets with
  | zero => exact ⟨rfl, by simpa [spend, planned] using read⟩
  | succ n => simp [spend, planned] at read

theorem get_sound {s : FaultyStore} (sound : s.failGets = 0) (key : ObjectKey) :
    s.get key = (s.inner.get key, s) := by
  rw [get, sound]
  rfl

end FaultyStore

namespace Allocator

variable {record : NodeRecord} {node : String} {s : Site}

/-- What a walk over the claims of a list leaves of a tracker: a claim that the record knows is
forgotten if it has devices set aside on the node. -/
structure Walked (record : NodeRecord) (node : String) (claims : List ClaimUid) (held : Holdings)
    (s : Site) (held' : Holdings) (s' : Site) : Prop where
  store : s'.store = s.store
  held : ∀ claim, held'.get? claim =
    if claim ∈ claims ∧ record.spec.allocated.contains claim = false then
      (s.pending.get? claim node).or (held.get? claim)
    else held.get? claim
  pending : ∀ claim place, s'.pending.get? claim place =
    if claim ∈ claims ∧ record.spec.allocated.contains claim ∧ s.pending.contains claim node then none
    else s.pending.get? claim place

/-- A walk over a node finds the devices set aside for each claim that the record does not list, and
forgets the others. -/
theorem visit_walked (claims : List ClaimUid) (held : Holdings) :
    (PendingClient.visitPairs (fun held claim _ devices =>
      if record.spec.allocated.contains claim then
        (PendingClient.remove claim).bind fun _ => .done held
      else .done (held.insert claim devices)) (claims.map (·, node)) held).Alone
      (Walked record node claims held s) s := by
  induction claims generalizing held s with
  | nil => exact .done ⟨rfl, fun _ => by simp, fun _ _ => by simp⟩
  | cons claim rest ih =>
    refine Prog.Alone.ask_pendingGet ?_
    cases at_node : s.pending.get? claim node with
    | none =>
      refine (ih held).weaken fun held' s' walked => ⟨walked.store, fun other => ?_, fun other place => ?_⟩
      · rw [walked.held]
        by_cases same : other = claim
        · subst same; simp [at_node]
        · simp [same]
      · rw [walked.pending]
        by_cases same : other = claim
        · subst same; simp [PendingTracker.contains, at_node]
        · simp [same]
    | some devices =>
      by_cases known : record.spec.allocated.contains claim
      · change Prog.Alone _ ((ite _ _ _ : Prog Holdings).bind _) s
        rw [if_pos known]
        refine Prog.Alone.ask_pendingRemove ((ih held).weaken fun held' s' walked =>
          ⟨walked.store, fun other => ?_, fun other place => ?_⟩)
        · rw [walked.held, PendingTracker.get?_remove]
          by_cases same : other = claim
          · subst same; simp [known]
          · simp [same, Ne.symm same]
        · rw [walked.pending, PendingTracker.contains, PendingTracker.get?_remove,
            PendingTracker.get?_remove]
          by_cases same : other = claim
          · subst same; simp [known, PendingTracker.contains, at_node]
          · simp [same, Ne.symm same, PendingTracker.contains]
      · change Prog.Alone _ ((ite _ _ _ : Prog Holdings).bind _) s
        rw [if_neg known]
        have unknown : record.spec.allocated.contains claim = false := by simpa using known
        refine (ih (held.insert claim devices)).weaken fun held' s' walked =>
          ⟨walked.store, fun other => ?_, fun other place => ?_⟩
        · rw [walked.held, SortedMap.get?_insert]
          by_cases same : other = claim
          · subst same; simp [unknown, at_node]
          · simp [same, Ne.symm same]
        · rw [walked.pending]
          by_cases same : other = claim
          · subst same; simp [unknown]
          · simp [same]

/-- What claims hold on a node is what the record says, and for claims that it does not know what is set
aside for them. -/
structure Held (record : NodeRecord) (node : String) (s : Site) (held : Holdings) (s' : Site) : Prop where
  store : s'.store = s.store
  held : ∀ claim, held.get? claim =
    (record.spec.allocated.get? claim).or (s.pending.get? claim node)
  pending : ∀ claim place, s'.pending.get? claim place =
    if record.spec.allocated.contains claim ∧ s.pending.contains claim node then none
    else s.pending.get? claim place

/-- What claims hold on a node is what the record lists and what is set aside there for claims that it
does not list. -/
theorem holdings_held : (holdings record node).Alone (Held record node s) s := by
  refine Prog.Alone.ask_pendingClaims fun claims same => ?_
  refine (visit_walked claims record.spec.allocated).weaken fun held s' walked =>
    ⟨walked.store, fun claim => ?_, fun claim place => ?_⟩
  · have aside : claim ∉ claims → s.pending.get? claim node = none :=
      fun absent => PendingTracker.get?_of_not_mem (mt same.mem_iff.mpr absent) node
    rw [walked.held]
    cases at_claim : record.spec.allocated.get? claim with
    | some devices => simp [SortedMap.contains, at_claim]
    | none => by_cases member : claim ∈ claims <;> simp [SortedMap.contains, at_claim, member, aside]
  · have aside : claim ∉ claims → s.pending.contains claim node = false := fun absent => by
      rw [PendingTracker.contains, PendingTracker.get?_of_not_mem (mt same.mem_iff.mpr absent) node]
      rfl
    rw [walked.pending]
    by_cases member : claim ∈ claims
    · simp [member]
    · simp [member, aside member]

/-- Each request of a batch has set aside on the node what was picked for it; nothing else is
changed. -/
structure Aside (node : String) (picked : SortedMap ClaimUid (List DeviceUuid))
    (batch : List ClaimRequest) (s s' : Site) : Prop where
  store : s'.store = s.store
  picked : ∀ q ∈ batch, ∃ devices, s'.pending.get? q.uid node = some devices ∧
    devices.map (·.uuid) = (picked.get? q.uid).getD []
  others : ∀ claim place, place ≠ node ∨ claim ∉ batch.map (·.uid) →
    s'.pending.get? claim place = s.pending.get? claim place

/-- To set aside what was picked changes the tracker for the batch on the node and for nothing else. -/
theorem setAside_aside (picked : SortedMap ClaimUid (List DeviceUuid)) (batch : List ClaimRequest) :
    (setAside node picked batch).Alone (fun _ => Aside node picked batch s) s := by
  induction batch generalizing s with
  | nil => exact .done ⟨rfl, nofun, fun _ _ _ => rfl⟩
  | cons q rest ih =>
    refine Prog.Alone.ask_pendingSet (ih.weaken fun _ s' aside => ⟨aside.store, fun q' member => ?_,
      fun claim place apart => ?_⟩)
    · rcases List.mem_cons.mp member with rfl | later
      · -- a later request of the same claim sets aside the same devices again
        by_cases again : q'.uid ∈ rest.map (·.uid)
        · obtain ⟨q, later, same⟩ := List.mem_map.mp again
          exact same ▸ aside.picked q later
        · have found : s'.pending.get? q'.uid node =
              some (((picked.get? q'.uid).getD []).map fun uuid => ⟨uuid, q'.params.split⟩) := by
            rw [aside.others q'.uid node (.inr again), PendingTracker.get?_set, if_pos ⟨rfl, rfl⟩]
          exact ⟨_, found, List.map_map.trans (List.map_id _)⟩
      · exact aside.picked q' later
    · have unlike : ¬ (q.uid = claim ∧ node = place) := by
        rintro ⟨rfl, rfl⟩
        simp at apart
      rw [aside.others claim place (apart.imp_right fun absent later =>
        absent (List.mem_cons_of_mem _ later)), PendingTracker.get?_set, if_neg unlike]

/-- What comes of trying a batch on a node: all of it has devices set aside there, or nothing has
changed for it. -/
inductive Fits (batch : List ClaimRequest) (pod : List ClaimAllocation) (node : String) (s : Site) :
    NodeFit × List ClaimAllocation → Site → Prop
  | suitable {s' : Site} (store : s'.store = s.store)
      (setAside : ∀ q ∈ batch, ∃ devices,
        s'.pending.get? q.uid node = some devices ∧ q.params.count.toNat ≤ devices.length)
      (elsewhere : ∀ q ∈ batch, ∀ place, place ≠ node →
        s'.pending.get? q.uid place = s.pending.get? q.uid place) :
      Fits batch pod node s (.suitable, pod) s'
  | unsuitable {s' : Site} (store : s'.store = s.store)
      (kept : ∀ q ∈ batch, ∀ place, s'.pending.get? q.uid place = s.pending.get? q.uid place) :
      Fits batch pod node s (.unsuitable, pod.map (·.reject node)) s'

/-- A pass over a ready node has all of the batch set aside there, or rejects the node and sets nothing
aside. -/
theorem tryNode_fits {batch : List ClaimRequest} {pod : List ClaimAllocation}
    (unknown : ∀ q ∈ batch, record.spec.allocated.contains q.uid = false) :
    (tryNode record batch pod node).Alone (Fits batch pod node s) s := by
  refine .bind (holdings_held.weaken fun held s₁ is_held => ?_)
  have kept : ∀ q ∈ batch, ∀ place, s₁.pending.get? q.uid place = s.pending.get? q.uid place := by
    intro q at_q place
    rw [is_held.pending, if_neg (by simp [unknown q at_q])]
  dsimp only
  split
  · next served =>
    refine .bind ((setAside_aside _ batch).weaken fun _ s₂ aside => .done ?_)
    refine .suitable (aside.store.trans is_held.store) (fun q at_q => ?_) fun q at_q place apart => ?_
    · obtain ⟨devices, found, same⟩ := aside.picked q at_q
      have enough := List.all_eq_true.mp served q at_q
      rw [Allocator.served, decide_eq_true_eq, ← same, List.length_map] at enough
      exact ⟨devices, found, enough⟩
    · rw [aside.others q.uid place (.inl apart), kept q at_q place]
  · exact .done (.unsuitable is_held.store kept)

end Allocator

/-- A claim of a pod with more nodes that cannot hold it. -/
def ClaimAllocation.rejectAll (a : ClaimAllocation) (nodes : List String) : ClaimAllocation :=
  { a with unsuitableNodes := a.unsuitableNodes ++ nodes }

/-- What a controller makes of a batch of requests and of nodes on which it tries it: some nodes are
rejected, the batch has devices set aside on all others, and the store is only read. -/
structure Controller.Rejects (c : Controller) (batch : List ClaimRequest) (nodes : List String)
    (s : Site) (rejected : List String) (s' : Site) : Prop where
  sublist : rejected.Sublist nodes
  store : s'.store = { s.store with failGets := s.store.failGets - nodes.length }
  unreadable : ∀ node ∈ nodes.take s.store.failGets, node ∈ rejected
  unready : ∀ node ∈ nodes,
    (∀ r, s.store.inner.get (c.recordKey node) = .ok r → r.isReady = false) → node ∈ rejected
  setAside : ∀ node ∈ nodes, node ∉ rejected → ∀ q ∈ batch, ∃ devices,
    s'.pending.get? q.uid node = some devices ∧ q.params.count.toNat ≤ devices.length
  kept : ∀ q ∈ batch, ∀ node, (node ∈ nodes → node ∈ rejected) →
    s'.pending.get? q.uid node = s.pending.get? q.uid node

namespace Controller

variable {c : Controller} {batch : List ClaimRequest} {node : String} {nodes nodes' : List String}
  {s s₁ s' : Site} {rejected rejected' : List String}

theorem Rejects.append (first : c.Rejects batch nodes s rejected s₁)
    (last : c.Rejects batch nodes' s₁ rejected' s') (disjoint : ∀ node ∈ nodes, node ∉ nodes') :
    c.Rejects batch (nodes ++ nodes') s (rejected ++ rejected') s' where
  sublist := first.sublist.append last.sublist
  store := by
    rw [last.store, first.store, List.length_append, Nat.sub_sub]
  unreadable node member := by
    rw [List.take_append] at member
    have fails : s₁.store.failGets = s.store.failGets - nodes.length := by rw [first.store]
    rcases List.mem_append.mp member with before | after
    · exact List.mem_append_left _ (first.unreadable node before)
    · exact List.mem_append_right _ (last.unreadable node (fails ▸ after))
  unready node member never := by
    have inner : s₁.store.inner = s.store.inner := by rw [first.store]
    rcases List.mem_append.mp member with before | after
    · exact List.mem_append_left _ (first.unready node before never)
    · exact List.mem_append_right _ (last.unready node after (inner ▸ never))
  setAside node member admitted q at_q := by
    have ⟨admitted₁, admitted₂⟩ := not_or.mp (mt List.mem_append.mpr admitted)
    rcases List.mem_append.mp member with before | after
    · rw [last.kept q at_q node fun after => absurd after (disjoint node before)]
      exact first.setAside node before admitted₁ q at_q
    · exact last.setAside node after admitted₂ q at_q
  kept q at_q node excused := by
    rw [last.kept q at_q node fun after => ?_, first.kept q at_q node fun before => ?_]
    · rcases List.mem_append.mp (excused (List.mem_append_left _ before)) with found | found
      · exact found
      · exact absurd (last.sublist.subset found) (disjoint node before)
    · rcases List.mem_append.mp (excused (List.mem_append_right _ after)) with found | found
      · exact absurd after (disjoint node (first.sublist.subset found))
      · exact found

/-- A node on which nothing was set aside. -/
theorem Rejects.reject_all (store : s'.store = { s.store with failGets := s.store.failGets - 1 })
    (kept : ∀ q ∈ batch, ∀ node, s'.pending.get? q.uid node = s.pending.get? q.uid node) :
    c.Rejects batch [node] s [node] s' where
  sublist := .refl _
  store := store
  unreadable _ member := List.mem_of_mem_take member
  unready _ member _ := member
  setAside _ member admitted := absurd member admitted
  kept q at_q node _ := kept q at_q node

variable {pod : List ClaimAllocation}

theorem rejectAll_append (a : ClaimAllocation) (nodes nodes' : List String) :
    (a.rejectAll nodes).rejectAll nodes' = a.rejectAll (nodes ++ nodes') := by
  simp [ClaimAllocation.rejectAll]

/-- A pass over one node rejects it for all claims or for none. -/
theorem tryNode_rejects
    (unknown : ∀ r, s.store.inner.get (c.recordKey node) = .ok r →
      ∀ q ∈ pod.map ClaimAllocation.request, r.spec.allocated.contains q.uid = false) :
    (c.tryNode pod node).Alone (fun pod' s' => ∃ rejected,
      c.Rejects (pod.map ClaimAllocation.request) [node] s rejected s' ∧
        pod' = pod.map (·.rejectAll rejected)) s := by
  refine Prog.Alone.locked (Prog.Alone.ask_get ?_)
  let s₁ : Site := { s with store := (s.store.get (c.recordKey node)).2 }
  have store₁ : s₁.store = { s.store with failGets := s.store.failGets - 1 } := s.store.get_snd _
  have rejects : ∀ s' : Site, s'.store = s₁.store →
      (∀ q ∈ pod.map ClaimAllocation.request, ∀ place,
        s'.pending.get? q.uid place = s.pending.get? q.uid place) →
      ∃ rejected, c.Rejects (pod.map ClaimAllocation.request) [node] s rejected s' ∧
        pod.map (·.reject node) = pod.map (·.rejectAll rejected) :=
    fun s' store kept => ⟨[node], .reject_all (store.trans store₁) kept, rfl⟩
  cases answer : (s.store.get (c.recordKey node)).1 with
  | error e => exact .done (rejects s₁ rfl fun _ _ _ => rfl)
  | ok record =>
    obtain ⟨sound, found⟩ := FaultyStore.get_ok answer
    change Prog.Alone _ (ite _ _ _) s₁
    split
    · exact .done (rejects s₁ rfl fun _ _ _ => rfl)
    next isReady =>
    have admits : ∀ s' : Site, s'.store = s₁.store →
        (∀ q ∈ pod.map ClaimAllocation.request, ∃ devices,
          s'.pending.get? q.uid node = some devices ∧ q.params.count.toNat ≤ devices.length) →
        (∀ q ∈ pod.map ClaimAllocation.request, ∀ place, place ≠ node →
          s'.pending.get? q.uid place = s.pending.get? q.uid place) →
        ∃ rejected, c.Rejects (pod.map ClaimAllocation.request) [node] s rejected s' ∧
          pod = pod.map (·.rejectAll rejected) := by
      intro s' store setAside elsewhere
      refine ⟨[], ⟨List.nil_sublist _, store.trans store₁, ?_, ?_, ?_, ?_⟩, ?_⟩
      · simp [sound]
      · rintro place member never
        obtain rfl := List.mem_singleton.mp member
        simp [never record found] at isReady
      · rintro place member _
        exact List.mem_singleton.mp member ▸ setAside
      · intro q at_q place excused
        exact elsewhere q at_q place fun same => nomatch excused (List.mem_singleton.mpr same)
      · simp [ClaimAllocation.rejectAll]
    split
    · next empty =>
      have none : pod = [] := List.isEmpty_iff.mp empty
      subst none
      exact .done (admits s₁ rfl nofun nofun)
    · refine .bind ((Allocator.tryNode_fits (unknown record found)).weaken fun (_, pod') s' fits => ?_)
      cases fits with
      | suitable store setAside elsewhere => exact .done (admits s' store setAside elsewhere)
      | unsuitable store kept => exact .done (rejects s' store kept)

/-- A pass over candidates rejects the same nodes for all claims. -/
theorem tryNodes_rejects (once : nodes.Nodup)
    (unknown : ∀ node ∈ nodes, ∀ r, s.store.inner.get (c.recordKey node) = .ok r →
      ∀ q ∈ pod.map ClaimAllocation.request, r.spec.allocated.contains q.uid = false) :
    (c.tryNodes nodes pod).Alone (fun pod' s' => ∃ rejected,
      c.Rejects (pod.map ClaimAllocation.request) nodes s rejected s' ∧
        pod' = pod.map (·.rejectAll rejected)) s := by
  induction nodes generalizing pod s with
  | nil =>
    refine .done ⟨[], ⟨.refl _, rfl, ?_, nofun, nofun, fun _ _ _ _ => rfl⟩, ?_⟩
    · simp
    · simp [ClaimAllocation.rejectAll]
  | cons node rest ih =>
    obtain ⟨absent, once⟩ := List.nodup_cons.mp once
    refine .bind ((tryNode_rejects (unknown node List.mem_cons_self)).weaken ?_)
    rintro _ s₁ ⟨rejected₁, first, rfl⟩
    have requests : (pod.map (·.rejectAll rejected₁)).map ClaimAllocation.request =
        pod.map ClaimAllocation.request := List.map_map
    have inner : s₁.store.inner = s.store.inner := by rw [first.store]
    refine (ih once (requests ▸ inner ▸ fun node member =>
      unknown node (List.mem_cons_of_mem _ member))).weaken ?_
    rintro _ s' ⟨rejected₂, last, rfl⟩
    rw [requests] at last
    refine ⟨rejected₁ ++ rejected₂, first.append last ?_, ?_⟩
    · intro node' member
      exact List.mem_singleton.mp member ▸ absent
    · rw [List.map_map]
      exact List.map_congr_left fun a _ => rejectAll_append a _ _

/-- The nodes that cannot hold a pod are the same for all its claims, and each list names them once after
what it named before. On every other node each claim has devices set aside when the call is over; on a
rejected one its devices are those of before. -/
theorem unsuitableNodes_reject_alike (c : Controller) (pod : List ClaimAllocation)
    {nodes : List String} {s : Site} (once : nodes.Nodup)
    (unknown : ∀ node ∈ nodes, ∀ r, s.store.inner.get (c.recordKey node) = .ok r →
      ∀ a ∈ pod, r.spec.allocated.contains a.claim.uid = false) :
    (c.unsuitableNodes pod nodes).Alone (fun pod' s' => ∃ rejected,
      c.Rejects (pod.map ClaimAllocation.request) nodes s rejected s' ∧
        pod' = pod.map fun a =>
          { a with unsuitableNodes := (a.unsuitableNodes ++ rejected).eraseDups }) s := by
  have strangers : ∀ node ∈ nodes, ∀ r, s.store.inner.get (c.recordKey node) = .ok r →
      ∀ q ∈ pod.map ClaimAllocation.request, r.spec.allocated.contains q.uid = false := by
    intro node member r found q at_q
    obtain ⟨a, at_a, rfl⟩ := List.mem_map.mp at_q
    exact unknown node member r found a at_a
  refine .bind ((tryNodes_rejects once strangers).weaken ?_)
  rintro _ s' ⟨rejected, rejects, rfl⟩
  refine .done ⟨rejected, rejects, ?_⟩
  rw [List.map_map]
  refine List.map_congr_left fun a _ => ?_
  simp only [Function.comp, ClaimAllocation.rejectAll, firsts_eq_eraseDups]

end Controller

namespace Candidates

def controller : Controller := { space := "default" }

def record : NodeRecord where
  metadata := { name := "node", space := "default" }
  spec := { allocatable := [⟨⟨⟨List.replicate 16 3, rfl⟩⟩, "model"⟩] }
  status := .ready

def site : Site := { store := { inner := .memory ⟨SortedMap.empty.insert record.key record⟩ } }

/-- Its claim asks for one device and is known to be no claim for the node without a record. -/
def pod : List ClaimAllocation :=
  [⟨{ uid := ⟨⟨List.replicate 16 2, rfl⟩⟩, name := "claim" }, { name := "class" }, { split := 2 }, {},
    ["absent"]⟩]

theorem allocated_empty {key : ObjectKey} {r : NodeRecord} (found : site.store.inner.get key = .ok r) :
    r.spec.allocated = .empty := by
  simp only [site, Backend.get, Backend.apply, MemoryStore.apply, MemoryStore.get,
    SortedMap.get?_insert] at found
  split at found
  · next at_key =>
    split at at_key <;> cases at_key
    cases found
    rfl
  · cases found

end Candidates

open Candidates in
/-- One of two nodes is ready and has a device; of the other there is no record. -/
theorem Controller.unsuitableNodes_reject_alike_candidates :
    ∃ steps pod' s', Prog.Course .alone (controller.unsuitableNodes pod ["node", "absent"]) site steps
        pod' s' ∧
      (∃ rejected, controller.Rejects (pod.map ClaimAllocation.request) ["node", "absent"] site rejected
          s' ∧
        pod' = pod.map fun a =>
          { a with unsuitableNodes := (a.unsuitableNodes ++ rejected).eraseDups }) ∧
      pod'.map (·.unsuitableNodes) = [["absent"]] := by
  have shown : ((controller.unsuitableNodes pod ["node", "absent"]).follow
      (fun a s => some (Site.answer a s)) site).any
      (fun (_, pod', _) => decide (pod'.map (·.unsuitableNodes) = [["absent"]])) = true := by
    decide +kernel
  obtain ⟨⟨steps, pod', s'⟩, followed, shown⟩ := (Option.any_eq_true _ _).mp shown
  obtain ⟨course, rejects⟩ := (controller.unsuitableNodes_reject_alike pod (s := site) (by decide)
    fun _ _ r found a _ => by rw [allocated_empty found]; rfl).course_and_post followed
  exact ⟨steps, pod', s', course, rejects, of_decide_eq_true shown⟩

end DeviceClaims
