import DeviceClaims.Proofs.Course.Solo

namespace DeviceClaims

namespace Controller

/-- Some steps leave the store as it is. -/
structure Left (w : World) (steps : List (Step World)) (w' : World) : Prop where
  still : ∀ s ∈ steps, s.KeepsStore
  store : w'.store = w.store

/-- Some steps change a record once, and forget what was set aside for a claim. -/
structure Wrote (claim : ClaimUid) (change : Change) (r : NodeRecord) (w : World)
    (steps : List (Step World)) (w' : World) : Prop where
  replaced : w.record r.key = some r
  once : Step.Once change r steps
  store : w'.store = (w.put (change.on r)).store
  pending : w'.pending = w.pending.remove claim

/-- How a call ends that allocates a claim to a node while no other call is made. -/
inductive Allots (c : Controller) (claim : ClaimUid) (node : String) (w : World)
    (steps : List (Step World)) : Except DriverError AllocationResult → World → Prop
  | recorded {r : NodeRecord} {devices : List AllocatedDevice} {w' : World}
      (key : r.key = c.recordKey node) (unknown : r.spec.allocated.get? claim = none)
      (aside : w.pending.get? claim node = some devices)
      (wrote : Wrote claim (.allocate claim devices) r w steps w') :
      Allots c claim node w steps (.ok (.forNode node true)) w'
  | known {devices : List AllocatedDevice} {w' : World}
      (recorded : w.allocation (c.recordKey node) claim = some devices) (left : Left w steps w') :
      Allots c claim node w steps (.ok (.forNode node true)) w'
  | refused {e : DriverError} {w' : World} (left : Left w steps w') :
      Allots c claim node w steps (.error e) w'

/-- How a call ends that takes a claim back from a node while no other call is made. -/
inductive Returns (c : Controller) (claim : ClaimUid) (node : String) (w : World)
    (steps : List (Step World)) : Except DriverError Unit → World → Prop
  | released {r : NodeRecord} {devices : List AllocatedDevice} {w' : World}
      (key : r.key = c.recordKey node) (recorded : r.spec.allocated.get? claim = some devices)
      (wrote : Wrote claim (.release claim) r w steps w') : Returns c claim node w steps (.ok ()) w'
  | unknown {w' : World} (absent : w.allocation (c.recordKey node) claim = none)
      (left : Left w steps w') : Returns c claim node w steps (.ok ()) w'
  | refused {e : DriverError} {w' : World} (left : Left w steps w') :
      Returns c claim node w steps (.error e) w'

/-- A call that has the lock of a node has not changed the store so far. -/
structure Standing (node : String) (call : Nat) (w : World) (steps : List (Step World)) (v : World) :
    Prop where
  still : ∀ s ∈ steps, s.KeepsStore
  store : v.store = w.store
  wellKeyed : v.WellKeyed
  own : v.holder node = some call

variable {c : Controller} {claim : ClaimUid} {node : String} {call : Nat} {op : Operation}
  {steps : List (Step World)} {w v : World} {crashed : List (Step World) → World → Prop}

namespace Standing

theorem append_quiet (standing : Standing node call w steps v) {s : Step World} (quiet : s.Quiet) :
    Standing node call w (steps ++ [s]) v :=
  ⟨Step.still_next standing.still quiet.keeps_store, standing.store, standing.wellKeyed, standing.own⟩

theorem append_forget (standing : Standing node call w steps v) (claim : ClaimUid) :
    Standing node call w (steps ++ [.forget v claim]) (v.setPending (v.pending.remove claim)) :=
  ⟨Step.still_next standing.still (Step.keepsStore_forget v claim), standing.store,
    standing.wellKeyed, standing.own⟩

theorem record_eq (standing : Standing node call w steps v) (key : ObjectKey) :
    v.record key = w.record key := by
  rw [World.record, World.record, standing.store]

/-- The store of what a call finds takes a record as the one it began with. -/
theorem put_store (standing : Standing node call w steps v) (r : NodeRecord) :
    (v.put r).store = (w.put r).store := by
  rw [World.put, World.put, standing.store]

end Standing

/-- What an attempt to allocate a claim comes to, unless it is refused. -/
inductive Tries (c : Controller) (claim : ClaimUid) (node : String) (w : World)
    (steps : List (Step World)) : Bool → World → Prop
  | recorded {r : NodeRecord} {devices : List AllocatedDevice} {v : World}
      (key : r.key = c.recordKey node) (unknown : r.spec.allocated.get? claim = none)
      (aside : w.pending.get? claim node = some devices) (replaced : w.record r.key = some r)
      (once : Step.Once (.allocate claim devices) r steps)
      (store : v.store = (w.put ((Change.allocate claim devices).on r)).store)
      (pending : v.pending = w.pending) : Tries c claim node w steps true v
  | known {devices : List AllocatedDevice} {v : World}
      (recorded : w.allocation (c.recordKey node) claim = some devices)
      (still : ∀ s ∈ steps, s.KeepsStore) (store : v.store = w.store) : Tries c claim node w steps false v

/-- An attempt to allocate tries the one thing that its record and the tracker let it, or leaves the
store as it is. -/
theorem allocateOnce_solo (standing : Standing node call w steps v) (same : v.pending = w.pending) :
    (c.allocateOnce claim node).Always (.solo call op)
      (Prog.outcome
        (fun steps recorded v => c.Tries claim node w steps recorded v ∧ v.WellKeyed ∧
          v.holder node = some call)
        fun steps v => Standing node call w steps v ∧ v.pending = w.pending) crashed steps v := by
  refine Prog.Always.get_of_spares (Surroundings.solo_spares call op) standing.wellKeyed ?_ ?_
  · rintro _ rfl wellKeyed r at_key
    have key : r.key = c.recordKey node := wellKeyed _ r at_key
    have standing := standing.append_quiet (Step.quiet_get v (c.recordKey node) r)
    have at_w : w.record (c.recordKey node) = some r := (standing.record_eq _).symm.trans at_key
    change Prog.Always _ _ _ (ite _ _ _) _ _
    split
    · next known =>
      obtain ⟨devices, known⟩ := SortedMap.contains_iff.mp known
      have recorded : w.allocation (c.recordKey node) claim = some devices := by
        rw [World.allocation, at_w]
        exact known
      exact ⟨.known recorded standing.still standing.store, wellKeyed, standing.own⟩
    · next unknown =>
      split
      · exact ⟨standing, same⟩
      · refine Prog.Always.pendingGet_of_spares (Surroundings.solo_spares call op) wellKeyed ?_ ?_
        · rintro _ rfl _ devices aside
          have standing := standing.append_quiet (Step.quiet_look v claim node devices)
          refine Prog.Always.rewrite_of_spares (Surroundings.solo_spares call op) (.allocate claim devices) rfl
            wellKeyed (World.Saw.of_record wellKeyed at_key) ?_ ?_
          · rintro _ rfl _ at_r
            refine ⟨.recorded key (SortedMap.get?_of_not_contains unknown) (same ▸ aside)
              (key ▸ at_w) (.append_rewrite standing.still at_r) (standing.put_store _) same, ?_, standing.own⟩
            exact wellKeyed.put _
          · rintro _ s e rfl _ quiet
            exact ⟨standing.append_quiet quiet, same⟩
        · rintro _ s rfl _ quiet
          exact ⟨standing.append_quiet quiet, same⟩
  · rintro _ s rfl _ quiet
    exact ⟨standing.append_quiet quiet, same⟩

/-- Where no other call is made, an allocation writes the record of the node once, or it changes
nothing. -/
theorem allocate_solo (wellKeyed : w.WellKeyed) :
    (c.allocate claim node).Always (.solo call op) (fun steps result v => c.Allots claim node w steps result v)
      (fun _ _ => True) [] w := by
  unfold allocate
  split
  · exact .refused ⟨nofun, rfl⟩
  refine Prog.Always.lock_of_spares (Surroundings.solo_spares call op) wellKeyed ?_
  rintro _ s rfl _ quiet
  have standing : Standing node call w [s] (w.setHolder node (some call)) :=
    ⟨fun _ member => List.mem_singleton.mp member ▸ quiet.keeps_store, rfl, wellKeyed,
      Function.update_self ..⟩
  refine Prog.Always.bind (Prog.Always.thenOk ((Prog.Always.retry
    (fun _ _ ready => allocateOnce_solo ready.1 ready.2)
    (fun _ _ _ delay ready same => by
      obtain ⟨ends, unchanged⟩ := Surroundings.solo_sleep same delay
      refine ⟨ends, fun answer w₂ answers => ?_⟩
      obtain ⟨rfl, rfl⟩ := unchanged answer w₂ answers
      exact ⟨ready.1.append_quiet ⟨rfl, rfl⟩, ready.2⟩)
    (fun _ _ _ _ => trivial) ⟨standing, rfl⟩).weaken fun steps result v reached => ?_))
  cases result with
  | error e =>
    intro e
    refine Prog.Always.unlock_of_spares (Surroundings.solo_spares call op) reached.1.own ?_
    rintro _ rfl
    exact .refused ⟨Step.still_next reached.1.still (Step.keepsStore_unlock _ node), reached.1.store⟩
  | ok recorded =>
    obtain ⟨tries, wellKeyed, own⟩ := reached
    cases tries with
    | known recorded still store =>
      refine Prog.Always.unlock_of_spares (Surroundings.solo_spares call op) own ?_
      rintro _ rfl
      exact .known recorded ⟨Step.still_next still (Step.keepsStore_unlock _ node), store⟩
    | recorded key unknown aside replaced once store pending =>
      refine Prog.Always.pendingRemove_of_spares (Surroundings.solo_spares call op) wellKeyed ?_
      rintro _ rfl _
      refine Prog.Always.unlock_of_spares (Surroundings.solo_spares call op) own ?_
      rintro _ rfl
      refine .recorded key unknown aside ⟨replaced, ?_, store, congrArg (·.remove claim) pending⟩
      exact (once.append_keeping (Step.keepsStore_forget _ claim)).append_keeping (Step.keepsStore_unlock _ node)

/-- What an attempt to take a claim back comes to, unless it is refused. -/
inductive Retakes (c : Controller) (claim : ClaimUid) (node : String) (w : World)
    (steps : List (Step World)) (v : World) : Prop
  | released {r : NodeRecord} {devices : List AllocatedDevice} (key : r.key = c.recordKey node)
      (recorded : r.spec.allocated.get? claim = some devices)
      (wrote : Wrote claim (.release claim) r w steps v)
  | unknown (absent : w.allocation (c.recordKey node) claim = none) (left : Left w steps v)

/-- An attempt to deallocate takes the claim off the record if it is there. -/
theorem deallocateOnce_solo (standing : Standing node call w steps v)
    (same : v.pending = w.pending ∨ v.pending = w.pending.remove claim) :
    (c.deallocateOnce claim node).Always (.solo call op)
      (Prog.outcome
        (fun steps _ v => c.Retakes claim node w steps v ∧ v.holder node = some call)
        fun steps v => Standing node call w steps v ∧
          (v.pending = w.pending ∨ v.pending = w.pending.remove claim)) crashed steps v := by
  refine Prog.Always.get_of_spares (Surroundings.solo_spares call op) standing.wellKeyed ?_ ?_
  · rintro _ rfl wellKeyed r at_key
    have key : r.key = c.recordKey node := wellKeyed _ r at_key
    have standing := standing.append_quiet (Step.quiet_get v (c.recordKey node) r)
    have at_w : w.record (c.recordKey node) = some r := (standing.record_eq _).symm.trans at_key
    refine Prog.Always.pendingRemove_of_spares (Surroundings.solo_spares call op) wellKeyed ?_
    rintro _ rfl _
    have standing := standing.append_forget claim
    have forgotten : v.pending.remove claim = w.pending.remove claim := by
      rcases same with same | same
      · rw [same]
      · rw [same, PendingTracker.remove_remove]
    change Prog.Always _ _ _ (ite _ _ _) _ _
    split
    · next known =>
      obtain ⟨devices, known⟩ := SortedMap.contains_iff.mp known
      refine Prog.Always.rewrite_of_spares (Surroundings.solo_spares call op) (.release claim) rfl
        standing.wellKeyed (World.Saw.of_record standing.wellKeyed at_key) ?_ ?_
      · rintro _ rfl _ at_r
        exact ⟨.released key known ⟨key ▸ at_w, .append_rewrite standing.still at_r, standing.put_store _,
          forgotten⟩, standing.own⟩
      · rintro _ s e rfl _ quiet
        exact ⟨standing.append_quiet quiet, .inr forgotten⟩
    · next unknown =>
      have absent : w.allocation (c.recordKey node) claim = none := by
        rw [World.allocation, at_w]
        exact SortedMap.get?_of_not_contains unknown
      exact ⟨.unknown absent ⟨standing.still, standing.store⟩, standing.own⟩
  · rintro _ s rfl _ quiet
    exact ⟨standing.append_quiet quiet, same⟩

/-- Where no other call is made, a call that takes a claim back writes the record of the node once, or
it leaves the store as it is. -/
theorem deallocate_solo {claim : ResourceClaim}
    (selected : claim.allocation.bind AllocationResult.selectedNode = some node)
    (wellKeyed : w.WellKeyed) :
    (c.deallocate claim).Always (.solo call op)
      (fun steps result v => c.Returns claim.uid node w steps result v) (fun _ _ => True) [] w := by
  unfold deallocate
  rw [selected]
  refine Prog.Always.lock_of_spares (Surroundings.solo_spares call op) wellKeyed ?_
  rintro _ s rfl _ quiet
  have standing : Standing node call w [s] (w.setHolder node (some call)) :=
    ⟨fun _ member => List.mem_singleton.mp member ▸ quiet.keeps_store, rfl, wellKeyed,
      Function.update_self ..⟩
  refine Prog.Always.bind ((Prog.Always.retry
    (fun _ _ ready => deallocateOnce_solo ready.1 ready.2)
    (fun _ _ _ delay ready same => by
      obtain ⟨ends, unchanged⟩ := Surroundings.solo_sleep same delay
      refine ⟨ends, fun answer w₂ answers => ?_⟩
      obtain ⟨rfl, rfl⟩ := unchanged answer w₂ answers
      exact ⟨ready.1.append_quiet ⟨rfl, rfl⟩, ready.2⟩)
    (fun _ _ _ _ => trivial) ⟨standing, .inl rfl⟩).weaken fun steps result v reached => ?_)
  cases result with
  | error e =>
    refine Prog.Always.unlock_of_spares (Surroundings.solo_spares call op) reached.1.own ?_
    rintro _ rfl
    exact .refused ⟨Step.still_next reached.1.still (Step.keepsStore_unlock _ node), reached.1.store⟩
  | ok _ =>
    refine Prog.Always.unlock_of_spares (Surroundings.solo_spares call op) reached.2 ?_
    rintro _ rfl
    cases reached.1 with
    | released key recorded wrote =>
      exact .released key recorded ⟨wrote.replaced,
        wrote.once.append_keeping (Step.keepsStore_unlock _ node), wrote.store, wrote.pending⟩
    | unknown absent left =>
      exact .unknown absent ⟨Step.still_next left.still (Step.keepsStore_unlock _ node), left.store⟩

end Controller

namespace Operation

variable {c : Controller} {claim : ClaimUid} {node : String} {w w' : World} {steps : List (Step World)}

/-- A run of a call that allocates a claim has come to one of its ends. -/
theorem Runs.allots_of_allocate {result : Except DriverError AllocationResult}
    (runs : (allocate c claim node).Runs w steps result w') (wellKeyed : w.WellKeyed) :
    c.Allots claim node w steps result w' := by
  cases runs with
  | intro begun course =>
    cases begun
    exact (Controller.allocate_solo wellKeyed).post_of_course course

/-- A run of a call that takes a claim back has come to one of its ends. -/
theorem Runs.returns_of_deallocate {returned : ResourceClaim} {result : Except DriverError Unit}
    (runs : (deallocate c returned).Runs w steps result w')
    (selected : returned.allocation.bind AllocationResult.selectedNode = some node)
    (wellKeyed : w.WellKeyed) : c.Returns returned.uid node w steps result w' := by
  cases runs with
  | intro begun course =>
    cases begun
    exact (Controller.deallocate_solo selected wellKeyed).post_of_course course

end Operation

end DeviceClaims
