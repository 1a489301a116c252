import DeviceClaims.Proofs.Filtering

namespace DeviceClaims

/-- A record was read that lists a claim. -/
inductive Step.Finds (claim : ClaimUid) (key : ObjectKey) : Step Site → Prop
  | listed {s s' : Site} {r : NodeRecord} (listed : r.spec.allocated.contains claim) :
      Finds claim key ⟨s, .store (.get key), (Except.ok r : Except StoreError NodeRecord), s'⟩

/-- Nothing is set aside for a claim on any node, so a pass over the claims of a node counts for it what
the node's record says. -/
structure Site.Freed (s : Site) (claim : ClaimUid) : Prop where
  forgotten : ∀ node, s.pending.get? claim node = none
  counted : ∀ record node, (Allocator.holdings record node).Alone
    (fun held _ => held.get? claim = record.spec.allocated.get? claim) s

/-- A claim that has nothing set aside keeps no device from others. -/
theorem Site.Freed.of_forgotten {s : Site} {claim : ClaimUid}
    (forgotten : ∀ node, s.pending.get? claim node = none) : s.Freed claim := by
  refine ⟨forgotten, fun record node => Allocator.holdings_held.weaken fun held s' is_held => ?_⟩
  rw [is_held.held, forgotten node, Option.or_none]

theorem Site.Freed.of_remove (s : Site) (claim : ClaimUid) :
    Site.Freed { s with pending := s.pending.remove claim } claim := by
  refine .of_forgotten fun node => ?_
  rw [PendingTracker.get?_remove, if_pos rfl]

/-- An access that is none to the keys of the tracker has one answer. -/
theorem Prog.Always.ask_given {α : Type} {post : List (Step Site) → α → Site → Prop}
    {crashed : List (Step Site) → Site → Prop} {steps : List (Step Site)} {s : Site} {a : Access}
    {next : a.Answer → Prog α} (noClaims : a ≠ .pending .claims) (noPairs : a ≠ .pending .pairs)
    (rest : (next (Site.answer a s).1).Always .alone post crashed
      (steps ++ [⟨s, a, (Site.answer a s).1, (Site.answer a s).2⟩]) (Site.answer a s).2) :
    (Prog.ask a next).Always .alone post crashed steps s := by
  refine .ask (fun _ _ => .inr ⟨_, _, .given a⟩) fun s₁ same answer s' answers => ?_
  cases same
  cases answers with
  | given _ => exact rest
  | claims => exact absurd rfl noClaims
  | pairs => exact absurd rfl noPairs

namespace Controller

variable {c : Controller} {claim : ClaimUid} {node : String} {steps : List (Step Site)} {s : Site}
  {crashed : List (Step Site) → Site → Prop}

/-- Attempts may be made from anywhere if they are again and again. -/
theorem retry_alone {α : Type} {p : Prog (Except DriverError α)}
    {ok : List (Step Site) → α → Site → Prop}
    (attempt : ∀ steps s, p.Always .alone (Prog.outcome ok fun _ _ => True)
      (fun _ _ => ¬ c.retry.Steady) steps s) :
    (p.retry c.retry).Always .alone (Prog.outcome ok fun _ _ => True) (fun _ _ => ¬ c.retry.Steady)
      steps s := by
  refine .retry (fun steps s _ => attempt steps s) (fun steps s s₁ delay _ same => ?_)
    (fun unsteady _ _ _ => unsteady) trivial
  exact ⟨⟨_, _, .given _⟩, fun _ _ _ => trivial⟩

/-- An attempt that records nothing has found the claim recorded already. -/
theorem allocateOnce_finds :
    (c.allocateOnce claim node).Always .alone
      (Prog.outcome (fun steps recorded _ => recorded = false →
        ∃ x ∈ steps, x.Finds claim (c.recordKey node)) fun _ _ => True) crashed steps s := by
  refine .ask_given nofun nofun ?_
  simp only [Site.answer, FaultyStore.apply]
  cases (s.store.get (c.recordKey node)).1 with
  | error e => trivial
  | ok r =>
    change Prog.Always _ _ _ (ite _ _ _) _ _
    split
    · next listed =>
      intro _
      exact ⟨_, List.mem_append_right _ (List.mem_singleton.mpr rfl), .listed listed⟩
    · split
      · trivial
      · refine .ask_given nofun nofun ?_
        simp only [Site.answer, PendingTracker.apply]
        cases s.pending.get? claim node with
        | none => trivial
        | some devices =>
          refine .ask_given nofun nofun ?_
          simp only [Site.answer, FaultyStore.apply]
          generalize FaultyStore.update _ _ = written
          obtain ⟨e | stored, store⟩ := written
          · trivial
          · exact nofun

/-- An attempt to take a claim back that succeeds leaves nothing set aside for it. -/
theorem deallocateOnce_frees :
    (c.deallocateOnce claim node).Always .alone
      (Prog.outcome (fun _ _ s => s.Freed claim) fun _ _ => True) crashed steps s := by
  refine .ask_given nofun nofun ?_
  simp only [Site.answer, FaultyStore.apply]
  cases (s.store.get (c.recordKey node)).1 with
  | error e => trivial
  | ok r =>
    refine .ask_given nofun nofun ?_
    simp only [Site.answer, PendingTracker.apply]
    change Prog.Always _ _ _ (ite _ _ _) _ _
    split
    · refine .ask_given nofun nofun ?_
      simp only [Site.answer, FaultyStore.apply]
      generalize FaultyStore.update _ _ = written
      obtain ⟨e | stored, store⟩ := written
      · trivial
      · exact Site.Freed.of_remove { s with store } claim
    · exact Site.Freed.of_remove { s with store := (s.store.get (c.recordKey node)).2 } claim

/-- A successful call has found the claim recorded already, or leaves nothing set aside for it. -/
theorem allocate_frees :
    (c.allocate claim node).Always .alone
      (fun steps result s => result.isOk →
        (∃ x ∈ steps, x.Finds claim (c.recordKey node)) ∨ s.Freed claim)
      (fun _ _ => ¬ c.retry.Steady) [] s := by
  unfold allocate
  split
  · exact nofun
  refine .ask_given nofun nofun (.bind (.thenOk ((retry_alone fun _ _ => allocateOnce_finds).weaken
    fun steps result s reached => ?_)))
  cases result with
  | error e => exact fun e => .ask_given nofun nofun nofun
  | ok recorded =>
    cases recorded with
    | false =>
      obtain ⟨x, member, finds⟩ := reached rfl
      exact .ask_given nofun nofun fun _ => .inl ⟨x, List.mem_append_left _ member, finds⟩
    | true =>
      refine .ask_given nofun nofun (.ask_given nofun nofun fun _ => .inr ?_)
      exact Site.Freed.of_remove s claim

/-- A successful call that has a node to go to leaves nothing set aside for its claim; one without does
nothing. -/
theorem deallocate_frees {claim : ResourceClaim} :
    (c.deallocate claim).Always .alone
      (fun _ result s' =>
        (claim.allocation.bind AllocationResult.selectedNode = none → result = .ok () ∧ s' = s) ∧
          (claim.allocation.bind AllocationResult.selectedNode ≠ none → result.isOk → s'.Freed claim.uid))
      (fun _ _ => ¬ c.retry.Steady) [] s := by
  unfold deallocate
  cases claim.allocation.bind AllocationResult.selectedNode with
  | none => exact ⟨fun _ => ⟨rfl, rfl⟩, fun named => absurd rfl named⟩
  | some node =>
    refine .ask_given nofun nofun (.bind ((retry_alone fun _ _ => deallocateOnce_frees).weaken
      fun steps result s reached => ?_))
    cases result with
    | error e => exact .ask_given nofun nofun ⟨nofun, nofun⟩
    | ok _ => exact .ask_given nofun nofun ⟨nofun, fun _ _ => reached⟩

/-- A call that succeeds in allocating a claim leaves nothing set aside for it on any node, unless it
found the claim on the record of its node. Nor does a call that succeeds in taking a claim back from the
node that its allocation names; one whose allocation names no node does nothing. -/
theorem allocate_and_deallocate_free (c : Controller) (claim : ResourceClaim) (node : String) (s : Site) :
    (c.allocate claim.uid node).Always .alone
        (fun steps result s' => result.isOk →
          (∃ x ∈ steps, x.Finds claim.uid (c.recordKey node)) ∨ s'.Freed claim.uid)
        (fun _ _ => ¬ c.retry.Steady) [] s ∧
      (c.deallocate claim).Always .alone
        (fun _ result s' =>
          (claim.allocation.bind AllocationResult.selectedNode = none → result = .ok () ∧ s' = s) ∧
            (claim.allocation.bind AllocationResult.selectedNode ≠ none → result.isOk →
              s'.Freed claim.uid))
        (fun _ _ => ¬ c.retry.Steady) [] s :=
  ⟨allocate_frees, deallocate_frees⟩

end Controller

namespace Rivals

def controller : Controller := { space := "default" }

def claim (n : UInt8) : ResourceClaim := { uid := ⟨⟨List.replicate 16 n, rfl⟩⟩, name := "claim" }

def wants (n : UInt8) : ClaimAllocation := ⟨claim n, { name := "class" }, { split := 2 }, {}, []⟩

def record (node : String) (n : UInt8) : NodeRecord where
  metadata := { name := node, space := "default" }
  spec := { allocatable := [⟨⟨⟨List.replicate 16 n, rfl⟩⟩, "model"⟩] }
  status := .ready

def site : Site where
  store := { inner := .memory ⟨SortedMap.ofList
    [(⟨"default", "near"⟩, record "near" 3), (⟨"default", "far"⟩, record "far" 4)]⟩ }

/-- The first claim is tried on both nodes. -/
def tried (s : Site) : Site := (s.run (controller.unsuitableNodes [wants 1] ["near", "far"])).2

/-- It is tried, allocated to the one that is near, and tried again. -/
def retried : Site := tried ((tried site).run (controller.allocate (claim 1).uid "near")).2

end Rivals

open Rivals in
/-- A call that finds the claim on the record, and one for a claim that was not allocated, succeed and
leave set aside what was. -/
theorem Controller.calls_leave_set_aside :
    let s₁ := retried.run (controller.allocate (claim 1).uid "near")
    let s₂ := (tried site).run (controller.deallocate (claim 1))
    (s₁.1.any (·.isOk) ∧ s₁.2.pending.contains (claim 1).uid "far") ∧
      s₂.1.any (·.isOk) ∧ s₂.2.pending.contains (claim 1).uid "far" := by
  decide +kernel

end DeviceClaims
