import DeviceClaims.Proofs.Change
import DeviceClaims.Proofs.Conflicts
import DeviceClaims.Proofs.Prepared

namespace DeviceClaims

namespace Operation

/-- How a call repeats its attempts, if it writes a record. -/
def policy? : Operation → Option RetryPolicy
  | filter .. => none
  | allocate c .. | deallocate c _ => some c.retry
  | start p _ | prepare p _ | unprepare p _ | shutdown p => some p.retry
  | setStatus _ _ policy => some policy

/-- A call did what it was asked. -/
def Succeeds : (op : Operation) → op.Result → Prop
  | filter .., _ => True
  | allocate .., result | deallocate .., result | start .., result | shutdown _, result
  | setStatus .., result => result.isOk
  | prepare .., (outcome, _) | unprepare .., (outcome, _) => outcome.failure = none

/-- A call failed for a reason that its store gave. -/
def FailsWith (e : StoreError) : (op : Operation) → op.Result → Prop
  | filter .., _ => False
  | allocate .., result | deallocate .., result => result = .error (.store e)
  | start .., result | shutdown _, result => result = .error (.store e)
  | setStatus .., result => result = .error e
  | prepare _ claim, (outcome, _) => outcome.failure =
    some ("error preparing devices for claim " ++ claim.uid.text ++ ": " ++ e.message)
  | unprepare _ claim, (outcome, _) => outcome.failure =
    some ("error unpreparing devices for claim " ++ claim.uid.text ++ ": " ++ e.message)

end Operation

theorem DriverError.wraps_store : Retryable.Wraps DriverError.store := ⟨fun _ => rfl, fun _ _ => rfl⟩

theorem PluginError.wraps_store : Retryable.Wraps PluginError.store := ⟨fun _ => rfl, fun _ _ => rfl⟩

section

variable {inner : Backend} {pending : PendingTracker} {specs : FaultySpecDir} {calls : Nat}

/-- A program that weathers planned conflicts ends as it does without them, and has counted one update
more for each. -/
theorem Prog.Weathers.run_of_few_conflicts {β : Type} {p : Prog β} {budget : Nat} {failed : β → Prop}
    {b : β} {t : Site}
    (weathers : p.Weathers budget failed inner pending specs)
    (ran : Site.run p (.conflicting inner pending specs calls 0) = (some b, t)) {n : Nat}
    (few : n < budget) : Site.run p (.conflicting inner pending specs calls n) =
      (some b, { t with store := { t.store with updateCalls := t.store.updateCalls + n } }) := by
  obtain ⟨result, inner', pending', specs', more, runs⟩ := run_calls p inner pending specs
  rw [(weathers calls n).1 few, runs]
  rw [runs] at ran
  cases ran
  refine Prod.ext rfl ?_
  change Site.conflicting inner' pending' specs' (calls + n + more) 0 =
    Site.conflicting inner' pending' specs' (calls + more + n) 0
  rw [Nat.add_right_comm]

theorem Prog.run_locked {β : Type} {p : Prog β} {node : String} {s : Site} :
    Site.run (.locked node p) s = Site.run p s := by
  change Site.run (p.bind fun b => .ask (.unlock node) fun _ => .done b) s = _
  simp only [Site.run, run_bind]
  cases p.run Site.answer s with
  | mk result s' => cases result <;> rfl

/-- What goes on only after success weathers the conflicts of what comes first. -/
theorem Prog.Weathers.thenOk {α β ε : Type} {p : Prog (Except ε α)} {f : α → Prog (Except ε β)}
    {wrap : StoreError → ε} {budget : Nat}
    (weathers : p.Weathers budget (Spent wrap budget) inner pending specs) :
    (p.thenOk f).Weathers budget (Spent wrap budget) inner pending specs := by
  refine weathers.bind fun result s spent => ?_
  obtain ⟨last, rfl⟩ := spent
  exact ⟨_, s, rfl, ⟨last, rfl⟩, rfl⟩

theorem mapError_ok {α ε ε' : Type} (f : ε → ε') (a : α) :
    (Except.ok a : Except ε α).mapError f = .ok a := rfl

namespace Prog

variable {α ε : Type}

theorem mapError_id (p : Prog (Except ε α)) : p.mapError id = p := by
  refine Eq.trans (congrArg p.bind (funext fun result => ?_)) p.bind_done
  cases result <;> rfl

theorem thenOk_done (p : Prog (Except ε α)) : (p.thenOk fun a => .done (.ok a)) = p := by
  refine Eq.trans (congrArg p.bind (funext fun result => ?_)) p.bind_done
  cases result <;> rfl

end Prog

/-- To set a status is one attempt to write it. -/
theorem StoreClient.setStatus_weathers {key : ObjectKey} {status : Readiness} {policy : RetryPolicy}
    (steady : policy.Steady) {r : NodeRecord} {t : Site}
    (ran : Site.run ((setStatus key status).retry policy) (.conflicting inner pending specs calls 0) =
      (some (.ok r), t)) :
    ((setStatus key status).retry policy).Weathers policy.budget (Spent id policy.budget) inner pending
      specs := by
  have shape : setStatus key status = ((get key).mapError id).thenOk fun base =>
      ((Prog.store (.update { base with status })).mapError id).thenOk fun r => .done (.ok r) := by
    rw [Prog.mapError_id]
    refine congrArg (Prog.thenOk (get key)) (funext fun base => ?_)
    exact ((Prog.thenOk_done _).trans (Prog.mapError_id _)).symm
  rw [shape] at ran ⊢
  exact Prog.modify_weathers steady StoreError.wraps_id ran

theorem Prog.site_run_spec {β : Type} {a : SpecAccess} {f : Except String Unit → Prog β} {s : Site} :
    Site.run ((Prog.spec a).bind f) s =
      Site.run (f (s.specs.apply a).1) { s with specs := (s.specs.apply a).2 } := rfl

theorem Prog.run_spec {β : Type} {a : SpecAccess} {f : Except String Unit → Prog β} {calls n : Nat} :
    Site.run ((Prog.spec a).bind f) (.conflicting inner pending specs calls n) =
      Site.run (f (specs.apply a).1) (.conflicting inner pending (specs.apply a).2 calls n) := rfl

/-- To give a claim up in the plugin's own state leaves the store alone. -/
theorem DeviceState.run_unprepare (state : DeviceState) (claim : ClaimUid) (s : Site) :
    ∃ given s', Site.run (state.unprepare claim) s = (some given, s') ∧ s'.store = s.store := by
  unfold unprepare
  split
  · rw [Prog.site_run_spec]
    cases (s.specs.apply (.deleteClaim claim)).1 <;> exact ⟨_, _, rfl, rfl⟩
  · exact ⟨_, s, rfl, rfl⟩

namespace Plugin

variable {p : Plugin}

theorem shutdown_weathers (steady : p.retry.Steady) {t : Site}
    (ran : Site.run p.shutdown (.conflicting inner pending specs calls 0) = (some (.ok ()), t)) :
    p.shutdown.Weathers p.retry.budget (Spent .store p.retry.budget) inner pending specs :=
  Prog.modify_weathers steady PluginError.wraps_store ran

/-- To publish what is prepared is one attempt to write it. -/
theorem persist_weathers (steady : p.retry.Steady) {s : DeviceState} {released : Option ClaimUid}
    {t : Site} (ran : Site.run (p.persist s released) (.conflicting inner pending specs calls 0) =
      (some (.ok ()), t)) :
    (p.persist s released).Weathers p.retry.budget (Spent .store p.retry.budget) inner pending specs :=
  Prog.modify_weathers steady PluginError.wraps_store ran

theorem run_write {a : SpecAccess} (calls n : Nat) :
    Site.run (write a) (.conflicting inner pending specs calls n) =
      (some ((specs.apply a).1.mapError PluginError.specFile),
        .conflicting inner pending (specs.apply a).2 calls n) := by
  change Site.run ((Prog.done (specs.apply a).1).mapError PluginError.specFile)
    (.conflicting inner pending (specs.apply a).2 calls n) = _
  cases (specs.apply a).1 <;> rfl

theorem run_rewrite {inner' : Backend} {r stored : NodeRecord} {α : Type}
    {f : NodeRecord → Prog (Except PluginError α)}
    (written : inner.apply (.update r) = (.ok stored, inner')) (calls : Nat) :
    Site.run (((Prog.store (.update r)).mapError PluginError.store).thenOk f)
        (.conflicting inner pending specs calls 0) =
      Site.run (f stored) (.conflicting inner' pending specs (calls + 1) 0) := by
  change Site.run (((Prog.done (inner.apply (.update r)).1).mapError PluginError.store).thenOk f)
    (.conflicting (inner.apply (.update r)).2 pending specs (calls + 1) 0) = _
  rw [written]
  rfl

/-- What follows the first of the three writes of a start: no conflict can end it, since the record is
in hand that was written. -/
theorem publish_settled {count : Nat} {inner' : Backend} {r stored : NodeRecord}
    (written : inner.apply (.update r) = (.ok stored, inner')) {e : PluginError} {s : Site}
    (failed : Site.run
      (if Emulator.maxDeviceCount < count then .crash else
        (write (.writeCommon (.common p.key.name))).thenOk fun _ =>
          match (DeviceState.ofDevices (Emulator.devices p.key.name count)).sync stored.spec with
          | .error e => .done (.error e)
          | .ok state =>
            (update stored (state.updatedSpec stored.spec)).thenOk fun record =>
            (setStatus record .ready).thenOk fun _ => .done (.ok state))
      (.conflicting inner' pending specs calls 0) = (some (.error e), s)) :
    Retryable.isConflict e = false := by
  split at failed
  · cases failed
  rw [Prog.thenOk, Prog.site_run_bind (run_write calls 0)] at failed
  cases answered : (specs.apply (.writeCommon (.common p.key.name))).1 with
  | error detail =>
    rw [answered] at failed
    cases failed
    rfl
  | ok _ =>
    simp only [answered, mapError_ok] at failed
    split at failed
    · next synced =>
      obtain ⟨_, _, _, _, _, _, rfl⟩ := DeviceState.sync_error synced
      cases failed
      rfl
    · next state _ =>
      let published := { stored with spec := state.updatedSpec stored.spec }
      obtain ⟨_, again⟩ := Backend.update_again published written rfl
      let ready := { published.withVersion (published.version + 1) with status := .ready }
      obtain ⟨_, last⟩ := Backend.update_again ready again rfl
      rw [update, StoreClient.updateSpec, run_rewrite again, setStatus, StoreClient.updateStatus,
        run_rewrite last] at failed
      cases failed

/-- A start on a record that is there meets conflicts only at its first write; the other two write on
what that one stored. -/
theorem start_weathers (steady : p.retry.Steady) {count : Nat} {r : NodeRecord}
    (existing : inner.get p.key = .ok r) {state : DeviceState} {t : Site}
    (ran : Site.run (p.start count) (.conflicting inner pending specs calls 0) =
      (some (.ok state), t)) :
    (p.start count).Weathers p.retry.budget (Spent .store p.retry.budget) inner pending specs := by
  have reads : ∀ calls n, Site.run (p.startOnce count) (.conflicting inner pending specs calls n) =
      Site.run (p.publishOn count r) (.conflicting inner pending specs calls n) := by
    intro calls n
    have read : Site.run (StoreClient.get p.key) (.conflicting inner pending specs calls n) =
        (some (.ok r), .conflicting inner pending specs calls n) := by
      rw [← existing]
      rfl
    have found : Site.run (StoreClient.getOrCreate p.key) (.conflicting inner pending specs calls n) =
        (some (.ok r), .conflicting inner pending specs calls n) := Prog.site_run_bind read
    have wrapped : Site.run ((StoreClient.getOrCreate p.key).mapError PluginError.store)
        (.conflicting inner pending specs calls n) =
        (some (.ok r), .conflicting inner pending specs calls n) := Prog.site_run_bind found
    exact Prog.site_run_bind wrapped
  let writes : Attempt (p.publishOn count r) inner specs pending :=
    .write PluginError.wraps_store fun written _ _ _ failed => publish_settled written failed
  exact (writes.of_run rfl reads).retry_weathers steady ran

/-- To prepare a claim without a handle is one attempt to publish, after what touches no record. -/
theorem prepareClaim_weathers (steady : p.retry.Steady) {claim : NodeClaim} (plain : claim.handles = [])
    {state state' : DeviceState} {names : List String} {t : Site}
    (ran : Site.run (p.prepareClaim claim state) (.conflicting inner pending specs calls 0) =
      (some (.ok names, state'), t)) (writes : calls < t.store.updateCalls) :
    (p.prepareClaim claim state).Weathers p.retry.budget (Spent .store p.retry.budget ·.1) inner pending
      specs := by
  unfold prepareClaim get at ran ⊢
  rw [Prog.run_read] at ran
  refine .of_run (fun _ _ => Prog.run_read _ _) ?_
  cases found : inner.get p.key with
  | error e =>
    rw [found] at ran
    cases ran
  | ok record =>
  simp only [found, mapError_ok] at ran ⊢
  cases named : state.claimNames? claim.uid with
  | some names =>
    simp only [named] at ran
    cases ran
    exact absurd writes (Nat.lt_irrefl _)
  | none =>
  cases allocated : record.spec.allocated.get? claim.uid with
  | none =>
    simp only [named, allocation, plain, allocated] at ran
    cases ran
  | some devices =>
  cases expanded : state.expandAll devices with
  | error e =>
    simp only [named, allocation, plain, allocated, Prog.bind, DeviceState.prepare, expanded] at ran
    cases ran
  | ok ds =>
  simp only [named, allocation, plain, allocated, Prog.bind, DeviceState.prepare, expanded] at ran ⊢
  rw [Prog.bind_assoc, Prog.run_spec] at ran
  rw [Prog.bind_assoc]
  refine .of_run (fun _ _ => Prog.run_spec) ?_
  cases wrote : (specs.apply (.writeClaim claim.uid (.ofClaim (ds.map (·.uuid))))).1 with
  | error detail =>
    rw [wrote] at ran
    cases ran
  | ok _ =>
  simp only [wrote, Prog.bind] at ran ⊢
  obtain ⟨persisted, s₁, attempts, rest⟩ := Prog.site_run_bind_some ran
  cases persisted with
  | error e =>
    obtain ⟨_, _, _, last⟩ := Prog.site_run_bind_some rest
    cases last
  | ok _ =>
    refine (persist_weathers steady attempts).bind fun result s spent => ?_
    obtain ⟨last, rfl⟩ := spent
    obtain ⟨given, s', ran, same⟩ := DeviceState.run_unprepare
      { state with prepared := state.prepared.insert claim.uid ds } claim.uid s
    exact ⟨_, s', Prog.site_run_bind ran, ⟨last, rfl⟩, same⟩

/-- A prepared claim that cost an update weathers conflicts as its one attempt to publish does. -/
theorem prepare_weathers (steady : p.retry.Steady) {claim : NodeClaim} (plain : claim.handles = [])
    {state state' : DeviceState} {outcome : PrepareOutcome} {t : Site}
    (ran : Site.run (p.prepare claim state) (.conflicting inner pending specs calls 0) =
      (some (outcome, state'), t)) (succeeds : outcome.failure = none)
    (writes : calls < t.store.updateCalls) :
    (p.prepare claim state).Weathers p.retry.budget (fun b => ∃ last, b.1.failure =
      some ("error preparing devices for claim " ++ claim.uid.text ++ ": " ++
        (StoreError.persistence p.retry.budget last).message)) inner pending specs := by
  obtain ⟨⟨result, state₁⟩, s₁, ran₁, rest⟩ := Prog.site_run_bind_some ran
  cases result with
  | error e =>
    cases rest
    cases succeeds
  | ok names =>
    cases rest
    refine (prepareClaim_weathers steady plain ran₁ writes).bind ?_
    rintro ⟨_, state₂⟩ s ⟨last, rfl⟩
    exact ⟨_, s, rfl, ⟨last, rfl⟩, rfl⟩

/-- To give a claim up without a handle is one attempt to publish, before what touches no record. -/
theorem unprepareClaim_weathers (steady : p.retry.Steady) {claim : NodeClaim}
    (plain : claim.handles = []) {state state' : DeviceState} {t : Site}
    (ran : Site.run (p.unprepareClaim claim state) (.conflicting inner pending specs calls 0) =
      (some (.ok (), state'), t)) (writes : calls < t.store.updateCalls) :
    (p.unprepareClaim claim state).Weathers p.retry.budget (Spent .store p.retry.budget ·.1) inner
      pending specs := by
  unfold unprepareClaim get at ran ⊢
  rw [Prog.run_read] at ran
  refine .of_run (fun _ _ => Prog.run_read _ _) ?_
  cases found : inner.get p.key with
  | error e =>
    rw [found] at ran
    cases ran
  | ok record =>
  simp only [found, mapError_ok] at ran ⊢
  by_cases named : state.isPrepared claim.uid
  · simp only [named, plain, List.isEmpty_nil, if_true, Prog.bind] at ran ⊢
    obtain ⟨persisted, s₁, attempts, rest⟩ := Prog.site_run_bind_some ran
    cases persisted with
    | error e => cases rest
    | ok _ =>
      refine (persist_weathers steady attempts).bind fun result s spent => ?_
      obtain ⟨last, rfl⟩ := spent
      exact ⟨_, s, rfl, ⟨last, rfl⟩, rfl⟩
  · by_cases stale : record.spec.prepared.contains claim.uid
    · simp only [named, stale, Bool.false_eq_true, if_false, if_true] at ran ⊢
      obtain ⟨persisted, s₁, attempts, rest⟩ := Prog.site_run_bind_some ran
      cases rest
      refine (persist_weathers steady attempts).bind fun result s spent => ?_
      exact ⟨_, s, rfl, spent, rfl⟩
    · simp only [named, stale, Bool.false_eq_true, if_false] at ran
      cases ran
      exact absurd writes (Nat.lt_irrefl _)

/-- A claim given up that cost an update weathers conflicts as its one attempt to publish does. -/
theorem unprepare_weathers (steady : p.retry.Steady) {claim : NodeClaim} (plain : claim.handles = [])
    {state state' : DeviceState} {outcome : UnprepareOutcome} {t : Site}
    (ran : Site.run (p.unprepare claim state) (.conflicting inner pending specs calls 0) =
      (some (outcome, state'), t)) (succeeds : outcome.failure = none)
    (writes : calls < t.store.updateCalls) :
    (p.unprepare claim state).Weathers p.retry.budget (fun b => ∃ last, b.1.failure =
      some ("error unpreparing devices for claim " ++ claim.uid.text ++ ": " ++
        (StoreError.persistence p.retry.budget last).message)) inner pending specs := by
  obtain ⟨⟨result, state₁⟩, s₁, ran₁, rest⟩ := Prog.site_run_bind_some ran
  cases result with
  | error e =>
    cases rest
    cases succeeds
  | ok _ =>
    cases rest
    refine (unprepareClaim_weathers steady plain ran₁ writes).bind ?_
    rintro ⟨_, state₂⟩ s ⟨last, rfl⟩
    exact ⟨_, s, rfl, ⟨last, rfl⟩, rfl⟩

end Plugin

namespace Controller

variable {c : Controller} {claim : ClaimUid} {node : String}

theorem run_look {α : Type} {f : Option (List AllocatedDevice) → Prog α} {s : Site}
    {reserved : Option (List AllocatedDevice)} (found : s.pending.get? claim node = reserved) :
    Site.run ((PendingClient.get claim node).bind f) s = Site.run (f reserved) s := by
  subst found
  rfl

/-- Attempts to record a claim that succeed find it recorded, or come to an update. -/
theorem allocateOnce_attempt {recorded : Bool} {s : Site}
    (ran : Site.run ((c.allocateOnce claim node).retry c.retry)
      (.conflicting inner pending specs calls 0) = (some (.ok recorded), s)) :
    s.store.updateCalls = calls ∨
      ∃ t : Attempt (c.allocateOnce claim node) inner specs pending, t.wrap = .store := by
  obtain ⟨r, _, reads⟩ := Prog.read_of_retry DriverError.wraps_store ran
  have ends : ∀ result : Except DriverError Bool,
      Site.run (c.allocateOnce claim node) (.conflicting inner pending specs calls 0) =
        (some result, .conflicting inner pending specs calls 0) →
      (∀ e, result = .error e → Retryable.isConflict e = false) → s.store.updateCalls = calls := by
    intro result attempt last
    rw [Prog.retry, Prog.run_attempts_last attempt last] at ran
    cases ran
    rfl
  by_cases known : r.spec.allocated.contains claim
  · refine .inl (ends (.ok false) ((reads pending calls 0).trans ?_) fun _ no => by cases no)
    rw [if_pos known]
    rfl
  by_cases ready : r.isReady
  · cases found : pending.get? claim node with
    | none =>
      refine .inl (ends (.error (.pendingNotFound claim node)) ((reads pending calls 0).trans ?_) ?_)
      · rw [if_neg known, if_neg (by simpa using ready)]
        rw [Allocator.assign, Prog.thenOk, Prog.bind_assoc]
        exact run_look (s := .conflicting inner pending specs calls 0) found
      · rintro _ ⟨⟩
        rfl
    | some devices =>
      let spec := { r.spec with allocated := r.spec.allocated.insert claim devices }
      let writes : Attempt (((StoreClient.updateSpec r spec).mapError DriverError.store).thenOk
          fun _ => .done (.ok true)) inner specs pending :=
        .write DriverError.wraps_store fun _ _ _ _ failed => by cases failed
      refine .inr ⟨writes.of_run rfl fun calls n => (reads pending calls n).trans ?_, rfl⟩
      rw [if_neg known, if_neg (by simpa using ready)]
      rw [Allocator.assign, Prog.thenOk, Prog.bind_assoc]
      exact run_look (s := .conflicting inner pending specs calls n) found
  · refine .inl (ends (.error (.notReady node)) ((reads pending calls 0).trans ?_) ?_)
    · rw [if_neg known, if_pos (by simpa using ready)]
      rfl
    · rintro _ ⟨⟩
      rfl

/-- To allocate is one attempt to write the claim, if it is not recorded already. -/
theorem allocate_weathers (steady : c.retry.Steady) {result : AllocationResult} {t : Site}
    (ran : Site.run (c.allocate claim node) (.conflicting inner pending specs calls 0) =
      (some (.ok result), t)) (writes : calls < t.store.updateCalls) :
    (c.allocate claim node).Weathers c.retry.budget (Spent .store c.retry.budget) inner pending specs := by
  unfold allocate at ran ⊢
  split at ran
  · cases ran
  next named =>
  rw [if_neg named]
  rw [Prog.run_locked] at ran
  obtain ⟨recorded, s, attempts, tail⟩ := Prog.site_run_bind_some ran
  cases recorded with
  | error e => cases tail
  | ok recorded =>
    have same : t.store = s.store := by cases recorded <;> cases tail <;> rfl
    rcases allocateOnce_attempt attempts with idle | ⟨attempt, wrap⟩
    · rw [same, idle] at writes
      exact absurd writes (Nat.lt_irrefl _)
    · have weathers := attempt.retry_weathers steady attempts
      rw [wrap] at weathers
      exact .of_run (fun _ _ => Prog.run_locked) weathers.thenOk

/-- Attempts to take a claim back that succeed find nothing to take, or come to an update. -/
theorem deallocateOnce_attempt {s : Site}
    (ran : Site.run ((c.deallocateOnce claim node).retry c.retry)
      (.conflicting inner pending specs calls 0) = (some (.ok ()), s)) :
    s.store.updateCalls = calls ∨
      ∃ t : Attempt (c.deallocateOnce claim node) inner specs pending, t.wrap = .store := by
  obtain ⟨r, _, reads⟩ := Prog.read_of_retry DriverError.wraps_store ran
  by_cases known : r.spec.allocated.contains claim
  · let spec := { r.spec with allocated := r.spec.allocated.erase claim }
    let writes : Attempt (((StoreClient.updateSpec r spec).mapError DriverError.store).thenOk
        fun _ => .done (.ok ())) inner specs (pending.remove claim) :=
      .write DriverError.wraps_store fun _ _ _ _ failed => by cases failed
    have forgets : ∀ tracker : PendingTracker, tracker.remove claim = pending.remove claim →
        ∀ calls n, Site.run (c.deallocateOnce claim node) (.conflicting inner tracker specs calls n) =
          Site.run (.ask (.store (.update writes.record)) writes.next)
            (.conflicting inner (pending.remove claim) specs calls n) := by
      intro tracker same calls n
      refine (reads tracker calls n).trans (Eq.trans ?_ (writes.comes calls n))
      change Site.run (ite _ _ _) (.conflicting inner (tracker.remove claim) specs calls n) = _
      rw [if_pos known, same]
    exact .inr ⟨{ writes with
      comes := forgets pending rfl
      again := forgets _ (pending.remove_remove claim) }, rfl⟩
  · have attempt : Site.run (c.deallocateOnce claim node) (.conflicting inner pending specs calls 0) =
        (some (.ok ()), .conflicting inner (pending.remove claim) specs calls 0) := by
      refine (reads pending calls 0).trans ?_
      change Site.run (ite _ _ _) (.conflicting inner (pending.remove claim) specs calls 0) = _
      rw [if_neg known]
      rfl
    rw [Prog.retry, Prog.run_attempts_last attempt fun _ no => by cases no] at ran
    cases ran
    exact .inl rfl

/-- To deallocate is one attempt to write the record without the claim, if it is recorded. -/
theorem deallocate_weathers {claim : ResourceClaim} (steady : c.retry.Steady) {t : Site}
    (ran : Site.run (c.deallocate claim) (.conflicting inner pending specs calls 0) =
      (some (.ok ()), t)) (writes : calls < t.store.updateCalls) :
    (c.deallocate claim).Weathers c.retry.budget (Spent .store c.retry.budget) inner pending specs := by
  cases selected : claim.allocation.bind AllocationResult.selectedNode with
  | none =>
    simp only [deallocate, selected] at ran
    cases ran
    exact absurd writes (Nat.lt_irrefl _)
  | some node =>
    simp only [deallocate, selected] at ran ⊢
    rw [Prog.run_locked] at ran
    rcases deallocateOnce_attempt ran with idle | ⟨attempt, wrap⟩
    · rw [idle] at writes
      exact absurd writes (Nat.lt_irrefl _)
    · have weathers := attempt.retry_weathers steady ran
      rw [wrap] at weathers
      exact .of_run (fun _ _ => Prog.run_locked) weathers

end Controller

namespace Operation

/-- A call that succeeds and writes when nothing goes wrong weathers planned conflicts. -/
theorem program_weathers {op : Operation} {policy : RetryPolicy} {w : World} {prog : Prog op.Result}
    (begun : op.program w = some prog) (retries : op.policy? = some policy) (plain : op.Plain)
    (steady : policy.Steady)
    (existing : ∀ p count, op = .start p count → ∃ r, inner.get p.key = .ok r)
    {result : op.Result} {t : Site}
    (ran : Site.run prog (.conflicting inner pending specs calls 0) = (some result, t))
    (succeeds : op.Succeeds result) (writes : calls < t.store.updateCalls) :
    prog.Weathers policy.budget (fun b => ∃ last, op.FailsWith (.persistence policy.budget last) b)
      inner pending specs := by
  cases op with
  | filter => cases retries
  | allocate c claim node =>
    cases begun
    cases retries
    cases result with
    | error e => cases succeeds
    | ok => exact Controller.allocate_weathers steady ran writes
  | deallocate c claim =>
    cases begun
    cases retries
    cases result with
    | error e => cases succeeds
    | ok => exact Controller.deallocate_weathers steady ran writes
  | start p count =>
    obtain ⟨r, existing⟩ := existing p count rfl
    simp only [program] at begun
    split at begun <;> cases begun
    cases retries
    cases result with
    | error e => cases succeeds
    | ok => exact Plugin.start_weathers steady existing ran
  | prepare p claim =>
    simp only [program] at begun
    split at begun <;> cases begun
    cases retries
    exact Plugin.prepare_weathers steady plain ran succeeds writes
  | unprepare p claim =>
    simp only [program] at begun
    split at begun <;> cases begun
    cases retries
    exact Plugin.unprepare_weathers steady plain ran succeeds writes
  | shutdown p =>
    cases begun
    cases retries
    cases result with
    | error e => cases succeeds
    | ok => exact Plugin.shutdown_weathers steady ran
  | setStatus key status policy =>
    cases begun
    cases retries
    cases result with
    | error e => cases succeeds
    | ok => exact StoreClient.setStatus_weathers steady ran

/-- A call that succeeds and writes when nothing goes wrong does the same, conflict for conflict with
one update more, as long as the conflicts are fewer than its attempts; otherwise it fails when its
attempts are used up, and the store is as it was. -/
theorem conflicts_cost_updates {op : Operation} {policy : RetryPolicy} {w : World}
    {prog : Prog op.Result} (begun : op.program w = some prog) (retries : op.policy? = some policy)
    (plain : op.Plain) (steady : policy.Steady) {inner : Backend} {pending : PendingTracker}
    {specs : FaultySpecDir} {calls : Nat}
    (existing : ∀ p count, op = .start p count → ∃ r, inner.get p.key = .ok r)
    {result : op.Result} {t : Site}
    (ran : Site.run prog (.conflicting inner pending specs calls 0) = (some result, t))
    (succeeds : op.Succeeds result) (writes : calls < t.store.updateCalls) (n : Nat) :
    (n < policy.budget → Site.run prog (.conflicting inner pending specs calls n) =
      (some result, { t with store := { t.store with updateCalls := t.store.updateCalls + n } })) ∧
    (policy.budget ≤ n → ∃ failure s last,
      Site.run prog (.conflicting inner pending specs calls n) = (some failure, s) ∧
        op.FailsWith (.persistence policy.budget last) failure ∧
        s.store.inner = inner ∧ s.store.updateCalls = calls + policy.budget) := by
  have weathers := program_weathers begun retries plain steady existing ran succeeds writes
  refine ⟨weathers.run_of_few_conflicts ran, fun many => ?_⟩
  obtain ⟨failure, s, ran, ⟨last, fails⟩, kept⟩ := (weathers calls n).2 many
  exact ⟨failure, s, last, ran, fails, kept⟩

end Operation

end

namespace Conflicted

def plugin : Plugin := { key := ⟨"default", "node"⟩ }

def stored : Backend := .memory ⟨SortedMap.empty.insert plugin.key (.new "node" "default")⟩

end Conflicted

open Conflicted in
/-- A node whose record is there and not ready starts with one device, after four conflicts. -/
theorem Operation.conflicts_cost_updates_start :
    ∃ state t, Site.run (plugin.start 1) (.conflicting stored {} {} 0 0) = (some (.ok state), t) ∧
      Site.run (plugin.start 1) (.conflicting stored {} {} 0 4) = (some (.ok state),
        { t with store := { t.store with updateCalls := t.store.updateCalls + 4 } }) ∧
      t.store.updateCalls = 3 ∧
      ∃ s last, Site.run (plugin.start 1) (.conflicting stored {} {} 0 5) =
          (some (.error (.store (.persistence 5 last))), s) ∧
        s.store.inner = stored ∧ s.store.updateCalls = 5 := by
  have existing : stored.get plugin.key = .ok (.new "node" "default") := by
    simp [stored, Backend.get, Backend.apply, MemoryStore.apply, MemoryStore.get]
  have shown : ((Site.run (plugin.start 1) (.conflicting stored {} {} 0 0)).1.any (·.isOk)) = true ∧
      (Site.run (plugin.start 1) (.conflicting stored {} {} 0 0)).2.store.updateCalls = 3 := by
    decide +kernel
  cases ran : Site.run (plugin.start 1) (.conflicting stored {} {} 0 0) with
  | mk result t =>
  rw [ran] at shown
  obtain ⟨succeeds, counted⟩ := shown
  obtain ⟨result, rfl, succeeds⟩ := (Option.any_eq_true _ _).mp succeeds
  cases result with
  | error e => cases succeeds
  | ok state =>
  have law := fun n => Operation.conflicts_cost_updates
    (show (Operation.start plugin 1).program {} = some (plugin.start 1) from rfl) rfl trivial
    (RetryPolicy.steady_default 5) (fun p count same => by cases same; exact ⟨_, existing⟩) ran rfl
    (by rw [counted]; decide) n
  obtain ⟨failure, s, last, failed, rfl, kept⟩ := (law 5).2 (by decide)
  exact ⟨state, t, rfl, (law 4).1 (by decide), counted, s, last, failed, kept⟩

end DeviceClaims
