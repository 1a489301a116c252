import DeviceClaims.Proofs.Discipline.Plugins
import DeviceClaims.Proofs.Footprint
import DeviceClaims.Proofs.Machine.Calls

namespace DeviceClaims

variable {S : Setting} {call : Nat} {op : Operation} {α : Type} {w : World}

namespace Treads

open Discipline Discipline.Allowed

theorem pendingGet (claim : ClaimUid) (node : String) (w : World) :
    Treads S call op (PendingClient.get claim node) w :=
  Meets.ask_pendingGet fun v _ => done _ v

theorem pendingSet (controlled : op.controller? ≠ none) (claim : ClaimUid) (node : String)
    (devices : List AllocatedDevice) (w : World) :
    Treads S call op (PendingClient.set claim node devices) w :=
  Meets.ask_pendingSet fun _ _ => ⟨(Footprint.setPending _ controlled).ground_permits, done _ _⟩

theorem pendingRemove (controlled : op.controller? ≠ none) (claim : ClaimUid) (w : World) :
    Treads S call op (PendingClient.remove claim) w :=
  Meets.ask_pendingRemove fun _ _ => ⟨(Footprint.setPending _ controlled).ground_permits, done _ _⟩

theorem visitPairs {σ : Type} {visit : PendingClient.Visitor σ}
    (visits : ∀ s claim node devices w', Treads S call op (visit s claim node devices) w')
    (pairs : List (ClaimUid × String)) (s : σ) (w : World) :
    Treads S call op (PendingClient.visitPairs visit pairs s) w := by
  induction pairs generalizing s w with
  | nil => exact done s w
  | cons pair rest ih =>
    refine bind (pendingGet _ _ w) fun found w' => ?_
    cases found with
    | none => exact ih s w'
    | some devices => exact bind (visits _ _ _ _ w') ih

theorem visitNode {σ : Type} {visit : PendingClient.Visitor σ}
    (visits : ∀ s claim node devices w', Treads S call op (visit s claim node devices) w')
    (node : String) (s : σ) (w : World) :
    Treads S call op (PendingClient.visitNode node visit s) w :=
  bind (Meets.ask_pendingClaims fun v _ _ _ => done _ v) fun _ w' => visitPairs visits _ s w'

/-- To try a node changes the tracker and no record. -/
theorem tryNode (c : Controller) (controlled : op.controller? ≠ none) (pod : List ClaimAllocation)
    (node : String) (w : World) : Treads S call op (c.tryNode pod node) w := by
  refine locked fun w' => bind (Meets.ask_get (fun v _ _ _ => done _ v) fun v _ _ => done _ v)
    fun found w' => ?_
  cases found with
  | error => exact done _ w'
  | ok record =>
    dsimp only
    split
    · exact done _ w'
    · split
      · exact done _ w'
      · refine bind (bind (visitNode (fun held claim _ devices w' => ?_) node _ w')
          fun held w' => ?_) fun _ w' => done _ w'
        · split
          · exact bind (pendingRemove controlled _ w') fun _ w' => done _ w'
          · exact done _ w'
        · dsimp only
          split
          · exact bind (setAside _ _ w') fun _ w' => done _ w'
          · exact done _ w'
where
  setAside (picked : SortedMap ClaimUid (List DeviceUuid)) (batch : List ClaimRequest) (w : World) :
      Treads S call op (Allocator.setAside node picked batch) w := by
    induction batch generalizing w with
    | nil => exact done _ w
    | cons q rest ih => exact bind (pendingSet controlled _ _ _ w) fun _ w' => ih w'

theorem unsuitableNodes (c : Controller) (controlled : op.controller? ≠ none)
    (pod : List ClaimAllocation) (nodes : List String) (w : World) :
    Treads S call op (c.unsuitableNodes pod nodes) w := by
  refine bind ?_ fun _ w' => done _ w'
  induction nodes generalizing pod w with
  | nil => exact done pod w
  | cons node rest ih => exact bind (tryNode c controlled pod node w) fun pod w' => ih pod w'

theorem allocateOnce (c : Controller) (claim : ClaimUid) (node : String) (w : World) :
    Treads S call (.allocate c claim node) (c.allocateOnce claim node) w := by
  refine get_thenOk fun v r key saw => ?_
  split
  · exact done _ v
  · next unknown =>
    have absent : r.spec.allocated.get? claim = none := by
      simpa [SortedMap.contains] using unknown
    split
    · exact done _ v
    · next unready =>
      have ready : r.isReady = true := by simpa using unready
      refine Meets.assignPending_thenOk (fun v' later devices _ => ?_) fun v' _ => done _ v'
      have makes : (Operation.allocate c claim node).Makes (.allocate claim devices) r :=
        ⟨key, ready, absent, devices, rfl⟩
      exact ask_rewrite _ rfl (saw.of_leaves later.leaves) makes (fun w' _ => done _ w') fun _ w' => done _ w'

theorem allocate (c : Controller) (claim : ClaimUid) (node : String) (w : World) :
    Treads S call (.allocate c claim node) (c.allocate claim node) w := by
  unfold Controller.allocate
  split
  · exact done _ w
  · refine locked fun w' => thenOk (retry_of_forall (allocateOnce c claim node)) fun recorded w' => ?_
    refine bind ?_ fun _ w' => done _ w'
    cases recorded
    · exact done _ w'
    · exact pendingRemove (by simp [Operation.controller?]) _ w'

theorem deallocate (c : Controller) (claim : ResourceClaim) (w : World) :
    Treads S call (.deallocate c claim) (c.deallocate claim) w := by
  unfold Controller.deallocate
  split
  · exact done _ w
  · next node selected =>
    refine locked fun _ => retry_of_forall fun w' => get_thenOk fun w' r key saw => ?_
    refine Meets.ask_pendingRemove fun v later =>
      ⟨(Footprint.setPending _ (by simp [Operation.controller?])).ground_permits, ?_⟩
    have makes : (Operation.deallocate c claim).Makes (.release claim.uid) r :=
      ⟨⟨node, selected, key⟩, rfl⟩
    have seen : v.Saw r := saw.of_leaves later.leaves
    have saw : (v.setPending (v.pending.remove claim.uid)).Saw r := seen
    change Treads _ _ _ (ite _ _ _) _
    split
    · exact ask_rewrite _ rfl saw makes (fun w' _ => done _ w') fun _ w' => done _ w'
    · exact done _ _

/-- A call makes the changes that it may make, whatever it knows. -/
theorem writes_of_makes {change : Change} {r : NodeRecord} {before after : World → Prop}
    (makes : op.Makes change r) (holds : ∀ w, after w) :
    (ground S).Writes S call op change r before after :=
  fun _ _ may at_key _ => ⟨(Footprint.put_change at_key makes may).ground_permits, holds _⟩

/-- The directory of specifications may be asked by the calls that take the plugin in hand. -/
theorem files_of_takes {key : ObjectKey} (takes : op.takes = some key) (a : SpecAccess)
    {before done failed : World → Prop} (holds : ∀ w, done w) (holds' : ∀ w, failed w) :
    (ground S).Files S call op a before done failed := by
  refine fun w _ => Meets.ask_spec (fun v _ _ _ => ⟨(Footprint.setSpecs _ takes).ground_permits,
    fun w' _ => ?_⟩) fun _ _ _ _ w' _ => holds' w'
  generalize ((v.specs _).apply a).1 = answer
  cases answer with
  | ok => exact holds w'
  | error detail => exact holds' w'

abbrev nothing (S : Setting) (call : Nat) : (ground S).Lasting call := .fact _ _ True

/-- A plugin that prepares a claim writes what it publishes, and the claim's part if the claim comes
with a handle. -/
theorem prepares_ground (p : Plugin) (claim : NodeClaim) (s : DeviceState) :
    (ground S).Prepares S call (.prepare p claim) p claim s (fun _ => nothing S call)
      (fun _ => nothing S call) fun _ _ => nothing S call where
  assigns devices _ handles key := writes_of_makes ⟨key, .inr ⟨handles, devices, rfl⟩⟩ fun _ => trivial
  finds _ _ _ _ _ _ _ := trivial
  keeps _ _ _ := trivial
  shows _ _ _ _ := files_of_takes rfl _ (fun _ => trivial) fun _ => trivial
  publishes _ _ _ _ _ key := writes_of_makes ⟨key, .inl ⟨_, _, rfl⟩⟩ fun _ => trivial
  takesBack _ _ _ := files_of_takes rfl _ (fun _ => trivial) fun _ => trivial

/-- A plugin that gives a claim up writes what it publishes, and the claim's part if the claim comes
with a handle. -/
theorem givesUp_ground (p : Plugin) (claim : NodeClaim) (s : DeviceState) :
    (ground S).GivesUp S call (.unprepare p claim) p claim s (fun _ => nothing S call)
      (nothing S call) where
  releases _ handles key := writes_of_makes ⟨key, .inr ⟨handles, rfl⟩⟩ fun _ => trivial
  publishes _ key := writes_of_makes ⟨key, .inl ⟨_, _, rfl⟩⟩ fun _ => trivial
  drops _ key := writes_of_makes ⟨key, .inl ⟨_, _, rfl⟩⟩ fun _ => trivial
  deletes := files_of_takes rfl _ (fun _ => trivial) fun _ => trivial

/-- A plugin that starts makes the record if there is none, and writes what it
publishes and the status. -/
theorem restarts_ground (p : Plugin) (count : Nat) :
    (ground S).Restarts S call (.start p count) p count (nothing S call) (fun _ => nothing S call)
      (fun _ => nothing S call) fun _ => True where
  creates _ _ may absent _ := ⟨(Footprint.put_new rfl absent may).ground_permits, trivial⟩
  adopts _ key := writes_of_makes ⟨key, .inl ⟨_, rfl⟩⟩ fun _ => trivial
  files _ := files_of_takes rfl _ (fun _ => trivial) fun _ => trivial
  keeps _ _ _ := trivial
  publishes _ _ key _ := writes_of_makes ⟨key, .inr ⟨_, _, rfl⟩⟩ fun _ => trivial
  readies _ _ key _ := writes_of_makes ⟨key, .inl ⟨_, rfl⟩⟩ fun _ => trivial
  refuses _ _ _ _ _ := trivial
  store _ := trivial
  specFile _ := trivial

theorem prepare (p : Plugin) (claim : NodeClaim) (s : DeviceState) (w : World) :
    Treads S call (.prepare p claim) (p.prepare claim s) w :=
  (prepares_ground p claim s).meets_prepare trivial

theorem unprepare (p : Plugin) (claim : NodeClaim) (s : DeviceState) (w : World) :
    Treads S call (.unprepare p claim) (p.unprepare claim s) w :=
  ((givesUp_ground p claim s).meets_unprepare trivial).weaken fun _ _ _ => trivial

theorem start (p : Plugin) (count : Nat) (w : World) :
    Treads S call (.start p count) (p.start count) w :=
  ((restarts_ground p count).meets_start trivial).weaken fun _ _ _ => trivial

theorem shutdown (p : Plugin) (w : World) : Treads S call (.shutdown p) p.shutdown w :=
  retry_of_forall fun _ => get_thenOk fun _ r key saw =>
    have makes : (Operation.shutdown p).Makes (.status .notReady) r := ⟨key, rfl⟩
    ask_rewrite _ rfl saw makes (fun w _ => done _ w) fun _ w => done _ w

theorem setStatus (key : ObjectKey) (status : Readiness) (policy : RetryPolicy) (w : World) :
    Treads S call (.setStatus key status policy) ((StoreClient.setStatus key status).retry policy) w :=
  retry_of_forall fun _ => Meets.ask_get (fun v later r at_key => by
      have makes : (Operation.setStatus key status policy).Makes (.status status) r :=
        ⟨later.wellKeyed key r at_key, rfl⟩
      exact ask_rewrite _ rfl (.of_record later.wellKeyed at_key) makes (fun w _ => done _ w)
        fun _ w => done _ w)
    fun v _ _ => done _ v

/-- The program of every call keeps to the footprint of the call, wherever it has got to. -/
theorem of_program {prog : Prog op.Result} (begun : op.program w = some prog) (w' : World) :
    Treads S call op prog w' := by
  cases op with
  | filter c pod nodes =>
    cases begun
    exact unsuitableNodes c (by simp [Operation.controller?]) pod nodes w'
  | allocate c claim node =>
    cases begun
    exact allocate c claim node w'
  | deallocate c claim =>
    cases begun
    exact deallocate c claim w'
  | start p count =>
    simp only [Operation.program] at begun
    split at begun <;> cases begun
    exact start p count w'
  | prepare p claim =>
    simp only [Operation.program] at begun
    split at begun <;> cases begun
    exact prepare p claim _ w'
  | unprepare p claim =>
    simp only [Operation.program] at begun
    split at begun <;> cases begun
    exact unprepare p claim _ w'
  | shutdown p =>
    cases begun
    exact shutdown p w'
  | setStatus key status policy =>
    cases begun
    exact setStatus key status policy w'

end Treads

/-- Whatever calls run side by side, they keep to their footprints. -/
theorem ground_governs (S : Setting) : (ground S).Governs S (fun _ => True) fun _ _ _ _ => True where
  begins call _ _ _ _ _ _ _ begun :=
    ⟨(Footprint.enter call).ground_permits, (Treads.of_program begun _).weaken fun result _ _ _ =>
      (Footprint.leave result).ground_permits⟩
  vanishes call _ _ _ _ _ _ _ := (Footprint.vanish call).ground_permits
  others _ _ _ _ unsorted _ _ _ := absurd trivial unsorted
  outside _ _ _ _ _ := ⟨trivial, fun _ => trivial⟩

namespace Machine

variable {m m' : Machine} {e : Event} {w₀ : World}

/-- Every machine that is reached keeps the ground discipline. -/
theorem Reach.keeps_ground (wellKeyed : w₀.WellKeyed) (reach : Reach S (.idle w₀) m) :
    (ground S).Keeps S (fun _ => True) m :=
  (ground_governs S).keeps_reach (.idle wellKeyed trivial) (fun _ _ _ _ _ => trivial) reach

theorem Reach.mayCall_of_call (reach : Reach S (.idle w₀) m) :
    ∀ call c, m.calls call = some c → S.mayCall c.op :=
  reach.forall_calls (P := fun _ c _ => S.mayCall c.op) (fun _ _ absent => by cases absent)
    (fun _ may _ _ => may) (fun _ _ _ _ may => may) fun _ _ _ _ may => may

/-- What is known of every move of a call: it is a call that may be, and it keeps to its footprint. -/
theorem Reach.mayCall_and_allows (wellKeyed : w₀.WellKeyed) (reach : Reach S (.idle w₀) m) (move : Move S e m m')
    (call : Nat) (op : Operation) (caller : e.caller? = some (call, op)) :
    S.mayCall op ∧ (DeviceClaims.ground S).Allows call op m.world m'.world := by
  refine ⟨?_, ((ground_governs S).keeps_move (reach.keeps_ground wellKeyed) move fun _ _ _ => trivial).2 call op
    caller⟩
  cases move with
  | begins may => cases caller; exact may
  | asks at_call | ends at_call | vanishes _ at_call =>
    cases caller
    exact reach.mayCall_of_call _ _ at_call
  | outside => cases caller

/-- Every move of a call keeps to the footprint of the call. -/
theorem Reach.footprint_of_move (wellKeyed : w₀.WellKeyed) (reach : Reach S (.idle w₀) m)
    (move : Move S e m m') {call : Nat} {op : Operation} (caller : e.caller? = some (call, op)) :
    Footprint S op m.world m'.world :=
  (reach.mayCall_and_allows wellKeyed move call op caller).2.promise

end Machine

end DeviceClaims
