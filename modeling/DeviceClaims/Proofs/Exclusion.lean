import DeviceClaims.Proofs.Gathering
import DeviceClaims.Proofs.Machine.Play

namespace DeviceClaims

open Discipline Discipline.Allowed Allocator

variable {space : String} {c : Controller} {S : Setting} {call : Nat} {op : Operation} {w w' : World}
  {node : String}

theorem locked_allowed {α : Type} {p : Prog α}
    (within : ∀ w', w'.holder node = some call → (exclusion space).Allowed S call op p w') :
    (exclusion space).Allowed S call op (.locked node p) w :=
  Allowed.locked (fun w₁ w₂ inv records pending holder => permits_of_same inv
    (fun place other => by rw [World.allocated, World.allocation, records]; rfl)
    (fun place other => by rw [World.setAside, pending]; rfl) holder) within

theorem tryNode_allowed (pod : List ClaimAllocation) (node : String) (w : World) :
    (exclusion c.space).Allowed S call op (c.tryNode pod node) w := by
  refine locked_allowed fun w₁ own => Meets.bind (Meets.ask_get (fun w₂ later record at_key => ?_)
    fun w₂ _ _ w₃ _ => done _ w₃)
  have own := later.leaves.holder node own
  have gathering := Gathering.of_record later.inv own at_key
  refine fun w₃ later => ?_
  dsimp only
  split
  · exact done _ w₃
  · split
    · exact done _ w₃
    · refine bind (Meets.bind ?_) fun _ w' => done _ w'
      refine (holdings_meets (gathering.stable_gathering _ _ _ later)).weaken fun held w₄ survey => ?_
      dsimp only
      split
      · obtain ⟨free, picks⟩ := pick_picks survey.separate (pod.map ClaimAllocation.request)
          (free_nodup record.spec held) (free_apart record.spec held) (.empty held _)
        exact bind (setAside_allowed picks _ (survey.choosing_of_nil _)) fun _ w' => done _ w'
      · exact done _ w₄

/-- A filter sets aside only devices that no other claim holds. -/
theorem unsuitableNodes_allowed (pod : List ClaimAllocation) (nodes : List String) (w : World) :
    (exclusion c.space).Allowed S call op (c.unsuitableNodes pod nodes) w := by
  refine bind ?_ fun _ w' => done _ w'
  induction nodes generalizing pod w with
  | nil => exact done pod w
  | cons node rest ih => exact bind (tryNode_allowed pod node w) fun pod w' => ih pod w'

theorem holder_stable : (exclusion space).Stable call (fun w => w.holder node = some call) :=
  fun _ _ later own => later.leaves.holder node own

/-- What is reserved for a claim stays reserved while the call holds the lock of the node. -/
theorem reserves_stable (claim : ClaimUid) (uuids : List DeviceUuid) :
    (exclusion space).Stable call
      (fun w => w.holder node = some call ∧ w.Reserves space node claim uuids) :=
  fun _ _ later known => ⟨later.leaves.holder node known.1,
    known.2.mono (World.Guarded.held_subset later.rely known.1)⟩

/-- An attempt to allocate records what was set aside for the claim, and adds nothing else. -/
theorem allocateOnce_meets (claim : ClaimUid) (own : w.holder node = some call) :
    (exclusion c.space).Meets S call op (outcome (fun _ _ => True) fun w => w.holder node = some call)
      (c.allocateOnce claim node) w := by
  have failed : ∀ {w₁ : World} {e : DriverError}, w₁.holder node = some call →
      (exclusion c.space).Meets S call op
        (outcome (fun (_ : Bool) _ => True) fun w => w.holder node = some call)
        (.done (.error e)) w₁ :=
    fun own w' later => holder_stable _ w' later own
  refine Meets.get_thenOk (fun w₁ later r at_key key saw => ?_) fun w₁ later e =>
    failed (holder_stable _ _ later own)
  have own := holder_stable _ _ later own
  split
  · exact fun _ _ => trivial
  · split
    · exact failed own
    · refine Meets.assignPending_thenOk (fun w₂ later devices found => ?_) fun w₂ later =>
        failed (holder_stable _ _ later own)
      have own := holder_stable _ _ later own
      have aside : w₂.setAside node claim = devices.map (·.uuid) := by
        rw [World.setAside, found]
        rfl
      have reserves : w₂.Reserves c.space node claim (devices.map (·.uuid)) :=
        aside ▸ later.inv.setAside node claim
      refine Meets.ask_rewrite (.allocate claim devices) rfl (saw.of_leaves later.leaves)
        (fun w₃ later _ at_key => ?_) fun w₃ later e => failed (holder_stable _ _ later own)
      obtain ⟨own, reserves⟩ := reserves_stable claim _ _ _ later ⟨own, reserves⟩
      have adds : World.Adds c.space node claim (devices.map (·.uuid)) w₃
          (w₃.put ((Change.allocate claim devices).on r)) := .allocate key at_key devices
      exact ⟨adds.permits_of_reserves later.inv reserves (.inr own) rfl, fun _ _ => trivial⟩

theorem pendingRemove_allowed (claim : ClaimUid) (w : World) :
    (exclusion space).Allowed S call op (PendingClient.remove claim) w :=
  Meets.ask_pendingRemove fun w' later =>
    have adds : World.Adds space "" claim [] w' (w'.setPending (w'.pending.remove claim)) := .remove w'
    ⟨adds.permits_of_reserves later.inv (.nil ..) (.inl rfl) rfl, done _ _⟩

theorem allocate_allowed (claim : ClaimUid) (node : String) (w : World) :
    (exclusion c.space).Allowed S call op (c.allocate claim node) w := by
  unfold Controller.allocate
  split
  · exact done _ w
  · refine locked_allowed fun w₁ own => thenOk (retry holder_stable
      (fun _ => allocateOnce_meets claim) own) fun recorded w' => bind ?_ fun _ w' => done _ w'
    cases recorded
    · exact done _ w'
    · exact pendingRemove_allowed claim w'

theorem deallocate_allowed (claim : ResourceClaim) (w : World) :
    (exclusion c.space).Allowed S call op (c.deallocate claim) w := by
  unfold Controller.deallocate
  split
  · exact done _ w
  · next node _ =>
    refine locked_allowed fun w₁ own => retry holder_stable (fun w₂ own => ?_) own
    have failed : ∀ {w₃ : World} {e : DriverError}, w₃.holder node = some call →
        (exclusion c.space).Meets S call op
          (outcome (fun (_ : Unit) _ => True) fun w => w.holder node = some call)
          (.done (.error e)) w₃ :=
      fun own w' later => holder_stable _ w' later own
    refine Meets.get_thenOk (fun w₃ later r _ key saw => ?_) fun w₃ later e =>
      failed (holder_stable _ _ later own)
    have own := holder_stable _ _ later own
    refine Meets.ask_pendingRemove fun w₄ later => ?_
    have adds : World.Adds c.space node claim.uid [] w₄ (w₄.setPending (w₄.pending.remove claim.uid)) :=
      .remove w₄
    refine ⟨adds.permits_of_reserves later.inv (.nil ..) (.inl rfl) rfl, ?_⟩
    have still : w₄.holder node = some call := holder_stable _ _ later own
    have own : (w₄.setPending (w₄.pending.remove claim.uid)).holder node = some call := still
    have seen : w₄.Saw r := saw.of_leaves later.leaves
    have saw : (w₄.setPending (w₄.pending.remove claim.uid)).Saw r := seen
    change Discipline.Meets _ _ _ _ _ (ite _ _ _) _
    split
    · refine Meets.ask_rewrite (.release claim.uid) rfl saw (fun w₅ later _ at_key => ?_)
        fun w₅ later e => failed (holder_stable _ _ later own)
      have adds : World.Adds c.space node claim.uid [] w₅ (w₅.put ((Change.release claim.uid).on r)) :=
        .release key at_key
      exact ⟨adds.permits_of_reserves later.inv (.nil ..) (.inl rfl) rfl, fun _ _ => trivial⟩
    · exact fun _ _ => trivial

/-- Calls of the controller of a namespace, whatever it knows beside by then, and all others but those
that come with a handle. -/
def Setting.ofController (space : String) : Setting where
  mayCall op := (∀ c, op.controller? = some c → c.space = space) ∧ op.Plain

/-- The discipline governs all calls of controllers, whatever plugins run beside them. -/
theorem exclusion_governs (space : String) :
    (exclusion space).Governs (.ofController space) (fun op => op.controller? ≠ none)
      fun call op w w' => (Setting.ofController space).mayCall op ∧
        (ground (.ofController space)).Allows call op w w' where
  begins call op w prog may sorted _ exclusive begun := by
    have idles : ∀ {w₁ w₂ : World}, w₁.Exclusive space → w₂ = w₁ →
        (exclusion space).Permits call op w₁ w₂ := by
      rintro w₁ _ exclusive rfl
      exact permits_of_same exclusive (fun _ _ => rfl) (fun _ _ => rfl) fun _ _ _ => id
    cases op with
    | filter c pod nodes =>
      obtain rfl := may.1 c rfl
      cases begun
      refine ⟨idles exclusive rfl, (unsuitableNodes_allowed pod nodes w).and_inv.weaken ?_⟩
      exact fun _ _ final _ => idles final.2 rfl
    | allocate c claim node =>
      obtain rfl := may.1 c rfl
      cases begun
      refine ⟨idles exclusive rfl, (allocate_allowed claim node w).and_inv.weaken ?_⟩
      exact fun _ _ final _ => idles final.2 rfl
    | deallocate c claim =>
      obtain rfl := may.1 c rfl
      cases begun
      refine ⟨idles exclusive rfl, (deallocate_allowed claim w).and_inv.weaken ?_⟩
      exact fun _ _ final _ => idles final.2 rfl
    | _ => exact absurd rfl sorted
  vanishes call op w _ sorted _ exclusive _ := by
    have unlocks : (exclusion space).Permits call op w (w.unlockAll call) :=
      permits_of_same exclusive (fun _ _ => rfl) (fun _ _ => rfl) fun place other unlike at_place =>
        (if_neg (by rw [at_place]; exact fun same => unlike (Option.some.inj same))).trans at_place
    cases op <;> first | exact unlocks | exact absurd rfl sorted
  others call op w w' unsorted _ exclusive known :=
    allows_of_footprint exclusive (known.1.2.not_owns_claim (not_not.mp unsorted)) (not_not.mp unsorted) known.2
  outside _ _ others _ _ := others.elim

/-- While nothing is set aside, no device is held by two claims if no record lists it for both. -/
theorem World.Exclusive.of_pending_empty {w : World} (nothing : w.pending = {})
    (separate : ∀ key r, w.record key = some r → Separate r.spec.allocated) : w.Exclusive space := by
  have aside : ∀ node claim, w.setAside node claim = [] := by
    intro node claim
    rw [World.setAside, nothing]
    rfl
  refine ⟨fun node claim => ?_, fun node claim => aside node claim ▸ .nil ..⟩
  cases at_key : w.record ⟨space, node⟩ with
  | none =>
    have none : w.allocated space node claim = [] := by
      rw [World.allocated, World.allocation, at_key]
      rfl
    exact none ▸ .nil ..
  | some r =>
    have same := World.allocated_of_record at_key
    have separate := separate _ r at_key
    refine ⟨same claim ▸ separate.once claim, fun other unlike uuid first last => ?_⟩
    rw [World.held, aside, List.append_nil, same] at last
    rw [same] at first
    exact separate.apart claim other unlike.symm first last

/-- No device of a node is held by two claims in any machine that is reached. -/
theorem Machine.Reach.world_exclusive {w₀ : World} {m : Machine} (wellKeyed : w₀.WellKeyed)
    (nothing : w₀.pending = {})
    (separate : ∀ key r, w₀.record key = some r → Separate r.spec.allocated)
    (reach : Machine.Reach (.ofController space) (.idle w₀) m) : m.world.Exclusive space :=
  ((exclusion_governs space).keeps_reach (.idle wellKeyed (.of_pending_empty nothing separate))
    (fun before move call op caller => before.mayCall_and_allows wellKeyed move call op caller) reach).inv

/-- At most one claim holds a device of a node, by its record or set aside, and no list names a device
twice: from records of which that is true and with nothing set aside, it stays true however the calls
of a controller and those of the nodes' plugins are interleaved. Of runs in which a record is updated
that has been written 2 ^ 64 times, nothing is said (`World.Answers`). -/
theorem Machine.Reach.held_apart {w₀ : World} {m : Machine} (wellKeyed : w₀.WellKeyed)
    (nothing : w₀.pending = {})
    (separate : ∀ key r, w₀.record key = some r → Separate r.spec.allocated)
    (reach : Machine.Reach (.ofController space) (.idle w₀) m) :
    (∀ node claim other, claim ≠ other →
      (m.world.held space node claim).Disjoint (m.world.held space node other)) ∧
    ∀ node claim, (m.world.allocated space node claim).Nodup ∧ (m.world.setAside node claim).Nodup := by
  have exclusive := Machine.Reach.world_exclusive wellKeyed nothing separate reach
  refine ⟨fun node claim other unlike uuid first last => ?_, fun node claim =>
    ⟨(exclusive.allocated node claim).once, (exclusive.setAside node claim).once⟩⟩
  rcases List.mem_append.mp first with by_record | by_tracker
  · exact (exclusive.allocated node claim).apart other unlike.symm by_record last
  · exact (exclusive.setAside node claim).apart other unlike.symm by_tracker last

namespace Sharing

def controller : Controller := { space := "default" }

def plugin : Plugin := { key := controller.recordKey "node" }

def first : ClaimUid := ⟨⟨List.replicate 16 0, rfl⟩⟩

def last : ClaimUid := ⟨⟨List.replicate 16 1, rfl⟩⟩

/-- A claim of a pod that asks for one device, split into so many parts. -/
def request (claim : ClaimUid) (split : UInt32) : ClaimAllocation :=
  ⟨{ uid := claim, name := "claim" }, { name := "class" }, { split }, {}, []⟩

/-- The node is started, both claims are offered devices of it, and the first one takes what it is
offered; its call is not over yet. -/
def offered : List Turn :=
  Turn.whole 0 (.start plugin 2) 6 ++
  Turn.whole 1 (.filter controller [request first 0, request last 2] ["node"]) 6 ++
  .begins 2 (.allocate controller first "node") :: List.replicate 6 (.goesOn 2)

end Sharing

open Sharing in
/-- A run in which two claims share a node of two devices, one allocated and one set aside. -/
theorem Machine.Reach.held_apart_sharing :
    ∃ m, Machine.Reach (.ofController controller.space) (.idle {}) m ∧
      (m.world.allocated controller.space "node" first).length = 1 ∧
      (m.world.setAside "node" last).length = 1 ∧
      (m.world.held controller.space "node" first).Disjoint
        (m.world.held controller.space "node" last) := by
  have absent : ∀ key r, ({} : World).record key = some r → False := fun _ _ at_key => by cases at_key
  obtain ⟨m, e, m', reach, move, shown⟩ := Machine.play_shows (S := .ofController controller.space)
    (w := {}) offered (.ends 2)
    (fun _ _ m' => (m'.world.allocated controller.space "node" first).length = 1 ∧
      (m'.world.setAside "node" last).length = 1)
    (by simp [offered, Turn.whole, or_imp, forall_and, Setting.ofController, Operation.controller?,
      Operation.Plain]) (by decide +kernel)
  obtain ⟨allocated, setAside⟩ := of_decide_eq_true shown
  have reach : Machine.Reach (.ofController controller.space) (.idle {}) m' := reach.next trivial move
  have apart := (reach.held_apart (fun key r at_key => (absent key r at_key).elim) rfl
    fun key r at_key => (absent key r at_key).elim).1 "node" first last (by decide)
  exact ⟨m', reach, allocated, setAside, apart⟩

end DeviceClaims
