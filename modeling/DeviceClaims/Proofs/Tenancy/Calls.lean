import DeviceClaims.Proofs.Picking
import DeviceClaims.Proofs.Tenancy

namespace DeviceClaims

open Discipline Discipline.Allowed Allocator

variable {space : String} {vacant : String → DeviceUuid → Prop} {S : Setting} {call : Nat}
  {op : Operation} {w w' : World} {node : String} {record : NodeRecord} {held : Holdings}
  {rest : List (ClaimUid × String)} {claim : ClaimUid}

/-- What a call knows that has the lock of a node and walks over what is set aside there. -/
structure Census (space : String) (vacant : String → DeviceUuid → Prop) (call : Nat) (node : String)
    (record : NodeRecord) (rest : List (ClaimUid × String)) (held : Holdings) (w : World) : Prop where
  own : w.holder node = some call
  at_key : w.record ⟨space, node⟩ = some record
  known : ∀ claim devices, record.spec.allocated.get? claim = some devices →
    held.get? claim = some devices
  clear : ∀ claim, record.spec.allocated.get? claim = none → ∀ uuid ∈ holds held claim,
    w.Clear space node claim uuid ∧ ∀ other, other ≠ claim → uuid ∉ holds held other
  spared : ∀ uuid, vacant node uuid → ∀ claim, uuid ∉ holds held claim
  here : ∀ pair ∈ rest, pair.2 = node
  setAside : ∀ claim, (claim, node) ∉ rest → w.setAside node claim ⊆ holds held claim

namespace Census

theorem stable_census (rest : List (ClaimUid × String)) (held : Holdings) :
    (tenancy space vacant).Stable call (Census space vacant call node record rest held) := by
  intro w w' later census
  obtain ⟨own, same, fewer⟩ := later.rely node census.own
  refine ⟨own, same.trans census.at_key, census.known, fun claim unknown uuid member => ?_,
    census.spared, census.here, fun claim unlisted _ member => ?_⟩
  · obtain ⟨clear, others⟩ := census.clear claim unknown uuid member
    exact ⟨World.Fixed.clear_of_own later.rely census.own clear, others⟩
  · exact census.setAside claim unlisted (fewer claim member)

/-- Before the first visit of a walk all claims with devices set aside are still to be counted. -/
theorem of_record {claims : List ClaimUid} (own : w.holder node = some call)
    (at_key : w.record ⟨space, node⟩ = some record) (inv : (tenancy space vacant).inv w)
    (all : claims.Perm w.pending.claims.keys) :
    Census space vacant call node record (claims.map (·, node)) record.spec.allocated w := by
  have same : ∀ claim, w.allocated space node claim = holds record.spec.allocated claim :=
    World.allocated_of_record at_key
  refine ⟨own, at_key, fun _ _ => id, fun claim unknown uuid member => ?_,
    fun uuid is_vacant claim member => ?_, fun pair member => ?_, fun claim unlisted => ?_⟩
  · rw [holds, unknown] at member
    cases member
  · rw [← same] at member
    exact inv.2 node uuid is_vacant claim (List.mem_append_left _ member)
  · obtain ⟨_, _, rfl⟩ := List.mem_map.mp member
    rfl
  · have absent : claim ∉ w.pending.claims.keys := fun listed =>
      unlisted (List.mem_map.mpr ⟨claim, all.mem_iff.mpr listed, rfl⟩)
    rw [World.setAside, PendingTracker.get?_of_not_mem absent node]
    exact List.nil_subset _

theorem tail_of_absent {place : String}
    (census : Census space vacant call node record ((claim, place) :: rest) held w)
    (absent : w.pending.get? claim place = none) :
    Census space vacant call node record rest held w := by
  refine ⟨census.own, census.at_key, census.known, census.clear, census.spared,
    fun pair member => census.here pair (List.mem_cons_of_mem _ member), fun other unlisted => ?_⟩
  by_cases same : (other, node) = (claim, place)
  · cases same
    rw [World.setAside, absent]
    exact List.nil_subset _
  · exact census.setAside other (List.not_mem_cons_of_ne_of_not_mem same unlisted)

/-- What the record says of a claim that it knows, the claim holds. -/
theorem allocated_subset (census : Census space vacant call node record rest held w) (claim : ClaimUid) :
    w.allocated space node claim ⊆ holds held claim := by
  rw [World.allocated_of_record census.at_key]
  intro uuid member
  cases known : record.spec.allocated.get? claim with
  | none =>
    rw [known] at member
    cases member
  | some devices =>
    rw [known] at member
    rw [holds, census.known claim devices known]
    exact member

/-- A claim that the record lists is counted with what the record lists for it. -/
theorem known_allocated (census : Census space vacant call node record rest held w)
    {devices : List AllocatedDevice} (known : record.spec.allocated.get? claim = some devices) :
    holds held claim = w.allocated space node claim := by
  rw [World.allocated_of_record census.at_key, known, holds, census.known claim devices known]

/-- What is set aside for a claim that the record does not know is held by the claim. -/
theorem insert {place : String} {devices : List AllocatedDevice}
    (census : Census space vacant call node record ((claim, place) :: rest) held w)
    (inv : (tenancy space vacant).inv w) (unknown : record.spec.allocated.get? claim = none)
    (found : w.pending.get? claim place = some devices) :
    Census space vacant call node record rest (held.insert claim devices) w := by
  obtain rfl : place = node := census.here (claim, place) List.mem_cons_self
  have aside : devices.map (·.uuid) = w.setAside place claim := by
    rw [World.setAside, found]
    rfl
  have is_held : ∀ uuid ∈ w.setAside place claim, uuid ∈ w.held space place claim :=
    fun uuid member => List.mem_append_right _ member
  have clear : ∀ uuid ∈ w.setAside place claim, w.Clear space place claim uuid := by
    intro uuid member
    rcases inv.1 place claim uuid member with by_record | clear
    · rw [World.allocated_of_unknown census.at_key unknown] at by_record
      cases by_record
    · exact clear
  have apart : ∀ uuid ∈ w.setAside place claim, ∀ other, other ≠ claim → uuid ∉ holds held other := by
    intro uuid member other unlike is_other
    cases known : record.spec.allocated.get? other with
    | some devices =>
      rw [census.known_allocated known] at is_other
      exact (clear uuid member).apart other unlike (List.mem_append_left _ is_other)
    | none =>
      exact (census.clear other known uuid is_other).1.apart claim unlike.symm (is_held uuid member)
  refine ⟨census.own, census.at_key, fun other others known => ?_, fun other absent uuid member => ?_,
    fun uuid is_vacant other member => ?_, fun pair member => census.here pair
      (List.mem_cons_of_mem _ member), fun other unlisted => ?_⟩
  · have unlike : claim ≠ other := by
      rintro rfl
      cases unknown.symm.trans known
    rw [SortedMap.get?_insert_ne _ unlike]
    exact census.known other others known
  · rw [holds_insert, aside] at member
    split at member
    · next same =>
      subst same
      refine ⟨clear uuid member, fun third unlike is_third => ?_⟩
      rw [holds_insert, if_neg unlike.symm] at is_third
      exact apart uuid member third unlike is_third
    · next unlike =>
      obtain ⟨alone, others⟩ := census.clear other absent uuid member
      refine ⟨alone, fun third apart is_third => ?_⟩
      rw [holds_insert, aside] at is_third
      split at is_third
      · exact alone.apart claim unlike (is_held uuid is_third)
      · exact others third apart is_third
  · rw [holds_insert, aside] at member
    split at member
    · exact inv.2 place uuid is_vacant claim (is_held uuid member)
    · exact census.spared uuid is_vacant other member
  · rw [holds_insert, aside]
    split
    · next same => exact same ▸ fun _ => id
    · next unlike =>
      have other_pair : (other, place) ≠ (claim, place) := fun same => unlike (congrArg Prod.fst same).symm
      exact census.setAside other (List.not_mem_cons_of_ne_of_not_mem other_pair unlisted)

/-- What is set aside for a claim that the record knows is forgotten. -/
theorem tail_of_forgotten {place : String}
    (census : Census space vacant call node record ((claim, place) :: rest) held w) :
    Census space vacant call node record rest held (w.setPending (w.pending.remove claim)) := by
  obtain rfl : place = node := census.here (claim, place) List.mem_cons_self
  have adds : World.Adds space place claim [] w (w.setPending (w.pending.remove claim)) := .remove w
  have fewer : ∀ other, (w.setPending (w.pending.remove claim)).held space place other ⊆
      w.held space place other :=
    fun other uuid member => (adds.mem_held member).resolve_right fun new => List.not_mem_nil new.2
  refine ⟨census.own, census.at_key, census.known, fun other unknown uuid member => ?_, census.spared,
    fun pair member => census.here pair (List.mem_cons_of_mem _ member), fun other unlisted => ?_⟩
  · obtain ⟨clear, others⟩ := census.clear other unknown uuid member
    exact ⟨clear.mono rfl fewer, others⟩
  · rw [World.setAside_setPending_remove]
    split
    · exact List.nil_subset _
    · next unlike =>
      have other_pair : (other, place) ≠ (claim, place) := fun same => unlike (congrArg Prod.fst same).symm
      exact census.setAside other (List.not_mem_cons_of_ne_of_not_mem other_pair unlisted)

end Census

theorem holdings_census (own : w.holder node = some call)
    (at_key : w.record ⟨space, node⟩ = some record) :
    (tenancy space vacant).Meets S call op (Census space vacant call node record [])
      (holdings record node) w := by
  refine Meets.bind (Meets.ask_pendingClaims fun w₁ later claims all => ?_)
  obtain ⟨own, same, _⟩ := later.rely node own
  have census := Census.of_record own (same.trans at_key) later.inv all
  refine fun w₂ later => Meets.visitPairs Census.stable_census
    (fun _ _ _ _ _ census absent => census.tail_of_absent absent)
    (fun claim place rest held w₃ devices here census found => ?_) _ _
    (census.stable_census _ _ _ _ later)
  split
  · refine Meets.ask_pendingRemove fun w₄ later => ?_
    have census := (census.stable_census _ _ _ _ later).tail_of_forgotten
    exact ⟨Tenancy.permits_remove later.inv claim, fun w₅ later => census.stable_census _ _ _ _ later⟩
  · next unknown =>
    have census := census.insert here.inv (SortedMap.get?_of_not_contains unknown) found
    exact fun w₄ later => census.stable_census _ _ _ _ later

/-- What a call knows that has picked devices on a node: a claim that the record knows keeps what is
recorded, and what is picked for any other is for it alone. -/
structure Choice (space : String) (call : Nat) (node : String) (record : NodeRecord)
    (picked : SortedMap ClaimUid (List DeviceUuid)) (w : World) : Prop where
  own : w.holder node = some call
  at_key : w.record ⟨space, node⟩ = some record
  known : ∀ claim devices, record.spec.allocated.get? claim = some devices →
    chosen picked claim ⊆ w.allocated space node claim
  clear : ∀ claim, record.spec.allocated.get? claim = none → ∀ uuid ∈ chosen picked claim,
    w.Clear space node claim uuid ∧ ∀ other, other ≠ claim → uuid ∉ chosen picked other

theorem Choice.stable_choice (picked : SortedMap ClaimUid (List DeviceUuid)) :
    (tenancy space vacant).Stable call (Choice space call node record picked) := by
  intro w w' later choice
  obtain ⟨own, same, _⟩ := later.rely node choice.own
  refine ⟨own, same.trans choice.at_key, fun claim devices known => ?_,
    fun claim unknown uuid member => ?_⟩
  · rw [World.Fixed.allocated_eq later.rely choice.own]
    exact choice.known claim devices known
  · obtain ⟨clear, others⟩ := choice.clear claim unknown uuid member
    exact ⟨World.Fixed.clear_of_own later.rely choice.own clear, others⟩

/-- A device that nobody was found to hold is listed by the node and held by nobody. -/
theorem Census.not_held_of_free (census : Census space vacant call node record [] held w) {uuid : DeviceUuid}
    (is_free : uuid ∈ free record.spec held) :
    uuid ∈ w.listed space node ∧ ∀ claim, uuid ∉ w.held space node claim := by
  refine ⟨?_, fun claim member => ?_⟩
  · rw [World.listed_of_record census.at_key]
    exact (mem_free_iff.mp is_free).1
  · rcases List.mem_append.mp member with by_record | by_tracker
    · exact free_apart record.spec held claim (census.allocated_subset claim by_record) is_free
    · exact free_apart record.spec held claim (census.setAside claim List.not_mem_nil by_tracker) is_free

/-- What is drawn from the free devices for a claim it alone may hold. -/
theorem Census.choice_of_draws (census : Census space vacant call node record [] held w)
    {rest : List DeviceUuid} {picked : SortedMap ClaimUid (List DeviceUuid)}
    (draws : Draws held (free record.spec held) rest picked) :
    Choice space call node record picked w := by
  refine ⟨census.own, census.at_key, fun claim devices known => ?_, fun claim unknown uuid member => ?_⟩
  · rw [← census.known_allocated known]
    exact draws.holder claim devices (census.known claim devices known)
  · cases holding : held.get? claim with
    | some devices =>
      have is_held := draws.holder claim devices holding member
      obtain ⟨clear, others⟩ := census.clear claim unknown uuid is_held
      refine ⟨clear, fun other unlike is_chosen => ?_⟩
      cases holds_other : held.get? other with
      | some devices => exact others other unlike (draws.holder other devices holds_other is_chosen)
      | none => exact free_apart record.spec held claim is_held (draws.fresh other holds_other is_chosen)
    | none =>
      have is_free := draws.fresh claim holding member
      obtain ⟨listed, unheld⟩ := census.not_held_of_free is_free
      refine ⟨⟨listed, fun other _ => unheld other⟩, fun other unlike is_chosen => ?_⟩
      cases holds_other : held.get? other with
      | some devices =>
        exact free_apart record.spec held other (draws.holder other devices holds_other is_chosen) is_free
      | none => exact draws.apart claim other unlike.symm holding holds_other member is_chosen

namespace Tenancy

/-- To set aside what was chosen gives devices only to those who alone may hold them. -/
theorem setAside_allowed {picked : SortedMap ClaimUid (List DeviceUuid)} (batch : List ClaimRequest)
    (occupied : ∀ uuid, ¬ vacant node uuid) (choice : Choice space call node record picked w) :
    (tenancy space vacant).Allowed S call op (Allocator.setAside node picked batch) w := by
  induction batch generalizing w with
  | nil => exact done _ w
  | cons q batch ih =>
    refine Meets.bind (Meets.ask_pendingSet fun w' later => ?_)
    have choice := choice.stable_choice _ _ _ later
    let devices : List AllocatedDevice := (chosen picked q.uid).map fun uuid => ⟨uuid, q.params.split⟩
    have same : devices.map (·.uuid) = chosen picked q.uid := by
      rw [List.map_map]
      exact List.map_id _
    have given : ∀ uuid ∈ devices.map (·.uuid), uuid ∈ w'.held space node q.uid ∨
        w'.Clear space node q.uid uuid := by
      intro uuid member
      rw [same] at member
      cases known : record.spec.allocated.get? q.uid with
      | some devices => exact .inl (List.mem_append_left _ (choice.known q.uid devices known member))
      | none => exact .inr (choice.clear q.uid known uuid member).1
    refine ⟨permits_set later.inv choice.own devices given occupied, fun w'' later =>
      ih (Choice.stable_choice picked _ _ later ⟨choice.own, choice.at_key, choice.known,
        fun claim unknown uuid member => ?_⟩)⟩
    obtain ⟨clear, others⟩ := choice.clear claim unknown uuid member
    refine ⟨⟨clear.listed, fun other unlike is_held => ?_⟩, others⟩
    have adds : World.Adds space node q.uid (devices.map (·.uuid)) w'
        (w'.setPending (w'.pending.set q.uid node devices)) := .set w' devices
    rcases adds.mem_held is_held with old | ⟨⟨_, rfl⟩, new⟩
    · exact clear.apart other unlike old
    · rw [same] at new
      exact others q.uid unlike new

variable {c : Controller}

theorem locked_allowed {α : Type} {p : Prog α}
    (within : ∀ w', w'.holder node = some call → (tenancy space vacant).Allowed S call op p w') :
    (tenancy space vacant).Allowed S call op (.locked node p) w :=
  Allowed.locked (fun _ _ => permits_of_same) within

theorem tryNode_allowed (occupied : ∀ node uuid, ¬ vacant node uuid) (pod : List ClaimAllocation)
    (node : String) (w : World) :
    (tenancy c.space vacant).Allowed S call op (c.tryNode pod node) w := by
  refine locked_allowed fun w₁ own => Meets.bind (Meets.ask_get (fun w₂ later record at_key => ?_)
    fun w₂ _ _ w₃ _ => done _ w₃)
  have own := (later.rely node own).1
  refine fun w₃ later => ?_
  obtain ⟨own, same, _⟩ := later.rely node own
  dsimp only
  split
  · exact done _ w₃
  · split
    · exact done _ w₃
    · refine bind (Meets.bind ?_) fun _ w' => done _ w'
      have counted : (tenancy c.space vacant).Meets S call op
          (Census c.space vacant call node record []) (holdings record node) w₃ :=
        holdings_census own (same.trans at_key)
      refine counted.weaken fun held w₄ census => ?_
      dsimp only
      split
      · obtain ⟨rest, draws⟩ := pick_draws (pod.map ClaimAllocation.request)
          (.empty held (free record.spec held)) (List.Subset.refl _) (free_nodup record.spec held)
        exact bind (setAside_allowed _ (occupied node) (census.choice_of_draws draws)) fun _ w' => done _ w'
      · exact done _ w₄

theorem unsuitableNodes_allowed (occupied : ∀ node uuid, ¬ vacant node uuid)
    (pod : List ClaimAllocation) (nodes : List String) (w : World) :
    (tenancy c.space vacant).Allowed S call op (c.unsuitableNodes pod nodes) w := by
  refine bind ?_ fun _ w' => done _ w'
  induction nodes generalizing pod w with
  | nil => exact done pod w
  | cons node rest ih => exact bind (tryNode_allowed occupied pod node w) fun pod w' => ih pod w'

theorem holder_stable : (tenancy space vacant).Stable call (fun w => w.holder node = some call) :=
  fun _ _ later own => later.leaves.holder node own

theorem allocateOnce_meets (claim : ClaimUid) (own : w.holder node = some call) :
    (tenancy c.space vacant).Meets S call op
      (outcome (fun _ _ => True) fun w => w.holder node = some call) (c.allocateOnce claim node) w := by
  have failed : ∀ {w₁ : World} {e : DriverError}, w₁.holder node = some call →
      (tenancy c.space vacant).Meets S call op
        (outcome (fun (_ : Bool) _ => True) fun w => w.holder node = some call)
        (.done (.error e)) w₁ :=
    fun own w' later => holder_stable _ w' later own
  refine Meets.get_thenOk (fun w₁ later r at_key key saw => ?_) fun w₁ later e =>
    failed (holder_stable _ _ later own)
  have own := holder_stable _ _ later own
  split
  · exact fun _ _ => trivial
  · next unknown =>
    have unknown := SortedMap.get?_of_not_contains unknown
    split
    · exact failed own
    · refine Meets.assignPending_thenOk (fun w₂ later devices found => ?_) fun w₂ later =>
        failed (holder_stable _ _ later own)
      obtain ⟨own, same, _⟩ := later.rely node own
      have at_key := same.trans at_key
      have is_aside : ∀ uuid ∈ devices.map (·.uuid), uuid ∈ w₂.setAside node claim := by
        intro uuid member
        rw [World.setAside, found]
        exact member
      have clear : ∀ uuid ∈ devices.map (·.uuid), w₂.Clear c.space node claim uuid ∧
          ¬ vacant node uuid := by
        intro uuid member
        refine ⟨?_, fun is_vacant => later.inv.2 node uuid is_vacant claim
          (List.mem_append_right _ (is_aside uuid member))⟩
        rcases later.inv.1 node claim uuid (is_aside uuid member) with by_record | clear
        · rw [World.allocated_of_unknown at_key unknown] at by_record
          cases by_record
        · exact clear
      refine Meets.ask_rewrite (.allocate claim devices) rfl (saw.of_leaves later.leaves)
        (fun w₃ later _ at_key => ?_) fun w₃ later e => failed (holder_stable _ _ later own)
      have given : ∀ uuid ∈ devices.map (·.uuid), w₃.Clear c.space node claim uuid ∧
          ¬ vacant node uuid := fun uuid member =>
        ⟨World.Fixed.clear_of_own later.rely own (clear uuid member).1, (clear uuid member).2⟩
      exact ⟨permits_allocate later.inv (holder_stable _ _ later own) key at_key unknown devices given,
        fun _ _ => trivial⟩

theorem pendingRemove_allowed (claim : ClaimUid) (w : World) :
    (tenancy space vacant).Allowed S call op (PendingClient.remove claim) w :=
  Meets.ask_pendingRemove fun _ later => ⟨permits_remove later.inv claim, done _ _⟩

theorem allocate_allowed (claim : ClaimUid) (node : String) (w : World) :
    (tenancy c.space vacant).Allowed S call op (c.allocate claim node) w := by
  unfold Controller.allocate
  split
  · exact done _ w
  · refine locked_allowed fun w₁ own => thenOk (retry holder_stable
      (fun _ => allocateOnce_meets claim) own) fun recorded w' => bind ?_ fun _ w' => done _ w'
    split
    · exact pendingRemove_allowed claim w'
    · exact done _ w'

theorem deallocateOnce_meets (claim : ClaimUid) (own : w.holder node = some call) :
    (tenancy c.space vacant).Meets S call op
      (outcome (fun _ _ => True) fun w => w.holder node = some call) (c.deallocateOnce claim node) w := by
  have failed : ∀ {w₁ : World} {e : DriverError}, w₁.holder node = some call →
      (tenancy c.space vacant).Meets S call op
        (outcome (fun (_ : Unit) _ => True) fun w => w.holder node = some call)
        (.done (.error e)) w₁ :=
    fun own w' later => holder_stable _ w' later own
  refine Meets.get_thenOk (fun w₁ later r _ key saw => ?_) fun w₁ later e =>
    failed (holder_stable _ _ later own)
  have own := holder_stable _ _ later own
  refine Meets.ask_pendingRemove fun w₂ later => ⟨permits_remove later.inv claim, ?_⟩
  have still : w₂.holder node = some call := holder_stable _ _ later own
  have own : (w₂.setPending (w₂.pending.remove claim)).holder node = some call := still
  have seen : w₂.Saw r := saw.of_leaves later.leaves
  have saw : (w₂.setPending (w₂.pending.remove claim)).Saw r := seen
  have unset : (w₂.setPending (w₂.pending.remove claim)).setAside node claim = [] := by
    rw [World.setAside_setPending_remove, if_pos rfl]
  change Discipline.Meets _ _ _ _ _ (ite _ _ _) _
  split
  · refine Meets.ask_rewrite (.release claim) rfl saw (fun w₃ later _ at_key => ?_)
      fun w₃ later e => failed (holder_stable _ _ later own)
    have fewer := (later.rely node own).2.2 claim
    rw [unset] at fewer
    exact ⟨permits_release later.inv (holder_stable _ _ later own) key at_key
      (List.subset_nil.mp fewer), fun _ _ => trivial⟩
  · exact fun _ _ => trivial

theorem deallocate_allowed (claim : ResourceClaim) (w : World) :
    (tenancy c.space vacant).Allowed S call op (c.deallocate claim) w := by
  unfold Controller.deallocate
  split
  · exact done _ w
  · exact locked_allowed fun w₁ own =>
      retry holder_stable (fun _ => deallocateOnce_meets claim.uid) own

end Tenancy

/-- Calls of the controller of a namespace, of a sort, whatever it knows beside by then. -/
def Setting.ofCalls (space : String) (sort : Operation → Prop) : Setting where
  mayCall op := (∃ c, op.controller? = some c ∧ c.space = space) ∧ sort op

/-- The discipline governs the calls of a controller; as long as some devices must stay vacant, there
must be no filter among them. -/
theorem tenancy_governs {sort : Operation → Prop}
    (either : (∀ c pod nodes, ¬ sort (.filter c pod nodes)) ∨ ∀ node uuid, ¬ vacant node uuid) :
    (tenancy space vacant).Governs (.ofCalls space sort) (fun _ => True) fun _ _ _ _ => True where
  begins call op w prog may _ _ inv begun := by
    have idles : ∀ {w₁ w₂ : World}, (tenancy space vacant).inv w₁ → w₂ = w₁ →
        (tenancy space vacant).Permits call op w₁ w₂ := by
      rintro w₁ _ inv rfl
      exact Tenancy.permits_of_same inv (fun _ => rfl) rfl fun _ _ _ => id
    obtain ⟨⟨c, caller, rfl⟩, sorted⟩ := may
    cases op with
    | filter _ pod nodes =>
      cases caller
      cases begun
      have occupied := either.resolve_left fun filterless => filterless c pod nodes sorted
      refine ⟨idles inv rfl, (Tenancy.unsuitableNodes_allowed occupied pod nodes w).and_inv.weaken ?_⟩
      exact fun _ _ final _ => idles final.2 rfl
    | allocate _ claim node =>
      cases caller
      cases begun
      refine ⟨idles inv rfl, (Tenancy.allocate_allowed claim node w).and_inv.weaken ?_⟩
      exact fun _ _ final _ => idles final.2 rfl
    | deallocate _ claim =>
      cases caller
      cases begun
      refine ⟨idles inv rfl, (Tenancy.deallocate_allowed claim w).and_inv.weaken ?_⟩
      exact fun _ _ final _ => idles final.2 rfl
    | _ => cases caller
  vanishes call op w _ _ _ inv _ := by
    refine Tenancy.permits_of_same inv (op.vanish_record call w) ?_ fun place other unlike at_place => ?_
    · cases op <;> rfl
    · rw [op.vanish_holder]
      exact (if_neg (by rw [at_place]; exact fun same => unlike (Option.some.inj same))).trans at_place
  others _ _ _ _ unsorted _ _ _ := absurd trivial unsorted
  outside _ _ others _ _ := others.elim

end DeviceClaims
