import DeviceClaims.Proofs.Holdings
import DeviceClaims.Proofs.Picking

namespace DeviceClaims

open Discipline Discipline.Allowed Allocator

variable {space : String} {S : Setting} {call : Nat} {op : Operation} {w w' : World} {node : String}
  {record : NodeRecord} {held : Holdings} {rest : List (ClaimUid × String)}

/-- What a call knows that has the lock of a node and gathers what claims hold there, beginning with
what the record says. -/
structure Gathering (space : String) (call : Nat) (node : String) (record : NodeRecord)
    (held : Holdings) (w : World) : Prop where
  own : w.holder node = some call
  unknown : ∀ claim, record.spec.allocated.get? claim = none → w.allocated space node claim = []
  allocated : ∀ claim, w.allocated space node claim ⊆ holds held claim
  separate : Separate held
  reserves : ∀ claim, w.Reserves space node claim (holds held claim)

/-- What it knows on its walk over what is set aside: only what is still to be visited is missing. -/
structure Survey (space : String) (call : Nat) (node : String) (record : NodeRecord)
    (rest : List (ClaimUid × String)) (held : Holdings) (w : World) : Prop
    extends Gathering space call node record held w where
  here : ∀ pair ∈ rest, pair.2 = node
  setAside : ∀ claim, (claim, node) ∉ rest → w.setAside node claim ⊆ holds held claim

/-- What a call has gathered stays true while it holds the lock of the node. -/
theorem Gathering.stable_gathering (held : Holdings) :
    (exclusion space).Stable call (Gathering space call node record held) := by
  intro w w' later gathering
  obtain ⟨own, fewer⟩ := later.rely node gathering.own
  refine ⟨own, fun claim absent => ?_, fun claim uuid member => ?_, gathering.separate, fun claim => ?_⟩
  · have none := (fewer claim).1
    rw [gathering.unknown claim absent] at none
    exact List.subset_nil.mp none
  · exact gathering.allocated claim ((fewer claim).1 member)
  · exact (gathering.reserves claim).mono (World.Guarded.held_subset later.rely gathering.own)

theorem Survey.stable_survey (rest : List (ClaimUid × String)) (held : Holdings) :
    (exclusion space).Stable call (Survey space call node record rest held) := by
  intro w w' later survey
  obtain ⟨_, fewer⟩ := later.rely node survey.own
  exact ⟨Gathering.stable_gathering held w w' later survey.toGathering, survey.here,
    fun claim visited _ member => survey.setAside claim visited ((fewer claim).2 member)⟩

/-- A record that was just read says what claims hold by it. -/
theorem Gathering.of_record (exclusive : w.Exclusive space) (own : w.holder node = some call)
    (at_key : w.record ⟨space, node⟩ = some record) :
    Gathering space call node record record.spec.allocated w := by
  have same : ∀ claim, w.allocated space node claim = holds record.spec.allocated claim :=
    World.allocated_of_record at_key
  refine ⟨own, fun claim absent => ?_, fun claim => ?_, ⟨fun claim => ?_, fun claim other unlike => ?_⟩,
    fun claim => ?_⟩
  · rw [same, holds, absent]
    rfl
  · rw [same]
    exact fun _ => id
  · rw [← same]
    exact (exclusive.allocated node claim).once
  · rw [← same, ← same]
    exact fun uuid first last => (exclusive.allocated node claim).apart other unlike.symm first
      (List.mem_append_left _ last)
  · rw [← same]
    exact exclusive.allocated node claim

/-- Before the first visit all claims that have devices set aside on the node are still to come. -/
theorem Survey.of_claims {claims : List ClaimUid} (gathering : Gathering space call node record held w)
    (all : claims.Perm w.pending.claims.keys) :
    Survey space call node record (claims.map (·, node)) held w := by
  refine ⟨gathering, fun pair member => ?_, fun claim unlisted => ?_⟩
  · obtain ⟨_, _, rfl⟩ := List.mem_map.mp member
    rfl
  · have absent : claim ∉ w.pending.claims.keys := fun listed =>
      unlisted (List.mem_map.mpr ⟨claim, all.mem_iff.mpr listed, rfl⟩)
    rw [World.setAside, PendingTracker.get?_of_not_mem absent node]
    exact List.nil_subset _

theorem Survey.tail_of_absent {claim : ClaimUid} {place : String}
    (survey : Survey space call node record ((claim, place) :: rest) held w)
    (absent : w.pending.get? claim place = none) :
    Survey space call node record rest held w := by
  refine ⟨survey.toGathering, fun pair member => survey.here pair (List.mem_cons_of_mem _ member),
    fun other unlisted => ?_⟩
  by_cases same : (other, node) = (claim, place)
  · cases same
    rw [World.setAside, absent]
    exact List.nil_subset _
  · exact survey.setAside other (List.not_mem_cons_of_ne_of_not_mem same unlisted)

/-- What is set aside for a claim that the record does not list is gathered as the claim's. -/
theorem Gathering.insert {claim : ClaimUid} {devices : List AllocatedDevice}
    (gathering : Gathering space call node record held w) (exclusive : w.Exclusive space)
    (unknown : record.spec.allocated.get? claim = none)
    (aside : devices.map (·.uuid) = w.setAside node claim) :
    Gathering space call node record (held.insert claim devices) w := by
  have apart : ∀ other, other ≠ claim → (w.setAside node claim).Disjoint (holds held other) :=
    fun other unlike uuid first last => (gathering.reserves other).apart claim unlike.symm last
      (List.mem_append_right _ first)
  refine ⟨gathering.own, gathering.unknown, fun other => ?_, ⟨fun other => ?_, fun a b unlike => ?_⟩,
    fun other => ?_⟩
  · rw [holds_insert]
    split
    · next same =>
      subst same
      rw [gathering.unknown claim unknown]
      exact List.nil_subset _
    · exact gathering.allocated other
  · rw [holds_insert, aside]
    split
    · exact (exclusive.setAside node claim).once
    · exact gathering.separate.once other
  · rw [holds_insert, holds_insert, aside]
    split
    · next same =>
      rw [if_neg (same ▸ unlike)]
      exact apart b (same ▸ unlike.symm)
    · next other =>
      split
      · exact List.disjoint_symm (apart a (Ne.symm other))
      · exact gathering.separate.apart a b unlike
  · rw [holds_insert, aside]
    split
    · next same => exact same ▸ exclusive.setAside node claim
    · exact gathering.reserves other

/-- What is set aside for a claim that the record does not know is held by the claim. -/
theorem Survey.insert {claim : ClaimUid} {place : String} {devices : List AllocatedDevice}
    (survey : Survey space call node record ((claim, place) :: rest) held w)
    (exclusive : w.Exclusive space) (unknown : record.spec.allocated.get? claim = none)
    (found : w.pending.get? claim place = some devices) :
    Survey space call node record rest (held.insert claim devices) w := by
  obtain rfl : place = node := survey.here (claim, place) List.mem_cons_self
  have aside : devices.map (·.uuid) = w.setAside place claim := by
    rw [World.setAside, found]
    rfl
  refine ⟨survey.toGathering.insert exclusive unknown aside,
    fun pair member => survey.here pair (List.mem_cons_of_mem _ member), fun other unlisted => ?_⟩
  rw [holds_insert]
  split
  · next same =>
    rw [← same, aside]
    exact fun _ => id
  · next unlike =>
    have apart : (other, place) ≠ (claim, place) := fun same => unlike (congrArg Prod.fst same).symm
    exact survey.setAside other (List.not_mem_cons_of_ne_of_not_mem apart unlisted)

/-- What is set aside for a claim that the record knows is forgotten. -/
theorem Survey.tail_of_forgotten {claim : ClaimUid} {place : String}
    (survey : Survey space call node record ((claim, place) :: rest) held w) :
    Survey space call node record rest held (w.setPending (w.pending.remove claim)) := by
  obtain rfl : place = node := survey.here (claim, place) List.mem_cons_self
  have fewer : ∀ other, (w.setPending (w.pending.remove claim)).held space place other ⊆
      w.held space place other := by
    intro other uuid member
    have adds : World.Adds space place claim [] w (w.setPending (w.pending.remove claim)) := .remove w
    rcases adds.mem_held member with old | ⟨_, new⟩
    · exact old
    · cases new
  refine ⟨⟨survey.own, survey.unknown, survey.allocated, survey.separate,
    fun other => (survey.reserves other).mono fewer⟩,
    fun pair member => survey.here pair (List.mem_cons_of_mem _ member), fun other unlisted => ?_⟩
  rw [World.setAside_setPending_remove]
  split
  · exact List.nil_subset _
  · next unlike =>
    have apart : (other, place) ≠ (claim, place) := fun same => unlike (congrArg Prod.fst same).symm
    exact survey.setAside other (List.not_mem_cons_of_ne_of_not_mem apart unlisted)

theorem holdings_meets (gathering : Gathering space call node record record.spec.allocated w) :
    (exclusion space).Meets S call op (Survey space call node record []) (holdings record node) w := by
  refine Meets.bind (Meets.ask_pendingClaims fun w₁ later claims all => ?_)
  have survey := Survey.of_claims (gathering.stable_gathering _ _ _ later) all
  refine fun w₂ later => Meets.visitPairs Survey.stable_survey
    (fun _ _ _ _ _ survey absent => survey.tail_of_absent absent)
    (fun claim place rest held w₃ devices here survey found => ?_) _ _
    (survey.stable_survey _ _ _ _ later)
  split
  · refine Meets.ask_pendingRemove fun w₄ later => ?_
    have survey := (survey.stable_survey _ _ _ _ later).tail_of_forgotten
    have adds : World.Adds space place claim [] w₄ (w₄.setPending (w₄.pending.remove claim)) :=
      .remove w₄
    exact ⟨adds.permits_of_reserves later.inv (.nil ..) (.inl rfl) rfl,
      fun w₅ later => survey.stable_survey _ _ _ _ later⟩
  · next unknown =>
    have absent := SortedMap.get?_of_not_contains unknown
    have survey := survey.insert here.inv absent found
    exact fun w₄ later => survey.stable_survey _ _ _ _ later

/-- What a call knows while it sets aside what it has picked: nothing else is held on the node but
what it has gathered. -/
structure Choosing (space : String) (call : Nat) (node : String) (held : Holdings)
    (picked : SortedMap ClaimUid (List DeviceUuid)) (w : World) : Prop where
  own : w.holder node = some call
  covers : ∀ claim, w.held space node claim ⊆ holds held claim ++ chosen picked claim

theorem Choosing.stable_choosing (picked : SortedMap ClaimUid (List DeviceUuid)) :
    (exclusion space).Stable call (Choosing space call node held picked) := by
  intro w w' later choosing
  have fewer := World.Guarded.held_subset later.rely choosing.own
  exact ⟨(later.rely node choosing.own).1,
    fun claim _ member => choosing.covers claim (fewer claim member)⟩

/-- After the survey what claims hold is known, and choosing can begin. -/
theorem Survey.choosing_of_nil (survey : Survey space call node record [] held w)
    (picked : SortedMap ClaimUid (List DeviceUuid)) : Choosing space call node held picked w := by
  refine ⟨survey.own, fun claim uuid member => List.mem_append_left _ ?_⟩
  rcases List.mem_append.mp member with by_record | by_tracker
  · exact survey.allocated claim by_record
  · exact survey.setAside claim List.not_mem_nil by_tracker

/-- What is chosen for a claim may be reserved for it. -/
theorem Choosing.reserves_chosen {picked : SortedMap ClaimUid (List DeviceUuid)} {free : List DeviceUuid}
    (choosing : Choosing space call node held picked w) (picks : Picks held free picked)
    (claim : ClaimUid) : w.Reserves space node claim (chosen picked claim) := by
  refine ⟨picks.once claim, fun other unlike uuid is_chosen is_held => ?_⟩
  rcases List.mem_append.mp (choosing.covers other is_held) with gathered | also_chosen
  · exact picks.held claim other unlike.symm is_chosen gathered
  · exact picks.apart claim other unlike.symm is_chosen also_chosen

/-- To set aside what was picked gives no claim a device that another holds. -/
theorem setAside_allowed {picked : SortedMap ClaimUid (List DeviceUuid)} {free : List DeviceUuid}
    (picks : Picks held free picked) (batch : List ClaimRequest)
    (choosing : Choosing space call node held picked w) :
    (exclusion space).Allowed S call op (Allocator.setAside node picked batch) w := by
  induction batch generalizing w with
  | nil => exact done _ w
  | cons q batch ih =>
    refine Meets.bind (Meets.ask_pendingSet fun w' later => ?_)
    have choosing := choosing.stable_choosing _ _ _ later
    let devices : List AllocatedDevice := (chosen picked q.uid).map fun uuid => ⟨uuid, q.params.split⟩
    have same : devices.map (·.uuid) = chosen picked q.uid := by
      rw [List.map_map]
      exact List.map_id _
    have adds : World.Adds space node q.uid (chosen picked q.uid) w'
        (w'.setPending (w'.pending.set q.uid node devices)) := same ▸ .set w' devices
    refine ⟨adds.permits_of_reserves later.inv (choosing.reserves_chosen picks q.uid) (.inr choosing.own)
      rfl, ?_⟩
    refine fun w'' later => ih (Choosing.stable_choosing picked _ _ later
      ⟨choosing.own, fun claim uuid member => ?_⟩)
    rcases adds.mem_held member with old | ⟨⟨_, rfl⟩, new⟩
    · exact choosing.covers claim old
    · exact List.mem_append_right _ new

end DeviceClaims
