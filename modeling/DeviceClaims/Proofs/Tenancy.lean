import DeviceClaims.Proofs.Holdings

namespace DeviceClaims

namespace World

/-- The devices that a node's record lists. -/
def listed (w : World) (space node : String) : List DeviceUuid :=
  ((w.record ⟨space, node⟩).map (·.spec.allocatableUuids)).getD []

/-- A node lists a device and no claim but one holds it there. -/
structure Clear (w : World) (space node : String) (claim : ClaimUid) (uuid : DeviceUuid) : Prop where
  listed : uuid ∈ w.listed space node
  apart : ∀ other, other ≠ claim → uuid ∉ w.held space node other

/-- Whatever is set aside for a claim is the claim's by the record, or for the claim alone. -/
def Rightful (space : String) (w : World) : Prop :=
  ∀ node claim, ∀ uuid ∈ w.setAside node claim,
    uuid ∈ w.allocated space node claim ∨ w.Clear space node claim uuid

/-- Whoever comes to hold a device is alone with it before and after; all others keep what they hold or
give it up. What is recorded for a claim is only given up where nothing is set aside for it. -/
structure Grants (space : String) (w w' : World) : Prop where
  listed : ∀ node, w'.listed space node = w.listed space node
  held : ∀ node claim, ∀ uuid ∈ w'.held space node claim, uuid ∈ w.held space node claim ∨
    w.Clear space node claim uuid ∧ w'.Clear space node claim uuid
  lost : ∀ node claim, ∀ uuid ∈ w.allocated space node claim,
    uuid ∈ w'.allocated space node claim ∨ w'.setAside node claim = []

/-- What a call finds of the nodes whose locks it has: the record that was there, and of what was set
aside nothing more. -/
def Fixed (space : String) (call : Nat) (w w' : World) : Prop :=
  ∀ node, w.holder node = some call → w'.holder node = some call ∧
    w'.record ⟨space, node⟩ = w.record ⟨space, node⟩ ∧
    ∀ claim, w'.setAside node claim ⊆ w.setAside node claim

variable {space : String} {call : Nat} {w w' : World} {node : String} {claim : ClaimUid}
  {uuid : DeviceUuid} {uuids : List DeviceUuid}

theorem listed_of_record {r : NodeRecord} (at_key : w.record ⟨space, node⟩ = some r) :
    w.listed space node = r.spec.allocatableUuids := by
  rw [listed, at_key]
  rfl

theorem allocated_of_unknown {r : NodeRecord} (at_key : w.record ⟨space, node⟩ = some r)
    (unknown : r.spec.allocated.get? claim = none) : w.allocated space node claim = [] := by
  rw [allocated_of_record at_key, unknown]
  rfl

theorem Clear.mono (clear : w.Clear space node claim uuid)
    (listed : w'.listed space node = w.listed space node)
    (fewer : ∀ other, w'.held space node other ⊆ w.held space node other) :
    w'.Clear space node claim uuid :=
  ⟨listed ▸ clear.listed, fun other unlike member => clear.apart other unlike (fewer other member)⟩

/-- A device stays with the claim that holds it and that alone may. -/
theorem Clear.of_grants (clear : w.Clear space node claim uuid) (has : uuid ∈ w.held space node claim)
    (grants : Grants space w w') : w'.Clear space node claim uuid := by
  refine ⟨grants.listed node ▸ clear.listed, fun other unlike member => ?_⟩
  rcases grants.held node other uuid member with old | ⟨new, _⟩
  · exact clear.apart other unlike old
  · exact new.apart claim unlike.symm has

theorem Rightful.of_grants (rightful : w.Rightful space) (grants : Grants space w w') :
    w'.Rightful space := by
  intro node claim uuid member
  have recorded : uuid ∈ w.allocated space node claim → uuid ∈ w'.allocated space node claim := by
    intro before
    rcases grants.lost node claim uuid before with kept | nothing
    · exact kept
    · exact absurd (nothing ▸ member) List.not_mem_nil
  rcases grants.held node claim uuid (List.mem_append_right _ member) with old | ⟨_, new⟩
  · rcases List.mem_append.mp old with by_record | by_tracker
    · exact .inl (recorded by_record)
    · rcases rightful node claim uuid by_tracker with by_record | clear
      · exact .inl (recorded by_record)
      · exact .inr (clear.of_grants old grants)
  · exact .inr new

/-- While nothing is set aside, all that is set aside is so rightfully. -/
theorem Rightful.of_pending_empty (nothing : w.pending = {}) : w.Rightful space := by
  intro node claim uuid member
  rw [setAside, nothing] at member
  cases member

theorem Grants.refl (space : String) (w : World) : Grants space w w :=
  ⟨fun _ => rfl, fun _ _ _ => .inl, fun _ _ _ => .inl⟩

theorem held_of_same (records : ∀ key, w'.record key = w.record key) (pending : w'.pending = w.pending)
    (node : String) (claim : ClaimUid) : w'.held space node claim = w.held space node claim := by
  rw [held, allocated, allocation, records, setAside, pending]
  rfl

theorem Clear.of_same (clear : w.Clear space node claim uuid)
    (records : ∀ key, w'.record key = w.record key) (pending : w'.pending = w.pending) :
    w'.Clear space node claim uuid := by
  refine clear.mono ?_ fun other => held_of_same records pending node other ▸ List.Subset.refl _
  rw [World.listed, records]
  rfl

theorem Grants.of_same (records : ∀ key, w'.record key = w.record key)
    (pending : w'.pending = w.pending) : Grants space w w' := by
  refine ⟨fun node => ?_, fun node claim _ member => .inl (held_of_same records pending node claim ▸ member),
    fun node claim uuid member => .inl ?_⟩
  · rw [World.listed, records]
    rfl
  · rw [allocated, allocation, records]
    exact member

/-- One claim is given devices that it holds already or that it alone may hold. -/
theorem Adds.grants_of_lost (adds : Adds space node claim uuids w w')
    (listed : ∀ place, w'.listed space place = w.listed space place)
    (lost : ∀ place other, ∀ uuid ∈ w.allocated space place other,
      uuid ∈ w'.allocated space place other ∨ w'.setAside place other = [])
    (given : ∀ uuid ∈ uuids, uuid ∈ w.held space node claim ∨ w.Clear space node claim uuid) :
    Grants space w w' := by
  refine ⟨listed, fun place other uuid member => ?_, lost⟩
  rcases adds.mem_held member with old | ⟨⟨rfl, rfl⟩, new⟩
  · exact .inl old
  · refine (given uuid new).imp id fun clear => ⟨clear, listed place ▸ clear.listed,
      fun third unlike member => ?_⟩
    rcases adds.mem_held member with old | ⟨⟨_, same⟩, _⟩
    · exact clear.apart third unlike old
    · exact unlike same

theorem Fixed.refl (space : String) (call : Nat) (w : World) : Fixed space call w w :=
  fun _ own => ⟨own, rfl, fun _ _ => id⟩

theorem Fixed.trans {u v w : World} (first : Fixed space call u v) (last : Fixed space call v w) :
    Fixed space call u w := by
  intro node own
  obtain ⟨own, same, fewer⟩ := first node own
  obtain ⟨own, same', fewer'⟩ := last node own
  exact ⟨own, same'.trans same, fun claim _ member => fewer claim (fewer' claim member)⟩

theorem Fixed.allocated_eq (fixed : Fixed space call w w') (own : w.holder node = some call)
    (claim : ClaimUid) : w'.allocated space node claim = w.allocated space node claim := by
  rw [World.allocated, World.allocation, (fixed node own).2.1]
  rfl

theorem Fixed.listed_eq (fixed : Fixed space call w w') (own : w.holder node = some call) :
    w'.listed space node = w.listed space node := by
  rw [World.listed, (fixed node own).2.1]
  rfl

theorem Fixed.held_subset (fixed : Fixed space call w w') (own : w.holder node = some call)
    (claim : ClaimUid) : w'.held space node claim ⊆ w.held space node claim := by
  rw [World.held, fixed.allocated_eq own]
  intro uuid member
  rcases List.mem_append.mp member with by_record | by_tracker
  · exact List.mem_append_left _ by_record
  · exact List.mem_append_right _ ((fixed node own).2.2 claim by_tracker)

theorem Fixed.clear_of_own (fixed : Fixed space call w w') (own : w.holder node = some call)
    (clear : w.Clear space node claim uuid) : w'.Clear space node claim uuid :=
  clear.mono (fixed.listed_eq own) (fixed.held_subset own)

/-- What a call does to a node whose lock it has is nothing to the locks of others. -/
theorem Fixed.of_lock {other : Nat} (unlike : other ≠ call) (own : w.holder node = some call)
    (holder : w'.holder = w.holder)
    (records : ∀ place, place ≠ node → w'.record ⟨space, place⟩ = w.record ⟨space, place⟩)
    (setAside : ∀ place claim, place ≠ node → w'.setAside place claim = w.setAside place claim) :
    Fixed space other w w' := by
  intro place held
  have apart : place ≠ node := by
    rintro rfl
    exact unlike (Option.some.inj (held.symm.trans own))
  refine ⟨holder ▸ held, records place apart, fun claim => ?_⟩
  rw [setAside place claim apart]
  exact fun _ => id

end World

/-- Devices that are given to a claim are its own. Some devices may be told that no claim holds, and
none comes to hold one of them. Nobody comes to hold a device that another claim holds, though the
records may share devices from the beginning. -/
def tenancy (space : String) (vacant : String → DeviceUuid → Prop) : Discipline where
  inv w := w.Rightful space ∧ ∀ node uuid, vacant node uuid → ∀ claim, uuid ∉ w.held space node claim
  rely := World.Fixed space
  promise _ _ := World.Grants space
  rely_refl := World.Fixed.refl space
  rely_trans := World.Fixed.trans
  promise_refl _ _ := World.Grants.refl space

variable {space : String} {vacant : String → DeviceUuid → Prop} {call : Nat} {op : Operation}
  {w w' : World} {node : String} {claim : ClaimUid} {uuids : List DeviceUuid}

/-- A move is permitted that gives devices only to those who alone may hold them, none of the vacant
ones, and nothing on nodes that others have locked. -/
theorem World.Grants.permits_of_spared (grants : Grants space w w') (inv : (tenancy space vacant).inv w)
    (spared : ∀ place other, ∀ uuid ∈ w'.held space place other, vacant place uuid →
      uuid ∈ w.held space place other) (fixed : ∀ other, other ≠ call → Fixed space other w w') :
    (tenancy space vacant).Permits call op w w' :=
  ⟨fixed, ⟨inv.1.of_grants grants, fun place uuid is_vacant other member =>
    inv.2 place uuid is_vacant other (spared place other uuid member is_vacant)⟩, grants⟩

namespace Tenancy

/-- Taking and returning locks gives nothing to anybody. -/
theorem permits_of_same (inv : (tenancy space vacant).inv w)
    (records : ∀ key, w'.record key = w.record key) (pending : w'.pending = w.pending)
    (holder : ∀ place other, other ≠ call → w.holder place = some other →
      w'.holder place = some other) : (tenancy space vacant).Permits call op w w' := by
  refine (World.Grants.of_same records pending).permits_of_spared inv (fun place other _ member _ =>
    World.held_of_same records pending place other ▸ member)
    fun other unlike place own => ⟨holder place other unlike own, records _, fun claim => ?_⟩
  rw [World.setAside, pending]
  exact fun _ => id

theorem inv_of_same (inv : (tenancy space vacant).inv w)
    (records : ∀ key, w'.record key = w.record key) (pending : w'.pending = w.pending) :
    (tenancy space vacant).inv w' :=
  ⟨inv.1.of_grants (.of_same records pending), fun place uuid is_vacant other member =>
    inv.2 place uuid is_vacant other (World.held_of_same records pending place other ▸ member)⟩

theorem permits_remove (inv : (tenancy space vacant).inv w) (claim : ClaimUid) :
    (tenancy space vacant).Permits call op w (w.setPending (w.pending.remove claim)) := by
  have adds : World.Adds space "" claim [] w (w.setPending (w.pending.remove claim)) := .remove w
  have grants := adds.grants_of_lost (fun _ => rfl) (fun _ _ _ => .inl) nofun
  refine grants.permits_of_spared inv (fun place other uuid member _ => ?_)
    fun other _ place own => ⟨own, rfl, fun third => ?_⟩
  · exact (adds.mem_held member).resolve_right fun new => List.not_mem_nil new.2
  · rw [World.setAside_setPending_remove]
    split
    · exact List.nil_subset _
    · exact fun _ => id

theorem permits_set (inv : (tenancy space vacant).inv w) (own : w.holder node = some call)
    (devices : List AllocatedDevice)
    (given : ∀ uuid ∈ devices.map (·.uuid), uuid ∈ w.held space node claim ∨
      w.Clear space node claim uuid) (occupied : ∀ uuid, ¬ vacant node uuid) :
    (tenancy space vacant).Permits call op w
      (w.setPending (w.pending.set claim node devices)) := by
  have adds : World.Adds space node claim (devices.map (·.uuid)) w
      (w.setPending (w.pending.set claim node devices)) := .set w devices
  have grants := adds.grants_of_lost (fun _ => rfl) (fun _ _ _ => .inl) given
  refine grants.permits_of_spared inv (fun place other uuid member is_vacant => ?_)
    fun other unlike => .of_lock unlike own rfl (fun _ _ => rfl) fun place third apart => ?_
  · rcases adds.mem_held member with old | ⟨⟨rfl, _⟩, _⟩
    · exact old
    · exact absurd is_vacant (occupied uuid)
  · rw [World.setAside_setPending_set, if_neg fun same => apart same.2.symm]

section Put

variable {r : NodeRecord} {change : Change}

theorem allocated_change (claims : change.part = .claim claim) (key : r.key = ⟨space, node⟩)
    (at_key : w.record r.key = some r) {place : String} {other : ClaimUid}
    (apart : place = node → other ≠ claim) :
    (w.put (change.on r)).allocated space place other = w.allocated space place other := by
  rw [World.allocated_put ((change.on_key r).trans key)]
  split
  · next same =>
    subst same
    have unlike : Part.claim other ≠ change.part := by
      rw [claims]
      exact fun same => apart rfl (Part.claim.inj same)
    have kept : (change.on r).spec.allocated.get? other = r.spec.allocated.get? other :=
      change.same_on r unlike
    rw [World.allocated_of_record (key ▸ at_key), kept]
  · rfl

theorem listed_change (claims : change.part = .claim claim) (at_key : w.record r.key = some r)
    (place : String) : (w.put (change.on r)).listed space place = w.listed space place := by
  have unlike : Part.devices ≠ change.part := by
    rw [claims]
    nofun
  have kept : (change.on r).spec.allocatable = r.spec.allocatable := (change.same_on r unlike).1
  rw [World.listed, World.record_put, change.on_key]
  split
  · next same =>
    rw [World.listed_of_record (same ▸ at_key), Option.map_some, Option.getD_some,
      NodeSpec.allocatableUuids, kept]
    rfl
  · rfl

/-- Under the lock of a node, a change of what is recorded for a claim gives devices to nobody but the
claim. -/
theorem permits_put (inv : (tenancy space vacant).inv w) (own : w.holder node = some call)
    (claims : change.part = .claim claim) (key : r.key = ⟨space, node⟩)
    (at_key : w.record r.key = some r)
    (adds : World.Adds space node claim uuids w (w.put (change.on r)))
    (given : ∀ uuid ∈ uuids, w.Clear space node claim uuid ∧ ¬ vacant node uuid)
    (nothing : w.allocated space node claim = [] ∨ w.setAside node claim = []) :
    (tenancy space vacant).Permits call op w (w.put (change.on r)) := by
  have grants : World.Grants space w (w.put (change.on r)) := by
    refine adds.grants_of_lost (listed_change claims at_key) (fun place other uuid member => ?_)
      fun uuid member => .inr (given uuid member).1
    by_cases here : place = node ∧ other = claim
    · obtain ⟨rfl, rfl⟩ := here
      rcases nothing with unrecorded | unset
      · exact absurd (unrecorded ▸ member) List.not_mem_nil
      · exact .inr unset
    · exact .inl ((allocated_change claims key at_key fun at_node at_claim =>
        here ⟨at_node, at_claim⟩).symm ▸ member)
  refine grants.permits_of_spared inv (fun place other uuid member is_vacant => ?_)
    fun other unlike => .of_lock unlike own rfl (fun place apart => ?_) fun _ _ _ => rfl
  · rcases adds.mem_held member with old | ⟨⟨rfl, rfl⟩, new⟩
    · exact old
    · exact absurd is_vacant (given uuid new).2
  · refine World.record_put_ne w _ ?_
    rw [change.on_key, key]
    exact fun same => apart (congrArg ObjectKey.name same).symm

theorem permits_allocate (inv : (tenancy space vacant).inv w) (own : w.holder node = some call)
    (key : r.key = ⟨space, node⟩) (at_key : w.record r.key = some r)
    (unknown : r.spec.allocated.get? claim = none) (devices : List AllocatedDevice)
    (given : ∀ uuid ∈ devices.map (·.uuid), w.Clear space node claim uuid ∧ ¬ vacant node uuid) :
    (tenancy space vacant).Permits call op w (w.put ((Change.allocate claim devices).on r)) :=
  permits_put inv own rfl key at_key (.allocate key at_key devices) given
    (.inl (World.allocated_of_unknown (key ▸ at_key) unknown))

/-- A claim that has nothing set aside on the node may be taken off its record. -/
theorem permits_release (inv : (tenancy space vacant).inv w) (own : w.holder node = some call)
    (key : r.key = ⟨space, node⟩) (at_key : w.record r.key = some r)
    (unset : w.setAside node claim = []) :
    (tenancy space vacant).Permits call op w (w.put ((Change.release claim).on r)) :=
  permits_put inv own rfl key at_key (.release key at_key) nofun (.inr unset)

end Put

end Tenancy

end DeviceClaims
