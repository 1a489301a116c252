import DeviceClaims.Proofs.Agreement

namespace DeviceClaims

namespace DeviceSpec

theorem numbered_map (i : Nat) (entry : List DeviceInfo) :
    numbered i (entry.map (·.uuid)) = entry.mapIdx fun j d =>
      ⟨d.uuid.text, ["FAKE_DEVICE_" ++ Decimal.text (i + j) ++ "=" ++ d.uuid.text]⟩ := by
  induction entry generalizing i with
  | nil => rfl
  | cons d rest ih =>
    rw [List.map_cons, numbered, ih, List.mapIdx_cons]
    simp only [Nat.add_zero, Nat.add_assoc, Nat.add_comm 1]

theorem map_name_numbered (i : Nat) (devices : List DeviceUuid) :
    (numbered i devices).map (·.name) = devices.map (·.text) := by
  induction devices generalizing i with
  | nil => rfl
  | cons d rest ih => rw [numbered, List.map_cons, ih, List.map_cons]

end DeviceSpec

namespace DeviceState

variable {s : DeviceState} {claim : ClaimUid} {allocation : List AllocatedDevice}

/-- What an allocated device is made into: itself, or as many parts as it is split into, whose
identifiers are the first that its own determines. -/
inductive Made (s : DeviceState) (a : AllocatedDevice) : List DeviceInfo → Prop
  | whole {d : AllocatableDevice} (found : s.devices.get? a.uuid = some d) (unsplit : a.split = 0) :
      Made s a [⟨a.uuid, d.model, none⟩]
  | parts {d : AllocatableDevice} {made : List DeviceInfo} (found : s.devices.get? a.uuid = some d)
      (split : a.split ≠ 0) (length : made.length = a.split.toNat)
      (children : made = (Emulator.uuids a.uuid.text a.split.toNat).map (⟨·, d.model, some a.uuid⟩)) :
      Made s a made

/-- A device that the plugin has is expanded into what an allocation of it is made into. -/
theorem expand_made (keyed : s.Keyed) {a : AllocatedDevice} {d : AllocatableDevice}
    (found : s.devices.get? a.uuid = some d) : ∃ made, s.Made a made ∧ s.expand a = .ok made := by
  rw [expand, found]
  dsimp only
  split
  · next unsplit =>
    rw [keyed a.uuid d found]
    exact ⟨_, .whole found unsplit, rfl⟩
  · next split =>
    refine ⟨_, .parts found split ?_ rfl, rfl⟩
    rw [List.length_map, Emulator.length_uuids]

/-- Either all devices of an allocation are made into something, or one of them is the first that the
plugin does not have. -/
theorem expandAll_cases (keyed : s.Keyed) (allocation : List AllocatedDevice) :
    (∃ made, List.Forall₂ s.Made allocation made ∧ s.expandAll allocation = .ok made.flatten) ∨
      ∃ before a after, allocation = before ++ a :: after ∧
        (∀ b ∈ before, s.devices.contains b.uuid) ∧ s.devices.get? a.uuid = none ∧
        s.expandAll allocation = .error (.deviceNotFound a.uuid) := by
  induction allocation with
  | nil => exact .inl ⟨[], .nil, rfl⟩
  | cons a rest ih =>
    rw [expandAll]
    cases found : s.devices.get? a.uuid with
    | none =>
      refine .inr ⟨[], a, rest, rfl, List.forall_mem_nil _, found, ?_⟩
      rw [expand, found]
    | some d =>
      obtain ⟨first, is_made, expanded⟩ := expand_made keyed found
      rw [expanded]
      rcases ih with ⟨made, all, others⟩ | ⟨before, b, after, rfl, known, missing, failed⟩
      · exact .inl ⟨first :: made, .cons is_made all, by rw [others]; rfl⟩
      · refine .inr ⟨a :: before, b, after, rfl, List.forall_mem_cons.mpr ⟨?_, known⟩, missing, ?_⟩
        · rw [SortedMap.contains, found]
          rfl
        · rw [failed]

/-- What an allocation is made into, the specification of that and the names that go with it, all in the
same order. -/
structure Listing (s : DeviceState) (allocation : List AllocatedDevice) (entry : List DeviceInfo)
    (spec : DeviceSpec) (names : List String) : Prop where
  made : ∃ made, List.Forall₂ s.Made allocation made ∧ entry = made.flatten
  kind : spec.kind = DeviceSpec.deviceKind
  devices : spec.devices = entry.mapIdx fun i d =>
    ⟨d.uuid.text, ["FAKE_DEVICE_" ++ Decimal.text i ++ "=" ++ d.uuid.text]⟩
  named : names = DeviceSpec.qualifiedName DeviceSpec.commonName ::
    entry.map fun d => DeviceSpec.qualifiedName d.uuid.text
  listed : names.tail = spec.devices.map fun d => spec.kind ++ "=" ++ d.name

/-- What all devices of an allocation are made into, one after the other, is what a
preparation lists. -/
theorem listing_flatten {made : List (List DeviceInfo)} (all : List.Forall₂ s.Made allocation made) :
    s.Listing allocation made.flatten (.ofClaim (made.flatten.map (·.uuid))) (names made.flatten) where
  made := ⟨made, all, rfl⟩
  kind := rfl
  devices := by
    rw [DeviceSpec.ofClaim, DeviceSpec.numbered_map]
    simp only [Nat.zero_add]
  named := by
    rw [names, DeviceSpec.claimNames, List.map_map]
    rfl
  listed := by
    have same := congrArg (List.map DeviceSpec.qualifiedName)
      (DeviceSpec.map_name_numbered 0 (made.flatten.map (·.uuid)))
    rw [List.map_map, List.map_map] at same
    exact same.symm

/-- A preparation for a new claim lists what the allocation is made into in the plugin's state, in one more
specification and in the answer, and another one answers the same and does nothing. If the plugin does not
have all of the devices, the first that is missing is named and nothing is done. -/
theorem prepare_lists (devices : List AllocatableDevice)
    (prepared : SortedMap ClaimUid (List DeviceInfo)) (allocation : List AllocatedDevice) {site : Site}
    (works : site.specs.Works) (new : prepared.get? claim = none) :
    let s : DeviceState := { ofDevices devices with prepared }
    ((∀ a ∈ allocation, s.devices.contains a.uuid) →
      ∃ entry spec names, s.Listing allocation entry spec names ∧
        let s' : DeviceState := { s with prepared := prepared.insert claim entry }
        Site.run (s.prepare claim allocation) site = (some (.ok names, s'), { site with
          specs.inner.claims := site.specs.inner.claims.insert claim spec }) ∧
        ∀ again later, Site.run (s'.prepare claim again) later = (some (.ok names, s'), later)) ∧
    ((∃ a ∈ allocation, ¬ s.devices.contains a.uuid) →
      ∃ before a after, allocation = before ++ a :: after ∧
        (∀ b ∈ before, s.devices.contains b.uuid) ∧ ¬ s.devices.contains a.uuid ∧
        Site.run (s.prepare claim allocation) site =
          (some (.error (.deviceNotFound a.uuid), s), site)) := by
  intro s
  have keyed : s.Keyed := keyed_ofDevices devices
  have unnamed : s.claimNames? claim = none := Option.map_eq_none_iff.mpr new
  rcases expandAll_cases keyed allocation with ⟨made, all, expanded⟩ |
    ⟨before, a, after, split, known, absent, failed⟩
  · refine ⟨fun _ => ⟨_, _, _, listing_flatten all, ?_, fun again later => ?_⟩, fun ⟨a, member, missing⟩ => ?_⟩
    · rw [prepare, unnamed, expanded]
      dsimp only
      rw [Prog.site_run_spec, works.apply_writeClaim]
      rfl
    · have named : ({ s with prepared := prepared.insert claim made.flatten } : DeviceState).claimNames?
          claim = some (names made.flatten) := by
        rw [claimNames?, SortedMap.get?_insert_self]
        rfl
      rw [prepare, named]
      rfl
    · obtain ⟨d, found⟩ := expandAll_found expanded a member
      exact absurd (SortedMap.contains_iff.mpr ⟨d, found⟩) missing
  · have missing : ¬ s.devices.contains a.uuid := fun found => by
      obtain ⟨_, found⟩ := SortedMap.contains_iff.mp found
      cases found.symm.trans absent
    refine ⟨fun found => absurd (found a (by simp [split])) missing,
      fun _ => ⟨before, a, after, split, known, missing, ?_⟩⟩
    rw [prepare, unnamed, failed]
    rfl

end DeviceState

namespace Assortment

def device (n : UInt8) : DeviceUuid := ⟨.filled n⟩

def claim : ClaimUid := ⟨.filled 3⟩

def state : DeviceState := .ofDevices [⟨device 1, "model"⟩, ⟨device 2, "other"⟩]

/-- One device is whole, between parts of another. -/
def allocation : List AllocatedDevice := [⟨device 2, 2⟩, ⟨device 1, 0⟩, ⟨device 2, 1⟩]

end Assortment

open Assortment in
/-- An allocation of whole devices and of devices in parts. -/
theorem DeviceState.prepare_lists_assortment :
    ∃ entry spec names, state.Listing allocation entry spec names ∧
      (Site.run (state.prepare claim allocation) default).1 =
        some (.ok names, { state with prepared := SortedMap.empty.insert claim entry }) ∧
      entry.map (·.parent) = [some (device 2), some (device 2), none, some (device 2)] := by
  have works : (default : Site).specs.Works := ⟨rfl, rfl⟩
  have new : (SortedMap.empty : SortedMap ClaimUid (List DeviceInfo)).get? claim = none := rfl
  obtain ⟨entry, spec, names, listing, ran, -⟩ :=
    (prepare_lists [⟨device 1, "model"⟩, ⟨device 2, "other"⟩] .empty allocation works new).1
      (by decide +kernel)
  have answer : (Site.run (state.prepare claim allocation) default).1 =
      some (.ok names, { state with prepared := SortedMap.empty.insert claim entry }) :=
    congrArg Prod.fst ran
  have parents : ((Site.run (state.prepare claim allocation) default).1.bind
      (·.2.prepared.get? claim)).map (·.map (·.parent)) =
        some [some (device 2), some (device 2), none, some (device 2)] := by decide +kernel
  rw [answer] at parents
  exact ⟨entry, spec, names, listing, answer, by simpa using parents⟩

end DeviceClaims
