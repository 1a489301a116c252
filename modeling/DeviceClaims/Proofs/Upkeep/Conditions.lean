import DeviceClaims.Proofs.Generation
import DeviceClaims.Proofs.Upkeep

namespace DeviceClaims

namespace Upkeep

/-- A claim stays prepared with these devices, as long as it is not given up. -/
def prepared (key : ObjectKey) (claim : ClaimUid) (ds : List PreparedDevice) : Upkeep where
  key := key
  knows s := s.recorded.get? claim = some ds
  shows published := ∃ known, published = some known ∧ known.get? claim = some ds
  released other := other ≠ claim

/-- What is prepared for a claim stays as it is while the claim is not given up. -/
theorem prepared_closed (key : ObjectKey) (claim : ClaimUid) (ds : List PreparedDevice) :
    (prepared key claim ds).Closed where
  publish s knows := ⟨s.recorded, rfl, knows⟩
  prepare s other devices ds' knows unprepared _ := by
    have apart : other ≠ claim := by
      rintro rfl
      have found : s.recorded.get? other = some ds := knows
      rw [DeviceState.recorded, SortedMap.get?_mapValues, unprepared] at found
      cases found
    refine (congrArg (SortedMap.get? · claim) (s.recorded_insert other ds')).trans ?_
    exact (SortedMap.get?_insert_ne _ apart _).trans knows
  release s other knows released :=
    (congrArg (SortedMap.get? · claim) (s.recorded_erase other)).trans
      ((SortedMap.get?_erase_ne _ released).trans knows)
  create shows := by
    obtain ⟨_, absent, _⟩ := shows
    cases absent
  restores count _ := by
    refine ⟨fun spec s shows synced => ?_, fun _ _ _ _ => trivial, fun _ => trivial, fun _ => trivial⟩
    obtain ⟨_, same, found⟩ := shows
    cases same
    exact (congrArg (SortedMap.get? · claim) (DeviceState.sync_recorded synced).1).trans found

end Upkeep

/-- All that is prepared is made of devices of a list. -/
def DrawnFrom (ids : List DeviceUuid) (prepared : SortedMap ClaimUid (List PreparedDevice)) : Prop :=
  ∀ claim ds, prepared.get? claim = some ds → ∀ d ∈ ds, d.source ∈ ids

/-- A plugin that has devices of a list only, and has prepared nothing else. -/
structure DeviceState.Among (ids : List DeviceUuid) (s : DeviceState) : Prop where
  keyed : s.Keyed
  devices : ∀ uuid d, s.devices.get? uuid = some d → uuid ∈ ids
  prepared : DrawnFrom ids s.recorded

theorem DrawnFrom.erase {ids : List DeviceUuid} {prepared : SortedMap ClaimUid (List PreparedDevice)}
    (drawn : DrawnFrom ids prepared) (claim : ClaimUid) : DrawnFrom ids (prepared.erase claim) := by
  intro other ds found
  rw [SortedMap.get?_erase] at found
  split at found
  · cases found
  · exact drawn other ds found

/-- Allocated devices are made into parts that the plugin would have if it started
with as many devices. -/
theorem DeviceState.Among.insert_expanded {ids : List DeviceUuid} {s : DeviceState} (among : s.Among ids)
    {claim : ClaimUid} {devices : List AllocatedDevice} {ds : List DeviceInfo}
    (expanded : s.expandAll devices = .ok ds) :
    ({ s with prepared := s.prepared.insert claim ds } : DeviceState).Among ids := by
  refine ⟨among.keyed, among.devices, fun other ds' found d member => ?_⟩
  rw [DeviceState.recorded_insert, SortedMap.get?_insert] at found
  split at found
  · cases found
    rw [DeviceState.expandAll_prepared among.keyed expanded] at member
    obtain ⟨a, at_a, part⟩ := List.mem_flatMap.mp member
    obtain ⟨device, has⟩ := DeviceState.expandAll_found expanded a at_a
    rw [AllocatedDevice.source_expansion part]
    exact among.devices a.uuid device has
  · exact among.prepared other ds' found d member

/-- A node has just the devices that are generated for its name. -/
theorem DeviceState.exists_get?_devices {node : String} {count : Nat} {uuid : DeviceUuid} :
    (∃ d, (ofDevices (Emulator.devices node count)).devices.get? uuid = some d) ↔
      uuid ∈ Emulator.uuids node count := by
  constructor
  · rintro ⟨d, found⟩
    obtain ⟨d', member, same⟩ := List.mem_map.mp (SortedMap.mem_of_get?_ofList found)
    obtain ⟨uuid', generated, rfl⟩ := List.mem_map.mp member
    cases same
    exact generated
  · intro generated
    exact SortedMap.exists_get?_ofList (List.mem_map_of_mem (List.mem_map_of_mem generated))

namespace Upkeep

/-- As long as no start has more devices, all that is prepared is made of devices that a start with so
many has, which then fails for none of them. -/
def drawn (key : ObjectKey) (count : Nat) : Upkeep where
  key := key
  knows := DeviceState.Among (Emulator.uuids key.name count)
  shows published := ∀ known, published = some known → DrawnFrom (Emulator.uuids key.name count) known
  started n := n ≤ count
  fails n e := n = count → ∀ source, e ≠ .deviceNotFound source

/-- A start with no more devices than before finds every device that was prepared. -/
theorem drawn_restores {key : ObjectKey} {count n : Nat} (fewer : n ≤ count) :
    (drawn key count).Restores n where
  restore spec s shows synced := by
    obtain ⟨recorded, devices⟩ := DeviceState.sync_recorded synced
    refine ⟨?_, fun uuid d found => ?_, recorded ▸ shows spec.prepared rfl⟩
    · unfold DeviceState.Keyed
      rw [devices]
      exact DeviceState.keyed_ofDevices _
    · rw [devices] at found
      exact Emulator.uuids_subset key.name fewer (DeviceState.exists_get?_devices.mp ⟨d, found⟩)
  refuse spec e shows synced most source := by
    subst most
    rintro rfl
    obtain ⟨claim, ds, found, d, member, missing, _⟩ := DeviceState.sync_error synced
    have generated := shows spec.prepared rfl claim ds found d member
    obtain ⟨_, has⟩ := DeviceState.exists_get?_devices.mpr generated
    cases missing.symm.trans has
  store _ _ _ := nofun
  specFile _ _ _ := nofun

/-- Only devices are prepared that the plugin would have with the most devices it has had. -/
theorem drawn_closed (key : ObjectKey) (count : Nat) : (drawn key count).Closed where
  publish s knows := by
    rintro _ ⟨⟩
    exact knows.prepared
  prepare s claim devices ds knows _ expanded := knows.insert_expanded expanded
  release s claim knows _ :=
    ⟨knows.keyed, knows.devices, s.recorded_erase claim ▸ knows.prepared.erase claim⟩
  create _ := by
    rintro _ ⟨⟩ claim ds found
    cases found
  restores _ fewer := drawn_restores fewer

end Upkeep

end DeviceClaims
