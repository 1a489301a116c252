import DeviceClaims.Node.DeviceState

namespace DeviceClaims

/-- The devices that an allocated device is made into, as a record keeps them: its parts if it is
split, or else itself. -/
def AllocatedDevice.expansion (a : AllocatedDevice) : List PreparedDevice :=
  if a.split = 0 then [⟨a.uuid, none⟩]
  else (Emulator.uuids a.uuid.text a.split.toNat).map (⟨·, some a.uuid⟩)

/-- The specifications of what a record says is prepared. -/
def rendered (prepared : SortedMap ClaimUid (List PreparedDevice)) : SortedMap ClaimUid DeviceSpec :=
  prepared.mapValues fun ds => .ofClaim (ds.map (·.uuid))

theorem AllocatedDevice.source_expansion {a : AllocatedDevice} {d : PreparedDevice}
    (member : d ∈ a.expansion) : d.source = a.uuid := by
  unfold expansion at member
  split at member
  · obtain rfl := List.mem_singleton.mp member
    rfl
  · obtain ⟨_, _, rfl⟩ := List.mem_map.mp member
    rfl

/-- A device is split into as many parts as its allocation says. -/
theorem AllocatedDevice.length_expansion {a : AllocatedDevice} (split : a.split ≠ 0) :
    a.expansion.length = a.split.toNat := by
  rw [expansion, if_neg split, List.length_map, Emulator.length_uuids]

namespace DeviceState

/-- Devices are known by their own identifiers. -/
def Keyed (s : DeviceState) : Prop := ∀ uuid d, s.devices.get? uuid = some d → d.uuid = uuid

theorem keyed_ofDevices (ds : List AllocatableDevice) : (ofDevices ds).Keyed := by
  intro uuid d found
  obtain ⟨_, _, same⟩ := List.mem_map.mp (SortedMap.mem_of_get?_ofList found)
  cases same
  rfl

theorem recorded_insert (s : DeviceState) (claim : ClaimUid) (ds : List DeviceInfo) :
    ({ s with prepared := s.prepared.insert claim ds } : DeviceState).recorded =
      s.recorded.insert claim (ds.map DeviceInfo.prepared) :=
  SortedMap.mapValues_insert ..

theorem recorded_erase (s : DeviceState) (claim : ClaimUid) :
    ({ s with prepared := s.prepared.erase claim } : DeviceState).recorded = s.recorded.erase claim :=
  SortedMap.mapValues_erase ..

theorem contains_recorded (s : DeviceState) (claim : ClaimUid) :
    s.recorded.contains claim = s.isPrepared claim := by
  rw [recorded, isPrepared, SortedMap.contains, SortedMap.contains, SortedMap.get?_mapValues,
    Option.isSome_map]

/-- What a claim's devices are named can be told from what the record says of them. -/
theorem claimNames?_recorded (s : DeviceState) (claim : ClaimUid) :
    s.claimNames? claim =
      (s.recorded.get? claim).map fun ds => DeviceSpec.claimNames (ds.map (·.uuid)) := by
  rw [claimNames?, recorded, SortedMap.get?_mapValues]
  cases s.prepared.get? claim with
  | none => rfl
  | some ds =>
    have same : (ds.map DeviceInfo.prepared).map (·.uuid) = ds.map (·.uuid) := List.map_map
    exact congrArg (fun uuids => some (DeviceSpec.claimNames uuids)) same.symm

/-- The specifications of what is recorded are those of what is prepared. -/
theorem rendered_recorded (s : DeviceState) :
    rendered s.recorded = s.prepared.mapValues fun ds => .ofClaim (ds.map (·.uuid)) := by
  refine SortedMap.ext_get? fun claim => ?_
  rw [rendered, recorded, SortedMap.get?_mapValues, SortedMap.get?_mapValues, SortedMap.get?_mapValues]
  cases s.prepared.get? claim with
  | none => rfl
  | some ds =>
    have same : (ds.map DeviceInfo.prepared).map (·.uuid) = ds.map (·.uuid) := List.map_map
    exact congrArg (fun uuids => some (DeviceSpec.ofClaim uuids)) same

theorem expand_prepared {s : DeviceState} (keyed : s.Keyed) {a : AllocatedDevice} {ds : List DeviceInfo}
    (expanded : s.expand a = .ok ds) : ds.map DeviceInfo.prepared = a.expansion := by
  unfold expand at expanded
  cases found : s.devices.get? a.uuid with
  | none => simp [found] at expanded
  | some d =>
    have uuid := keyed a.uuid d found
    simp only [found] at expanded
    unfold AllocatedDevice.expansion
    split at expanded
    · next whole =>
      cases expanded
      rw [if_pos whole, ← uuid]
      rfl
    · next parted =>
      cases expanded
      rw [if_neg parted, Emulator.parts, List.map_map]
      rfl

/-- An allocation is prepared as its devices are, in its order. -/
theorem expandAll_prepared {s : DeviceState} (keyed : s.Keyed) {allocation : List AllocatedDevice}
    {ds : List DeviceInfo} (expanded : s.expandAll allocation = .ok ds) :
    ds.map DeviceInfo.prepared = allocation.flatMap AllocatedDevice.expansion := by
  induction allocation generalizing ds with
  | nil =>
    cases expanded
    rfl
  | cons a rest ih =>
    rw [expandAll] at expanded
    cases first : s.expand a with
    | error e => simp [first] at expanded
    | ok ds₁ =>
      cases others : s.expandAll rest with
      | error e => simp [first, others] at expanded
      | ok ds₂ =>
        simp only [first, others, Except.ok.injEq] at expanded
        rw [← expanded, List.map_append, List.flatMap_cons, expand_prepared keyed first, ih others]

/-- Only devices that the plugin has are prepared. -/
theorem expandAll_found {s : DeviceState} {allocation : List AllocatedDevice} {ds : List DeviceInfo}
    (expanded : s.expandAll allocation = .ok ds) :
    ∀ a ∈ allocation, ∃ d, s.devices.get? a.uuid = some d := by
  induction allocation generalizing ds with
  | nil => exact fun _ absent => by cases absent
  | cons a rest ih =>
    rw [expandAll] at expanded
    cases found : s.devices.get? a.uuid with
    | none => simp [expand, found] at expanded
    | some d =>
      cases others : s.expandAll rest with
      | error e => cases first : s.expand a <;> simp [first, others] at expanded
      | ok ds' => exact List.forall_mem_cons.mpr ⟨⟨d, found⟩, ih others⟩

/-- Devices that the plugin has can be prepared. -/
theorem exists_expandAll {s : DeviceState} {allocation : List AllocatedDevice}
    (found : ∀ a ∈ allocation, ∃ d, s.devices.get? a.uuid = some d) :
    ∃ ds, s.expandAll allocation = .ok ds := by
  induction allocation with
  | nil => exact ⟨[], rfl⟩
  | cons a rest ih =>
    obtain ⟨⟨d, first⟩, others⟩ := List.forall_mem_cons.mp found
    obtain ⟨ds, others⟩ := ih others
    have expanded : ∃ ds, s.expand a = .ok ds := by
      rw [expand, first]
      dsimp only
      split
      · exact ⟨_, rfl⟩
      · exact ⟨_, rfl⟩
    obtain ⟨ds', first⟩ := expanded
    exact ⟨ds' ++ ds, by rw [expandAll, first, others]⟩

theorem restore_prepared {s : DeviceState} {d : PreparedDevice} {info : DeviceInfo}
    (restored : s.restore d = .ok info) : info.prepared = d := by
  unfold restore at restored
  split at restored
  · cases restored
  · cases restored
    rfl

theorem mapM_restore_prepared {s : DeviceState} {ds : List PreparedDevice} {infos : List DeviceInfo}
    (restored : ds.mapM s.restore = .ok infos) : infos.map DeviceInfo.prepared = ds := by
  induction ds generalizing infos with
  | nil =>
    cases restored
    rfl
  | cons d ds ih =>
    rw [List.mapM_cons] at restored
    cases first : s.restore d with
    | error e => simp [first, bind, Except.bind] at restored
    | ok info =>
      cases others : ds.mapM s.restore with
      | error e => simp [first, others, bind, Except.bind] at restored
      | ok infos' =>
        simp only [first, others, bind, Except.bind, pure, Except.pure, Except.ok.injEq] at restored
        rw [← restored, List.map_cons, restore_prepared first, ih others]

theorem restoreAll_prepared {s : DeviceState} {entries : List (ClaimUid × List PreparedDevice)}
    {es : List (ClaimUid × List DeviceInfo)} (restored : s.restoreAll entries = .ok es) :
    es.map (fun e => (e.1, e.2.map DeviceInfo.prepared)) = entries := by
  induction entries generalizing es with
  | nil =>
    cases restored
    rfl
  | cons e entries ih =>
    obtain ⟨claim, ds⟩ := e
    rw [restoreAll] at restored
    cases first : ds.mapM s.restore with
    | error e => simp [first, bind, Except.bind] at restored
    | ok infos =>
      cases others : s.restoreAll entries with
      | error e => simp [first, others, bind, Except.bind] at restored
      | ok es' =>
        simp only [first, others, bind, Except.bind, pure, Except.pure, Except.ok.injEq] at restored
        rw [← restored, List.map_cons, mapM_restore_prepared first, ih others]

/-- After a synchronisation the record says what the plugin knows. -/
theorem sync_recorded {s s' : DeviceState} {spec : NodeSpec} (synced : s.sync spec = .ok s') :
    s'.recorded = spec.prepared ∧ s'.devices = s.devices := by
  unfold sync at synced
  cases restored : s.restoreAll spec.prepared.entries with
  | error e => simp [restored, Except.map] at synced
  | ok es =>
    simp only [restored, Except.map, Except.ok.injEq] at synced
    subst synced
    have entries := restoreAll_prepared restored
    have sorted : es.Pairwise (fun a b => a.1 < b.1) := by
      have all := spec.prepared.sorted
      rw [← entries, List.pairwise_map] at all
      exact all
    refine ⟨?_, rfl⟩
    rw [recorded, SortedMap.ofList_sorted sorted]
    exact SortedMap.ext_entries entries

theorem mapM_restore_error {s : DeviceState} {ds : List PreparedDevice} {e : PluginError}
    (failed : ds.mapM s.restore = .error e) :
    ∃ d ∈ ds, s.devices.get? d.source = none ∧ e = .deviceNotFound d.source := by
  induction ds with
  | nil => cases failed
  | cons d ds ih =>
    rw [List.mapM_cons] at failed
    cases first : s.restore d with
    | error e' =>
      simp only [first, bind, Except.bind, Except.error.injEq] at failed
      subst failed
      unfold restore at first
      split at first <;> cases first
      exact ⟨d, List.mem_cons_self, ‹_›, rfl⟩
    | ok info =>
      cases others : ds.mapM s.restore with
      | ok infos => simp [first, others, bind, Except.bind, pure, Except.pure] at failed
      | error e' =>
        simp only [first, others, bind, Except.bind, Except.error.injEq] at failed
        subst failed
        obtain ⟨d', member, missing⟩ := ih others
        exact ⟨d', List.mem_cons_of_mem _ member, missing⟩

/-- A restoration fails only over a device that is prepared and that the plugin does not have. -/
theorem restoreAll_error {s : DeviceState} {entries : List (ClaimUid × List PreparedDevice)}
    {e : PluginError} (failed : s.restoreAll entries = .error e) :
    ∃ entry ∈ entries, ∃ d ∈ entry.2, s.devices.get? d.source = none ∧ e = .deviceNotFound d.source := by
  induction entries with
  | nil => cases failed
  | cons entry entries ih =>
    obtain ⟨claim, ds⟩ := entry
    rw [restoreAll] at failed
    cases first : ds.mapM s.restore with
    | error e' =>
      simp only [first, bind, Except.bind, Except.error.injEq] at failed
      subst failed
      exact ⟨_, List.mem_cons_self, mapM_restore_error first⟩
    | ok infos =>
      cases others : s.restoreAll entries with
      | ok es => simp [first, others, bind, Except.bind, pure, Except.pure] at failed
      | error e' =>
        simp only [first, others, bind, Except.bind, Except.error.injEq] at failed
        subst failed
        obtain ⟨entry, member, missing⟩ := ih others
        exact ⟨entry, List.mem_cons_of_mem _ member, missing⟩

/-- A synchronisation fails only for a device that a claim has prepared and the plugin does not have. -/
theorem sync_error {s : DeviceState} {spec : NodeSpec} {e : PluginError}
    (failed : s.sync spec = .error e) :
    ∃ claim ds, spec.prepared.get? claim = some ds ∧
      ∃ d ∈ ds, s.devices.get? d.source = none ∧ e = .deviceNotFound d.source := by
  unfold sync at failed
  cases restored : s.restoreAll spec.prepared.entries with
  | ok es => simp [restored, Except.map] at failed
  | error e' =>
    simp only [restored, Except.map, Except.error.injEq] at failed
    subst failed
    obtain ⟨⟨claim, ds⟩, member, missing⟩ := restoreAll_error restored
    exact ⟨claim, ds, SortedMap.mem_entries_iff.mp member, missing⟩

end DeviceState

end DeviceClaims
