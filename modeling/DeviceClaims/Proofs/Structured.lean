import DeviceClaims.Controller.Registry
import DeviceClaims.Node.Plugin
import DeviceClaims.Proofs.ClaimForm
import DeviceClaims.Proofs.Prepared
import DeviceClaims.Proofs.Wire.Message

namespace DeviceClaims

open Json Decoder

namespace ClaimParameters

/-- Parameters are read from their form of no record's own: a count is always written, and what is left
out is what a reader supplies. -/
theorem reads_vendorForm (p : ClaimParameters) : decodeSpec.Reads p.vendorForm.json p 2 := by
  have split := readsField_unlessZero p.split 1
  refine reads_record (.cons p.readsField_count (.cons p.readsField_selector (.cons split .nil)))
    (by simp) (by simp) fun r found => ?_
  rw [RecordReading.fieldOr, RecordReading.fieldOr, RecordReading.fieldOr,
    found 0 (by simp) p.readsField_count, found 1 (by simp) split,
    found 2 (by simp) p.readsField_selector]
  rfl

theorem ofValue_vendorForm (p : ClaimParameters) : decodeSpec.ofValue p.vendorForm.json = .ok p :=
  p.reads_vendorForm.result (by decide)

theorem requested_eq {p : ClaimParameters} (counts : 1 ≤ p.count) : p.requested = p.count.toNat :=
  Nat.max_eq_left (UInt32.le_iff_toNat_le.mp counts)

theorem vendorForm_floatFree (p : ClaimParameters) : p.vendorForm.json.floatFree = true := by
  obtain ⟨count, split, selector⟩ := p
  rcases selector with _ | ⟨_ | model⟩ <;> by_cases whole : split = 0 <;>
    simp only [vendorForm, unlessZero, whole, if_true, if_false] <;> rfl

end ClaimParameters

theorem DeviceUuid.ofResourceName_resourceName (d : DeviceUuid) : ofResourceName d.resourceName = .ok d := by
  rw [ofResourceName, resourceName, readMarked_write]
  rfl

theorem DeviceUuid.eq_of_text {d d' : DeviceUuid} (same : d.text = d'.text) : d = d' := by
  have read := d.parse_text
  rw [same, parse_text] at read
  exact (Except.ok.inj read).symm

/-- The name of the first resource whose attribute is the identifier of a device. -/
def ResourceModel.nameOf? (m : ResourceModel) (d : DeviceUuid) : Option String :=
  (m.instances.find? (·.stringAttribute "uuid" = some d.text)).map (·.name)

/-- A device of the plugin is published under its own name. -/
theorem DeviceState.nameOf?_resourceModel {s : DeviceState} (keyed : s.Keyed) {uuid : DeviceUuid}
    {d : AllocatableDevice} (found : s.devices.get? uuid = some d) :
    s.resourceModel.nameOf? uuid = some uuid.resourceName := by
  have at_d : d ∈ s.devices.values := SortedMap.mem_values_iff.mpr ⟨uuid, found⟩
  have same := keyed uuid d found
  subst same
  have listed : (s.resourceModel.instances.find? (·.stringAttribute "uuid" = some d.uuid.text)).isSome := by
    refine List.find?_isSome.mpr ⟨_, List.mem_map_of_mem at_d, ?_⟩
    exact decide_eq_true rfl
  obtain ⟨i, first⟩ := Option.isSome_iff_exists.mp listed
  obtain ⟨d', -, rfl⟩ := List.mem_map.mp (List.mem_of_find?_eq_some first)
  have chosen := List.find?_some first
  have texts : some d'.uuid.text = some d.uuid.text := of_decide_eq_true chosen
  rw [ResourceModel.nameOf?, first, Option.map_some, DeviceUuid.eq_of_text (Option.some.inj texts)]

/-- A plugin has the devices that a record lists of it. -/
theorem DeviceState.found_of_published {s : DeviceState} (keyed : s.Keyed) {spec : NodeSpec}
    (published : spec.allocatable = s.devices.values) {uuid : DeviceUuid}
    (listed : uuid ∈ spec.allocatableUuids) : ∃ d, s.devices.get? uuid = some d := by
  obtain ⟨d, at_d, rfl⟩ := List.mem_map.mp (NodeSpec.mem_allocatableUuids.mp listed)
  rw [published] at at_d
  obtain ⟨uuid, found⟩ := SortedMap.mem_values_iff.mp at_d
  exact ⟨d, keyed uuid d found ▸ found⟩

/-- A handle that carries a claim's parameters and the names of devices that are split as these say is
read as those devices. -/
theorem Plugin.handleDevices_named (params : ClaimParameters) {devices : List AllocatedDevice}
    (split : ∀ d ∈ devices, d.split = params.split) (node : String) :
    handleDevices ⟨some params.vendorForm, node, devices.map (·.uuid.resourceName)⟩ = .ok devices := by
  simp only [handleDevices, ClaimParameters.ofValue_vendorForm]
  refine convertEach_map (g := fun d : AllocatedDevice => d.uuid.resourceName) fun d member => ?_
  rw [DeviceUuid.ofResourceName_resourceName, ← split d member]

/-- A handle with the parameters of a claim survives the way to the node. -/
theorem StructuredHandle.carriable_vendorForm (params : ClaimParameters) (node : String)
    (names : List String) : Carriable ⟨some params.vendorForm, node, names⟩ := by
  rintro _ ⟨⟩
  exact ⟨params.vendorForm_floatFree, Nat.le_trans params.reads_vendorForm.height_le (by decide)⟩

open Wire in
/-- A claim is read from the bytes of its message. -/
theorem NodeClaim.read_write {c : NodeClaim} (carriable : ∀ h ∈ c.handles, h.Carriable)
    (fits : Announced (MessageType.claim.codec.size c.toMessage)) :
    (MessageType.claim.codec.read (MessageType.claim.codec.write c.toMessage)).map ofMessage =
      some (.ok c) := by
  have back := MessageType.claim.codec_faithful.read_write (by decide) fits
  exact (congrArg (Option.map ofMessage) back).trans (congrArg some (ofMessage_toMessage carriable))

end DeviceClaims
