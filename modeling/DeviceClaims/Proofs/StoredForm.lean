import DeviceClaims.Proofs.Identifiers
import DeviceClaims.Proofs.Json.Decoding
import DeviceClaims.Store.Table

namespace DeviceClaims

open Json Decoder

theorem ObjectMeta.reads_toJson (m : ObjectMeta) : decode.Reads m.toJson m 1 := by
  have name : ReadsField str none m.name 0 _ := .present (reads_str m.name)
  have space : ReadsField str (some "") m.space 0 _ := .present (reads_str m.space)
  have version : ReadsField u64 (some 0) m.version 0 _ := .present (reads_u64 m.version)
  refine reads_record (.cons name (.cons space (.cons version .nil))) (by simp) (by simp)
    fun r found => ?_
  rw [RecordReading.field, RecordReading.fieldOr, RecordReading.fieldOr, found 0 (by simp) name,
    found 1 (by simp) space, found 2 (by simp) version]
  rfl

theorem DeviceUuid.reads_text (d : DeviceUuid) : (ident parse).Reads (.str d.text) d 0 :=
  reads_ident d.parse_text

theorem AllocatableDevice.reads_toJson (d : AllocatableDevice) : decode.Reads d.toJson d 1 := by
  have uuid : ReadsField (ident DeviceUuid.parse) none d.uuid 0 _ := .present d.uuid.reads_text
  have model : ReadsField str none d.model 0 _ := .present (reads_str d.model)
  have fields : decodeFields.Reads
      (ofFields [("uuid", some (.str d.uuid.text)), ("model", some (.str d.model))]) d 1 := by
    refine reads_record (.cons uuid (.cons model .nil)) (by simp) (by simp) fun r found => ?_
    rw [RecordReading.field, RecordReading.field, found 0 (by simp) uuid, found 1 (by simp) model]
    rfl
  exact fields.tagged rfl (by simp)

theorem AllocatedDevice.reads_toJson (d : AllocatedDevice) : decode.Reads d.toJson d 1 := by
  have uuid : ReadsField (ident DeviceUuid.parse) none d.uuid 0 _ := .present d.uuid.reads_text
  have split := readsField_unlessZero d.split 0
  refine reads_record (.cons uuid (.cons split .nil)) (by simp) (by simp) fun r found => ?_
  rw [RecordReading.field, RecordReading.fieldOr, found 0 (by simp) uuid, found 1 (by simp) split]
  rfl

theorem PreparedDevice.reads_toJson (d : PreparedDevice) : decode.Reads d.toJson d 1 := by
  have uuid : ReadsField (ident DeviceUuid.parse) none d.uuid 0 _ := .present d.uuid.reads_text
  have parent : ReadsField (option (ident DeviceUuid.parse)) (some none) d.parent 0
      (d.parent.map fun p => .str p.text) := readsField_map (fun p _ => p.reads_text) (by simp)
  refine reads_record (.cons uuid (.cons parent .nil)) (by simp) (by simp) fun r found => ?_
  rw [RecordReading.field, RecordReading.fieldOr, found 0 (by simp) uuid, found 1 (by simp) parent]
  rfl

section Devices

variable {α : Type} {d : Decoder α} {f : α → Json}

/-- A list of devices is read from its form if each device is. -/
theorem reads_devicesToJson (sum name : String) (reads : ∀ a, d.Reads (f a) a 1) (as : List α) :
    (decodeDevices sum name d).Reads (devicesToJson f as) as 3 := by
  have devices : ReadsField (list d) (some []) as 2 (some (.arr (as.map f))) :=
    .present (reads_list fun a _ => reads a)
  have fields : (record name ["devices"] fun r => r.fieldOr 0 "devices" (.list d) []).Reads
      (ofFields [("devices", some (.arr (as.map f)))]) as 3 := by
    refine reads_record (.cons devices .nil) (by simp) (by simp) fun r found => ?_
    rw [RecordReading.fieldOr, found 0 (by simp) devices]
  exact fields.tagged rfl (by simp)

end Devices

theorem AllocatedDevice.reads_listToJson (ds : List AllocatedDevice) :
    decodeList.Reads (listToJson ds) ds 3 := reads_devicesToJson _ _ reads_toJson ds

theorem PreparedDevice.reads_listToJson (ds : List PreparedDevice) :
    decodeList.Reads (listToJson ds) ds 3 := reads_devicesToJson _ _ reads_toJson ds

theorem Readiness.reads_toJson (s : Readiness) : decode.Reads s.toJson s 0 := by
  cases s <;> exact reads_enumeration rfl

section Claims

variable {α : Type} {d : Decoder α} {f : α → Json}

/-- What a record holds for claims is left out when it holds nothing. -/
theorem readsField_unlessEmptyMap {levels : Nat} (reads : ∀ a, d.Reads (f a) a levels)
    (m : SortedMap ClaimUid α) :
    ReadsField (map ClaimUid.parse d) (some .empty) m (levels + 1) (unlessEmptyMap ClaimUid.text f m) := by
  unfold unlessEmptyMap
  split
  · next empty =>
    have same : m = .empty := SortedMap.ext_entries (List.isEmpty_iff.mp empty)
    exact .omitted (congrArg some same.symm)
  · exact .present (reads_map ClaimUid.parse_text fun e _ => reads e.2)

end Claims

/-- What a record specifies is read as it was written, empty maps and lists included. -/
theorem NodeSpec.reads_toJson (s : NodeSpec) : decode.Reads s.toJson s 5 := by
  have allocatable : ReadsField (list AllocatableDevice.decode) (some []) s.allocatable 4
      (unlessEmpty AllocatableDevice.toJson s.allocatable) :=
    readsField_unlessEmpty fun d _ => d.reads_toJson.mono (by decide)
  have allocated := readsField_unlessEmptyMap AllocatedDevice.reads_listToJson s.allocated
  have prepared := readsField_unlessEmptyMap PreparedDevice.reads_listToJson s.prepared
  refine reads_record (.cons allocatable (.cons allocated (.cons prepared .nil))) (by simp) (by simp)
    fun r found => ?_
  rw [RecordReading.fieldOr, RecordReading.fieldOr, RecordReading.fieldOr,
    found 0 (by simp) allocatable, found 1 (by simp) allocated, found 2 (by simp) prepared]
  rfl

theorem NodeRecord.reads_toJson (r : NodeRecord) : decode.Reads r.toJson r 6 := by
  have metadata : ReadsField ObjectMeta.decode none r.metadata 5 _ :=
    .present (r.metadata.reads_toJson.mono (by decide))
  have spec : ReadsField NodeSpec.decode (some {}) r.spec 5 _ := .present r.spec.reads_toJson
  have status : ReadsField Readiness.decode (some .notReady) r.status 5 _ :=
    .present (r.status.reads_toJson.mono (by decide))
  refine reads_record (.cons metadata (.cons spec (.cons status .nil))) (by simp) (by simp)
    fun r found => ?_
  rw [RecordReading.field, RecordReading.fieldOr, RecordReading.fieldOr,
    found 0 (by simp) metadata, found 1 (by simp) spec, found 2 (by simp) status]
  rfl

/-- The text of a record is read as the record. -/
theorem NodeRecord.run_text (r : NodeRecord) : decode.run r.toJson.text = .ok r :=
  r.reads_toJson.run_eq_ok (by decide)

/-- A row is read as the record that it was made of. -/
theorem TableStore.ofRow_rowOf (r : NodeRecord) : ofRow (rowOf r) = .ok r := by
  have version : r.version.toInt64.toUInt64 = r.version := by simp
  rw [ofRow, rowOf]
  simp only [r.run_text, version]
  rfl

end DeviceClaims
