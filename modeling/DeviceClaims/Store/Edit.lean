import DeviceClaims.Store.Backend

namespace DeviceClaims

open Json

/-- What another writer does to a record. -/
structure Edit where
  status : Option Readiness := none
  allocatable : Option (List AllocatableDevice) := none
  allocate : SortedMap ClaimUid (List AllocatedDevice) := .empty
  prepare : SortedMap ClaimUid (List PreparedDevice) := .empty
  unallocate : List ClaimUid := []
  unprepare : List ClaimUid := []
  delete : Bool := false
  deriving DecidableEq, Inhabited

namespace Edit

/-- Reads the JSON form, in which all fields may be missing. -/
def decode : Decoder Edit :=
  .record "Edit"
    ["status", "allocatable", "allocate", "prepare", "unallocate", "unprepare", "delete"] fun r =>
    .mk <$> r.fieldOr 0 "status" (.option Readiness.decode) none
      <*> r.fieldOr 1 "allocatable" (.option (.list AllocatableDevice.decode)) none
      <*> r.fieldOr 2 "allocate" (.map ClaimUid.parse AllocatedDevice.decodeList) .empty
      <*> r.fieldOr 3 "prepare" (.map ClaimUid.parse PreparedDevice.decodeList) .empty
      <*> r.fieldOr 4 "unallocate" (.list (.ident ClaimUid.parse)) []
      <*> r.fieldOr 5 "unprepare" (.list (.ident ClaimUid.parse)) []
      <*> r.fieldOr 6 "delete" .bool false

def change (e : Edit) (r : NodeRecord) : NodeRecord where
  metadata := r.metadata
  status := e.status.getD r.status
  spec := {
    allocatable := e.allocatable.getD r.spec.allocatable
    allocated := e.unallocate.foldl (·.erase ·)
      (e.allocate.entries.foldl (fun m c => m.insert c.1 c.2) r.spec.allocated)
    prepared := e.unprepare.foldl (·.erase ·)
      (e.prepare.entries.foldl (fun m c => m.insert c.1 c.2) r.spec.prepared) }

/-- Makes the change; the new version, or none if the record was deleted. -/
def perform (e : Edit) (s : Backend) (key : ObjectKey) :
    Except StoreError (Option UInt64) × Backend :=
  if e.delete then
    let (answer, s) := s.apply (.delete key)
    (Except.map (fun _ => none) answer, s)
  else match s.get key with
    | .error f => (.error f, s)
    | .ok r =>
      let (answer, s) := s.apply (.update (e.change r))
      (Except.map (fun r : NodeRecord => some r.version) answer, s)

end Edit

end DeviceClaims
