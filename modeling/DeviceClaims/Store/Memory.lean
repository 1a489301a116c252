import DeviceClaims.Store.Access

namespace DeviceClaims

/-- The records of a store by their keys. -/
structure MemoryStore where
  records : SortedMap ObjectKey NodeRecord := .empty
  deriving DecidableEq, Inhabited

namespace MemoryStore

def get (s : MemoryStore) (key : ObjectKey) : Except StoreError NodeRecord :=
  match s.records.get? key with
  | some r => .ok r
  | none => .error (.notFound key)

/-- Stores a new record at version one. -/
def create (s : MemoryStore) (r : NodeRecord) : Except StoreError NodeRecord × MemoryStore :=
  if s.records.contains r.key then (.error (.alreadyExists r.key), s)
  else
    let stored := r.withVersion 1
    (.ok stored, ⟨s.records.insert r.key stored⟩)

/-- Replaces the record that the new one was made from. -/
def update (s : MemoryStore) (r : NodeRecord) : Except StoreError NodeRecord × MemoryStore :=
  match s.records.get? r.key with
  | none => (.error (.notFound r.key), s)
  | some current =>
    if current.version ≠ r.version then
      (.error (.conflict r.key r.version current.version), s)
    else
      let stored := r.withVersion (current.version + 1)
      (.ok stored, ⟨s.records.insert r.key stored⟩)

def delete (s : MemoryStore) (key : ObjectKey) : Except StoreError Unit × MemoryStore :=
  if s.records.contains key then (.ok (), ⟨s.records.erase key⟩)
  else (.error (.notFound key), s)

def apply (s : MemoryStore) : (a : StoreAccess) → a.Answer × MemoryStore
  | .get key => (s.get key, s)
  | .create r => s.create r
  | .update r => s.update r
  | .delete key => s.delete key

end MemoryStore

end DeviceClaims
