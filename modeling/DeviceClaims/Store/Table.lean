import DeviceClaims.Json.Printer
import DeviceClaims.Store.Access

namespace DeviceClaims

/-- A row of the table apart from its key. Versions are kept as signed numbers of the same 64 bits. The
version of a row goes before the one in its text. -/
structure Row where
  version : Int64
  object : String
  deriving DecidableEq, Inhabited

/-- The rows of the table by their keys. -/
structure TableStore where
  rows : SortedMap ObjectKey Row := .empty
  deriving DecidableEq, Inhabited

namespace TableStore

def rowOf (r : NodeRecord) : Row := ⟨r.version.toInt64, r.toJson.text⟩

def ofRow (row : Row) : Except StoreError NodeRecord :=
  match NodeRecord.decode.run row.object with
  | .error f => .error (.serialization f)
  | .ok r => .ok (r.withVersion row.version.toUInt64)

def get (s : TableStore) (key : ObjectKey) : Except StoreError NodeRecord :=
  match s.rows.get? key with
  | none => .error (.notFound key)
  | some row => ofRow row

/-- Stores a new record at version one. -/
def create (s : TableStore) (r : NodeRecord) : Except StoreError NodeRecord × TableStore :=
  let stored := r.withVersion 1
  if s.rows.contains r.key then (.error (.alreadyExists r.key), s)
  else (.ok stored, ⟨s.rows.insert r.key (rowOf stored)⟩)

/-- Replaces the row of the record that the new one was made from. -/
def update (s : TableStore) (r : NodeRecord) : Except StoreError NodeRecord × TableStore :=
  let stored := r.withVersion (r.version + 1)
  match s.rows.get? r.key with
  | none => (.error (.notFound r.key), s)
  | some row =>
    if row.version = r.version.toInt64 then (.ok stored, ⟨s.rows.insert r.key (rowOf stored)⟩)
    else (.error (.conflict r.key r.version row.version.toUInt64), s)

def delete (s : TableStore) (key : ObjectKey) : Except StoreError Unit × TableStore :=
  if s.rows.contains key then (.ok (), ⟨s.rows.erase key⟩)
  else (.error (.notFound key), s)

/-- Puts a row into the table, whatever it holds. -/
def putRow (s : TableStore) (key : ObjectKey) (row : Row) : TableStore :=
  ⟨s.rows.insert key row⟩

def apply (s : TableStore) : (a : StoreAccess) → a.Answer × TableStore
  | .get key => (s.get key, s)
  | .create r => s.create r
  | .update r => s.update r
  | .delete key => s.delete key

end TableStore

end DeviceClaims
