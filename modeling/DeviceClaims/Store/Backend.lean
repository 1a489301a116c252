import DeviceClaims.Store.Memory
import DeviceClaims.Store.Table

namespace DeviceClaims

/-- A store in memory or in a table, which may be open for reading only. -/
inductive Backend
  | memory (s : MemoryStore)
  | table (s : TableStore)
  | readOnly (s : TableStore)
  deriving DecidableEq

namespace Backend

instance : Inhabited Backend := ⟨.memory {}⟩

def refuse (e : StoreError) : (a : StoreAccess) → a.Answer
  | .get _ | .create _ | .update _ | .delete _ => .error e

def apply (s : Backend) (a : StoreAccess) : a.Answer × Backend :=
  match s with
  | memory m => let (answer, m) := m.apply a; (answer, memory m)
  | table t => let (answer, t) := t.apply a; (answer, table t)
  | readOnly t => match a with
    | .get key => (t.get key, s)
    | a => (refuse (.database .readOnly) a, s)

def get (s : Backend) (key : ObjectKey) : Except StoreError NodeRecord := (s.apply (.get key)).1

def keys : Backend → List ObjectKey
  | memory m => m.records.keys
  | table t | readOnly t => t.rows.keys

end Backend

end DeviceClaims
