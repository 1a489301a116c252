import DeviceClaims.Store.Edit

namespace DeviceClaims

/-- A store and the failures planned for it. Reads and updates may fail, updates may report a conflict
without touching the record, and other writers may come between a caller's read and its write. -/
structure FaultyStore where
  inner : Backend
  /-- How many of the next reads fail. -/
  failGets : Nat := 0
  /-- How many of the next updates fail before they are counted. -/
  failUpdates : Nat := 0
  /-- How many of the next updates report a conflict. -/
  conflicts : Nat := 0
  /-- Before how many of the next creations another writer creates the record. -/
  createRaces : Nat := 0
  /-- What other writers do before the next updates. -/
  races : List (Option Edit) := []
  /-- How many updates were counted. -/
  updateCalls : Nat := 0
  deriving Inhabited

namespace FaultyStore

/-- Takes one from a planned number. -/
def spend (n : Nat) : Option Nat := match n with
  | 0 => none
  | n + 1 => some n

def get (s : FaultyStore) (key : ObjectKey) : Except StoreError NodeRecord × FaultyStore :=
  match spend s.failGets with
  | some n => (.error (.task "injected get failure"), { s with failGets := n })
  | none => (s.inner.get key, s)

/-- A creation, after another writer's if one is planned. -/
def create (s : FaultyStore) (r : NodeRecord) : Except StoreError NodeRecord × FaultyStore :=
  let s := match spend s.createRaces with
    | some n => { s with createRaces := n, inner := (s.inner.apply (.create r)).2 }
    | none => s
  let (answer, inner) := s.inner.apply (.create r)
  (answer, { s with inner })

/-- Lets the next planned writer make its change to a record. -/
def race (s : FaultyStore) (key : ObjectKey) : FaultyStore :=
  match s.races with
  | [] => s
  | none :: rest => { s with races := rest }
  | some e :: rest => { s with races := rest, inner := (e.perform s.inner key).2 }

/-- An update: first another writer's, then a planned failure, then the count, then a planned
conflict, and then the store itself. -/
def update (s : FaultyStore) (r : NodeRecord) : Except StoreError NodeRecord × FaultyStore :=
  let s := s.race r.key
  match spend s.failUpdates with
  | some n => (.error (.task "injected update failure"), { s with failUpdates := n })
  | none =>
    let s := { s with updateCalls := s.updateCalls + 1 }
    match spend s.conflicts with
    | some n => (.error (.conflict r.key r.version (r.version + 1)), { s with conflicts := n })
    | none =>
      let (answer, inner) := s.inner.apply (.update r)
      (answer, { s with inner })

def apply (s : FaultyStore) : (a : StoreAccess) → a.Answer × FaultyStore
  | .get key => s.get key
  | .create r => s.create r
  | .update r => s.update r
  | .delete key =>
    let (answer, inner) := s.inner.apply (.delete key)
    (answer, { s with inner })

end FaultyStore

end DeviceClaims
