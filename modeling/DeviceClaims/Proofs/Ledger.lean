import DeviceClaims.Proofs.StoredForm
import DeviceClaims.Store.Backend
import Mathlib.Logic.Function.Basic

namespace DeviceClaims

/-- What is stored: the record under each key. -/
abbrev Ledger := ObjectKey → Option NodeRecord

namespace Ledger

def empty : Ledger := fun _ => none

/-- How a map of versioned records answers a request, and what it holds then. Of versions only those
whose successor is a version are counted on. -/
inductive Serves (m : Ledger) : (a : StoreAccess) → a.Answer → Ledger → Prop
  | found {key : ObjectKey} {r : NodeRecord} (held : m key = some r) :
      Serves m (.get key) (Except.ok r) m
  | absent {key : ObjectKey} (free : m key = none) :
      Serves m (.get key) (Except.error (.notFound key)) m
  | created {r : NodeRecord} (free : m r.key = none) :
      Serves m (.create r) (Except.ok (r.withVersion 1))
        (Function.update m r.key (some (r.withVersion 1)))
  | taken {r old : NodeRecord} (held : m r.key = some old) :
      Serves m (.create r) (Except.error (.alreadyExists r.key)) m
  | updated {r old : NodeRecord} {v : UInt64} (held : m r.key = some old)
      (current : old.version = r.version) (next : v.toNat = r.version.toNat + 1) :
      Serves m (.update r) (Except.ok (r.withVersion v))
        (Function.update m r.key (some (r.withVersion v)))
  | stale {r old : NodeRecord} (held : m r.key = some old) (differs : old.version ≠ r.version) :
      Serves m (.update r) (Except.error (.conflict r.key r.version old.version)) m
  | gone {r : NodeRecord} (free : m r.key = none) :
      Serves m (.update r) (Except.error (.notFound r.key)) m
  | deleted {key : ObjectKey} {r : NodeRecord} (held : m key = some r) :
      Serves m (.delete key) (Except.ok ()) (Function.update m key none)
  | missing {key : ObjectKey} (free : m key = none) :
      Serves m (.delete key) (Except.error (.notFound key)) m

theorem Serves.get_eq {m m' : Ledger} {key : ObjectKey} {x : (StoreAccess.get key).Answer}
    (serves : m.Serves (.get key) x m') : m' = m := by
  cases serves <;> rfl

/-- A request leaves no choice of its answer. -/
theorem Serves.unique {m m' m'' : Ledger} {a : StoreAccess} {x y : a.Answer}
    (first : m.Serves a x m') (second : m.Serves a y m'') : x = y ∧ m' = m'' := by
  cases first with
  | found held =>
    cases second with
    | found held' => cases held.symm.trans held'; exact ⟨rfl, rfl⟩
    | absent free => cases held.symm.trans free
  | absent free =>
    cases second with
    | found held => cases held.symm.trans free
    | absent _ => exact ⟨rfl, rfl⟩
  | created free =>
    cases second with
    | created _ => exact ⟨rfl, rfl⟩
    | taken held => cases held.symm.trans free
  | taken held =>
    cases second with
    | created free => cases held.symm.trans free
    | taken _ => exact ⟨rfl, rfl⟩
  | updated held current next =>
    cases second with
    | updated _ _ next' => cases UInt64.toNat_inj.mp (next.trans next'.symm); exact ⟨rfl, rfl⟩
    | stale held' differs => cases held.symm.trans held'; exact absurd current differs
    | gone free => cases held.symm.trans free
  | stale held differs =>
    cases second with
    | updated held' current => cases held.symm.trans held'; exact absurd current differs
    | stale held' _ => cases held.symm.trans held'; exact ⟨rfl, rfl⟩
    | gone free => cases held.symm.trans free
  | gone free =>
    cases second with
    | updated held => cases held.symm.trans free
    | stale held => cases held.symm.trans free
    | gone _ => exact ⟨rfl, rfl⟩
  | deleted held =>
    cases second with
    | deleted _ => exact ⟨rfl, rfl⟩
    | missing free => cases held.symm.trans free
  | missing free =>
    cases second with
    | deleted held => cases held.symm.trans free
    | missing _ => exact ⟨rfl, rfl⟩

/-- A request answered with one of the requests before it and what they left. -/
inductive Course : Ledger → List (Sigma StoreAccess.Answer) → Ledger → Prop
  | nil {m : Ledger} : Course m [] m
  | cons {m m' m'' : Ledger} {a : StoreAccess} {x : a.Answer} {rest : List (Sigma StoreAccess.Answer)}
      (serves : m.Serves a x m') (course : Course m' rest m'') : Course m (⟨a, x⟩ :: rest) m''

/-- The requests and the map at first leave no choice of a course. -/
theorem Course.unique {m m' m'' : Ledger} {xs ys : List (Sigma StoreAccess.Answer)}
    (first : m.Course xs m') (second : m.Course ys m'') (same : xs.map Sigma.fst = ys.map Sigma.fst) :
    xs = ys ∧ m' = m'' := by
  induction first generalizing ys with
  | nil =>
    cases second with
    | nil => exact ⟨rfl, rfl⟩
    | cons => cases same
  | cons serves _ ih =>
    cases second with
    | nil => cases same
    | cons serves' course =>
      obtain ⟨request, later⟩ := List.cons.inj same
      cases request
      obtain ⟨rfl, rfl⟩ := serves.unique serves'
      obtain ⟨rfl, rfl⟩ := ih course later
      exact ⟨rfl, rfl⟩

section KeptBy

variable {β : Type} {form : NodeRecord → β} {rows : SortedMap ObjectKey β} {m : Ledger}

/-- Rows made of records in some form hold what a map does. -/
def KeptBy (form : NodeRecord → β) (rows : SortedMap ObjectKey β) (m : Ledger) : Prop :=
  ∀ key, rows.get? key = (m key).map form

theorem KeptBy.contains_eq (kept : KeptBy form rows m) (key : ObjectKey) :
    rows.contains key = (m key).isSome := by
  rw [SortedMap.contains, kept key, Option.isSome_map]

theorem KeptBy.insert (kept : KeptBy form rows m) (key : ObjectKey) (r : NodeRecord) :
    KeptBy form (rows.insert key (form r)) (Function.update m key (some r)) := by
  intro other
  by_cases same : other = key
  · subst same
    rw [Function.update_self, SortedMap.get?_insert_self]
    rfl
  · rw [Function.update_of_ne same, SortedMap.get?_insert_ne _ (Ne.symm same), kept]

theorem KeptBy.erase (kept : KeptBy form rows m) (key : ObjectKey) :
    KeptBy form (rows.erase key) (Function.update m key none) := by
  intro other
  by_cases same : other = key
  · subst same
    rw [Function.update_self, SortedMap.get?_erase_self]
    rfl
  · rw [Function.update_of_ne same, SortedMap.get?_erase_ne _ (Ne.symm same), kept]

end KeptBy

end Ledger

/-- The version that follows the one a request names, if it names one, is a version. -/
def StoreAccess.Countable : StoreAccess → Prop
  | .update r => r.version.toNat < 2 ^ 64 - 1
  | _ => True

theorem NodeRecord.toNat_next {r : NodeRecord} (countable : r.version.toNat < 2 ^ 64 - 1) :
    (r.version + 1).toNat = r.version.toNat + 1 := by
  have one : (1 : UInt64).toNat = 1 := rfl
  rw [UInt64.toNat_add, one, Nat.mod_eq_of_lt (by omega)]

open Ledger

/-- A store in memory answers as the map that it holds, and holds then what the map does. -/
theorem MemoryStore.exists_serves {s : MemoryStore} {m : Ledger} (kept : KeptBy id s.records m) (a : StoreAccess)
    (countable : a.Countable) :
    ∃ m', m.Serves a (s.apply a).1 m' ∧ KeptBy id (s.apply a).2.records m' := by
  cases a with
  | get key =>
    refine ⟨m, ?_, kept⟩
    rw [apply, get, kept key]
    cases held : m key with
    | none => exact .absent held
    | some r => exact .found held
  | create r =>
    rw [apply, create, kept.contains_eq r.key]
    cases held : m r.key with
    | none => exact ⟨_, .created held, kept.insert r.key (r.withVersion 1)⟩
    | some old => exact ⟨m, .taken held, kept⟩
  | update r =>
    rw [apply, update, kept r.key]
    cases held : m r.key with
    | none => exact ⟨m, .gone held, kept⟩
    | some old =>
      dsimp only [Option.map_some, id]
      split
      · next differs => exact ⟨m, .stale held differs, kept⟩
      · next current =>
        have current : old.version = r.version := Decidable.not_not.mp current
        rw [current]
        exact ⟨_, .updated held current (NodeRecord.toNat_next countable), kept.insert r.key _⟩
  | delete key =>
    rw [apply, delete, kept.contains_eq key]
    cases held : m key with
    | none => exact ⟨m, .missing held, kept⟩
    | some r => exact ⟨_, .deleted held, kept.erase key⟩

/-- So does a store in a table, whose rows are read as what they were made of. -/
theorem TableStore.exists_serves {s : TableStore} {m : Ledger} (kept : KeptBy rowOf s.rows m) (a : StoreAccess)
    (countable : a.Countable) :
    ∃ m', m.Serves a (s.apply a).1 m' ∧ KeptBy rowOf (s.apply a).2.rows m' := by
  cases a with
  | get key =>
    refine ⟨m, ?_, kept⟩
    rw [apply, get, kept key]
    cases held : m key with
    | none => exact .absent held
    | some r =>
      dsimp only [Option.map_some]
      rw [ofRow_rowOf]
      exact .found held
  | create r =>
    rw [apply, create, kept.contains_eq r.key]
    cases held : m r.key with
    | none => exact ⟨_, .created held, kept.insert r.key (r.withVersion 1)⟩
    | some old => exact ⟨m, .taken held, kept⟩
  | update r =>
    rw [apply, update, kept r.key]
    cases held : m r.key with
    | none => exact ⟨m, .gone held, kept⟩
    | some old =>
      dsimp only [Option.map_some]
      split
      · next same =>
        have current : old.version = r.version := by
          simpa [rowOf] using congrArg Int64.toUInt64 same
        exact ⟨_, .updated held current (NodeRecord.toNat_next countable), kept.insert r.key _⟩
      · next other =>
        have actual : (rowOf old).version.toUInt64 = old.version := by simp [rowOf]
        have differs : old.version ≠ r.version := fun same => other (congrArg UInt64.toInt64 same)
        rw [actual]
        exact ⟨m, .stale held differs, kept⟩
  | delete key =>
    rw [apply, delete, kept.contains_eq key]
    cases held : m key with
    | none => exact ⟨m, .missing held, kept⟩
    | some r => exact ⟨_, .deleted held, kept.erase key⟩

namespace Backend

/-- The answers that a store gives to requests one after the other, and what it is then. -/
def serve (s : Backend) : List StoreAccess → List (Sigma StoreAccess.Answer) × Backend
  | [] => ([], s)
  | a :: rest =>
    let (later, last) := (s.apply a).2.serve rest
    (⟨a, (s.apply a).1⟩ :: later, last)

/-- A store holds what a map does. -/
def Holds : Backend → Ledger → Prop
  | memory s, m => KeptBy id s.records m
  | table s, m => KeptBy TableStore.rowOf s.rows m
  | readOnly _, _ => False

/-- A store that holds a ledger answers a request as the ledger does, and then holds
what it has become. -/
theorem Holds.exists_serves_apply {s : Backend} {m : Ledger} (holds : s.Holds m) {a : StoreAccess}
    (countable : a.Countable) : ∃ m', m.Serves a (s.apply a).1 m' ∧ (s.apply a).2.Holds m' := by
  cases s with
  | memory s => exact MemoryStore.exists_serves holds a countable
  | table s => exact TableStore.exists_serves holds a countable
  | readOnly s => exact holds.elim

/-- A store that holds a ledger answers any requests as the ledger does. -/
theorem Holds.exists_course_serve {s : Backend} {m : Ledger} (holds : s.Holds m) {calls : List StoreAccess}
    (countable : ∀ a ∈ calls, a.Countable) :
    ∃ m', m.Course (s.serve calls).1 m' ∧ (s.serve calls).2.Holds m' := by
  induction calls generalizing s m with
  | nil => exact ⟨m, .nil, holds⟩
  | cons a rest ih =>
    obtain ⟨first, others⟩ := List.forall_mem_cons.mp countable
    obtain ⟨between, serves, holds⟩ := holds.exists_serves_apply first
    obtain ⟨last, course, holds⟩ := ih holds others
    exact ⟨last, .cons serves course, holds⟩

theorem serve_requests (s : Backend) (calls : List StoreAccess) :
    (s.serve calls).1.map Sigma.fst = calls := by
  induction calls generalizing s with
  | nil => rfl
  | cons a rest ih => exact congrArg (a :: ·) (ih _)

theorem Holds.serves_get {s : Backend} {m : Ledger} (holds : s.Holds m) (key : ObjectKey) :
    m.Serves (.get key) (s.get key) m := by
  obtain ⟨m', serves, _⟩ := holds.exists_serves_apply (a := .get key) trivial
  exact serves.get_eq ▸ serves

/-- To any requests a store in memory and a store in a table, both empty at first, give the same
answers: those of one map of versioned records, which both then hold. -/
theorem serve_alike (calls : List StoreAccess) (countable : ∀ a ∈ calls, a.Countable) :
    ∃ answers m, Ledger.empty.Course answers m ∧ answers.map Sigma.fst = calls ∧
      ((memory {}).serve calls).1 = answers ∧ ((table {}).serve calls).1 = answers ∧
      ∀ key, m.Serves (.get key) (((memory {}).serve calls).2.get key) m ∧
        m.Serves (.get key) (((table {}).serve calls).2.get key) m := by
  have atFirst : (memory {}).Holds Ledger.empty ∧ (table {}).Holds Ledger.empty :=
    ⟨fun _ => rfl, fun _ => rfl⟩
  obtain ⟨m, course, inMemory⟩ := atFirst.1.exists_course_serve countable
  obtain ⟨m', course', inTable⟩ := atFirst.2.exists_course_serve countable
  obtain ⟨same, rfl⟩ := course'.unique course
    ((serve_requests _ calls).trans (serve_requests _ calls).symm)
  exact ⟨_, m', course, serve_requests _ calls, rfl, same,
    fun key => ⟨inMemory.serves_get key, inTable.serves_get key⟩⟩

/-- Of two updates that were made from the same version the second is refused, and the refusal names
both versions. -/
theorem serve_alike_twice :
    let r : NodeRecord := { metadata := { name := "node-a", space := "default", version := 7 } }
    let calls : List StoreAccess :=
      [.create r, .update (r.withVersion 1), .update (r.withVersion 1), .get r.key]
    (∀ a ∈ calls, a.Countable) ∧ ((table {}).serve calls).1 =
      [⟨.create r, Except.ok (r.withVersion 1)⟩,
        ⟨.update (r.withVersion 1), Except.ok (r.withVersion 2)⟩,
        ⟨.update (r.withVersion 1), Except.error (.conflict r.key 1 2)⟩,
        ⟨.get r.key, Except.ok (r.withVersion 2)⟩] := by
  intro r calls
  have countable : ∀ a ∈ calls, a.Countable := by
    simp [calls, StoreAccess.Countable, NodeRecord.version, NodeRecord.withVersion]
  obtain ⟨answers, m, course, requests, _, inTable, _⟩ := serve_alike calls countable
  have expected : Ledger.empty.Course
      [⟨.create r, Except.ok (r.withVersion 1)⟩,
        ⟨.update (r.withVersion 1), Except.ok (r.withVersion 2)⟩,
        ⟨.update (r.withVersion 1), Except.error (.conflict r.key 1 2)⟩,
        ⟨.get r.key, Except.ok (r.withVersion 2)⟩] _ :=
    .cons (.created rfl) (.cons (.updated (Function.update_self ..) rfl rfl)
      (.cons (.stale (Function.update_self ..) (by decide)) (.cons (.found (Function.update_self ..)) .nil)))
  exact ⟨countable, inTable.trans (course.unique expected requests).1⟩

end Backend

end DeviceClaims
