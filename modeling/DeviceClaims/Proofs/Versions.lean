import DeviceClaims.Proofs.Ledger

namespace DeviceClaims

namespace StoreAccess

def isWrite : StoreAccess → Bool
  | .get _ => false
  | .create _ | .update _ | .delete _ => true

/-- Whether a store did what it was asked. -/
def granted : (a : StoreAccess) → a.Answer → Bool
  | .get _, answer | .create _, answer | .update _, answer => Except.isOk (ε := StoreError) answer
  | .delete _, answer => Except.isOk (ε := StoreError) answer

/-- Whether a request that was answered changed what is stored under a key. -/
def changed (key : ObjectKey) (x : Sigma Answer) : Bool :=
  x.1.isWrite && x.1.granted x.2 && x.1.key = key

/-- The changes under a key that were made by requests which were answered. -/
def changes (key : ObjectKey) (answers : List (Sigma Answer)) : List StoreAccess :=
  (answers.filter (changed key)).map Sigma.fst

end StoreAccess

namespace Backend

open StoreAccess

variable {s : Backend} {key : ObjectKey} {a : StoreAccess}

/-- What a store keeps under a key: a record or a row. -/
def slot (s : Backend) (key : ObjectKey) : Option (NodeRecord ⊕ Row) :=
  match s with
  | memory m => (m.records.get? key).map .inl
  | table t | readOnly t => (t.rows.get? key).map .inr

/-- The version that a store compares with the one that an update names. -/
def versionOf : NodeRecord ⊕ Row → UInt64
  | .inl r => r.version
  | .inr row => row.version.toUInt64

/-- What a store answers to a read depends on what it keeps under the key only. -/
theorem get_eq_slot : s.get key =
    (s.slot key).elim (.error (.notFound key)) (Sum.elim .ok TableStore.ofRow) := by
  have of_rows (t : TableStore) : t.get key =
      ((t.rows.get? key).map .inr).elim (.error (.notFound key)) (Sum.elim .ok TableStore.ofRow) := by
    unfold TableStore.get
    cases t.rows.get? key <;> rfl
  cases s with
  | memory m =>
    change m.get key = ((m.records.get? key).map Sum.inl).elim _ _
    unfold MemoryStore.get
    cases m.records.get? key <;> rfl
  | table t => exact of_rows t
  | readOnly t => exact of_rows t

theorem slot_of_get {r : NodeRecord} (read : s.get key = .ok r) :
    ∃ x, s.slot key = some x ∧ versionOf x = r.version := by
  rw [get_eq_slot] at read
  cases at_key : s.slot key with
  | none => simp [at_key] at read
  | some x =>
    refine ⟨x, rfl, ?_⟩
    cases x with
    | inl stored =>
      have same : stored = r := by simpa [at_key] using read
      exact congrArg NodeRecord.version same
    | inr row =>
      have read : TableStore.ofRow row = .ok r := by simpa [at_key] using read
      unfold TableStore.ofRow at read
      split at read
      · cases read
      · cases read
        rfl

/-- What a request does to all that a store keeps, by whether it is granted. -/
inductive Moves (s s' : Backend) : StoreAccess → Bool → Prop
  | spared {a : StoreAccess} {granted : Bool} (idle : (a.isWrite && granted) = false)
      (same : s'.slot = s.slot) : Moves s s' a granted
  | created {r : NodeRecord} {x : NodeRecord ⊕ Row} (absent : s.slot r.key = none)
      (after : s'.slot = Function.update s.slot r.key (some x)) : Moves s s' (.create r) true
  | updated {r : NodeRecord} {x y : NodeRecord ⊕ Row} (before : s.slot r.key = some x)
      (current : versionOf x = r.version) (counted : versionOf y = versionOf x + 1)
      (after : s'.slot = Function.update s.slot r.key (some y)) : Moves s s' (.update r) true
  | deleted {key : ObjectKey} (after : s'.slot = Function.update s.slot key none) :
      Moves s s' (.delete key) true

/-- What is asked of a store becomes one of its moves. -/
abbrev Serves (s : Backend) (a : StoreAccess) : Prop :=
  Moves s (s.apply a).2 a (a.granted (s.apply a).1)

theorem serves_refused (e : StoreError) (answer : s.apply a = (refuse e a, s)) : s.Serves a := by
  have denied : a.granted (refuse e a) = false := by cases a <;> rfl
  rw [Serves, answer]
  exact .spared (by rw [denied, Bool.and_false]) rfl

theorem slot_insert {α : Type} (m : SortedMap ObjectKey α) (form : α → NodeRecord ⊕ Row)
    (key : ObjectKey) (x : α) : (fun other => ((m.insert key x).get? other).map form) =
      Function.update (fun other => (m.get? other).map form) key (some (form x)) := by
  funext other
  by_cases same : other = key
  · subst same
    rw [Function.update_self, SortedMap.get?_insert_self]
    rfl
  · rw [Function.update_of_ne same, SortedMap.get?_insert_ne _ (Ne.symm same)]

theorem slot_erase {α : Type} (m : SortedMap ObjectKey α) (form : α → NodeRecord ⊕ Row)
    (key : ObjectKey) : (fun other => ((m.erase key).get? other).map form) =
      Function.update (fun other => (m.get? other).map form) key none := by
  funext other
  by_cases same : other = key
  · subst same
    rw [Function.update_self, SortedMap.get?_erase_self]
    rfl
  · rw [Function.update_of_ne same, SortedMap.get?_erase_ne _ (Ne.symm same)]

/-- A store in memory does what is asked of it where it grants it, and else keeps all as it is. -/
theorem memory_serves (m : MemoryStore) (a : StoreAccess) : (memory m).Serves a := by
  cases a with
  | get key => exact .spared rfl rfl
  | create r =>
    by_cases taken : m.records.contains r.key
    · have answer : m.create r = (.error (.alreadyExists r.key), m) := if_pos taken
      exact serves_refused (.alreadyExists r.key) (by rw [apply, MemoryStore.apply, answer]; rfl)
    · have answer : m.create r = (.ok (r.withVersion 1), ⟨m.records.insert r.key (r.withVersion 1)⟩) :=
        if_neg taken
      have absent : (memory m).slot r.key = none := by
        rw [slot, SortedMap.get?_of_not_contains taken]
        rfl
      rw [Serves, apply, MemoryStore.apply, answer]
      exact .created absent (slot_insert m.records .inl r.key _)
  | update r =>
    cases at_key : m.records.get? r.key with
    | none =>
      have answer : m.update r = (.error (.notFound r.key), m) := by simp [MemoryStore.update, at_key]
      exact serves_refused (.notFound r.key) (by rw [apply, MemoryStore.apply, answer]; rfl)
    | some old =>
      by_cases current : old.version = r.version
      · let stored := r.withVersion (old.version + 1)
        have answer : m.update r = (.ok stored, ⟨m.records.insert r.key stored⟩) := by
          simp [MemoryStore.update, at_key, current, stored]
        have before : (memory m).slot r.key = some (.inl old) := by rw [slot, at_key]; rfl
        rw [Serves, apply, MemoryStore.apply, answer]
        exact .updated before current rfl (slot_insert m.records .inl r.key stored)
      · have answer : m.update r = (.error (.conflict r.key r.version old.version), m) := by
          simp [MemoryStore.update, at_key, current]
        exact serves_refused (.conflict r.key r.version old.version)
          (by rw [apply, MemoryStore.apply, answer]; rfl)
  | delete key =>
    by_cases found : m.records.contains key
    · have answer : m.delete key = (.ok (), ⟨m.records.erase key⟩) := if_pos found
      rw [Serves, apply, MemoryStore.apply, answer]
      exact .deleted (slot_erase m.records .inl key)
    · have answer : m.delete key = (.error (.notFound key), m) := if_neg found
      exact serves_refused (.notFound key) (by rw [apply, MemoryStore.apply, answer]; rfl)

/-- A row counts the version that an update names, and compares it as a signed number. -/
theorem table_serves (t : TableStore) (a : StoreAccess) : (table t).Serves a := by
  cases a with
  | get key => exact .spared rfl rfl
  | create r =>
    by_cases taken : t.rows.contains r.key
    · have answer : t.create r = (.error (.alreadyExists r.key), t) := if_pos taken
      exact serves_refused (.alreadyExists r.key) (by rw [apply, TableStore.apply, answer]; rfl)
    · let stored := r.withVersion 1
      have answer : t.create r = (.ok stored, ⟨t.rows.insert r.key (TableStore.rowOf stored)⟩) :=
        if_neg taken
      have absent : (table t).slot r.key = none := by
        rw [slot, SortedMap.get?_of_not_contains taken]
        rfl
      rw [Serves, apply, TableStore.apply, answer]
      exact .created absent (slot_insert t.rows .inr r.key _)
  | update r =>
    cases at_key : t.rows.get? r.key with
    | none =>
      have answer : t.update r = (.error (.notFound r.key), t) := by simp [TableStore.update, at_key]
      exact serves_refused (.notFound r.key) (by rw [apply, TableStore.apply, answer]; rfl)
    | some row =>
      by_cases same : row.version = r.version.toInt64
      · let stored := r.withVersion (r.version + 1)
        have answer : t.update r = (.ok stored, ⟨t.rows.insert r.key (TableStore.rowOf stored)⟩) := by
          simp [TableStore.update, at_key, same, stored]
        have before : (table t).slot r.key = some (.inr row) := by rw [slot, at_key]; rfl
        have current : versionOf (.inr row) = r.version := by simp [versionOf, same]
        have counted : versionOf (.inr (TableStore.rowOf stored)) = versionOf (.inr row) + 1 := by
          rw [current]
          exact UInt64.toUInt64_toInt64 _
        rw [Serves, apply, TableStore.apply, answer]
        exact .updated before current counted (slot_insert t.rows .inr r.key _)
      · have answer : t.update r = (.error (.conflict r.key r.version row.version.toUInt64), t) := by
          simp [TableStore.update, at_key, same]
        exact serves_refused (.conflict r.key r.version row.version.toUInt64)
          (by rw [apply, TableStore.apply, answer]; rfl)
  | delete key =>
    by_cases found : t.rows.contains key
    · have answer : t.delete key = (.ok (), ⟨t.rows.erase key⟩) := if_pos found
      rw [Serves, apply, TableStore.apply, answer]
      exact .deleted (slot_erase t.rows .inr key)
    · have answer : t.delete key = (.error (.notFound key), t) := if_neg found
      exact serves_refused (.notFound key) (by rw [apply, TableStore.apply, answer]; rfl)

/-- A store of any kind does what is asked of it where it grants it, and else keeps all as it is. -/
theorem apply_serves (s : Backend) (a : StoreAccess) : s.Serves a := by
  cases s with
  | memory m => exact memory_serves m a
  | table t => exact table_serves t a
  | readOnly t =>
    cases a with
    | get key => exact .spared rfl rfl
    | create r => exact serves_refused (.database .readOnly) rfl
    | update r => exact serves_refused (.database .readOnly) rfl
    | delete key => exact serves_refused (.database .readOnly) rfl

/-- What a request does under a key: nothing, unless it is granted and is about this key. -/
inductive Acts (s : Backend) (key : ObjectKey) (a : StoreAccess) : Prop
  | spared (unchanged : changed key ⟨a, (s.apply a).1⟩ = false)
      (same : (s.apply a).2.slot key = s.slot key)
  | created {r : NodeRecord} (creates : a = .create r) (absent : s.slot key = none)
  | updated {r : NodeRecord} (updates : a = .update r) (changed : changed key ⟨a, (s.apply a).1⟩)
      {x y : NodeRecord ⊕ Row} (before : s.slot key = some x) (current : versionOf x = r.version)
      (after : (s.apply a).2.slot key = some y) (counted : versionOf y = versionOf x + 1)
  | deleted (deletes : a = .delete key) (changed : changed key ⟨a, (s.apply a).1⟩)

theorem apply_acts (s : Backend) (key : ObjectKey) (a : StoreAccess) : Acts s key a := by
  have serves : Moves s (s.apply a).2 a (a.granted (s.apply a).1) := s.apply_serves a
  have changes : changed key ⟨a, (s.apply a).1⟩ =
      (a.isWrite && a.granted (s.apply a).1 && decide (a.key = key)) := rfl
  generalize a.granted (s.apply a).1 = granted at serves changes
  by_cases same : a.key = key
  · subst same
    cases serves with
    | spared idle unchanged =>
      exact .spared (by rw [changes, idle, Bool.false_and]) (congrFun unchanged _)
    | created absent _ => exact .created rfl absent
    | updated before current counted after =>
      have now := (congrFun after _).trans (Function.update_self ..)
      exact .updated rfl (by simp [changes, isWrite]) before current now counted
    | deleted _ => exact .deleted rfl (by simp [changes, isWrite])
  · have elsewhere : (s.apply a).2.slot key = s.slot key := by
      have apart : key ≠ a.key := Ne.symm same
      cases serves with
      | spared _ unchanged => exact congrFun unchanged key
      | created _ after | updated _ _ _ after | deleted after =>
        rw [after]
        exact Function.update_of_ne apart _ _
    exact .spared (by simp [changes, same]) elsewhere

/-- Of a record that nobody takes away the version counts the updates. -/
theorem serve_counts {x : NodeRecord ⊕ Row} (calls : List StoreAccess) (first : s.slot key = some x)
    (kept : .delete key ∉ changes key (s.serve calls).1) :
    ∃ y, (s.serve calls).2.slot key = some y ∧
      versionOf y = versionOf x + UInt64.ofNat (changes key (s.serve calls).1).length ∧
      (changes key (s.serve calls).1 = [] → y = x) := by
  induction calls generalizing s x with
  | nil => exact ⟨x, first, (UInt64.add_zero _).symm, fun _ => rfl⟩
  | cons a rest ih =>
    have split : changes key (s.serve (a :: rest)).1 =
        (if changed key ⟨a, (s.apply a).1⟩ then [a] else []) ++
          changes key ((s.apply a).2.serve rest).1 := by
      simp only [changes, serve, List.filter_cons]
      split <;> rfl
    rw [split] at kept ⊢
    have later : .delete key ∉ changes key ((s.apply a).2.serve rest).1 :=
      fun member => kept (List.mem_append_right _ member)
    change ∃ y, ((s.apply a).2.serve rest).2.slot key = some y ∧ _
    cases apply_acts s key a with
    | spared unchanged same =>
      obtain ⟨y, last, counted, unlike⟩ := ih (same.trans first) later
      rw [if_neg (by simp [unchanged]), List.nil_append]
      exact ⟨y, last, counted, unlike⟩
    | created _ absent => cases absent.symm.trans first
    | updated _ changed before _ after next =>
      cases first.symm.trans before
      obtain ⟨y, last, counted, -⟩ := ih after later
      rw [if_pos changed]
      refine ⟨y, last, ?_, nofun⟩
      rw [counted, next, List.singleton_append, List.length_cons, UInt64.ofNat_add, UInt64.add_assoc,
        UInt64.add_comm 1]
      rfl
    | deleted deletes changed =>
      subst deletes
      rw [if_pos changed] at kept
      exact absurd (List.mem_append_left _ (List.mem_singleton.mpr rfl)) kept

/-- An update that is granted names the version that the store holds. -/
theorem current_of_granted {r stored : NodeRecord}
    (granted : (s.apply (.update r)).1 = (Except.ok stored : Except StoreError NodeRecord)) :
    ∃ x, s.slot r.key = some x ∧ versionOf x = r.version := by
  have changed : changed r.key ⟨.update r, (s.apply (.update r)).1⟩ := by
    rw [granted]
    exact decide_eq_true rfl
  cases apply_acts s r.key (.update r) with
  | spared unchanged => cases unchanged.symm.trans changed
  | created creates => cases creates
  | updated updates _ before current =>
    cases updates
    exact ⟨_, before, current⟩
  | deleted deletes => cases deletes

/-- An update that is granted and names the version of a record that was read from the store replaces
that record, which nobody has changed since it was read; or somebody has taken the record away since, or
updated it so often that the version has come round. -/
theorem update_replaces_what_was_read {r u stored : NodeRecord} {key : ObjectKey}
    (between : List StoreAccess) (read : s.get key = .ok r) (made : u.key = key)
    (version : u.version = r.version)
    (granted : ((s.serve between).2.apply (.update u)).1 =
      (Except.ok stored : Except StoreError NodeRecord)) :
    changes key (s.serve between).1 = [] ∧ (s.serve between).2.get key = .ok r ∨
      .delete key ∈ changes key (s.serve between).1 ∨
      2 ^ 64 ≤ (changes key (s.serve between).1).length := by
  by_cases kept : .delete key ∈ changes key (s.serve between).1
  · exact .inr (.inl kept)
  obtain ⟨x, first, ofRead⟩ := slot_of_get read
  obtain ⟨y, last, counted, unlike⟩ := serve_counts between first kept
  obtain ⟨y', last', ofUpdate⟩ := current_of_granted granted
  subst made
  cases last.symm.trans last'
  have comes_round : UInt64.ofNat (changes u.key (s.serve between).1).length = 0 := by
    have same : versionOf x + 0 =
        versionOf x + UInt64.ofNat (changes u.key (s.serve between).1).length := by
      rw [← counted, ofUpdate, version, ofRead, UInt64.add_zero]
    exact ((UInt64.add_right_inj _).mp same).symm
  by_cases few : (changes u.key (s.serve between).1).length < 2 ^ 64
  · have none : (changes u.key (s.serve between).1).length = 0 := by
      have zero := congrArg UInt64.toNat comes_round
      rwa [UInt64.toNat_ofNat_of_lt' few] at zero
    have nothing := List.length_eq_zero_iff.mp none
    refine .inl ⟨nothing, ?_⟩
    rw [get_eq_slot, last, unlike nothing, ← first, ← get_eq_slot]
    exact read
  · exact .inr (.inr (Nat.le_of_not_lt few))

namespace Reissued

def record : NodeRecord := NodeRecord.new "node-a" "default"

def another : NodeRecord := { record with status := .ready }

end Reissued

open Reissued in
/-- Another client reads the record and is refused an update in between. -/
theorem update_replaces_what_was_read_undisturbed :
    let s := ((memory {}).serve [.create record]).2
    let between : List StoreAccess := [.get record.key, .update another, .create another]
    s.get record.key = .ok (record.withVersion 1) ∧
      changes record.key (s.serve between).1 = [] ∧
      (s.serve between).2.get record.key = .ok (record.withVersion 1) := by
  intro s between
  have kept := update_replaces_what_was_read (s := s) (r := record.withVersion 1)
    (u := another.withVersion 1) between rfl rfl rfl rfl
  rcases kept with ⟨nothing, same⟩ | deleted | often
  · exact ⟨rfl, nothing, same⟩
  · exact absurd deleted (by decide)
  · exact absurd often (by decide)

open Reissued in
/-- A record that was created in place of the one that was read bears the same version, and the update
replaces it. -/
theorem update_replaces_another_record :
    let s := ((memory {}).serve [.create record]).2
    let between : List StoreAccess := [.delete record.key, .create another]
    s.get record.key = .ok (record.withVersion 1) ∧
      changes record.key (s.serve between).1 = between ∧
      (s.serve between).2.get record.key = .ok (another.withVersion 1) ∧
      ((s.serve between).2.apply (.update (record.withVersion 1))).1 =
        (Except.ok (record.withVersion 2) : Except StoreError NodeRecord) ∧
      another.withVersion 1 ≠ record.withVersion 1 := by
  intro s between
  exact ⟨rfl, by decide, rfl, rfl, by decide⟩

end Backend

end DeviceClaims
