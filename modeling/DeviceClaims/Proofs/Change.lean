import DeviceClaims.Proofs.Discipline.Soundness

namespace DeviceClaims

/-- The parts of a record. -/
inductive Part
  | claim (claim : ClaimUid)
  | devices
  | status
  deriving DecidableEq

def Part.Same : Part → NodeRecord → NodeRecord → Prop
  | claim c, r, r' => r'.spec.allocated.get? c = r.spec.allocated.get? c
  | devices, r, r' => r'.spec.allocatable = r.spec.allocatable ∧ r'.spec.prepared = r.spec.prepared
  | status, r, r' => r'.status = r.status

theorem Part.Same.refl (part : Part) (r : NodeRecord) : part.Same r r := by
  cases part
  · rfl
  · exact ⟨rfl, rfl⟩
  · rfl

theorem Part.Same.trans {part : Part} {r r' r'' : NodeRecord} (first : part.Same r r')
    (last : part.Same r' r'') : part.Same r r'' := by
  cases part with
  | claim c => exact Eq.trans last first
  | devices => exact ⟨last.1.trans first.1, last.2.trans first.2⟩
  | status => exact Eq.trans last first

/-- What a write does to a record. A write replaces the record that its call has read by one changed in
a single part. -/
inductive Change
  | allocate (claim : ClaimUid) (devices : List AllocatedDevice)
  | release (claim : ClaimUid)
  | publish (allocatable : List AllocatableDevice)
      (prepared : SortedMap ClaimUid (List PreparedDevice))
  | status (status : Readiness)

namespace Change

def part : Change → Part
  | allocate claim _ | release claim => .claim claim
  | publish .. => .devices
  | status _ => .status

/-- The changed record, of the version that it was made from. -/
def apply : Change → NodeRecord → NodeRecord
  | allocate claim devices, r =>
    { r with spec := { r.spec with allocated := r.spec.allocated.insert claim devices } }
  | release claim, r => { r with spec := { r.spec with allocated := r.spec.allocated.erase claim } }
  | publish allocatable prepared, r => { r with spec := { r.spec with allocatable, prepared } }
  | status s, r => { r with status := s }

/-- The changed record as a store keeps it. -/
def on (change : Change) (r : NodeRecord) : NodeRecord := (change.apply r).withVersion (r.version + 1)

theorem apply_metadata (change : Change) (r : NodeRecord) : (change.apply r).metadata = r.metadata := by
  cases change <;> rfl

@[simp] theorem on_key (change : Change) (r : NodeRecord) : (change.on r).key = r.key := by
  cases change <;> rfl

/-- A change leaves all parts of a record but its own as they are. -/
theorem same_on (change : Change) (r : NodeRecord) {other : Part} (apart : other ≠ change.part) :
    other.Same r (change.on r) := by
  cases change with
  | allocate claim devices =>
    cases other with
    | claim c => exact SortedMap.get?_insert_ne _ (by rintro rfl; exact apart rfl) _
    | devices => exact ⟨rfl, rfl⟩
    | status => rfl
  | release claim =>
    cases other with
    | claim c => exact SortedMap.get?_erase_ne _ (by rintro rfl; exact apart rfl)
    | devices => exact ⟨rfl, rfl⟩
    | status => rfl
  | publish allocatable prepared =>
    cases other with
    | claim c => rfl
    | devices => exact absurd rfl apart
    | status => rfl
  | status status =>
    cases other with
    | claim c => rfl
    | devices => exact ⟨rfl, rfl⟩
    | status => exact absurd rfl apart

end Change

/-- A call has read a record: what is there now has come of it by writes that are counted. -/
def World.Saw (w : World) (r : NodeRecord) : Prop :=
  ∃ cur n, w.record r.key = some cur ∧ n ≤ w.writes r.key ∧ r.Becomes n cur

theorem World.Saw.of_key {w : World} {key : ObjectKey} {r : NodeRecord} (at_key : w.record key = some r)
    (same : r.key = key) : w.Saw r :=
  ⟨r, 0, same.symm ▸ at_key, Nat.zero_le _, .refl r⟩

theorem World.Saw.of_record {w : World} {key : ObjectKey} {r : NodeRecord} (wellKeyed : w.WellKeyed)
    (at_key : w.record key = some r) : w.Saw r := .of_key at_key (wellKeyed key r at_key)

theorem World.Saw.saw_put_self (w : World) (r : NodeRecord) : (w.put r).Saw r :=
  .of_key (record_put_self w r) rfl

/-- What was seen stays seen: others only replace records by ones of higher versions. -/
theorem World.Saw.of_leaves {call : Nat} {w w' : World} {r : NodeRecord} (saw : w.Saw r)
    (leaves : w.Leaves call w') : w'.Saw r := by
  obtain ⟨cur, n, at_key, counted, becomes⟩ := saw
  obtain ⟨cur', n', at_key', writes, becomes'⟩ := leaves.grows _ cur at_key
  exact ⟨cur', n + n', at_key', writes ▸ Nat.add_le_add_right counted n', becomes.trans becomes'⟩

/-- Where a write made from a record that was read meets its version, the record itself is still
there: no other number of writes that is counted leads to that version again. -/
theorem World.Saw.eq_of_version {w : World} {r cur : NodeRecord} (saw : w.Saw r)
    (at_key : w.record r.key = some cur) (same : cur.version = r.version)
    (seldom : w.writes r.key < 2 ^ 64) : cur = r := by
  obtain ⟨found, n, at_key', counted, becomes⟩ := saw
  cases at_key.symm.trans at_key'
  have none : UInt64.ofNat n = 0 := by
    have version := becomes.version
    rwa [same, UInt64.left_eq_add] at version
  have none : n % 2 ^ 64 = 0 := by simpa using congrArg UInt64.toNat none
  rw [Nat.mod_eq_of_lt (Nat.lt_of_le_of_lt counted seldom)] at none
  exact becomes.same none

namespace Discipline.Meets

variable {D : Discipline} {S : Setting} {call : Nat} {op : Operation} {α ε : Type} {w : World}
  {post : α → World → Prop}

theorem and_saw {p : Prog α} {r : NodeRecord} (meets : D.Meets S call op post p w) (saw : w.Saw r) :
    D.Meets S call op (fun a w' => post a w' ∧ w'.Saw r) p w := by
  induction p generalizing w with
  | done a => exact fun v later => ⟨meets v later, saw.of_leaves later.leaves⟩
  | crash => trivial
  | ask a next ih =>
    intro v later may answer v' answers
    obtain ⟨allows, rest⟩ := meets v later may answer v' answers
    have grows := allows.leaves (call + 1) (Nat.succ_ne_self call)
    exact ⟨allows, ih answer rest ((saw.of_leaves later.leaves).of_leaves grows)⟩

/-- A write made from a record that was read is refused, or changes just that record. -/
theorem ask_rewrite {r r' : NodeRecord} (change : Change) (made : r' = change.apply r) (saw : w.Saw r)
    {next : Except StoreError NodeRecord → Prog α}
    (written : ∀ w', D.Later call w w' → S.mayStep op w' → w'.record r.key = some r →
      D.Permits call op w' (w'.put (change.on r)) ∧
        D.Meets S call op post (next (.ok (change.on r))) (w'.put (change.on r)))
    (refused : ∀ w', D.Later call w w' → ∀ e, D.Meets S call op post (next (.error e)) w') :
    D.Meets S call op post (.ask (.store (.update r')) next) w := by
  subst made
  have key : (change.apply r).key = r.key := congrArg ObjectMeta.key (change.apply_metadata r)
  have version : (change.apply r).version = r.version :=
    congrArg ObjectMeta.version (change.apply_metadata r)
  refine ask_update (fun v later may cur at_key same seldom => ?_) refused
  rw [key] at at_key seldom
  cases (saw.of_leaves later.leaves).eq_of_version at_key (same.trans version) seldom
  exact written v later may at_key

/-- To read a record and go on with it, either find one, and have seen it, or stop with the error. -/
theorem get_thenOk {key : ObjectKey} {f : StoreError → ε} {next : NodeRecord → Prog (Except ε α)}
    {post : Except ε α → World → Prop}
    (found : ∀ w', D.Later call w w' → ∀ r, w'.record key = some r → r.key = key → w'.Saw r →
      D.Meets S call op post (next r) w')
    (missing : ∀ w', D.Later call w w' → ∀ e, D.Meets S call op post (.done (.error e)) w') :
    D.Meets S call op post (((StoreClient.get key).mapError f).thenOk next) w :=
  ask_get (fun v later r at_key =>
    found v later r at_key (later.wellKeyed key r at_key) (.of_record later.wellKeyed at_key))
    fun v later _ => missing v later _

/-- To read a record or make it, and go on with it: it was found and seen, or nobody had made it and it
is written empty, or the store failed. -/
theorem getOrCreate_thenOk {key : ObjectKey} {f : StoreError → ε} {next : NodeRecord → Prog (Except ε α)}
    {post : Except ε α → World → Prop}
    (found : ∀ w', D.Later call w w' → ∀ r, w'.record key = some r → r.key = key → w'.Saw r →
      D.Meets S call op post (next r) w')
    (made : ∀ w', D.Later call w w' → S.mayStep op w' → w'.record key = none →
      D.Permits call op w' (w'.put ((NodeRecord.new key.name key.space).withVersion 1)) ∧
        D.Meets S call op post (next ((NodeRecord.new key.name key.space).withVersion 1))
          (w'.put ((NodeRecord.new key.name key.space).withVersion 1)))
    (failed : ∀ w', D.Later call w w' → ∀ e, D.Meets S call op post (.done (.error (f e))) w') :
    D.Meets S call op post (((StoreClient.getOrCreate key).mapError f).thenOk next) w :=
  ask_get (fun v later r at_key =>
    found v later r at_key (later.wellKeyed key r at_key) (.of_record later.wellKeyed at_key))
    fun _ later _ => ask_create (fun v after may absent => made v (later.trans after) may absent)
      fun v after e => failed v (later.trans after) e

/-- What is set aside for a claim is read before it is written. -/
theorem assignPending_thenOk {spec : NodeSpec} {claim : ClaimUid} {node : String}
    {next : NodeSpec → Prog (Except DriverError α)} {post : Except DriverError α → World → Prop}
    (found : ∀ w', D.Later call w w' → ∀ devices, w'.pending.get? claim node = some devices →
      D.Meets S call op post
        (next { spec with allocated := spec.allocated.insert claim devices }) w')
    (missing : ∀ w', D.Later call w w' →
      D.Meets S call op post (.done (.error (.pendingNotFound claim node))) w') :
    D.Meets S call op post ((Allocator.assign spec claim node).thenOk next) w := by
  refine ask_pendingGet (fun v later => ?_)
  cases at_node : v.pending.get? claim node with
  | none => exact missing v later
  | some devices => exact found v later devices at_node

end Discipline.Meets

/-- The parts of records that a call may change. -/
def Operation.Owns : Operation → ObjectKey → Part → Prop
  | filter .., _, _ => False
  | allocate c claim node, key, part => key = c.recordKey node ∧ part = .claim claim
  | deallocate c claim, key, part =>
    (∃ node, claim.allocation.bind AllocationResult.selectedNode = some node ∧
      key = c.recordKey node) ∧ part = .claim claim.uid
  | start p _, key, part => key = p.key ∧ (part = .status ∨ part = .devices)
  | prepare p claim, key, part | unprepare p claim, key, part =>
    key = p.key ∧ (part = .devices ∨ claim.handles ≠ [] ∧ part = .claim claim.uid)
  | shutdown p, key, part => key = p.key ∧ part = .status
  | setStatus k _ _, key, part => key = k ∧ part = .status

def Operation.Plain : Operation → Prop
  | prepare _ claim | unprepare _ claim => claim.handles = []
  | _ => True

/-- Only the controller allocates claims and takes them back, unless there is a handle. -/
theorem Operation.Plain.not_owns_claim {op : Operation} (plain : op.Plain) (controlled : op.controller? = none)
    (key : ObjectKey) (claim : ClaimUid) : ¬ op.Owns key (.claim claim) := by
  cases op <;> simp_all [Owns, Plain, controller?]

/-- The changes that a call may make of a record. A claim is only allocated by the controller to a
ready node that does not know it. -/
def Operation.Makes : Operation → Change → NodeRecord → Prop
  | filter .., _, _ => False
  | allocate c claim node, change, r => r.key = c.recordKey node ∧ r.isReady = true ∧
    r.spec.allocated.get? claim = none ∧ ∃ devices, change = .allocate claim devices
  | deallocate c claim, change, r =>
    (∃ node, claim.allocation.bind AllocationResult.selectedNode = some node ∧
      r.key = c.recordKey node) ∧ change = .release claim.uid
  | start p _, change, r => r.key = p.key ∧
    ((∃ s, change = .status s) ∨ ∃ devices prepared, change = .publish devices prepared)
  | prepare p claim, change, r => r.key = p.key ∧
    ((∃ devices prepared, change = .publish devices prepared) ∨
      claim.handles ≠ [] ∧ ∃ devices, change = .allocate claim.uid devices)
  | unprepare p claim, change, r => r.key = p.key ∧
    ((∃ devices prepared, change = .publish devices prepared) ∨
      claim.handles ≠ [] ∧ change = .release claim.uid)
  | shutdown p, change, r => r.key = p.key ∧ change = .status .notReady
  | setStatus key status _, change, r => r.key = key ∧ change = .status status

/-- A call makes only changes to parts that it owns. -/
theorem Operation.Makes.owns_part {op : Operation} {change : Change} {r : NodeRecord}
    (makes : op.Makes change r) : op.Owns r.key change.part := by
  cases op with
  | filter => exact makes.elim
  | allocate =>
    obtain ⟨key, _, _, _, rfl⟩ := makes
    exact ⟨key, rfl⟩
  | deallocate =>
    obtain ⟨key, rfl⟩ := makes
    exact ⟨key, rfl⟩
  | start =>
    obtain ⟨key, ⟨_, rfl⟩ | ⟨_, _, rfl⟩⟩ := makes
    · exact ⟨key, .inl rfl⟩
    · exact ⟨key, .inr rfl⟩
  | prepare =>
    obtain ⟨key, ⟨_, _, rfl⟩ | ⟨handles, _, rfl⟩⟩ := makes
    · exact ⟨key, .inl rfl⟩
    · exact ⟨key, .inr ⟨handles, rfl⟩⟩
  | unprepare =>
    obtain ⟨key, ⟨_, _, rfl⟩ | ⟨handles, rfl⟩⟩ := makes
    · exact ⟨key, .inl rfl⟩
    · exact ⟨key, .inr ⟨handles, rfl⟩⟩
  | shutdown =>
    obtain ⟨key, rfl⟩ := makes
    exact ⟨key, rfl⟩
  | setStatus =>
    obtain ⟨key, rfl⟩ := makes
    exact ⟨key, rfl⟩

end DeviceClaims
