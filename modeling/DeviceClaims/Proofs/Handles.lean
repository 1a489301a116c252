import DeviceClaims.Proofs.Course.Plugins
import DeviceClaims.Proofs.Picking
import DeviceClaims.Proofs.Preparation

namespace DeviceClaims

namespace Plugin

variable {p : Plugin} {call : Nat} {op : Operation} {alone faulty : Prop} {first : Option NodeRecord}
  {steps : List (Step World)} {dir : SpecDir} {w : World} {c : NodeClaim} {s : DeviceState}

/-- A failure is told of a claim exactly if it was not prepared. -/
theorem prepare_always (takes : op.takes = some p.key)
    (unwritten : ¬ faulty → s.prepared.get? c.uid = none → dir.claims.get? c.uid = none)
    (done : p.Done alone first steps [] dir w) :
    (p.prepare c s).Always (.ofPlugin p call op alone faulty)
      (fun steps result w => ∃ inner changes dir', p.Done alone first steps changes dir' w ∧
        Prepares c s faulty dir inner changes dir' ∧ result.2 = inner.2 ∧
        (result.1.failure = none ↔ inner.1.isOk))
      (fun _ _ => ¬ p.retry.Steady) steps w := by
  refine Prog.Always.bind ((prepareClaim_always takes unwritten done).weaken
    fun steps result w reached => ?_)
  obtain ⟨changes, dir', done, prepares⟩ := reached
  obtain ⟨_ | _, _⟩ := result
  · exact ⟨_, changes, dir', done, prepares, rfl, by simp [Except.isOk, Except.toBool]⟩
  · exact ⟨_, changes, dir', done, prepares, rfl, by simp [Except.isOk, Except.toBool]⟩

/-- To give a claim up does what the claim's handle and the specifications let it, and no more. -/
theorem unprepare_always (takes : op.takes = some p.key) (done : p.Done alone first steps [] dir w) :
    (p.unprepare c s).Always (.ofPlugin p call op alone faulty)
      (fun steps result w => ∃ inner changes dir', p.Done alone first steps changes dir' w ∧
        Unprepares alone first c s faulty dir inner changes dir' ∧ result.2 = inner.2 ∧
        (result.1.failure = none ↔ inner.1.isOk))
      (fun _ _ => ¬ p.retry.Steady) steps w := by
  refine Prog.Always.bind ((unprepareClaim_always takes done).weaken fun steps result w reached => ?_)
  obtain ⟨changes, dir', done, unprepares⟩ := reached
  obtain ⟨_ | _, _⟩ := result
  · exact ⟨_, changes, dir', done, unprepares, rfl, by simp [Except.isOk, Except.toBool]⟩
  · exact ⟨_, changes, dir', done, unprepares, rfl, by simp [Except.isOk, Except.toBool]⟩

/-- Where updates and specifications do not fail, a failed preparation leaves the plugin and the
specifications as they were, and of the record at most the handle's entry changed. -/
theorem Prepares.unchanged_of_failed {result : Except PluginError (List String) × DeviceState}
    {changes : List Change} {dir' : SpecDir} (prepares : Prepares c s faulty dir result changes dir')
    (perfect : ¬ faulty) (failed : ¬ result.1.isOk) :
    result.2 = s ∧ dir' = dir ∧ (changes = [] ∨ changes = handed c) := by
  cases prepares with
  | known | prepared => exact absurd rfl failed
  | refused written kept =>
    obtain ⟨known, specs⟩ := kept perfect
    exact ⟨known, specs, written⟩

/-- Where updates and specifications do not fail, a failed call to give a claim up leaves the plugin and
the specifications as they were, and of the record at most the handle's entry gone. -/
theorem Unprepares.unchanged_of_failed {result : Except PluginError Unit × DeviceState} {changes : List Change}
    {dir' : SpecDir} (unprepares : Unprepares alone first c s faulty dir result changes dir')
    (perfect : ¬ faulty) (failed : ¬ result.1.isOk) :
    result.2 = s ∧ dir' = dir ∧ (changes = [] ∨ c.handles ≠ [] ∧ changes = [.release c.uid]) := by
  cases unprepares with
  | absent | cleared | gone => exact absurd rfl failed
  | refused written => exact ⟨rfl, rfl, written perfect⟩

theorem Done.of_nothing (p : Plugin) (alone : Prop) (w : World) (wellKeyed : w.WellKeyed) :
    p.Done alone (w.record p.key) [] [] (w.specs p.key) w :=
  ⟨.nothing, wellKeyed, rfl, fun _ => (Change.map_allOn_nil _).symm⟩

end Plugin

/-- A call of a plugin that fails leaves what the plugin knows and the specifications as they were,
and writes no record, unless its claim came with a handle: then what the handle names may have been
recorded for the claim, or the claim been taken off the record, which nothing undoes. Others may do
between its accesses what they will, and the store may refuse any of its writes. Of runs in which a
record is updated that has been written 2 ^ 64 times, nothing is said (`World.Answers`). -/
theorem Machine.Reach.failures_leave {p : Plugin} {w₀ : World} {m : Machine} (wellKeyed : w₀.WellKeyed)
    (down : w₀.plugins p.key = .down)
    (unprepared : ∀ r, w₀.record p.key = some r → r.spec.prepared = .empty)
    (present : (w₀.specs p.key).present = true) (unwritten : (w₀.specs p.key).claims = .empty)
    (reach : Machine.Reach (.ofPlugin p.key) (.idle w₀) m) {s : DeviceState}
    (up : m.world.plugins p.key = .up s) (c : NodeClaim) (call : Nat) :
    (p.prepare c s).Always (.ofPlugin p call (.prepare p c) False False)
        (fun steps result w => result.1.failure ≠ none → result.2 = s ∧
          w.specs p.key = m.world.specs p.key ∧
          (Wrote p.key steps [] ∨ Wrote p.key steps (Plugin.handed c)))
        (fun _ _ => ¬ p.retry.Steady) [] ((Operation.prepare p c).enter call m.world) ∧
      (p.unprepare c s).Always (.ofPlugin p call (.unprepare p c) False False)
        (fun steps result w => result.1.failure ≠ none → result.2 = s ∧
          w.specs p.key = m.world.specs p.key ∧
          (Wrote p.key steps [] ∨ c.handles ≠ [] ∧ Wrote p.key steps [.release c.uid]))
        (fun _ _ => ¬ p.retry.Steady) [] ((Operation.unprepare p c).enter call m.world) := by
  have sound := Custody.Sound.of_unprepared down unprepared present unwritten
  have keeps := (Custody.discipline_governs (Setting.ofPlugin_fits p.key)).keeps_reach (.idle wellKeyed sound)
    (fun before move call op caller => before.mayCall_and_allows wellKeyed move call op caller) reach
  have sound : Custody.Sound ⟨p.key, False, True⟩ m.world := keeps.inv
  obtain ⟨_, _, _, files⟩ := sound.exists_record_of_up up
  have still := (reach.keeps_ground wellKeyed).wellKeyed
  have fresh : s.prepared.get? c.uid = none → (m.world.specs p.key).claims.get? c.uid = none := by
    intro absent
    rw [files, SortedMap.get?_mapValues, absent]
    rfl
  constructor
  · have takes : (Operation.prepare p c).takes = some p.key := rfl
    have first : p.Done False (m.world.record p.key) [] [] (m.world.specs p.key)
      ((Operation.prepare p c).enter call m.world) :=
        .of_nothing p False ((Operation.prepare p c).enter call m.world) still
    refine (Plugin.prepare_always takes (fun _ => fresh) first).weaken fun steps result w reached => ?_
    intro failed
    obtain ⟨inner, changes, dir', done, prepares, known, failure⟩ := reached
    obtain ⟨same, rfl, written⟩ := prepares.unchanged_of_failed id (mt failure.mpr failed)
    refine ⟨known.trans same, done.specs, ?_⟩
    rcases written with rfl | rfl
    · exact .inl done.wrote
    · exact .inr done.wrote
  · have takes : (Operation.unprepare p c).takes = some p.key := rfl
    have first : p.Done False (m.world.record p.key) [] [] (m.world.specs p.key)
      ((Operation.unprepare p c).enter call m.world) :=
        .of_nothing p False ((Operation.unprepare p c).enter call m.world) still
    refine (Plugin.unprepare_always takes first).weaken fun steps result w reached => ?_
    intro failed
    obtain ⟨inner, changes, dir', done, unprepares, known, failure⟩ := reached
    obtain ⟨same, rfl, written⟩ := unprepares.unchanged_of_failed id (mt failure.mpr failed)
    refine ⟨known.trans same, done.specs, ?_⟩
    rcases written with rfl | ⟨handle, rfl⟩
    · exact .inl done.wrote
    · exact .inr ⟨handle, done.wrote⟩

namespace Stray

open Sharing

/-- The plugin starts with two devices. -/
def started : List Turn := Turn.whole 0 (.start plugin 2) 6

/-- The plugin starts, and is asked to prepare a claim. With a handle that takes three accesses up to the
record of what the handle names, and three more if the devices are there. -/
def prepares (c : NodeClaim) (accesses : Nat) : List Turn :=
  started ++ Turn.whole 1 (.prepare plugin c) accesses

theorem may_of_own {turns : List Turn}
    (own : ∀ call op, .begins call op ∈ turns → op.takes = some plugin.key) (call : Nat) (op : Operation)
    (begins : .begins call op ∈ turns) :
    (Setting.ofPlugin plugin.key).mayCall op ∧ ∀ w, (Setting.ofPlugin plugin.key).mayStep op w :=
  ⟨fun _ takes => Option.some.inj (takes.symm.trans (own call op begins)), fun _ => trivial⟩

theorem started_own (call : Nat) (op : Operation) (begins : .begins call op ∈ started) :
    op.takes = some plugin.key := by
  obtain ⟨_, rfl⟩ : call = 0 ∧ op = .start plugin 2 := by simpa [started, Turn.whole] using begins
  rfl

theorem prepares_own (c : NodeClaim) (accesses call : Nat) (op : Operation)
    (begins : .begins call op ∈ prepares c accesses) : op.takes = some plugin.key := by
  rcases List.mem_append.mp begins with begins | begins
  · exact started_own call op begins
  · obtain ⟨_, rfl⟩ : call = 1 ∧ op = .prepare plugin c := by simpa [Turn.whole] using begins
    rfl

def unknown : DeviceUuid := ⟨⟨List.replicate 16 9, rfl⟩⟩

def handle (uuids : List DeviceUuid) : StructuredHandle :=
  { vendorParameters := some ⟨.obj [], rfl⟩, results := uuids.map (·.resourceName) }

def claim : NodeClaim := { use first with handles := [handle [unknown]] }

/-- The same claim with a handle that names a device of the node. -/
def fitting : NodeClaim :=
  { use first with handles := [handle ((Emulator.devices "node" 1).map (·.uuid))] }

end Stray

open Sharing Stray in
/-- A node of two devices, and a claim whose handle names a third. -/
theorem Machine.Reach.failures_leave_stray :
    ∃ m s steps result w', Machine.Reach (.ofPlugin plugin.key) (.idle {}) m ∧
      m.world.plugins plugin.key = .up s ∧
      Prog.Course (.ofPlugin plugin 1 (.prepare plugin claim) False False) (plugin.prepare claim s)
        ((Operation.prepare plugin claim).enter 1 m.world) steps result w' ∧
      result.1.failure ≠ none ∧ result.2 = s ∧ w'.specs plugin.key = m.world.specs plugin.key ∧
      (Wrote plugin.key steps [] ∨ Wrote plugin.key steps [.allocate first [⟨unknown, 0⟩]]) := by
  obtain ⟨m, s, steps, result, w', reach, up, course, shown⟩ :=
    Machine.course_of_showsNext plugin (.prepare plugin claim) False False (plugin.prepare claim)
      (may_of_own started_own) (fun _ _ (_, result, _) => result.1.failure.isSome) (by decide +kernel)
  have failed : result.1.failure ≠ none := Option.ne_none_iff_isSome.mpr shown
  have leaves := (reach.failures_leave (p := plugin) (fun _ _ at_key => by cases at_key) rfl
    (fun _ at_key => by cases at_key) rfl rfl up claim 1).1
  obtain ⟨known, specs, wrote⟩ := leaves.post_of_course course failed
  exact ⟨m, s, steps, result, w', reach, up, course, failed, known, specs, wrote⟩

open Sharing Stray in
/-- The claim keeps what its handle named, though it was not prepared. -/
theorem Machine.Reach.failure_keeps_allocation :
    ∃ m s steps result w', Machine.Reach (.ofPlugin plugin.key) (.idle {}) m ∧
      m.world.plugins plugin.key = .up s ∧
      Prog.Course (.ofPlugin plugin 1 (.prepare plugin claim) True False) (plugin.prepare claim s)
        ((Operation.prepare plugin claim).enter 1 m.world) steps result w' ∧
      result.1.failure ≠ none ∧ m.world.allocation plugin.key claim.uid = none ∧
      w'.allocation plugin.key claim.uid = some [⟨unknown, 0⟩] := by
  obtain ⟨m, s, steps, result, w', reach, up, course, shown⟩ :=
    Machine.course_of_showsNext plugin (.prepare plugin claim) True False (plugin.prepare claim)
      (may_of_own started_own) (fun w _ (_, result, w') => decide (
        result.1.failure ≠ none ∧ w.allocation plugin.key claim.uid = none ∧
          w'.allocation plugin.key claim.uid = some [⟨unknown, 0⟩])) (by decide +kernel)
  exact ⟨m, s, steps, result, w', reach, up, course, of_decide_eq_true shown⟩

/-- What a record says is prepared for a claim. -/
def World.preparation (w : World) (key : ObjectKey) (claim : ClaimUid) : Option (List PreparedDevice) :=
  (w.record key).bind (·.spec.prepared.get? claim)

theorem DeviceState.recorded_of_unprepared {s : DeviceState} {claim : ClaimUid}
    (unprepared : s.isPrepared claim = false) : s.recorded.get? claim = none := by
  have absent : s.prepared.get? claim = none := SortedMap.get?_of_not_contains
    (Bool.eq_false_iff.mp unprepared)
  rw [DeviceState.recorded, SortedMap.get?_mapValues, absent]
  rfl

/-- A call that gives a claim up and succeeds leaves nothing prepared for it on the record. But the
claim's allocation is gone only if the claim was prepared and came with a handle: one that is not
prepared is not looked up among the allocations. -/
theorem Plugin.unprepare_frees {p : Plugin} {c : NodeClaim} {s : DeviceState} {call : Nat} {w : World}
    (wellKeyed : w.WellKeyed) :
    (p.unprepare c s).Always (.ofPlugin p call (.unprepare p c) True True)
      (fun _ result w' => result.1.failure = none → w'.preparation p.key c.uid = none ∧
        w'.allocation p.key c.uid =
          if s.isPrepared c.uid = true ∧ c.handles ≠ [] then none else w.allocation p.key c.uid)
      (fun _ _ => ¬ p.retry.Steady) [] w := by
  have takes : (Operation.unprepare p c).takes = some p.key := rfl
  refine (Plugin.unprepare_always takes (.of_nothing p True w wellKeyed)).weaken
    fun steps result w' reached => ?_
  intro succeeded
  obtain ⟨inner, changes, dir', done, unprepares, known, failure⟩ := reached
  have record := done.record trivial
  unfold World.preparation World.allocation
  rw [record]
  cases unprepares with
  | refused => exact nomatch failure.mp succeeded
  | absent unprepared unknown =>
    rw [if_neg (by simp [unprepared]), Change.map_allOn_nil]
    exact ⟨unknown trivial, rfl⟩
  | cleared unprepared =>
    rw [if_neg (by simp [unprepared])]
    cases w.record p.key with
    | none => exact ⟨rfl, rfl⟩
    | some r => exact ⟨DeviceState.recorded_of_unprepared unprepared, rfl⟩
  | gone prepared frees =>
    cases at_key : w.record p.key with
    | none => simp
    | some r =>
      rw [Option.map_some, Change.allOn_append]
      refine ⟨SortedMap.get?_erase_self .., ?_⟩
      cases frees with
      | plain plain =>
        rw [if_neg (by simp [plain])]
        rfl
      | released handle =>
        rw [if_pos ⟨prepared, handle⟩]
        exact SortedMap.get?_erase_self ..
      | unknown absent =>
        have absent : r.spec.allocated.get? c.uid = none := by simpa [at_key] using absent trivial
        change r.spec.allocated.get? c.uid = if _ then none else r.spec.allocated.get? c.uid
        rw [absent, ite_self]

open Sharing Stray in
/-- A claim whose handle names a device of the node, prepared and given up. -/
theorem Plugin.unprepare_frees_fitting :
    ∃ m s steps result w', Machine.Reach (.ofPlugin plugin.key) (.idle {}) m ∧
      m.world.plugins plugin.key = .up s ∧
      Prog.Course (.ofPlugin plugin 1 (.unprepare plugin fitting) True True) (plugin.unprepare fitting s)
        ((Operation.unprepare plugin fitting).enter 1 m.world) steps result w' ∧
      result.1.failure = none ∧ m.world.allocation plugin.key first ≠ none ∧
      w'.preparation plugin.key first = none ∧ w'.allocation plugin.key first = none := by
  obtain ⟨m, s, steps, result, w', reach, up, course, shown⟩ :=
    Machine.course_of_showsNext plugin (.unprepare plugin fitting) True True (plugin.unprepare fitting)
      (may_of_own (prepares_own fitting 6)) (fun w s (_, result, _) => decide (
        result.1.failure = none ∧ w.allocation plugin.key first ≠ none ∧
          s.isPrepared first = true ∧ fitting.handles ≠ [])) (by decide +kernel)
  obtain ⟨succeeded, held, prepared, handle⟩ := of_decide_eq_true shown
  have wellKeyed : ((Operation.unprepare plugin fitting).enter 1 m.world).WellKeyed :=
    (reach.keeps_ground fun _ _ at_key => by cases at_key).wellKeyed
  obtain ⟨cleared, freed⟩ := (Plugin.unprepare_frees wellKeyed).post_of_course course succeeded
  rw [if_pos ⟨prepared, handle⟩] at freed
  exact ⟨m, s, steps, result, w', reach, up, course, succeeded, held, cleared, freed⟩

open Sharing Stray in
/-- A claim that was not prepared for its handle keeps what its handle named, though it is given up. -/
theorem Plugin.unprepare_keeps_allocation :
    ∃ m s steps result w', Machine.Reach (.ofPlugin plugin.key) (.idle {}) m ∧
      m.world.plugins plugin.key = .up s ∧
      Prog.Course (.ofPlugin plugin 1 (.unprepare plugin claim) True False) (plugin.unprepare claim s)
        ((Operation.unprepare plugin claim).enter 1 m.world) steps result w' ∧
      claim.handles ≠ [] ∧ result.1.failure = none ∧
      w'.allocation plugin.key claim.uid = some [⟨unknown, 0⟩] := by
  obtain ⟨m, s, steps, result, w', reach, up, course, shown⟩ :=
    Machine.course_of_showsNext plugin (.unprepare plugin claim) True False (plugin.unprepare claim)
      (may_of_own (prepares_own claim 3)) (fun _ _ (_, result, w') => decide (
        claim.handles ≠ [] ∧ result.1.failure = none ∧
          w'.allocation plugin.key claim.uid = some [⟨unknown, 0⟩])) (by decide +kernel)
  exact ⟨m, s, steps, result, w', reach, up, course, of_decide_eq_true shown⟩

/-- No device is listed twice, for one claim or for two, and every listed device is offered. -/
structure NodeSpec.Exclusive (spec : NodeSpec) : Prop where
  separate : Allocator.Separate spec.allocated
  offered : ∀ claim, Allocator.holds spec.allocated claim ⊆ spec.allocatable.map (·.uuid)

/-- A claim may be given these devices in place of those that it has. -/
structure NodeSpec.Admits (spec : NodeSpec) (claim : ClaimUid) (devices : List AllocatedDevice) :
    Prop where
  once : (devices.map (·.uuid)).Nodup
  apart : ∀ other, claim ≠ other →
    (devices.map (·.uuid)).Disjoint (Allocator.holds spec.allocated other)
  offered : devices.map (·.uuid) ⊆ spec.allocatable.map (·.uuid)

namespace NodeSpec

variable {spec spec' : NodeSpec} {claim : ClaimUid} {devices : List AllocatedDevice}

theorem Exclusive.congr (exclusive : spec.Exclusive) (allocated : spec'.allocated = spec.allocated)
    (allocatable : spec'.allocatable = spec.allocatable) : spec'.Exclusive :=
  ⟨allocated ▸ exclusive.separate, allocated ▸ allocatable ▸ exclusive.offered⟩

/-- To enter devices for a claim keeps entries apart if nobody else has them and the
node offers them. -/
theorem Exclusive.insert (exclusive : spec.Exclusive) (admits : spec.Admits claim devices) :
    ({ spec with allocated := spec.allocated.insert claim devices } : NodeSpec).Exclusive := by
  refine ⟨⟨fun a => ?_, fun a b unlike => ?_⟩, fun a => ?_⟩
  · rw [Allocator.holds_insert]
    split
    · exact admits.once
    · exact exclusive.separate.once a
  · rw [Allocator.holds_insert, Allocator.holds_insert]
    split
    · next same =>
      rw [if_neg (same ▸ unlike)]
      exact admits.apart b (same ▸ unlike)
    · split
      · next other same => exact List.disjoint_symm (admits.apart a other)
      · exact exclusive.separate.apart a b unlike
  · rw [Allocator.holds_insert]
    split
    · exact admits.offered
    · exact exclusive.offered a

/-- Entries are apart after devices are entered only if nobody else has them and the
node offers them. -/
theorem Exclusive.admits_of_insert
    (exclusive : ({ spec with allocated := spec.allocated.insert claim devices } : NodeSpec).Exclusive) :
    spec.Admits claim devices := by
  have own : Allocator.holds (spec.allocated.insert claim devices) claim = devices.map (·.uuid) := by
    rw [Allocator.holds_insert, if_pos rfl]
  refine ⟨own ▸ exclusive.separate.once claim, fun other unlike => ?_, own ▸ exclusive.offered claim⟩
  have apart := exclusive.separate.apart claim other unlike
  rw [Allocator.holds_insert, Allocator.holds_insert, if_pos rfl, if_neg unlike] at apart
  exact apart

/-- Whether devices may be listed for a claim is a matter of these devices, whatever it has now. -/
theorem Exclusive.insert_iff (exclusive : spec.Exclusive)
    (allocatable : spec'.allocatable = spec.allocatable)
    (allocated : spec'.allocated = spec.allocated.insert claim devices) :
    spec'.Exclusive ↔ spec.Admits claim devices := by
  constructor
  · intro after
    exact Exclusive.admits_of_insert (after.congr allocated.symm allocatable.symm)
  · intro admits
    exact (exclusive.insert admits).congr allocated allocatable

end NodeSpec

/-- A record offers what it offered, and lists what it listed or besides what a claim's handle names. -/
structure NodeClaim.Lists (c : NodeClaim) (before after : NodeSpec) : Prop where
  offered : after.allocatable = before.allocatable
  listed : after.allocated = before.allocated ∨ ∃ h rest devices, c.handles = h :: rest ∧
    Plugin.handleDevices h = .ok devices ∧ after.allocated = before.allocated.insert c.uid devices

theorem NodeClaim.Lists.lists_handed (c : NodeClaim) (r : NodeRecord) :
    c.Lists r.spec (Change.allOn (Plugin.handed c) r).spec := by
  unfold Plugin.handed
  cases handle : c.handles with
  | nil => exact ⟨rfl, .inl rfl⟩
  | cons h rest =>
    dsimp only
    cases read : Plugin.handleDevices h with
    | error e => exact ⟨rfl, .inl rfl⟩
    | ok devices => exact ⟨rfl, .inr ⟨h, rest, devices, handle, read, rfl⟩⟩

/-- A preparation enters in the record what the claim's handle names, and nothing else. -/
theorem Plugin.Prepares.lists_changes {c : NodeClaim} {s : DeviceState} {faulty : Prop} {dir dir' : SpecDir}
    {result : Except PluginError (List String) × DeviceState} {changes : List Change} {r : NodeRecord}
    (prepares : Prepares c s faulty dir result changes dir')
    (published : s.devices.values = r.spec.allocatable) :
    c.Lists r.spec (Change.allOn changes r).spec := by
  cases prepares with
  | known => exact ⟨rfl, .inl rfl⟩
  | refused written =>
    rcases written with rfl | rfl
    · exact ⟨rfl, .inl rfl⟩
    · exact .lists_handed c r
  | prepared =>
    rw [Change.allOn_append]
    exact ⟨published, (NodeClaim.Lists.lists_handed c r).listed⟩

/-- However a call ends that prepares a claim, the record lists what it listed before, or besides the
devices that the claim's handle names: these are listed whether or not they may be. -/
theorem Plugin.prepare_exclusive {p : Plugin} {c : NodeClaim} {s : DeviceState} {call : Nat} {w : World}
    {r : NodeRecord} (wellKeyed : w.WellKeyed) (at_key : w.record p.key = some r)
    (published : s.devices.values = r.spec.allocatable) (exclusive : r.spec.Exclusive) :
    (p.prepare c s).Always (.ofPlugin p call (.prepare p c) True True)
      (fun _ _ w' => ∃ r', w'.record p.key = some r' ∧
        (r'.spec.allocated = r.spec.allocated ∧ r'.spec.Exclusive ∨
          ∃ h rest devices, c.handles = h :: rest ∧ handleDevices h = .ok devices ∧
            r'.spec.allocated = r.spec.allocated.insert c.uid devices ∧
            (r'.spec.Exclusive ↔ r.spec.Admits c.uid devices)))
      (fun _ _ => ¬ p.retry.Steady) [] w := by
  have takes : (Operation.prepare p c).takes = some p.key := rfl
  -- The record does not depend on the specifications, so directories may fail here.
  refine (Plugin.prepare_always takes (fun perfect => absurd trivial perfect)
    (.of_nothing p True w wellKeyed)).weaken fun steps result w' reached => ?_
  obtain ⟨inner, changes, dir', done, prepares, -, -⟩ := reached
  have record := done.record trivial
  rw [at_key, Option.map_some] at record
  obtain ⟨allocatable, same | ⟨h, rest, devices, handle, read, listed⟩⟩ := prepares.lists_changes published
  · exact ⟨_, record, .inl ⟨same, exclusive.congr same allocatable⟩⟩
  · exact ⟨_, record, .inr ⟨h, rest, devices, handle, read, listed,
      exclusive.insert_iff allocatable listed⟩⟩

namespace Stray

open Sharing

def device (n : UInt8) : AllocatableDevice := ⟨⟨.filled n⟩, fakeModel⟩

def known : DeviceState := .ofDevices [device 1, device 2]

def record : NodeRecord :=
  { NodeRecord.new "node" "default" with
    spec := { allocatable := known.devices.values,
              allocated := .insert .empty last [⟨(device 1).uuid, 0⟩] } }

def world : World := ({} : World).put record

def naming (n : UInt8) : NodeClaim := { use first with handles := [handle [(device n).uuid]] }

theorem world_wellKeyed : world.WellKeyed := World.WellKeyed.put (fun _ _ absent => by cases absent) _

theorem record_exclusive : record.spec.Exclusive := by
  have nothing : NodeSpec.Exclusive { record.spec with allocated := .empty } :=
    ⟨⟨fun _ => List.nodup_nil, fun _ _ _ => List.disjoint_nil_left _⟩, fun _ => List.nil_subset _⟩
  exact nothing.insert ⟨List.nodup_singleton _, fun _ _ => List.disjoint_nil_right _, by decide⟩

end Stray

open Sharing Stray in
/-- A record that lists the first of two devices for a claim, and another claim with a handle that names
the second. -/
theorem Plugin.prepare_exclusive_apart :
    ∃ steps result w' r', Prog.Course (.ofPlugin plugin 1 (.prepare plugin (naming 2)) True True)
        (plugin.prepare (naming 2) known) world steps result w' ∧
      w'.record plugin.key = some r' ∧
      r'.spec.allocated = record.spec.allocated.insert first [⟨(device 2).uuid, 0⟩] ∧
      r'.spec.Exclusive := by
  obtain ⟨steps, result, w', course, shown⟩ := Surroundings.ofPlugin_course plugin 1
    (.prepare plugin (naming 2)) True True (plugin.prepare (naming 2) known) world
    (fun (_, _, w') => decide (w'.allocation plugin.key first ≠ none)) (by decide +kernel)
  have listed := (Plugin.prepare_exclusive world_wellKeyed rfl rfl record_exclusive).post_of_course course
  obtain ⟨r', at_key, ⟨same, -⟩ | ⟨h, rest, devices, one, read, same, exclusive⟩⟩ := listed
  · have absent : r'.spec.allocated.get? first = none := by
      rw [same]
      decide
    exact absurd (by rw [World.allocation, at_key]; exact absent) (of_decide_eq_true shown)
  · cases one
    cases (show Plugin.handleDevices (handle [(device 2).uuid]) = .ok [⟨(device 2).uuid, 0⟩] by
      decide +kernel).symm.trans read
    have admits : record.spec.Admits first [⟨(device 2).uuid, 0⟩] := by
      refine ⟨List.nodup_singleton _, fun other _ => ?_, by decide⟩
      have holds : Allocator.holds record.spec.allocated other =
        if last = other then [(device 1).uuid] else [] := Allocator.holds_insert ..
      rw [holds]
      split
      · exact List.singleton_disjoint.mpr (by decide)
      · exact List.disjoint_nil_right _
    exact ⟨steps, result, w', r', course, at_key, same, exclusive.mpr admits⟩

open Sharing Stray in
/-- A handle may name a device that another claim holds: both then hold it. -/
theorem Plugin.prepare_shares_device :
    ∃ steps result w' r', record.spec.Exclusive ∧ known.devices.values = record.spec.allocatable ∧
      world.record plugin.key = some record ∧
      Prog.Course (.ofPlugin plugin 1 (.prepare plugin (naming 1)) True False)
        (plugin.prepare (naming 1) known) world steps result w' ∧
      result.1.failure = none ∧ w'.record plugin.key = some r' ∧ ¬ r'.spec.Exclusive := by
  obtain ⟨steps, result, w', course, shown⟩ := Surroundings.ofPlugin_course plugin 1
    (.prepare plugin (naming 1)) True False (plugin.prepare (naming 1) known) world
    (fun (_, result, w') => (w'.record plugin.key).any fun r => decide (
      result.1.failure = none ∧ (device 1).uuid ∈ Allocator.holds r.spec.allocated first ∧
        (device 1).uuid ∈ Allocator.holds r.spec.allocated last)) (by decide +kernel)
  obtain ⟨r', at_key, shown⟩ := (Option.any_eq_true ..).mp shown
  obtain ⟨succeeded, mine, others⟩ := of_decide_eq_true shown
  have shared : ¬ r'.spec.Exclusive :=
    fun exclusive => exclusive.separate.apart first last (by decide) mine others
  exact ⟨steps, result, w', r', record_exclusive, rfl, rfl, course, succeeded, at_key, shared⟩

end DeviceClaims
