import DeviceClaims.Proofs.Custody.Calls
import DeviceClaims.Proofs.Exclusion

namespace DeviceClaims

/-- A write of the controller or a change of the status: a record with other allocations or another
status, as the store keeps it. -/
def World.Reallocates (key : ObjectKey) (w w' : World) : Prop :=
  ∃ r allocated status, w.record key = some r ∧ r.key = key ∧
    w' = w.put (NodeRecord.withVersion { r with spec := { r.spec with allocated }, status }
      (r.version + 1))

theorem World.Reallocates.leaves_of_call {key : ObjectKey} {w w' : World} (reallocates : w.Reallocates key w')
    (call : Nat) : w.Leaves call w' := by
  obtain ⟨r, allocated, status, at_key, same, rfl⟩ := reallocates
  subst same
  exact .put call at_key rfl

theorem World.Reallocates.published_eq {key : ObjectKey} {w w' : World}
    (reallocates : w.Reallocates key w') : w'.published key = w.published key := by
  obtain ⟨r, allocated, status, at_key, same, rfl⟩ := reallocates
  subst same
  let r' := NodeRecord.withVersion { r with spec := { r.spec with allocated }, status } (r.version + 1)
  have at_key' : (w.put r').record r.key = some r' := record_put_self w r'
  rw [published_of_record at_key]
  exact (published_of_record at_key').trans rfl

/-- The calls of one plugin, each carried through, with directories that do not fail. Beside them there
are any calls but those of other plugins, and writes of what claims are allocated and of the status. -/
def Setting.ofPlugin (key : ObjectKey) : Setting where
  mayCall op := ∀ taken, op.takes = some taken → taken = key
  mayVanish := False
  faulty := False
  outside := World.Reallocates key
  outside_leaves _ _ reallocates := reallocates.leaves_of_call
  outside_wellKeyed w w' reallocates wellKeyed := by
    obtain ⟨_, _, _, _, _, rfl⟩ := reallocates
    exact wellKeyed.put _

theorem Setting.ofPlugin_fits (key : ObjectKey) :
    Custody.Fits ⟨key, False, True⟩ (.ofPlugin key) where
  own _ taken may takes := may taken takes
  perfect := id
  plain guarded := guarded.elim
  apart guarded := guarded.elim
  lasting _ := id
  outside w w' reallocates := by
    have published := reallocates.published_eq
    obtain ⟨_, _, _, _, _, rfl⟩ := reallocates
    exact ⟨id, rfl, rfl, published⟩

namespace Custody

variable {key : ObjectKey} {w : World}

/-- A node on which nothing is prepared is in step before its plugin starts. -/
theorem Sound.of_unprepared (down : w.plugins key = .down)
    (unprepared : ∀ r, w.record key = some r → r.spec.prepared = .empty)
    (present : (w.specs key).present = true) (unwritten : (w.specs key).claims = .empty) :
    Sound ⟨key, False, True⟩ w := by
  refine ⟨fun s up => ?_, fun _ _ => ⟨present, unwritten.trans ?_⟩, nofun⟩
  · cases down.symm.trans up
  cases at_key : w.record key with
  | none =>
    rw [World.published, at_key]
    rfl
  | some r =>
    rw [World.published_of_record at_key, unprepared r at_key]
    rfl

/-- A plugin that serves has a record that says what it has prepared, and its
specifications render it. -/
theorem Sound.exists_record_of_up (sound : Sound ⟨key, False, True⟩ w) {s : DeviceState}
    (up : w.plugins key = .up s) :
    ∃ r, w.record key = some r ∧ r.spec.prepared = s.recorded ∧
      (w.specs key).claims = s.prepared.mapValues fun ds => .ofClaim (ds.map (·.uuid)) := by
  obtain ⟨published, _⟩ := sound.up s up
  obtain ⟨_, claims⟩ := sound.files trivial fun call preparing busy => by cases up.symm.trans busy
  have found := published
  rw [World.published, Option.map_eq_some_iff] at found
  obtain ⟨r, at_key, prepared⟩ := found
  refine ⟨r, at_key, prepared, claims.trans ?_⟩
  rw [published, Option.getD_some]
  exact s.rendered_recorded

end Custody

/-- A call that is over leaves its plugin running, unless it was a start that failed. -/
theorem Machine.Move.leaves_plugin {S : Setting} {m m' : Machine} {call : Nat} {op : Operation}
    {key : ObjectKey} (move : Machine.Move S (.ends call op) m m') (takes : op.takes = some key) :
    (∃ s, m'.world.plugins key = .up s) ∨
      (∃ p count, op = .start p count) ∧ m'.world.plugins key = .down := by
  cases move with
  | @ends _ _ _ result at_call =>
    cases op with
    | start p count =>
      cases takes
      cases result with
      | ok s => exact .inl ⟨s, Function.update_self ..⟩
      | error e => exact .inr ⟨⟨p, count, rfl⟩, Function.update_self ..⟩
    | prepare p claim =>
      cases takes
      exact .inl ⟨_, Function.update_self ..⟩
    | unprepare p claim =>
      cases takes
      exact .inl ⟨_, Function.update_self ..⟩
    | _ => cases takes

/-- What a plugin knows, its record and the specifications stay in step. Whenever the plugin runs and
no call has it in hand, the record says that just that is prepared which the plugin has prepared, and
there are specifications of just these claims, which list their devices in order; and a call that is
over leaves the plugin so, unless it was a start that failed. Of runs in which a record is updated
that has been written 2 ^ 64 times, nothing is said (`World.Answers`). -/
theorem Machine.Reach.in_step {key : ObjectKey} {w₀ : World} {m : Machine} (wellKeyed : w₀.WellKeyed)
    (down : w₀.plugins key = .down)
    (unprepared : ∀ r, w₀.record key = some r → r.spec.prepared = .empty)
    (present : (w₀.specs key).present = true) (unwritten : (w₀.specs key).claims = .empty)
    (reach : Machine.Reach (.ofPlugin key) (.idle w₀) m) :
    (∀ s, m.world.plugins key = .up s → ∃ r, m.world.record key = some r ∧
      r.spec.prepared = s.recorded ∧
      (m.world.specs key).claims = s.prepared.mapValues fun ds => .ofClaim (ds.map (·.uuid))) ∧
    ∀ call op m', Machine.Move (.ofPlugin key) (.ends call op) m m' → op.takes = some key →
      (∃ s, m'.world.plugins key = .up s) ∨
        (∃ p count, op = .start p count) ∧ m'.world.plugins key = .down := by
  have sound := Custody.Sound.of_unprepared down unprepared present unwritten
  have keeps := (Custody.discipline_governs (Setting.ofPlugin_fits key)).keeps_reach (.idle wellKeyed sound)
    (fun before move call op caller => before.mayCall_and_allows wellKeyed move call op caller) reach
  have sound : Custody.Sound ⟨key, False, True⟩ m.world := keeps.inv
  exact ⟨fun s up => sound.exists_record_of_up up, fun call op m' move takes => move.leaves_plugin takes⟩

namespace Sharing

/-- A claim as the node is asked to prepare it, without a handle. -/
def use (claim : ClaimUid) : NodeClaim := ⟨"default", claim, "claim", []⟩

/-- The last claim takes what it is offered while the first one is prepared, and is prepared in turn;
the last call is not over yet. -/
def used : List Turn :=
  offered ++ [.ends 2, .begins 3 (.prepare plugin (use first)), .goesOn 3, .goesOn 3] ++
  Turn.whole 4 (.allocate controller last "node") 6 ++ [.goesOn 3, .goesOn 3, .ends 3] ++
  .begins 5 (.prepare plugin (use last)) :: List.replicate 4 (.goesOn 5)

def preparesBoth (w : World) : Bool :=
  match w.plugins plugin.key with
  | .up s => s.isPrepared first && s.isPrepared last
  | _ => false

end Sharing

open Sharing in
/-- Two claims are prepared on one node, and the second is allocated while the first
is being prepared. -/
theorem Machine.Reach.in_step_sharing :
    ∃ m s r, Machine.Reach (.ofPlugin plugin.key) (.idle {}) m ∧
      m.world.plugins plugin.key = .up s ∧ m.world.record plugin.key = some r ∧
      s.isPrepared first = true ∧ s.isPrepared last = true ∧ r.spec.prepared = s.recorded ∧
      (m.world.specs plugin.key).claims =
        s.prepared.mapValues fun ds => .ofClaim (ds.map (·.uuid)) := by
  obtain ⟨m, e, m', reach, move, shown⟩ := Machine.play_shows (S := .ofPlugin plugin.key) (w := {})
    used (.ends 5) (fun _ _ m' => preparesBoth m'.world)
    (by simp [used, offered, Turn.whole, or_imp, forall_and, Setting.ofPlugin, Operation.takes])
    (by decide +kernel)
  have reach : Machine.Reach (.ofPlugin plugin.key) (.idle {}) m' := reach.next trivial move
  unfold preparesBoth at shown
  split at shown
  · next s up =>
    obtain ⟨r, at_key, recorded, written⟩ :=
      (reach.in_step (fun _ _ at_key => by cases at_key) rfl (fun _ at_key => by cases at_key) rfl
        rfl).1 s up
    obtain ⟨prepared, prepared'⟩ := Bool.and_eq_true_iff.mp shown
    exact ⟨m', s, r, reach, up, at_key, prepared, prepared', recorded, written⟩
  · cases shown

/-- The calls of the controller and of the plugin of one node, without handles and with directories
that do not fail. A claim is not taken back while it is in use. -/
def Setting.ofNode (key : ObjectKey) : Setting :=
  { Setting.ofController key.space with
    mayCall := fun op => (Setting.ofController key.space).mayCall op ∧
      ∀ taken, op.takes = some taken → taken = key
    mayStep := fun op w => ∀ c claim, op = .deallocate c claim → ¬ w.Uses key claim.uid
    faulty := False }

theorem Setting.ofNode_fits (key : ObjectKey) : Custody.Fits ⟨key, True, False⟩ (.ofNode key) where
  own _ taken may takes := may.2 taken takes
  perfect := id
  plain _ _ may := may.1.2
  apart _ c claim _ step := step c claim rfl
  lasting lasting := lasting.elim
  outside _ _ others := others.elim

theorem Setting.ofNode_within (key : ObjectKey) :
    Machine.Within (.ofNode key) (.ofController key.space) where
  mayCall _ may := may.1
  mayStep _ _ _ := trivial
  mayVanish _ := trivial
  faulty _ := trivial
  outside _ _ others := others

/-- Claims are prepared as they are allocated, and no two of them with devices of one source: each
device that a claim is allocated is prepared whole, or as the parts that it is split into. Of runs in
which a record is updated that has been written 2 ^ 64 times, nothing is said (`World.Answers`). -/
theorem Machine.Reach.prepared_apart {key : ObjectKey} {w₀ : World} {m : Machine}
    (empty : w₀.store = {}) (nothing : w₀.pending = {}) (down : w₀.plugins key = .down)
    (reach : Machine.Reach (.ofNode key) (.idle w₀) m) :
    ∀ r, m.world.record key = some r →
      (∀ claim ds, r.spec.prepared.get? claim = some ds → ∃ devices,
        r.spec.allocated.get? claim = some devices ∧
        ds = devices.flatMap AllocatedDevice.expansion ∧
        ∀ device ∈ devices, device.split ≠ 0 → device.expansion.length = device.split.toNat) ∧
      ∀ claim other ds ds', claim ≠ other → r.spec.prepared.get? claim = some ds →
        r.spec.prepared.get? other = some ds' →
        (ds.map (·.source)).Disjoint (ds'.map (·.source)) := by
  have absent : ∀ key, w₀.record key = none := by
    intro key
    rw [World.record, empty]
    rfl
  have wellKeyed : w₀.WellKeyed := fun key r at_key => by cases (absent key).symm.trans at_key
  have sound : Custody.Sound ⟨key, True, False⟩ w₀ :=
    ⟨fun s up => (by cases down.symm.trans up), nofun,
      fun _ r at_key => (by cases (absent _).symm.trans at_key)⟩
  have keeps := (Custody.discipline_governs (Setting.ofNode_fits key)).keeps_reach (.idle wellKeyed sound)
    (fun before move call op caller => before.mayCall_and_allows wellKeyed move call op caller) reach
  have exclusive : m.world.Exclusive key.space :=
    Machine.Reach.world_exclusive wellKeyed nothing
      (fun key r at_key => by cases (absent key).symm.trans at_key)
      (reach.of_within (Setting.ofNode_within key))
  intro r at_key
  have expanded : r.Expanded := Custody.Sound.expanded keeps.inv trivial r at_key
  refine ⟨fun claim ds found => ?_, fun claim other ds ds' unlike found found' => ?_⟩
  · obtain ⟨devices, allocated, rfl⟩ := expanded claim ds found
    exact ⟨devices, allocated, rfl, fun device _ => AllocatedDevice.length_expansion⟩
  · intro source first last
    have reserves := exclusive.allocated key.name claim
    have by_claim := expanded.source_mem found first
    have by_other := expanded.source_mem found' last
    rw [← World.allocated_of_record at_key] at by_claim by_other
    exact reserves.apart other unlike.symm by_claim (List.mem_append_left _ by_other)

open Sharing in
/-- Two claims are prepared whose devices were allocated side by side. -/
theorem Machine.Reach.prepared_apart_sharing :
    ∃ m r ds ds', Machine.Reach (.ofNode plugin.key) (.idle {}) m ∧
      m.world.record plugin.key = some r ∧
      r.spec.prepared.get? first = some ds ∧ r.spec.prepared.get? last = some ds' ∧
      ds.length = 1 ∧ ds'.length = 2 ∧ (ds.map (·.source)).Disjoint (ds'.map (·.source)) := by
  obtain ⟨m, e, m', reach, move, shown⟩ := Machine.play_shows (S := .ofNode plugin.key) (w := {})
    used (.ends 5) (fun _ _ m' => (m'.world.record plugin.key).any fun r =>
      (r.spec.prepared.get? first).any (·.length = 1) && (r.spec.prepared.get? last).any (·.length = 2))
    (by simp [used, offered, use, Turn.whole, or_imp, forall_and, Setting.ofNode,
      Setting.ofController, Operation.controller?, Operation.takes, Operation.Plain, plugin,
      Controller.recordKey])
    (by decide +kernel)
  have reach : Machine.Reach (.ofNode plugin.key) (.idle {}) m' := reach.next trivial move
  obtain ⟨r, at_key, shown⟩ := (Option.any_eq_true ..).mp shown
  obtain ⟨shown, shown'⟩ := Bool.and_eq_true_iff.mp shown
  obtain ⟨ds, found, one⟩ := (Option.any_eq_true ..).mp shown
  obtain ⟨ds', found', two⟩ := (Option.any_eq_true ..).mp shown'
  have apart := (reach.prepared_apart rfl rfl rfl r at_key).2 first last ds ds' (by decide) found found'
  exact ⟨m', r, ds, ds', reach, at_key, found, found', of_decide_eq_true one, of_decide_eq_true two,
    apart⟩

end DeviceClaims
