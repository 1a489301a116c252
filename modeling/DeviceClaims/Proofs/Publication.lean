import DeviceClaims.Proofs.Exclusion
import DeviceClaims.Proofs.LostUpdates
import DeviceClaims.Proofs.Machine.Run
import DeviceClaims.Proofs.Readiness.Calls
import DeviceClaims.Proofs.Starting

namespace DeviceClaims

/-- With how many devices a start makes the record under a key ready. -/
def Event.readied? (key : ObjectKey) : Event → Option Nat
  | .asks _ (.start _ count) (.store (.update _)) (.ok stored) =>
    if stored.key = key ∧ stored.status = .ready then some count else none
  | _ => none

/-- With how many devices the record under a key was made ready last. -/
def latestStart (key : ObjectKey) (log : List Happening) : Option Nat :=
  log.findSome? fun happening => happening.event.readied? key

/-- Where an access leaves another record under a key than was there, it was an update that was
accepted. -/
theorem World.updated_of_access {w : World} {key : ObjectKey} {r r' : NodeRecord} {a : StoreAccess}
    (before : w.record key = some r) (after : (w.access a).record key = some r') (unlike : r' ≠ r) :
    ∃ given, a = .update given ∧ (w.store.apply (.update given)).1 = .ok r' ∧ r'.key = key := by
  have still : (w.access a).record key ≠ w.record key := by
    rw [before, after]
    exact fun same => unlike (Option.some.inj same)
  cases a with
  | get => exact absurd rfl still
  | create given =>
    refine absurd ?_ still
    simp only [record, access, MemoryStore.apply, MemoryStore.create]
    split
    · rfl
    · next absent =>
      refine SortedMap.get?_insert_ne _ ?_ _
      rintro rfl
      exact absent (SortedMap.contains_iff.mpr ⟨r, before⟩)
  | delete other =>
    refine absurd ?_ still
    simp only [record, access, MemoryStore.apply, MemoryStore.delete] at after ⊢
    split
    · next present =>
      rw [if_pos present] at after
      refine SortedMap.get?_erase_ne _ ?_
      rintro rfl
      rw [SortedMap.get?_erase_self] at after
      cases after
    · rfl
  | update given =>
    refine ⟨given, rfl, ?_⟩
    simp only [record, access, MemoryStore.apply, MemoryStore.update] at after still ⊢
    cases at_given : w.store.records.get? given.key with
    | none => exact absurd (by rw [at_given]) still
    | some cur =>
      rw [at_given] at after still
      by_cases same : cur.version = given.version
      · simp only [same, ne_eq, not_true, if_false] at after still ⊢
        by_cases own : given.key = key
        · subst own
          rw [SortedMap.get?_insert_self] at after
          cases after
          exact ⟨rfl, rfl⟩
        · exact absurd (SortedMap.get?_insert_ne _ own _) still
      · simp only [same, ne_eq, not_false_eq_true, if_true, not_true] at still

namespace Machine

variable {key : ObjectKey} {S : Setting} {m m' : Machine} {e : Event} {w₀ : World}
  {log : List Happening} {count : Nat}

/-- A start that makes a record ready writes it ready, and it writes it anew. -/
theorem Move.of_readied (move : Move S e m m') (readied : e.readied? key = some count) :
    (∃ call p, e.caller? = some (call, .start p count)) ∧
      ∃ r, m'.world.record key = some r ∧ r.status = .ready ∧
        m'.world.record key ≠ m.world.record key := by
  unfold Event.readied? at readied
  split at readied
  · next call p n given stored =>
    split at readied
    · next fits =>
      cases readied
      obtain ⟨rfl, ready⟩ := fits
      cases move with
      | asks at_call may answered =>
        obtain ⟨old, at_key, rfl, key, version⟩ := answered.update_ok
        have after := World.record_put_self m.world stored
        refine ⟨⟨call, p, rfl⟩, stored, after, ready, fun same => ?_⟩
        rw [after, key, at_key] at same
        cases same
        exact absurd (UInt64.left_eq_add.mp version) (by decide)
    · cases readied
  · cases readied

/-- A start that finds a record not ready and leaves it ready has made it ready, with its own number of
devices. -/
theorem Move.readied_of (move : Move S e m m') {call : Nat} {p : Plugin} {r : NodeRecord}
    (caller : e.caller? = some (call, .start p count)) (before : m.world.Unready key)
    (after : m'.world.record key = some r) (ready : r.status = .ready) :
    e.readied? key = some count := by
  obtain ⟨r₀, at_key, notReady⟩ := before
  have unlike : r ≠ r₀ := by
    rintro rfl
    cases notReady.symm.trans ready
  have still : m'.world.record key ≠ m.world.record key := by
    rw [at_key, after]
    exact fun same => unlike (Option.some.inj same)
  cases move with
  | begins => exact absurd (Operation.enter_record ..) still
  | ends => exact absurd (Operation.leave_record ..) still
  | vanishes => exact absurd (Operation.vanish_record ..) still
  | outside => cases caller
  | asks at_call may answered =>
    cases caller
    cases answered with
    | store a fresh =>
      obtain ⟨given, rfl, accepted, at_r⟩ := World.updated_of_access at_key after unlike
      rw [accepted]
      exact if_pos ⟨at_r, ready⟩
    | _ => exact absurd rfl still

/-- From a store without the record, a record that is ready offers the devices of the start that made
it ready last. -/
theorem Run.ready_offers_latest (wellKeyed : w₀.WellKeyed) (absent : w₀.record key = none)
    (run : Run (.ofLifecycle key) (.idle w₀) log m) :
    ∀ r, m.world.record key = some r → r.status = .ready →
      ∃ count, latestStart key log = some count ∧ r.spec.allocatable = inventory key.name count := by
  induction run with
  | start =>
    intro r at_key
    cases absent.symm.trans at_key
  | @next log m m' e before move ih =>
    intro r at_key ready
    -- What was published before is published still, unless a start has made the record ready.
    have earlier : ∀ {r₀ : NodeRecord}, m.world.record key = some r₀ → r₀.status = .ready →
        r.spec.allocatable = r₀.spec.allocatable → e.readied? key = none →
        ∃ count, latestStart key (⟨m.world, e, m'.world⟩ :: log) = some count ∧
          r.spec.allocatable = inventory key.name count := by
      intro r₀ at_r₀ ready₀ same quiet
      obtain ⟨count, latest, offered⟩ := ih r₀ at_r₀ ready₀
      refine ⟨count, ?_, same.trans offered⟩
      rw [latestStart, List.findSome?_cons, quiet]
      exact latest
    cases caller : e.caller? with
    | none =>
      cases move with
      | outside others => exact others.elim
      | _ => cases caller
    | some caller' =>
      obtain ⟨call, op⟩ := caller'
      cases before.to_reach.readies_of_move wellKeyed absent move caller with
      | same record =>
        refine earlier (record ▸ at_key) ready rfl (Option.eq_none_iff_forall_ne_some.mpr ?_)
        intro count readied
        obtain ⟨_, _, _, _, changed⟩ := move.of_readied readied
        exact changed record
      | unready unready =>
        obtain ⟨_, at_key', notReady⟩ := unready
        cases at_key.symm.trans at_key'
        cases ready.symm.trans notReady
      | kept at_r₀ at_r status offered plain =>
        cases at_key.symm.trans at_r
        refine earlier at_r₀ (status.symm.trans ready) offered
          (Option.eq_none_iff_forall_ne_some.mpr ?_)
        intro count readied
        obtain ⟨⟨_, p, starts⟩, _⟩ := move.of_readied readied
        cases caller.symm.trans starts
        exact plain p count rfl
      | @published p count _ starts own unready after ready' offered =>
        cases at_key.symm.trans after
        subst starts
        refine ⟨count, ?_, offered⟩
        rw [latestStart, List.findSome?_cons, move.readied_of caller unready after ready']

/-- Other calls leave a start what is its own, and they do not make the record ready. -/
theorem Reach.between_start (wellKeyed : w₀.WellKeyed) (absent : w₀.record key = none)
    (reach : Reach (.ofLifecycle key) (.idle w₀) m) (move : Move (.ofLifecycle key) e m m')
    {call : Nat} (apart : ∀ op, e.caller? ≠ some (call, op)) {p : Plugin} (own : p.key = key)
    {rest : Prog (Operation.start p count).Result}
    (at_call : m.calls call = some ⟨.start p count, rest⟩) :
    (Surroundings.ofStart p count call).between m.world m'.world := by
  obtain rfl := own
  cases caller : e.caller? with
  | none =>
    cases move with
    | outside others => exact others.elim
    | _ => cases caller
  | some caller' =>
    obtain ⟨other, op⟩ := caller'
    have unlike : call ≠ other := by
      rintro rfl
      exact apart op caller
    have allows := (reach.mayCall_and_allows wellKeyed move other op caller).2
    obtain ⟨preparing, busy⟩ := (reach.keeps_ground wellKeyed).inHand call _ at_call p.key rfl
    have still := (allows.leaves call unlike).plugin p.key preparing busy
    have elsewhere : op.takes ≠ some p.key := by
      intro takes
      have held : ∀ {w : World}, op.InHand other w → w.plugins p.key = .busy call preparing → False := by
        intro w inHand at_key
        obtain ⟨_, busy'⟩ := inHand p.key takes
        cases at_key.symm.trans busy'
        exact unlike rfl
      cases move with
      | begins => cases caller; exact held (op.enter_inHand other _) still
      | asks at_other | ends at_other | vanishes _ at_other =>
        cases caller
        exact held ((reach.keeps_ground wellKeyed).inHand other _ at_other) busy
      | outside => cases caller
    exact ⟨allows.leaves call unlike, fun _ => allows.wellKeyed,
      (reach.readies_of_move wellKeyed absent move caller).stays_unready elsewhere⟩

/-- A node is never ready with devices that it has not published. In every run from a store without
the node's record in which nobody sets its status by hand, a record that is ready offers just the
devices that are generated for the node and the start that made it ready last, in the order of their
identifiers. A start that succeeds ends in three writes of the record that it adopted; a start that
fails, or gives up, leaves the record not ready if it has written anything. Of runs in which a record
is updated that has been written 2 ^ 64 times, nothing is said (`World.Answers`). -/
theorem Run.ready_published (wellKeyed : w₀.WellKeyed) (absent : w₀.record key = none)
    (run : Run (.ofLifecycle key) (.idle w₀) log m) :
    (∀ r, m.world.record key = some r → r.status = .ready →
      ∃ count, latestStart key log = some count ∧ r.spec.allocatable = inventory key.name count ∧
        (r.spec.allocatable.map (·.uuid)).Pairwise (· < ·) ∧
        ∀ d, d ∈ r.spec.allocatable ↔ d ∈ Emulator.devices key.name count) ∧
    ∀ call p count, p.key = key →
      (∀ result, m.calls call = some ⟨.start p count, .done result⟩ →
        p.Starts count (stepsOf call log) result m.world) ∧
      (m.calls call = some ⟨.start p count, .crash⟩ → p.Cautious (stepsOf call log) m.world) := by
  refine ⟨fun r at_key ready => ?_, fun call p count own => ?_⟩
  · obtain ⟨count, latest, offered⟩ := run.ready_offers_latest wellKeyed absent r at_key ready
    rw [offered]
    exact ⟨count, latest, rfl, inventory_ascending key.name count, fun _ => mem_inventory⟩
  · have always : ∀ {rest}, m.calls call = some ⟨.start p count, rest⟩ →
        rest.Always (.ofStart p count call) (p.Starts count) p.Cautious (stepsOf call log) m.world := by
      intro rest at_call
      refine run.always_of_call (Plugin.start_settles p count call) (fun _ _ _ _ answered => answered)
        (fun {m₁ prog} before _ begun => ?_)
        (fun before move apart at_call => before.between_start wellKeyed absent move apart own at_call)
        at_call
      have still : ((Operation.start p count).enter call m₁.world).WellKeyed :=
        (before.keeps_ground wellKeyed).wellKeyed
      simp only [Operation.program] at begun
      split at begun <;> cases begun
      exact Plugin.start_always still
    exact ⟨fun result at_call => always at_call, fun at_call => always at_call⟩

end Machine

namespace Sharing

/-- A node is started with two devices, a claim takes one of them, and the node is started anew with
three; the last call is not over yet. -/
def restarted : List Turn :=
  offered ++ .ends 2 :: .begins 3 (.start plugin 3) :: List.replicate 5 (.goesOn 3)

/-- The last call is a start with three devices that has succeeded. -/
def startsAgain (m : Machine) : Bool :=
  match m.calls 3 with
  | some ⟨.start p count, .done (.ok _)⟩ => decide (p.key = plugin.key ∧ count = 3)
  | _ => false

/-- The record is ready, offers three devices and holds one for a claim. -/
def offersThree (m : Machine) : Bool :=
  match m.world.record plugin.key with
  | some r => decide (r.status = .ready ∧ r.spec.allocatable.length = 3 ∧
    r.spec.allocated.contains first = true)
  | none => false

end Sharing

open Sharing in
/-- A node that is started with two devices, and then with three. -/
theorem Machine.Run.ready_published_restarted :
    ∃ log m p s r, Machine.Run (.ofLifecycle plugin.key) (.idle {}) log m ∧ p.key = plugin.key ∧
      m.calls 3 = some ⟨.start p 3, .done (.ok s)⟩ ∧ p.Starts 3 (Machine.stepsOf 3 log) (.ok s) m.world ∧
      m.world.record plugin.key = some r ∧ r.status = .ready ∧ r.spec.allocatable.length = 3 ∧
      ∃ count, latestStart plugin.key log = some count ∧
        r.spec.allocatable = inventory plugin.key.name count := by
  have shown : ((Machine.record restarted [] (.idle {})).any fun (_, m) =>
      startsAgain m && offersThree m) = true := by decide +kernel
  obtain ⟨⟨log, m⟩, recorded, shown⟩ := (Option.any_eq_true ..).mp shown
  obtain ⟨starts, offers⟩ := Bool.and_eq_true_iff.mp shown
  have run : Machine.Run (.ofLifecycle plugin.key) (.idle {}) log m :=
    Machine.record_run
      (by simp [restarted, offered, Turn.whole, or_imp, forall_and, Setting.ofLifecycle])
      (fun _ _ absent => by cases absent) .start recorded
  obtain ⟨published, ends⟩ := run.ready_published (fun _ _ at_key => by cases at_key) rfl
  unfold startsAgain at starts
  unfold offersThree at offers
  split at starts
  · next p count s at_call =>
    obtain ⟨own, rfl⟩ := of_decide_eq_true starts
    split at offers
    · next r at_key =>
      obtain ⟨ready, three, _⟩ := of_decide_eq_true offers
      obtain ⟨count, latest, offered, _⟩ := published r at_key ready
      exact ⟨log, m, p, s, r, run, own, at_call, (ends 3 p 3 own).1 _ at_call, at_key, ready, three,
        count, latest, offered⟩
    · cases offers
  · cases starts

end DeviceClaims
