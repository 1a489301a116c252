import DeviceClaims.Proofs.Readiness

namespace DeviceClaims

open Discipline

variable {key : ObjectKey} {S : Setting} {call : Nat} {op : Operation} {w : World}
  {ds : List AllocatableDevice} {p : Plugin}

/-- A call has the plugin in hand and its record offers these devices if it is ready, whatever others
do. -/
def tending (key : ObjectKey) (call : Nat) (ds : List AllocatableDevice) : (offering key).Lasting call :=
  ⟨Tends key call ds, fun _ _ later tends => tends.of_later later⟩

def inHand (key : ObjectKey) (call : Nat) : (offering key).Lasting call :=
  ⟨fun w => w.Busy key call, fun _ _ later busy => busy.of_later later⟩

/-- The call that has the plugin in hand may make a change that readies the record as the call may. -/
theorem writes_of_readies {change : Change} {r : NodeRecord} {before after : World → Prop}
    (at_r : r.key = key) (busy : ∀ v, before v → v.Busy key call)
    (readies : ∀ v v' : World, before v → v.record key = some r → v'.record key = some (change.on r) →
      Readies key op v v')
    (gives : ∀ v v' : World, before v → v.record key = some r → v'.record key = some (change.on r) →
      v'.Busy key call → after v') :
    (offering key).Writes S call op change r before after := by
  intro v _ _ at_key holds
  have at_key : v.record key = some r := at_r ▸ at_key
  have after : (v.put (change.on r)).record key = some (change.on r) := by
    rw [← at_r, ← change.on_key r]
    exact World.record_put_self v _
  have still : (v.put (change.on r)).Busy key call := busy v holds
  exact ⟨still.permits_of_readies rfl (readies _ _ holds at_key after), gives _ _ holds at_key after still⟩

/-- A change that leaves the status, and leaves what is offered while the record is ready. -/
theorem writes_of_offered {change : Change} {r : NodeRecord} (at_r : r.key = key)
    (plain : ∀ p count, op ≠ .start p count) (status : (change.on r).status = r.status)
    (offered : (r.status = .ready → r.spec.allocatable = ds) → r.status = .ready →
      (change.on r).spec.allocatable = ds) :
    (offering key).Writes S call op change r (Tends key call ds) (Tends key call ds) := by
  refine writes_of_readies at_r (fun _ tends => tends.busy) (fun v v' tends at_key after => ?_)
    fun v v' tends at_key after busy => ⟨busy, fun r' at_r' ready => ?_⟩
  · cases ready : r.status with
    | notReady => exact .unready ⟨_, after, status.trans ready⟩
    | ready =>
      refine .kept at_key after status ?_ plain
      rw [offered (tends.offers r at_key) ready, tends.offers r at_key ready]
  · cases after.symm.trans at_r'
    exact offered (tends.offers r at_key) (status ▸ ready)

/-- Requests about specifications do not touch the record. -/
theorem files_of_busy {a : SpecAccess} (before failed : (offering key).Lasting call)
    (busy : ∀ v, before v → v.Busy key call)
    (same : ∀ v other dir, before v → before (v.setSpecs other dir)) (keeps : ∀ v, before v → failed v) :
    (offering key).Files S call op a before before failed := by
  refine fun w holds => Meets.ask_spec (fun v later other _ => ?_) fun v later _ detail v' later' =>
    failed.stable _ _ later' (keeps v (before.stable _ _ later holds))
  have holds := same v other ((v.specs other).apply a).2 (before.stable _ _ later holds)
  refine ⟨(busy _ holds).permits_of_readies rfl (.same rfl), fun v' later' => ?_⟩
  generalize ((v.specs other).apply a).1 = answer
  cases answer with
  | ok => exact before.stable _ _ later' holds
  | error detail => exact failed.stable _ _ later' (keeps _ holds)

theorem files_of_tends {a : SpecAccess} :
    (offering key).Files S call op a (Tends key call ds) (Tends key call ds) (Tends key call ds) :=
  files_of_busy (tending key call ds) (tending key call ds) (fun _ tends => tends.busy)
    (fun _ _ _ tends => ⟨tends.busy, tends.offers.congr rfl⟩) fun _ => id

/-- A call that prepares a claim leaves what is offered. -/
theorem prepares_tending (same : p.key = key) (plain : ∀ p count, op ≠ .start p count)
    (claim : NodeClaim) (s : DeviceState) :
    (offering key).Prepares S call op p claim s (fun s => tending key call s.devices.values)
      (fun _ => tending key call s.devices.values) fun _ _ => tending key call s.devices.values where
  assigns _ _ _ at_p := writes_of_offered (at_p.trans same) plain rfl id
  finds _ _ _ _ _ _ tends := tends
  keeps _ _ tends := tends
  shows _ _ _ _ := files_of_tends
  publishes _ _ _ _ _ at_p := writes_of_offered (at_p.trans same) plain rfl fun _ _ => rfl
  takesBack _ _ _ := files_of_tends

/-- A call that gives up a claim leaves what is offered. -/
theorem givesUp_tending (same : p.key = key) (plain : ∀ p count, op ≠ .start p count)
    (claim : NodeClaim) (s : DeviceState) :
    (offering key).GivesUp S call op p claim s (fun s => tending key call s.devices.values)
      (tending key call s.devices.values) where
  releases _ _ at_p := writes_of_offered (at_p.trans same) plain rfl id
  publishes _ at_p := writes_of_offered (at_p.trans same) plain rfl fun _ _ => rfl
  drops _ at_p := writes_of_offered (at_p.trans same) plain rfl fun _ _ => rfl
  deletes := files_of_tends

/-- A start makes the record ready only when it offers all devices of the node. -/
theorem restarts_tending (same : p.key = key) (count : Nat) :
    (offering key).Restarts S call (.start p count) p count (inHand key call) (fun _ => inHand key call)
      (fun s => tending key call s.devices.values) fun _ => True where
  creates v _ _ absent busy := by
    have created : (v.put ((NodeRecord.new p.key.name p.key.space).withVersion 1)).Busy key call := busy
    have unready : (v.put ((NodeRecord.new p.key.name p.key.space).withVersion 1)).Unready p.key :=
      ⟨_, World.record_put_self v _, rfl⟩
    exact ⟨created.permits_of_readies rfl (.unready (same ▸ unready)), created⟩
  adopts r at_p := writes_of_readies (at_p.trans same) (fun _ => id)
    (fun _ _ _ _ after => .unready ⟨_, after, Change.unready_on r⟩) fun _ _ _ _ _ => id
  files _ := files_of_busy _ _ (fun _ => id) (fun _ _ _ busy => busy) fun _ => id
  keeps _ _ busy := busy
  publishes r s at_p _ := writes_of_readies (((Change.on_key _ r).trans at_p).trans same) (fun _ => id)
    (fun _ _ _ _ after => .unready ⟨_, after, rfl⟩) fun _ _ _ _ _ => id
  readies r s at_p synced := by
    have devices : s.devices.values = inventory key.name count := by
      rw [(DeviceState.sync_recorded synced).2, same, inventory]
    refine writes_of_readies ((((Change.on_key _ _).trans (Change.on_key _ r)).trans at_p).trans same)
      (fun _ => id)
      (fun _ _ _ before after => .published rfl same ⟨_, before, rfl⟩ after rfl devices)
      fun _ _ _ _ after busy => ⟨busy, fun r' at_r' _ => ?_⟩
    cases after.symm.trans at_r'
    rfl
  refuses _ _ _ _ _ := trivial
  store _ := trivial
  specFile _ := trivial

/-- What a call that has the plugin in hand comes to. -/
def Operation.Offers (key : ObjectKey) (call : Nat) : (op : Operation) → op.Result → World → Prop
  | .start .., .ok s, w => Tends key call s.devices.values w
  | .start .., .error _, _ => True
  | .prepare .., result, w | .unprepare .., result, w => Tends key call result.2.devices.values w
  | .filter .., _, _ | .allocate .., _, _ | .deallocate .., _, _ | .shutdown _, _, _
  | .setStatus .., _, _ => True

/-- Every call of the plugin ends with a record that offers, while it is ready, what it offered before,
or all devices of a start that made it ready. -/
theorem Operation.meets_offers (inv : (offering key).inv w) (takes : op.takes = some key)
    {prog : Prog op.Result} (begun : op.program w = some prog) :
    (offering key).Meets S call op (op.Offers key call) prog (op.enter call w) := by
  have busy : (op.enter call w).Busy key call := op.enter_inHand call w key takes
  have offers : ∀ {s}, w.plugins key = .up s → (op.enter call w).Offers key s.devices.values :=
    fun up => (inv _ up).congr (op.enter_record call w key)
  refine begun_of_takes (motive := fun op prog => (op.enter call w).Busy key call →
    (∀ {s}, w.plugins key = .up s → (op.enter call w).Offers key s.devices.values) →
    (offering key).Meets S call op (op.Offers key call) prog (op.enter call w)) takes begun
    (fun p count same busy _ => ?_) (fun p claim s same up busy offers => ?_)
    (fun p claim s same up busy offers => ?_) busy offers
  · refine ((restarts_tending same count).meets_start busy).weaken fun result w' reached => ?_
    cases result with
    | ok s => exact reached
    | error e => trivial
  · exact (prepares_tending same (fun _ _ same => by cases same) claim s).meets_prepare ⟨busy, offers up⟩
  · exact ((givesUp_tending same (fun _ _ same => by cases same) claim s).meets_unprepare
      ⟨busy, offers up⟩).weaken
      fun _ _ reached => reached.1

/-- If a call leaves the plugin running, the record offers the plugin's devices if it is ready. -/
theorem Operation.Offers.tends_of_up {result : op.Result} (offers : op.Offers key call result w)
    (takes : op.takes ≠ none) {s : DeviceState} (up : op.phaseAfter result = .up s) :
    Tends key call s.devices.values w := by
  cases op with
  | start p count => cases result <;> cases up; exact offers
  | prepare p claim => cases up; exact offers
  | unprepare p claim => cases up; exact offers
  | _ => exact absurd rfl takes

/-- A call that has not the plugin in hand leaves it where it stands. -/
theorem Machine.Move.plugins_of_apart {m m' : Machine} {e : Event} (move : Move S e m m')
    (caller : e.caller? = some (call, op)) (apart : op.takes ≠ some key) :
    m'.world.plugins key = m.world.plugins key := by
  have unlike : ∀ taken, op.takes = some taken → key ≠ taken := by
    rintro taken takes rfl
    exact apart takes
  cases move with
  | begins =>
    cases caller
    cases op <;> first | rfl | exact Function.update_of_ne (unlike _ rfl) _ _
  | asks _ _ answered =>
    cases caller
    exact congrFun answered.plugins_eq key
  | @ends _ _ _ result =>
    cases caller
    exact Operation.leave_plugins result m.world unlike
  | vanishes =>
    cases caller
    exact Operation.vanish_plugins call op m.world unlike
  | outside => cases caller

/-- The discipline governs all calls of the plugin, whatever the controller does. -/
theorem offering_governs (key : ObjectKey) :
    (offering key).Governs (.ofLifecycle key) (fun op => op.takes = some key)
      fun call op w w' => (Setting.ofLifecycle key).mayCall op ∧
        (ground (.ofLifecycle key)).Allows call op w w' ∧
        (op.takes ≠ some key → w'.plugins key = w.plugins key) where
  begins call op w prog _ takes _ inv begun := by
    have inHand := op.enter_inHand call w key takes
    obtain ⟨preparing, busy⟩ := inHand
    refine ⟨⟨fun other unlike preparing' busy' => ?_, fun s up => ?_, .same (op.enter_record call w key)⟩,
      (Operation.meets_offers inv takes begun).weaken fun result w' offers inHand => ?_⟩
    · cases (Operation.enter_busy begun busy').symm.trans busy
      exact absurd rfl unlike
    · cases up.symm.trans busy
    · exact leave takes inHand offers
  vanishes call op w _ takes _ _ inHand := by
    have down : (op.vanish call w).plugins key = .down := by
      rw [op.vanish_of_takes takes]
      exact Function.update_self ..
    refine ⟨rely_of_inHand takes inHand, fun s up => ?_, .same (op.vanish_record call w key)⟩
    cases down.symm.trans up
  others call op w w' unsorted _ inv known := by
    obtain ⟨may, allows, plugins⟩ := known
    have readies := allows.promise.readies_of_quiet unsorted may
    refine ⟨allows.leaves, fun other unlike preparing busy => ?_, allows.wellKeyed, fun s up => ?_,
      readies⟩
    · exact ⟨(plugins unsorted).trans busy, fun ds => readies.keeps_offers unsorted⟩
    · exact readies.keeps_offers unsorted (inv s ((plugins unsorted).symm.trans up))
  outside _ _ others := others.elim
where
  rely_of_inHand {call : Nat} {op : Operation} {w w' : World} (takes : op.takes = some key)
      (inHand : op.InHand call w) : ∀ other, other ≠ call → (offering key).rely other w w' := by
    intro other unlike preparing busy
    obtain ⟨_, own⟩ := inHand key takes
    cases busy.symm.trans own
    exact absurd rfl unlike
  leave {call : Nat} {op : Operation} {w : World} {result : op.Result} (takes : op.takes = some key)
      (inHand : op.InHand call w) (offers : op.Offers key call result w) :
      (offering key).Permits call op w (op.leave result w) := by
    refine ⟨rely_of_inHand takes inHand, ?_, .same (Operation.leave_record result w key)⟩
    rw [op.leave_of_takes takes]
    intro s up
    have up : op.phaseAfter result = .up s := (Function.update_self ..).symm.trans up
    exact (offers.tends_of_up (by rw [takes]; nofun) up).offers

namespace Machine

variable {m m' : Machine} {e : Event} {w₀ : World}

theorem Reach.offering_known (wellKeyed : w₀.WellKeyed) (reach : Reach (.ofLifecycle key) (.idle w₀) m)
    (move : Move (.ofLifecycle key) e m m') (call : Nat) (op : Operation)
    (caller : e.caller? = some (call, op)) :
    (Setting.ofLifecycle key).mayCall op ∧
      (DeviceClaims.ground (.ofLifecycle key)).Allows call op m.world m'.world ∧
      (op.takes ≠ some key → m'.world.plugins key = m.world.plugins key) := by
  obtain ⟨may, allows⟩ := reach.mayCall_and_allows wellKeyed move call op caller
  exact ⟨may, allows, move.plugins_of_apart caller⟩

/-- From a store without the node's record, every move readies the record as it may. -/
theorem Reach.readies_of_move (wellKeyed : w₀.WellKeyed) (absent : w₀.record key = none)
    (reach : Reach (.ofLifecycle key) (.idle w₀) m) (move : Move (.ofLifecycle key) e m m')
    {call : Nat} {op : Operation} (caller : e.caller? = some (call, op)) :
    Readies key op m.world m'.world := by
  have inv : (offering key).inv w₀ := by
    intro s _ r at_key
    cases absent.symm.trans at_key
  have governs := offering_governs key
  have keeps := governs.keeps_reach (.idle wellKeyed inv)
    (fun before move => before.offering_known wellKeyed move) reach
  exact ((governs.keeps_move keeps move (reach.offering_known wellKeyed move)).2 call op caller).promise

end Machine

end DeviceClaims
