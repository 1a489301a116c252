import DeviceClaims.Proofs.Custody

namespace DeviceClaims.Custody

open Discipline

variable {C : Custody} {S : Setting} {call : Nat} {op : Operation} {v : View} {w : World}
  {p : Plugin} {s : DeviceState}

/-- What a plugin knows agrees with the record and the specifications. -/
structure Agrees (C : Custody) (call : Nat) (preparing : Option ClaimUid) (s : DeviceState) (w : World) :
    Prop where
  keyed : s.Keyed
  knows : C.Knows call (.settled preparing (some s.recorded)) w

theorem agrees_stable (preparing : Option ClaimUid) (s : DeviceState) :
    C.discipline.Stable call (C.Agrees call preparing s) :=
  fun _ _ later agrees => ⟨agrees.keyed, agrees.knows.of_later later⟩

theorem Knows.congr {v' : View} (knows : C.Knows call v w) (prepares : v.preparing = v'.preparing)
    (published : v.published = v'.published) (files : v.files = v'.files) (nothing : v'.grant = none) :
    C.Knows call v' w := by
  refine ⟨prepares ▸ knows.busy, published ▸ knows.published, fun lasting => ?_,
    fun _ _ _ _ granted => ?_⟩
  · obtain ⟨present, claims⟩ := knows.files lasting
    exact ⟨present, claims.trans files⟩
  · cases nothing.symm.trans granted

/-- The plugin, the record and the specifications agree if the record says what the plugin has prepared
and the specifications render it. -/
theorem Knows.agrees_of_recorded {preparing : Option ClaimUid} (knows : C.Knows call v w) (keyed : s.Keyed)
    (prepares : v.preparing = preparing) (published : v.published = some s.recorded)
    (files : v.files = rendered s.recorded) : C.Agrees call preparing s w :=
  ⟨keyed, knows.congr prepares published files rfl⟩

/-- A record may say of those claims that they are prepared of which it said so before, and of the one
that is prepared as it is allocated. -/
theorem Knows.expanded_publish {r : NodeRecord} (knows : C.Knows call v w) (at_key : w.record C.key = some r)
    (guarded : C.guarded) (expanded : r.Expanded) (allocatable : List AllocatableDevice)
    {prepared : SortedMap ClaimUid (List PreparedDevice)}
    (more : ∀ claim ds, prepared.get? claim = some ds →
      (∃ known, v.published = some known ∧ known.get? claim = some ds) ∨
      v.preparing = some claim ∧ ∃ devices, v.grant = some devices ∧
        ds = devices.flatMap AllocatedDevice.expansion) :
    ((Change.publish allocatable prepared).on r).Expanded := by
  refine expanded.publish_on allocatable fun claim ds found => ?_
  rcases more claim ds found with ⟨known, published, before⟩ | ⟨prepares, devices, granted, rfl⟩
  · have same := knows.published.symm.trans (World.published_of_record at_key)
    rw [published] at same
    cases same
    exact .inl before
  · have allocated := knows.granted guarded claim devices prepares granted
    rw [World.allocation_of_record at_key] at allocated
    exact .inr ⟨devices, allocated, rfl⟩

/-- The specifications of what is prepared for one more claim are those before and one for the claim. -/
theorem rendered_insert (prepared : SortedMap ClaimUid (List PreparedDevice)) (claim : ClaimUid)
    (ds : List DeviceInfo) :
    rendered (prepared.insert claim (ds.map DeviceInfo.prepared)) =
      (rendered prepared).insert claim (.ofClaim (ds.map (·.uuid))) := by
  have same : (ds.map DeviceInfo.prepared).map (·.uuid) = ds.map (·.uuid) := List.map_map
  rw [rendered, SortedMap.mapValues_insert, same]
  rfl

theorem rendered_erase (prepared : SortedMap ClaimUid (List PreparedDevice)) (claim : ClaimUid) :
    rendered (prepared.erase claim) = (rendered prepared).erase claim :=
  SortedMap.mapValues_erase ..

/-- The plugin agrees with the record and the specifications, whatever others do. -/
def agreeing (C : Custody) (call : Nat) (preparing : Option ClaimUid) (s : DeviceState) :
    C.discipline.Lasting call := ⟨C.Agrees call preparing s, agrees_stable preparing s⟩

def knowing (C : Custody) (call : Nat) (v : View) : C.discipline.Lasting call :=
  ⟨C.Knows call v, knows_stable v⟩

/-- What is known once devices are found for a claim. -/
def View.granted (claim : ClaimUid) (s : DeviceState) (devices : List AllocatedDevice) : View :=
  { View.settled (some claim) (some s.recorded) with grant := some devices }

/-- What is known while devices are shown for a claim and not recorded yet. -/
def View.shown (claim : ClaimUid) (s : DeviceState) (devices : List AllocatedDevice)
    (ds : List DeviceInfo) : View :=
  { View.granted claim s devices with
    files := (rendered s.recorded).insert claim (.ofClaim (ds.map (·.uuid))) }

/-- Devices of a claim that are shown may be recorded, and then the plugin agrees with the record. -/
theorem writes_prepared {claim : ClaimUid} {devices : List AllocatedDevice} {ds : List DeviceInfo}
    {r : NodeRecord} (key : r.key = C.key) (keyed : s.Keyed)
    (expanded : s.expandAll devices = .ok ds) :
    C.discipline.Writes S call op
      (.publish s.devices.values
        ({ s with prepared := s.prepared.insert claim ds } : DeviceState).recorded) r
      (C.Knows call (.shown claim s devices ds))
      (C.Agrees call (some claim) { s with prepared := s.prepared.insert claim ds }) := by
  have recorded := s.recorded_insert claim ds
  refine writes_of_knows key (fun _ => rfl) (fun w knows at_key guarded before =>
    knows.expanded_publish at_key guarded before _ fun other ds' found => ?_) fun w _ knows => ?_
  · rw [recorded, SortedMap.get?_insert] at found
    split at found
    · next same =>
      cases found
      exact .inr ⟨congrArg some same, devices, rfl, DeviceState.expandAll_prepared keyed expanded⟩
    · exact .inl ⟨s.recorded, rfl, found⟩
  · refine knows.agrees_of_recorded keyed rfl rfl ?_
    rw [recorded, rendered_insert]
    rfl

/-- The specification of a claim that was not prepared before is deleted again. -/
theorem knows_takenBack {claim : ClaimUid} {devices : List AllocatedDevice} {ds : List DeviceInfo}
    (keyed : s.Keyed) (unprepared : s.prepared.get? claim = none)
    (knows : C.Knows call { View.shown claim s devices ds with
      files := (View.shown claim s devices ds).files.erase claim } w) :
    C.Agrees call (some claim) s w := by
  have absent : (rendered s.recorded).get? claim = none := by
    rw [s.rendered_recorded, SortedMap.get?_mapValues, unprepared]
    rfl
  exact knows.agrees_of_recorded keyed rfl rfl (SortedMap.erase_insert absent _)

/-- A claim is prepared in all three places or in none of them. -/
theorem discipline_prepares (key : p.key = C.key) (takes : op.takes = some C.key) (perfect : ¬ S.faulty)
    {claim : NodeClaim} (plain : C.guarded → claim.handles = []) (keyed : s.Keyed) :
    C.discipline.Prepares S call op p claim s (C.agreeing call (some claim.uid))
      (fun devices => C.knowing call (.granted claim.uid s devices))
      fun devices ds => C.knowing call (.shown claim.uid s devices ds) where
  assigns devices r handles at_p w later may at_key agrees := by
    have free : ¬ C.guarded := fun guarded => handles (plain guarded)
    refine writes_of_knows (at_p.trans key) (fun guarded => absurd guarded free)
      (fun _ _ _ guarded => absurd guarded free) (fun w' published knows => ?_) w later may at_key
      agrees.knows
    exact ⟨knows.busy, knows.published.trans published.symm, knows.files,
      fun guarded => absurd guarded free⟩
  finds devices w r _ at_key found agrees := by
    rw [key] at at_key
    refine ⟨agrees.knows.busy, agrees.knows.published, agrees.knows.files, ?_⟩
    rintro _ _ _ ⟨⟩ ⟨⟩
    exact (World.allocation_of_record at_key claim.uid).trans found
  keeps devices w knows := Knows.agrees_of_recorded knows keyed rfl rfl rfl
  shows devices ds _ _ := files_of_knows takes perfect
    (fun _ knows => knows) fun _ _ knows => knows.agrees_of_recorded keyed rfl rfl rfl
  publishes devices ds r _ expanded at_p := writes_prepared (at_p.trans key) keyed expanded
  takesBack devices ds unprepared := files_of_knows takes perfect
    (fun _ knows => knows_takenBack keyed unprepared knows) fun writes => absurd rfl (writes claim.uid)

/-- What is known once a claim is off the record and still shown. -/
def View.dropped (claim : ClaimUid) (s : DeviceState) : View :=
  { View.settled none (some s.recorded) with published := some (s.recorded.erase claim) }

/-- A claim is given up in all three places or in none of them. -/
theorem discipline_givesUp (key : p.key = C.key) (takes : op.takes = some C.key) (perfect : ¬ S.faulty)
    {claim : NodeClaim} (plain : C.guarded → claim.handles = []) (keyed : s.Keyed) :
    C.discipline.GivesUp S call op p claim s (C.agreeing call none)
      (C.knowing call (.dropped claim.uid s)) where
  releases r handles at_p w later may at_key agrees := by
    have free : ¬ C.guarded := fun guarded => handles (plain guarded)
    refine writes_of_knows (at_p.trans key) (fun guarded => absurd guarded free)
      (fun _ _ _ guarded => absurd guarded free) (fun w' published knows => ?_) w later may at_key
      agrees.knows
    exact knows.agrees_of_recorded keyed rfl published.symm rfl
  publishes r at_p w later may at_key agrees :=
    writes_of_knows (at_p.trans key) (fun _ => rfl) (fun _ knows at_key guarded before =>
      knows.expanded_publish at_key guarded before _ fun _ _ found => .inl ⟨s.recorded, rfl, found⟩)
      (fun _ _ knows => knows.agrees_of_recorded keyed rfl rfl rfl) w later may at_key agrees.knows
  drops r at_p w later may at_key agrees := by
    refine writes_of_knows (at_p.trans key) (fun _ => rfl) (fun _ knows at_key guarded before =>
      knows.expanded_publish at_key guarded before _ fun other ds found => .inl ⟨s.recorded, rfl, ?_⟩)
      (fun _ _ knows => knows) w later may at_key agrees.knows
    rw [SortedMap.get?_erase] at found
    split at found
    · cases found
    · exact found
  deletes := by
    refine files_of_knows takes perfect (fun w knows => ?_) fun writes => absurd rfl (writes claim.uid)
    have recorded := s.recorded_erase claim.uid
    refine knows.agrees_of_recorded keyed rfl (congrArg some recorded.symm) ?_
    rw [recorded]
    exact (rendered_erase s.recorded claim.uid).symm

/-- A plugin that starts knows that the specifications are in step with the record. -/
def Starting (C : Custody) (call : Nat) (w : World) : Prop :=
  ∃ known, C.Knows call (.settled none known) w

def starting (C : Custody) (call : Nat) : C.discipline.Lasting call :=
  ⟨C.Starting call, fun _ _ later starting => starting.imp fun _ knows => knows.of_later later⟩

/-- A record that is created lists nothing, and nothing is shown. -/
theorem starting_create (key : p.key = C.key) (absent : w.record p.key = none)
    (starting : C.Starting call w) :
    C.discipline.Permits call op w (w.put ((NodeRecord.new p.key.name p.key.space).withVersion 1)) ∧
      C.Starting call (w.put ((NodeRecord.new p.key.name p.key.space).withVersion 1)) := by
  obtain ⟨known, knows⟩ := starting
  rw [key] at absent
  have none : known = none := by
    refine knows.published.symm.trans ?_
    rw [World.published, absent]
    rfl
  subst none
  let r := (NodeRecord.new p.key.name p.key.space).withVersion 1
  have r_key : r.key = C.key := key
  have at_key : (w.put r).record C.key = some r := r_key ▸ World.record_put_self w r
  have after := knows.put r_key fun _ claim devices found => by
    simp [World.allocation, absent] at found
  refine ⟨permits_of_busy knows.busy knows.busy fun _ r' at_r' => ?_, some .empty,
    after.congr rfl rfl rfl rfl⟩
  cases at_key.symm.trans at_r'
  intro claim ds found
  cases found

/-- A start adopts what the record says is prepared, renders it and publishes it again. -/
theorem discipline_restarts (key : p.key = C.key) (takes : op.takes = some C.key) (perfect : ¬ S.faulty)
    (count : Nat) :
    C.discipline.Restarts S call op p count (C.starting call)
      (fun r => C.knowing call (.settled none (some r.spec.prepared))) (C.agreeing call none)
      fun _ => True where
  creates _ _ _ absent starting := starting_create key absent starting
  adopts r at_p w later may at_key starting := by
    obtain ⟨known, knows⟩ := starting
    refine writes_of_knows (at_p.trans key) (fun _ => rfl) (fun _ _ _ _ => id)
      (fun w' published knows => ?_) w later may at_key knows
    have known : known = some r.spec.prepared := published
    exact knows.congr rfl rfl (congrArg (fun known => rendered (Option.getD known .empty)) known) rfl
  files r := files_of_knows takes perfect (fun _ knows => knows) fun _ _ knows => ⟨_, knows⟩
  keeps _ _ knows := ⟨_, knows⟩
  publishes r s at_p synced := by
    have recorded : s.recorded = r.spec.prepared := (DeviceState.sync_recorded synced).1
    exact writes_of_knows (((Change.on_key _ r).trans at_p).trans key) (fun _ => rfl)
      (fun _ _ _ _ expanded => expanded.publish_on _ fun _ _ found => .inl (recorded ▸ found))
      fun _ _ knows => knows.congr rfl (congrArg some recorded) rfl rfl
  readies r s at_p synced := by
    obtain ⟨recorded, devices⟩ := DeviceState.sync_recorded synced
    have keyed : s.Keyed := by
      unfold DeviceState.Keyed
      rw [devices]
      exact DeviceState.keyed_ofDevices _
    refine writes_of_knows ((((Change.on_key _ _).trans (Change.on_key _ r)).trans at_p).trans key)
      (fun _ => rfl) (fun _ _ _ _ => id) fun _ _ knows => knows.agrees_of_recorded keyed rfl rfl ?_
    exact congrArg rendered recorded.symm
  refuses _ _ _ _ _ := trivial
  store _ := trivial
  specFile _ := trivial

/-- A setting in which a plugin keeps its discipline: only its own calls take it, directories do not
fail, and what is asked of guarded claims and of lasting calls is so. -/
structure Fits (C : Custody) (S : Setting) : Prop where
  own : ∀ op key, S.mayCall op → op.takes = some key → key = C.key
  perfect : ¬ S.faulty
  plain : C.guarded → ∀ op, S.mayCall op → op.Plain
  apart : C.guarded → ∀ c claim w, S.mayStep (.deallocate c claim) w → ¬ w.Uses C.key claim.uid
  lasting : C.lasting → ¬ S.mayVanish
  outside : ∀ w w', S.outside w w' → ¬ C.guarded ∧ w'.plugins = w.plugins ∧ w'.specs = w.specs ∧
    w'.published C.key = w.published C.key

/-- A plugin that no call has in hand may be taken. -/
theorem Sound.permits_take (sound : C.Sound w)
    (idle : ∀ other preparing, w.plugins C.key ≠ .busy other preparing) (preparing : Option ClaimUid) :
    C.discipline.Permits call op w (w.setPlugin C.key (.busy call preparing)) := by
  have busy : (w.setPlugin C.key (.busy call preparing)).plugins C.key = .busy call preparing :=
    Function.update_self ..
  refine ⟨fun other _ preparing at_other => absurd at_other (idle other preparing),
    ⟨fun s up => ?_, fun _ rests => absurd busy (rests call preparing), sound.expanded⟩, trivial⟩
  cases busy.symm.trans up

theorem Sound.knows_settled (sound : C.Sound w)
    (idle : ∀ other preparing, w.plugins C.key ≠ .busy other preparing) (preparing : Option ClaimUid) :
    C.Knows call (.settled preparing (w.published C.key))
      (w.setPlugin C.key (.busy call preparing)) :=
  ⟨Function.update_self .., rfl, fun lasting => sound.files lasting idle,
    fun _ _ _ _ granted => by cases granted⟩

/-- A call may give the plugin back once it knows what the record says is prepared. -/
theorem Knows.permits_leave {preparing : Option ClaimUid}
    {known : Option (SortedMap ClaimUid (List PreparedDevice))}
    (knows : C.Knows call (.settled preparing known) w) (sound : C.Sound w) {phase : PluginPhase}
    (up : ∀ s, phase = .up s → known = some s.recorded ∧ s.Keyed) :
    C.discipline.Permits call op w (w.setPlugin C.key phase) := by
  have now : (w.setPlugin C.key phase).plugins C.key = phase := Function.update_self ..
  refine ⟨fun other unlike _ at_other => ?_, ⟨fun s at_up => ?_, fun lasting _ => ?_, sound.expanded⟩,
    trivial⟩
  · cases knows.busy.symm.trans at_other
    exact absurd rfl unlike
  · obtain ⟨same, keyed⟩ := up s (now.symm.trans at_up)
    exact ⟨knows.published.trans same, keyed⟩
  · obtain ⟨present, claims⟩ := knows.files lasting
    refine ⟨present, claims.trans ?_⟩
    exact congrArg (fun known => rendered (Option.getD known .empty)) knows.published.symm

/-- The other calls leave the plugin to the call that has it in hand. -/
theorem allows_of_footprint {w' : World} (fits : C.Fits S) (takes : op.takes = none)
    (sound : C.Sound w) (allows : (ground S).Allows call op w w') :
    C.discipline.Allows call op w w' := by
  have footprint := allows.promise
  obtain ⟨specs, plugins⟩ := footprint.own takes
  have published : w'.published C.key = w.published C.key := by
    refine footprint.published_of_not_owns ?_
    cases op <;> simp_all [Operation.Owns, Operation.takes]
  have allocation : C.guarded → ∀ claim devices, w.Uses C.key claim →
      w.allocation C.key claim = some devices → w'.allocation C.key claim = some devices := by
    intro guarded claim devices uses found
    refine footprint.allocation_some takes (fun c taken same step => ?_) found
    rintro rfl
    subst same
    exact fits.apart guarded c taken w step uses
  refine ⟨allows.leaves, fun other _ preparing busy => ⟨by rw [plugins], published, by rw [specs],
    fun guarded claim devices prepares found => ?_⟩, allows.wellKeyed,
    ⟨fun s up => ?_, fun lasting idle => ?_, fun guarded r' at_key' claim ds found => ?_⟩, trivial⟩
  · exact allocation guarded claim devices (.inr ⟨other, prepares ▸ busy⟩) found
  · rw [plugins] at up
    rw [published]
    exact sound.up s up
  · rw [plugins] at idle
    rw [specs, published]
    exact sound.files lasting idle
  · have same := published.symm.trans (World.published_of_record at_key')
    cases at_key : w.record C.key with
    | none => simp [World.published, at_key] at same
    | some r =>
      rw [World.published_of_record at_key] at same
      have prepared : r.spec.prepared = r'.spec.prepared := Option.some.inj same
      have before : r.spec.prepared.get? claim = some ds := prepared ▸ found
      obtain ⟨devices, allocated, rfl⟩ := sound.expanded guarded r at_key claim ds before
      have still := allocation guarded claim devices (.inl ⟨r, _, at_key, before⟩)
        ((World.allocation_of_record at_key claim).trans allocated)
      rw [World.allocation_of_record at_key'] at still
      exact ⟨devices, still, rfl⟩

/-- What a call that has the plugin in hand comes to: the specifications are in step with the record, and
if it leaves the plugin running, so is what the plugin knows. -/
def Yields (C : Custody) (call : Nat) (op : Operation) (result : op.Result) (w : World) : Prop :=
  ∃ preparing known, C.Knows call (.settled preparing known) w ∧
    ∀ s, op.phaseAfter result = .up s → known = some s.recorded ∧ s.Keyed

/-- A call that stops where plugin, record and specifications agree yields a plugin that may serve. -/
theorem Agrees.yields_of_phaseAfter {preparing : Option ClaimUid} {result : op.Result}
    (agrees : C.Agrees call preparing s w) (up : op.phaseAfter result = .up s) :
    C.Yields call op result w := by
  refine ⟨preparing, some s.recorded, agrees.knows, fun s' up' => ?_⟩
  cases up.symm.trans up'
  exact ⟨rfl, agrees.keyed⟩

/-- A serving plugin that is taken agrees with the record and the specifications. -/
theorem Sound.agrees_of_up (sound : C.Sound w) (up : w.plugins C.key = .up s) (preparing : Option ClaimUid) :
    C.Agrees call preparing s (w.setPlugin C.key (.busy call preparing)) := by
  obtain ⟨published, keyed⟩ := sound.up s up
  refine ⟨keyed, published ▸ sound.knows_settled (fun _ _ busy => ?_) preparing⟩
  cases up.symm.trans busy

/-- The program of every call of the plugin stops where plugin, record and
specifications agree again. -/
theorem meets_program (fits : C.Fits S) (may : S.mayCall op) (takes : op.takes = some C.key)
    (sound : C.Sound w) {prog : Prog op.Result} (begun : op.program w = some prog) :
    C.discipline.Meets S call op (C.Yields call op) prog (op.enter call w) := by
  have idle := op.not_busy_of_begun takes begun
  refine Operation.begun_of_takes (motive := fun op prog => S.mayCall op → op.takes = some C.key →
    C.discipline.Meets S call op (C.Yields call op) prog (op.enter call w)) takes begun
    (fun p count key _ takes => ?_) (fun p claim s key up may takes => ?_)
    (fun p claim s key up may takes => ?_) may takes
  · have enters : Operation.enter call (.start p count) w = w.setPlugin C.key (.busy call none) :=
      congrArg (w.setPlugin · _) key
    rw [enters]
    refine ((discipline_restarts key takes fits.perfect count).meets_start
      ⟨_, sound.knows_settled idle none⟩).weaken fun result w' reached => ?_
    cases result with
    | ok s => exact Agrees.yields_of_phaseAfter reached rfl
    | error e => exact reached.1.elim fun known knows => ⟨none, known, knows, nofun⟩
  · have enters : Operation.enter call (.prepare p claim) w =
        w.setPlugin C.key (.busy call (some claim.uid)) := congrArg (w.setPlugin · _) key
    rw [enters]
    have agrees : C.Agrees call (some claim.uid) s _ := sound.agrees_of_up up _
    exact ((discipline_prepares key takes fits.perfect (fun guarded => fits.plain guarded _ may)
      agrees.keyed).meets_prepare agrees).weaken fun _ _ agrees => Agrees.yields_of_phaseAfter agrees rfl
  · have enters : Operation.enter call (.unprepare p claim) w =
        w.setPlugin C.key (.busy call none) := congrArg (w.setPlugin · _) key
    rw [enters]
    have agrees : C.Agrees call none s _ := sound.agrees_of_up up _
    exact ((discipline_givesUp key takes fits.perfect (fun guarded => fits.plain guarded _ may)
      agrees.keyed).meets_unprepare agrees).weaken fun _ _ reached => Agrees.yields_of_phaseAfter reached.1 rfl

/-- Where specifications need not be in step, a call of the plugin may come to nothing. -/
theorem Sound.permits_vanish (sound : C.Sound w) (fleeting : ¬ C.lasting) (takes : op.takes = some C.key)
    (inHand : op.InHand call w) : C.discipline.Permits call op w (op.vanish call w) := by
  have down : ((w.unlockAll call).setPlugin C.key .down).plugins C.key = .down := Function.update_self ..
  obtain ⟨_, busy⟩ := inHand C.key takes
  rw [op.vanish_of_takes takes]
  refine ⟨fun other unlike _ at_other => ?_, ⟨fun s up => ?_, fun lasting => absurd lasting fleeting,
    sound.expanded⟩, trivial⟩
  · cases busy.symm.trans at_other
    exact absurd rfl unlike
  · cases down.symm.trans up

/-- The discipline governs all calls of the plugin, whatever runs beside it. -/
theorem discipline_governs (fits : C.Fits S) : C.discipline.Governs S (fun op => op.takes = some C.key)
    fun call op w w' => S.mayCall op ∧ (ground S).Allows call op w w' where
  begins call op w prog may sorted _ sound begun := by
    obtain ⟨preparing, enters⟩ := op.enter_of_takes sorted call w
    refine ⟨enters ▸ sound.permits_take (op.not_busy_of_begun sorted begun) preparing,
      (meets_program fits may sorted sound begun).and_inv.weaken fun result w₁ final _ => ?_⟩
    obtain ⟨⟨preparing, known, knows, up⟩, sound⟩ := final
    rw [op.leave_of_takes sorted]
    exact knows.permits_leave sound up
  vanishes call op w may sorted _ sound inHand :=
    sound.permits_vanish (fun lasting => fits.lasting lasting may) sorted inHand
  others call op w w' unsorted _ sound known := by
    have takes : op.takes = none := by
      refine Option.eq_none_iff_forall_ne_some.mpr fun key at_key => unsorted ?_
      rw [at_key, fits.own op key known.1 at_key]
    exact allows_of_footprint fits takes sound known.2
  outside w w' others _ sound := by
    obtain ⟨free, plugins, specs, published⟩ := fits.outside w w' others
    refine ⟨⟨fun s up => ?_, fun lasting idle => ?_, fun guarded => absurd guarded free⟩,
      fun call preparing busy => ⟨by rw [plugins], published, by rw [specs],
        fun guarded => absurd guarded free⟩⟩
    · rw [plugins] at up
      rw [published]
      exact sound.up s up
    · rw [plugins] at idle
      rw [specs, published]
      exact sound.files lasting idle

end DeviceClaims.Custody
