import DeviceClaims.Proofs.Custody.Calls
import DeviceClaims.Proofs.Remnants

namespace DeviceClaims.Remnant

open Discipline

variable {R : Remnant} {S : Setting} {call : Nat} {op : Operation} {w : World}
  {listed filed : Prop} {p : Plugin} {s : DeviceState}

/-- All that is left of the claim is known to the plugin. -/
def settling (R : Remnant) (call : Nat) (s : DeviceState) : R.discipline.Lasting call :=
  R.knowing call (s.isPrepared R.claim) (s.isPrepared R.claim)

/-- Whatever comes of a call that prepares a claim, all that is left of any claim is known to the
plugin. -/
theorem discipline_prepares (key : p.key = R.key) (takes : op.takes = some R.key) (claim : NodeClaim)
    (s : DeviceState) :
    R.discipline.Prepares S call op p claim s (R.settling call) (fun _ => R.settling call s)
      fun _ _ => R.knowing call (s.isPrepared R.claim) (claim.uid = R.claim ∨ s.isPrepared R.claim) where
  assigns devices r _ at_p := writes_of_knows (at_p.trans key) id fun _ _ _ knows => knows
  finds _ _ _ _ _ _ settled := settled
  keeps _ _ settled := settled
  shows _ _ _ _ := files_of_knows takes (fun _ knows => knows) fun _ knows => knows
  publishes _ ds r _ _ at_p := by
    have more := s.isPrepared_insert claim.uid R.claim ds
    have lists := DeviceState.contains_recorded
      { s with prepared := s.prepared.insert claim.uid ds } R.claim
    exact writes_of_knows (at_p.trans key) (fun _ => lists.symm.trans) fun _ _ _ knows =>
      knows.weaken id more.mpr
  takesBack _ ds _ := by
    have more := s.isPrepared_insert claim.uid R.claim ds
    exact files_of_knows takes
      (fun _ knows => knows.weaken id fun ⟨apart, shown⟩ => shown.resolve_left apart)
      fun _ knows => knows.weaken (fun before => more.mpr (.inr before)) more.mpr

/-- Whatever comes of a call that gives up a claim, all that is left of any claim is known to the
plugin. -/
theorem discipline_givesUp (key : p.key = R.key) (takes : op.takes = some R.key) (claim : NodeClaim)
    (s : DeviceState) :
    R.discipline.GivesUp S call op p claim s (R.settling call)
      (R.knowing call (claim.uid ≠ R.claim ∧ s.isPrepared R.claim) (s.isPrepared R.claim)) where
  releases r _ at_p := writes_of_knows (at_p.trans key) id fun _ _ _ knows => knows
  publishes r at_p := writes_of_knows (at_p.trans key)
    (fun _ => (s.contains_recorded R.claim).symm.trans) fun _ _ _ knows => knows
  drops r at_p := by
    refine writes_of_knows (at_p.trans key) (fun _ found => ?_) fun _ _ _ knows => knows
    have found : (s.recorded.erase claim.uid).contains R.claim := found
    rw [← s.recorded_erase, DeviceState.contains_recorded] at found
    exact (s.isPrepared_erase claim.uid R.claim).mp found
  deletes := by
    have fewer := s.isPrepared_erase claim.uid R.claim
    exact files_of_knows takes (fun _ knows => knows.weaken fewer.mpr fewer.mpr) fun _ knows =>
      knows.weaken And.right id

/-- What the record that a start adopts says of the claim is all that is left of it, if there is no
stray specification when the record is written. -/
theorem discipline_restarts (key : p.key = R.key) (takes : op.takes = some R.key)
    (covered : R.tidy → ∀ w, S.mayStep op w → ¬ w.Stray R.key R.claim) (count : Nat) :
    R.discipline.Restarts S call op p count (R.knowing call True True)
      (fun r => R.knowing call (r.spec.prepared.contains R.claim) (r.spec.prepared.contains R.claim))
      (R.settling call) fun _ => True where
  creates w _ _ absent knows := by
    have after : R.Knows call True True
        (w.put ((NodeRecord.new p.key.name p.key.space).withVersion 1)) :=
      knows.put key fun _ => trivial
    exact ⟨knows.permits_of_knows after, after⟩
  adopts r at_p := by
    refine writes_of_knows (at_p.trans key) (fun _ found => found) fun w may at_key knows => ?_
    refine ⟨knows.busy, knows.shows.listed, fun tidy found => ?_⟩
    by_contra unlisted
    exact covered tidy w may ⟨found, mt (World.lists_of_record at_key).mp unlisted⟩
  files r := files_of_knows takes (fun _ knows => knows) fun _ knows =>
    knows.weaken (fun _ => trivial) fun _ => trivial
  keeps _ _ knows := knows.weaken (fun _ => trivial) fun _ => trivial
  publishes r s at_p synced := by
    refine writes_of_knows (((Change.on_key _ r).trans at_p).trans key) (fun _ found => ?_)
      fun _ _ _ knows => knows
    exact (DeviceState.sync_recorded synced).1 ▸ found
  readies r s at_p synced := by
    have same : r.spec.prepared.contains R.claim = s.isPrepared R.claim := by
      rw [← s.contains_recorded, (DeviceState.sync_recorded synced).1]
    refine writes_of_knows ((((Change.on_key _ _).trans (Change.on_key _ r)).trans at_p).trans key) id
      fun _ _ _ knows => ?_
    exact knows.weaken same.symm.trans same.symm.trans
  refuses _ _ _ _ _ := trivial
  store _ := trivial
  specFile _ := trivial

/-- What the calls of a plugin come to. -/
def Yields (R : Remnant) : (op : Operation) → op.Result → World → Prop
  | .start .., .ok s, w => R.Agrees s w
  | .start .., .error _, _ => True
  | .prepare .., (_, s), w => R.Agrees s w
  | .unprepare _ claim, (result, s), w =>
    R.Agrees s w ∧ (result.failure = none → ¬ s.isPrepared claim.uid)
  | .filter .., _, _ | .allocate .., _, _ | .deallocate .., _, _ | .shutdown _, _, _
  | .setStatus .., _, _ => True

/-- A setting in which only the plugin's own calls take it, outsiders leave what is prepared, and no
start finds a stray specification of the claim if that is asked. -/
structure Fits (R : Remnant) (S : Setting) : Prop where
  own : ∀ op key, S.mayCall op → op.takes = some key → key = R.key
  covered : R.tidy → ∀ p count w, S.mayStep (.start p count) w → ¬ w.Stray R.key R.claim
  outside : ∀ w w', S.outside w w' →
    w'.plugins = w.plugins ∧ w'.specs = w.specs ∧ w'.published R.key = w.published R.key

/-- A call takes the plugin in hand; nothing has become of the claim yet. -/
theorem Shows.knows_enter (shows : R.Shows listed filed w) (takes : op.takes = some R.key) :
    R.Knows call listed filed (op.enter call w) := by
  refine ⟨op.enter_inHand call w R.key takes, shows.congr ?_ ?_⟩
  · rw [World.published, World.published, op.enter_record]
  · cases op <;> rfl

/-- The program of every call of the plugin stops with a plugin that knows of all that is left of the
claim. -/
theorem meets_program (fits : R.Fits S) (takes : op.takes = some R.key) (sound : R.Sound w)
    {prog : Prog op.Result} (begun : op.program w = some prog) :
    R.discipline.Meets S call op (R.Yields op) prog (op.enter call w) := by
  refine Operation.begun_of_takes (motive := fun op prog => op.takes = some R.key →
    R.discipline.Meets S call op (R.Yields op) prog (op.enter call w)) takes begun
    (fun p count key takes => ?_) (fun p claim s key up takes => ?_) (fun p claim s key up takes => ?_)
    takes
  · have anything : R.Shows True True w := ⟨fun _ => trivial, fun _ _ => trivial⟩
    refine ((discipline_restarts key takes (fun tidy => fits.covered tidy p count) count).meets_start
      (anything.knows_enter takes)).weaken fun result w₁ reached => ?_
    cases result with
    | ok s => exact Knows.shows reached
    | error e => trivial
  · exact ((discipline_prepares key takes claim s).meets_prepare (Shows.knows_enter (sound s up) takes)).weaken
      fun _ _ settled => Knows.shows settled
  · exact ((discipline_givesUp key takes claim s).meets_unprepare (Shows.knows_enter (sound s up) takes)).weaken
      fun _ _ reached => ⟨Knows.shows reached.1, reached.2⟩

theorem Yields.agrees_of_up {result : op.Result} (yields : R.Yields op result w) (takes : op.takes ≠ none)
    {s : DeviceState} (up : op.phaseAfter result = .up s) : R.Agrees s w := by
  cases op with
  | start p count => cases result <;> cases up; exact yields
  | prepare p claim => cases up; exact yields
  | unprepare p claim => cases up; exact yields.1
  | _ => exact absurd rfl takes

/-- A call may give the plugin back once the plugin knows of all that is left of the claim. -/
theorem Yields.permits_leave {result : op.Result} (yields : R.Yields op result w)
    (takes : op.takes = some R.key) (inHand : op.InHand call w) :
    R.discipline.Permits call op w (op.leave result w) := by
  rw [op.leave_of_takes takes]
  refine Remnant.permits_of_agrees (inHand R.key takes) (Function.update_self ..) fun s up => ?_
  exact Shows.congr (yields.agrees_of_up (by rw [takes]; nofun) up) rfl rfl

/-- The discipline governs all calls of the plugin, with specifications that fail and
starts in between. -/
theorem discipline_governs (fits : R.Fits S) : R.discipline.Governs S (fun op => op.takes = some R.key)
    fun call op w w' => S.mayCall op ∧ (ground S).Allows call op w w' where
  begins call op w prog may takes _ sound begun := by
    have idle : ∀ other preparing, w.plugins R.key ≠ .busy other preparing :=
      op.not_busy_of_begun takes begun
    obtain ⟨preparing, busy⟩ := op.enter_inHand call w R.key takes
    refine ⟨⟨fun other _ preparing at_other => absurd at_other (idle other preparing), fun s up => ?_,
      trivial⟩, (meets_program fits takes sound begun).weaken fun _ _ yields => yields.permits_leave takes⟩
    cases busy.symm.trans up
  vanishes call op w _ takes _ _ inHand := by
    rw [op.vanish_of_takes takes]
    exact Remnant.permits_of_agrees (inHand R.key takes) (Function.update_self ..) fun _ up => by cases up
  others call op w w' unsorted _ sound known := by
    obtain ⟨may, allows⟩ := known
    have takes : op.takes = none := by
      refine Option.eq_none_iff_forall_ne_some.mpr fun key at_key => unsorted ?_
      rw [at_key, fits.own op key may at_key]
    obtain ⟨specs, plugins⟩ := allows.promise.own takes
    have published : w'.published R.key = w.published R.key := by
      refine Footprint.published_of_not_owns allows.promise ?_
      cases op <;> simp_all [Operation.Owns, Operation.takes]
    refine ⟨allows.leaves, fun other _ preparing _ => ?_, allows.wellKeyed, fun s up => ?_, trivial⟩
    · exact ⟨congrFun plugins _, published, congrFun specs _, False.elim⟩
    · exact (sound s (plugins ▸ up)).congr published (congrFun specs _)
  outside w w' others _ sound := by
    obtain ⟨plugins, specs, published⟩ := fits.outside w w' others
    refine ⟨fun s up => ?_, fun call preparing _ => ?_⟩
    · exact (sound s (plugins ▸ up)).congr published (congrFun specs _)
    · exact ⟨congrFun plugins _, published, congrFun specs _, False.elim⟩

end DeviceClaims.Remnant
