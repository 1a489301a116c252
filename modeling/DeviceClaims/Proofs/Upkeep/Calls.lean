import DeviceClaims.Proofs.Upkeep

namespace DeviceClaims.Upkeep

open Discipline

variable {U : Upkeep} {S : Setting} {call : Nat} {op : Operation} {w : World} {p : Plugin}
  {s : DeviceState}

/-- What a plugin knows after it has prepared a claim, or failed to, satisfies the condition. -/
theorem prepares_of_closed (closed : U.Closed) (key : p.key = U.key) (claim : NodeClaim)
    (s : DeviceState) :
    U.discipline.Prepares S call op p claim s (fun s => U.fact call (U.knows s))
      (fun _ => U.fact call (U.knows s))
      fun _ ds => U.fact call
        (U.knows s ∧ U.knows { s with prepared := s.prepared.insert claim.uid ds }) where
  assigns _ _ _ at_p := writes_of_shows (at_p.trans key) (fun _ => id) fun knows _ => knows
  finds _ _ _ _ _ _ knows := knows
  keeps _ _ knows := knows
  shows devices ds unprepared expanded :=
    files_of_imp (fun knows => ⟨knows, closed.prepare s claim.uid devices ds knows unprepared expanded⟩) id
  publishes _ _ _ _ _ at_p :=
    writes_of_shows (at_p.trans key) (fun knows _ => closed.publish _ knows.2) fun knows _ => knows.2
  takesBack _ _ _ := files_of_imp And.left And.right

/-- What a plugin knows after it has given up a claim, or failed to, satisfies the condition. -/
theorem givesUp_of_closed (closed : U.Closed) (key : p.key = U.key) {claim : NodeClaim}
    (released : U.released claim.uid) (s : DeviceState) :
    U.discipline.GivesUp S call op p claim s (fun s => U.fact call (U.knows s))
      (U.fact call
        (U.knows s ∧ U.knows { s with prepared := s.prepared.erase claim.uid })) where
  releases _ _ at_p := writes_of_shows (at_p.trans key) (fun _ => id) fun knows _ => knows
  publishes _ at_p :=
    writes_of_shows (at_p.trans key) (fun knows _ => closed.publish s knows) fun knows _ => knows
  drops _ at_p := by
    have without := fun knows => closed.release s claim.uid knows released
    refine writes_of_shows (at_p.trans key) (fun knows _ => ?_) fun knows _ => ⟨knows, without knows⟩
    exact s.recorded_erase claim.uid ▸ closed.publish _ (without knows)
  deletes := files_of_imp And.right And.left

/-- A start makes of a record that satisfies the condition what satisfies the one on the plugin. -/
theorem restarts_of_closed (closed : U.Closed) (key : p.key = U.key) {count : Nat}
    (started : U.started count) :
    U.discipline.Restarts S call op p count (U.fact call True)
      (fun r => U.fact call (U.shows (some r.spec.prepared)))
      (fun s => U.fact call (U.knows s)) (U.fails count) where
  creates v later _ absent _ := by
    have kept : U.Kept v := later.inv
    have shows : U.shows none := by
      have shows := kept.shows
      rwa [World.published, ← key, absent] at shows
    have after : U.Kept (v.put ((NodeRecord.new p.key.name p.key.space).withVersion 1)) :=
      kept.put key (closed.create shows)
    exact ⟨after.permits_of_kept, trivial⟩
  adopts _ at_p := writes_of_shows (at_p.trans key) (fun _ => id) fun _ => id
  files _ := files_of_imp id fun _ => trivial
  keeps _ _ _ := trivial
  publishes r s at_p synced := by
    have restores := key ▸ (closed.restores count started).restore r.spec s
    exact writes_of_shows (((Change.on_key _ r).trans at_p).trans key)
      (fun shows _ => closed.publish s (restores shows synced)) fun shows _ => shows
  readies r s at_p synced := by
    have restores := key ▸ (closed.restores count started).restore r.spec s
    exact writes_of_shows ((((Change.on_key _ _).trans (Change.on_key _ r)).trans at_p).trans key)
      (fun _ => id) fun shows _ => restores shows synced
  refuses r e _ shows synced :=
    (closed.restores count started).refuse r.spec e shows (key ▸ synced)
  store := (closed.restores count started).store
  specFile := (closed.restores count started).specFile

/-- What a start comes to. -/
def Started (U : Upkeep) (count : Nat) : Except PluginError DeviceState → Prop
  | .ok s => U.knows s
  | .error e => U.fails count e

/-- A start comes up only with what it should know, and if it fails it says why it may. -/
theorem started_start (closed : U.Closed) {count : Nat} (started : U.started count) (key : p.key = U.key)
    (w : World) :
    U.discipline.Meets S call op (fun result _ => U.Started count result) (p.start count) w := by
  refine ((restarts_of_closed closed key started).meets_start trivial).weaken fun result w' reached => ?_
  cases result with
  | ok s => exact reached
  | error e => exact reached.2

/-- What a call that has the plugin in hand comes to. -/
def Yields (U : Upkeep) : (op : Operation) → op.Result → Prop
  | .start _ count, result => U.Started count result
  | .prepare .., result | .unprepare .., result => U.knows result.2
  | .filter .., _ | .allocate .., _ | .deallocate .., _ | .shutdown _, _ | .setStatus .., _ => True

/-- A setting in which claims are given up and starts are made as the conditions say, and outsiders
leave what is prepared. -/
structure Fits (U : Upkeep) (S : Setting) : Prop where
  released : ∀ p claim, S.mayCall (.unprepare p claim) → U.released claim.uid
  started : ∀ p count, S.mayCall (.start p count) → U.started count
  outside : ∀ w w', S.outside w w' →
    w'.plugins = w.plugins ∧ w'.published U.key = w.published U.key

/-- The program of every call of the plugin keeps the conditions up. -/
theorem meets_program (closed : U.Closed) (fits : U.Fits S) (may : S.mayCall op)
    (takes : op.takes = some U.key) (kept : U.Kept w) {prog : Prog op.Result}
    (begun : op.program w = some prog) (w' : World) :
    U.discipline.Meets S call op (fun result _ => U.Yields op result) prog w' := by
  refine Operation.begun_of_takes (motive := fun op prog => S.mayCall op →
    U.discipline.Meets S call op (fun result _ => U.Yields op result) prog w') takes begun
    (fun p count key may => ?_) (fun p claim s key up _ => ?_) (fun p claim s key up may => ?_) may
  · exact started_start closed (fits.started p count may) key w'
  · exact (prepares_of_closed closed key claim s).meets_prepare (kept.up s up)
  · exact ((givesUp_of_closed closed key (fits.released p claim may) s).meets_unprepare
      (kept.up s up)).weaken fun _ _ reached => reached.1

theorem Yields.knows_of_up {result : op.Result} (yields : U.Yields op result) (takes : op.takes ≠ none)
    {s : DeviceState} (up : op.phaseAfter result = .up s) : U.knows s := by
  cases op with
  | start p count => cases result <;> cases up; exact yields
  | prepare p claim => cases up; exact yields
  | unprepare p claim => cases up; exact yields
  | _ => exact absurd rfl takes

theorem Kept.enter (kept : U.Kept w) (takes : op.takes = some U.key) : U.Kept (op.enter call w) := by
  obtain ⟨preparing, same⟩ := op.enter_of_takes takes call w
  exact same ▸ kept.setPlugin nofun

theorem Kept.leave (kept : U.Kept w) (takes : op.takes = some U.key) {result : op.Result}
    (yields : U.Yields op result) : U.Kept (op.leave result w) := by
  rw [op.leave_of_takes takes]
  exact kept.setPlugin fun s up => yields.knows_of_up (by rw [takes]; nofun) up

theorem Kept.vanish (kept : U.Kept w) (takes : op.takes = some U.key) : U.Kept (op.vanish call w) := by
  have unlocked : U.Kept (w.unlockAll call) := kept.congr rfl rfl
  rw [op.vanish_of_takes takes]
  exact unlocked.setPlugin nofun

/-- The other calls leave the plugin and what is prepared. -/
theorem Kept.of_footprint {S : Setting} {w' : World} (kept : U.Kept w) (takes : op.takes = none)
    (footprint : Footprint S op w w') : U.Kept w' := by
  refine kept.congr (footprint.own takes).2 (footprint.published_of_not_owns ?_)
  cases op <;> simp_all [Operation.Owns, Operation.takes]

/-- The discipline governs all calls of the plugin, also where calls come to nothing. -/
theorem discipline_governs (S' : Setting) (closed : U.Closed) (fits : U.Fits S) :
    U.discipline.Governs S (fun op => op.takes = some U.key)
      fun call op w w' => (∀ key, op.takes = some key → key = U.key) ∧
        (ground S').Allows call op w w' where
  begins call op w prog may takes _ kept begun := by
    refine ⟨(Kept.enter kept takes).permits_of_kept, ?_⟩
    exact (meets_program closed fits may takes kept begun _).and_inv.weaken fun result w' reached _ =>
      (Kept.leave reached.2 takes reached.1).permits_of_kept
  vanishes call op w _ takes _ kept _ := (Kept.vanish kept takes).permits_of_kept
  others call op w w' unsorted _ kept known := by
    obtain ⟨own, allows⟩ := known
    have takes : op.takes = none := by
      refine Option.eq_none_iff_forall_ne_some.mpr fun key at_key => unsorted ?_
      rw [at_key, own key at_key]
    exact ⟨allows.leaves, fun _ _ => trivial, allows.wellKeyed, kept.of_footprint takes allows.promise,
      trivial⟩
  outside w w' others _ kept := by
    obtain ⟨plugins, published⟩ := fits.outside w w' others
    exact ⟨Kept.congr kept plugins published, fun _ => trivial⟩

end DeviceClaims.Upkeep
