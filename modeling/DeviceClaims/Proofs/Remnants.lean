import DeviceClaims.Proofs.Custody

namespace DeviceClaims

namespace World

/-- The record of a node lists a claim as prepared. -/
def Lists (w : World) (key : ObjectKey) (claim : ClaimUid) : Prop :=
  ∃ known, w.published key = some known ∧ known.contains claim

/-- The directory of a node has a specification of a claim. -/
def HasSpec (w : World) (key : ObjectKey) (claim : ClaimUid) : Prop :=
  (w.specs key).claims.contains claim

/-- There is a specification of a claim that the record does not list. -/
def Stray (w : World) (key : ObjectKey) (claim : ClaimUid) : Prop :=
  w.HasSpec key claim ∧ ¬ w.Lists key claim

variable {w w' : World} {key : ObjectKey} {claim : ClaimUid}

theorem lists_of_record {r : NodeRecord} (at_key : w.record key = some r) :
    w.Lists key claim ↔ r.spec.prepared.contains claim := by
  rw [Lists, published_of_record at_key]
  constructor
  · rintro ⟨_, ⟨⟩, listed⟩
    exact listed
  · exact fun listed => ⟨_, rfl, listed⟩

theorem lists_congr (same : w'.published key = w.published key) :
    w'.Lists key claim ↔ w.Lists key claim := by
  rw [Lists, Lists, same]

theorem hasSpec_congr (same : w'.specs key = w.specs key) :
    w'.HasSpec key claim ↔ w.HasSpec key claim := by
  rw [HasSpec, HasSpec, same]

end World

namespace DeviceState

theorem isPrepared_insert (s : DeviceState) (claim other : ClaimUid) (ds : List DeviceInfo) :
    ({ s with prepared := s.prepared.insert claim ds } : DeviceState).isPrepared other ↔
      claim = other ∨ s.isPrepared other := by
  rw [isPrepared, isPrepared, SortedMap.contains, SortedMap.contains, SortedMap.get?_insert]
  by_cases same : claim = other <;> simp [same]

theorem isPrepared_erase (s : DeviceState) (claim other : ClaimUid) :
    ({ s with prepared := s.prepared.erase claim } : DeviceState).isPrepared other ↔
      claim ≠ other ∧ s.isPrepared other := by
  rw [isPrepared, isPrepared, SortedMap.contains, SortedMap.contains, SortedMap.get?_erase]
  by_cases same : claim = other <;> simp [same]

end DeviceState

/-- The plugin and the claim that are looked at, and whether no start finds the claim's specification
stray. Between calls the plugin has every claim prepared that the record lists; and if no start finds a
specification that the record does not account for, so has it every claim with a specification. -/
structure Remnant where
  key : ObjectKey
  claim : ClaimUid
  tidy : Prop

namespace Remnant

/-- The record lists the claim and the directory has its specification at most under these
conditions. -/
structure Shows (R : Remnant) (listed filed : Prop) (w : World) : Prop where
  listed : w.Lists R.key R.claim → listed
  filed : R.tidy → w.HasSpec R.key R.claim → filed

/-- Nothing is left of the claim unless it is one that a plugin knows to be prepared. -/
def Agrees (R : Remnant) (s : DeviceState) (w : World) : Prop :=
  R.Shows (s.isPrepared R.claim) (s.isPrepared R.claim) w

/-- Between calls the plugin knows of all that is left. -/
def Sound (R : Remnant) (w : World) : Prop := ∀ s, w.plugins R.key = .up s → R.Agrees s w

/-- A call relies on the record and on the directory while it has the plugin in hand. -/
def discipline (R : Remnant) : Discipline where
  inv := R.Sound
  rely := (Custody.mk R.key False False).Rely
  rely_refl := (Custody.mk R.key False False).discipline.rely_refl
  rely_trans := (Custody.mk R.key False False).discipline.rely_trans

/-- What a call that has the plugin in hand knows of what is left of the claim. -/
structure Knows (R : Remnant) (call : Nat) (listed filed : Prop) (w : World) : Prop where
  busy : ∃ preparing, w.plugins R.key = .busy call preparing
  shows : R.Shows listed filed w

variable {R : Remnant} {S : Setting} {call : Nat} {op : Operation} {w w' : World}
  {listed filed listed' filed' : Prop}

theorem Shows.weaken (shows : R.Shows listed filed w) (lists : listed → listed')
    (files : filed → filed') : R.Shows listed' filed' w :=
  ⟨fun at_key => lists (shows.listed at_key), fun tidy found => files (shows.filed tidy found)⟩

/-- What is left of the claim is seen in what the record says is prepared and in the specifications
only. -/
theorem Shows.congr (shows : R.Shows listed filed w) (published : w'.published R.key = w.published R.key)
    (specs : w'.specs R.key = w.specs R.key) : R.Shows listed filed w' :=
  ⟨fun at_key => shows.listed ((World.lists_congr published).mp at_key),
    fun tidy found => shows.filed tidy ((World.hasSpec_congr specs).mp found)⟩

theorem Knows.weaken (knows : R.Knows call listed filed w) (lists : listed → listed')
    (files : filed → filed') : R.Knows call listed' filed' w :=
  ⟨knows.busy, knows.shows.weaken lists files⟩

theorem Knows.of_later (knows : R.Knows call listed filed w) (later : R.discipline.Later call w w') :
    R.Knows call listed filed w' := by
  obtain ⟨preparing, busy⟩ := knows.busy
  have left := later.rely preparing busy
  exact ⟨⟨preparing, left.plugins.trans busy⟩, knows.shows.congr left.published left.specs⟩

theorem knows_stable (listed filed : Prop) :
    R.discipline.Stable call (R.Knows call listed filed) :=
  fun _ _ later knows => knows.of_later later

/-- While a call has the plugin in hand, its own moves are nobody else's concern. -/
theorem permits_of_agrees {phase : PluginPhase} (busy : ∃ preparing, w.plugins R.key = .busy call preparing)
    (now : w'.plugins R.key = phase)
    (up : ∀ s, phase = .up s → R.Agrees s w') :
    R.discipline.Permits call op w w' := by
  obtain ⟨preparing, busy⟩ := busy
  refine ⟨fun other unlike _ at_other => ?_, fun s at_up => up s (now.symm.trans at_up), trivial⟩
  cases busy.symm.trans at_other
  exact absurd rfl unlike

/-- A call that has the plugin in hand may change what is left of the claim as long
as it knows of it. -/
theorem Knows.permits_of_knows (before : R.Knows call listed filed w) (after : R.Knows call listed' filed' w') :
    R.discipline.Permits call op w w' := by
  obtain ⟨preparing, busy⟩ := after.busy
  exact Remnant.permits_of_agrees before.busy busy nofun

/-- To write the record makes known whether it lists the claim. -/
theorem Knows.put {r : NodeRecord} (knows : R.Knows call listed filed w) (key : r.key = R.key)
    (lists : r.spec.prepared.contains R.claim → listed') : R.Knows call listed' filed (w.put r) := by
  have at_key : (w.put r).record R.key = some r := key ▸ World.record_put_self w r
  exact ⟨knows.busy, fun found => lists ((World.lists_of_record at_key).mp found), knows.shows.filed⟩

open Discipline

def knowing (R : Remnant) (call : Nat) (listed filed : Prop) : R.discipline.Lasting call :=
  ⟨R.Knows call listed filed, knows_stable listed filed⟩

/-- The call that has the plugin in hand may change the record; what is listed then is what the change
makes of what was listed. -/
theorem writes_of_knows {change : Change} {r : NodeRecord} {after : World → Prop} (key : r.key = R.key)
    (lists : (r.spec.prepared.contains R.claim → listed) →
      (change.on r).spec.prepared.contains R.claim → listed')
    (gives : ∀ w₁, S.mayStep op w₁ → w₁.record R.key = some r →
      R.Knows call listed' filed (w₁.put (change.on r)) → after (w₁.put (change.on r))) :
    R.discipline.Writes S call op change r (R.Knows call listed filed) after := by
  intro w₁ _ may at_key knows
  rw [key] at at_key
  have reached : R.Knows call listed' filed (w₁.put (change.on r)) :=
    knows.put ((change.on_key r).trans key)
      (lists fun found => knows.shows.listed ((World.lists_of_record at_key).mpr found))
  exact ⟨knows.permits_of_knows reached, gives w₁ may at_key reached⟩

/-- Whether there is a specification after a request. -/
def After (R : Remnant) (filed : Prop) : SpecAccess → Prop
  | .writeCommon _ => filed
  | .writeClaim claim _ => claim = R.claim ∨ filed
  | .deleteClaim claim => claim ≠ R.claim ∧ filed

/-- A claim has a specification after a request only if the request leaves or writes one. -/
theorem after_of_filesAfter {files : SortedMap ClaimUid DeviceSpec} {a : SpecAccess}
    (found : (Custody.filesAfter files a).contains R.claim) : R.After (files.contains R.claim) a := by
  cases a with
  | writeCommon common => exact found
  | writeClaim claim written =>
    rw [Custody.filesAfter, SortedMap.contains, SortedMap.get?_insert] at found
    split at found
    · next same => exact .inl same
    · exact .inr found
  | deleteClaim claim =>
    rw [Custody.filesAfter, SortedMap.contains, SortedMap.get?_erase] at found
    split at found
    · cases found
    · next apart => exact ⟨apart, found⟩

theorem After.imp {a : SpecAccess} (after : R.After filed a) (implies : filed → filed') :
    R.After filed' a := by
  cases a with
  | writeCommon common => exact implies after
  | writeClaim claim written => exact after.imp_right implies
  | deleteClaim claim => exact ⟨after.1, implies after.2⟩

/-- To change the specifications makes known whether the claim may have one. -/
theorem Knows.setSpecs (knows : R.Knows call listed filed w) (dir : SpecDir)
    (files : R.tidy → dir.claims.contains R.claim → filed') :
    R.Knows call listed filed' (w.setSpecs R.key dir) := by
  refine ⟨knows.busy, knows.shows.listed, fun tidy found => files tidy ?_⟩
  have at_key : (w.setSpecs R.key dir).specs R.key = dir := Function.update_self ..
  rw [World.HasSpec, at_key] at found
  exact found

/-- A request to the directory of specifications, which may fail. -/
theorem files_of_knows {a : SpecAccess} {after failed : R.discipline.Lasting call}
    (takes : op.takes = some R.key)
    (answered : ∀ w', R.Knows call listed (R.After filed a) w' → after w')
    (fails : ∀ w', R.Knows call listed filed w' → failed w') :
    R.discipline.Files S call op a (R.Knows call listed filed) after failed := by
  refine fun w knows => Meets.ask_spec (fun w₁ later key own => ?_) fun w₁ later _ detail w₂ later' =>
    failed.stable _ _ later' (fails w₁ (knows.of_later later))
  cases takes.symm.trans own
  have knows := knows.of_later later
  obtain ⟨detail, asked, _⟩ | ⟨dir, asked, _, claims⟩ := Custody.apply_cases (w₁.specs R.key) a
  · have reached : R.Knows call listed filed (w₁.setSpecs R.key (w₁.specs R.key)) :=
      knows.setSpecs _ knows.shows.filed
    rw [asked]
    exact ⟨knows.permits_of_knows reached, fun w₂ later => failed.stable _ _ later (fails _ reached)⟩
  · have reached : R.Knows call listed (R.After filed a) (w₁.setSpecs R.key dir) := by
      refine knows.setSpecs dir fun tidy found => ?_
      rw [claims] at found
      exact (after_of_filesAfter found).imp (knows.shows.filed tidy)
    rw [asked]
    exact ⟨knows.permits_of_knows reached, fun w₂ later => after.stable _ _ later (answered _ reached)⟩

end Remnant

end DeviceClaims
