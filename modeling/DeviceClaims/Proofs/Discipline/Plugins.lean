import DeviceClaims.Proofs.Change
import DeviceClaims.Proofs.Prepared

namespace DeviceClaims

namespace Discipline

/-- A condition on a world that outlasts whatever others do. -/
structure Lasting (D : Discipline) (call : Nat) where
  holds : World → Prop
  stable : D.Stable call holds

instance (D : Discipline) (call : Nat) : CoeFun (D.Lasting call) fun _ => World → Prop := ⟨Lasting.holds⟩

/-- A condition that is not on the world. -/
def Lasting.fact (D : Discipline) (call : Nat) (holds : Prop) : D.Lasting call :=
  ⟨fun _ => holds, fun _ _ _ => id⟩

variable {D : Discipline} {S : Setting} {call : Nat} {op : Operation} {w : World} {p : Plugin}

/-- A call may make a change of a record under one condition, and another one holds after it. -/
def Writes (D : Discipline) (S : Setting) (call : Nat) (op : Operation) (change : Change)
    (r : NodeRecord) (before after : World → Prop) : Prop :=
  ∀ w, D.Later call w w → S.mayStep op w → w.record r.key = some r → before w →
    D.Permits call op w (w.put (change.on r)) ∧ after (w.put (change.on r))

/-- A call may make a request about specifications under one condition, and another one holds after it;
a third one if the request fails. -/
def Files (D : Discipline) (S : Setting) (call : Nat) (op : Operation) (a : SpecAccess)
    (before done failed : World → Prop) : Prop :=
  ∀ w, before w → D.Meets S call op (outcome (fun _ => done) failed) (.spec a) w

/-- The write is made from a record that was read, and leaves what was known if it is refused. -/
theorem Writes.meets_ask_update {change : Change} {r r' : NodeRecord} {before after : D.Lasting call}
    (writes : D.Writes S call op change r before after) (made : r' = change.apply r) (saw : w.Saw r)
    (ready : before w) {α : Type} {post : α → World → Prop}
    {next : Except StoreError NodeRecord → Prog α}
    (written : ∀ w', w'.Saw (change.on r) → after w' →
      D.Meets S call op post (next (.ok (change.on r))) w')
    (refused : ∀ w' e, before w' → D.Meets S call op post (next (.error e)) w') :
    D.Meets S call op post (.ask (.store (.update r')) next) w := by
  refine Meets.ask_rewrite change made saw (fun w₁ later may at_key => ?_) fun w₁ later e =>
    refused w₁ e (before.stable w w₁ later ready)
  obtain ⟨permits, reached⟩ := writes w₁ later.refl_right may at_key (before.stable w w₁ later ready)
  exact ⟨permits, written _ (.saw_put_self w₁ _) reached⟩

theorem Writes.meets_update {change : Change} {r : NodeRecord} {spec : NodeSpec}
    {before after : D.Lasting call} (writes : D.Writes S call op change r before after)
    (made : { r with spec } = change.apply r) (saw : w.Saw r) (ready : before w) :
    D.Meets S call op (outcome (fun _ => after.holds) before)
      ((Plugin.update r spec).thenOk fun _ => .done (.ok ())) w :=
  writes.meets_ask_update made saw ready (fun w' _ reached w'' later => after.stable w' w'' later reached)
    fun w' _ ready w'' later => before.stable w' w'' later ready

/-- A plugin reads its record and writes it, again and again while it meets conflicts. -/
theorem meets_modify {attempt : NodeRecord → Prog (Except PluginError Unit)}
    {before after : D.Lasting call}
    (attempts : ∀ w' r, r.key = p.key → w'.Saw r → before w' →
      D.Meets S call op (outcome (fun _ => after.holds) before) (attempt r) w')
    (ready : before w) :
    D.Meets S call op (outcome (fun _ => after.holds) before)
      (Prog.retry p.retry (p.get.thenOk attempt)) w := by
  refine Meets.retry (fun _ => after.stable) before.stable (fun w₁ ready => ?_) ready
  exact Meets.get_thenOk (fun w₂ later r _ at_p saw => attempts w₂ r at_p saw (before.stable _ _ later ready))
    fun w₂ later e w₃ after' => before.stable _ _ (later.trans after') ready

/-- The plugin writes what is prepared into its record, or leaves what was known. -/
theorem meets_persist {before after : D.Lasting call} (s : DeviceState) (released : Option ClaimUid)
    (publishes : ∀ r, r.key = p.key → D.Writes S call op
      (.publish s.devices.values (released.elim s.recorded s.recorded.erase)) r before after)
    (ready : before w) :
    D.Meets S call op (outcome (fun _ => after.holds) before) (p.persist s released) w := by
  refine meets_modify (fun w₁ r at_p saw ready => ?_) ready
  cases released with
  | none => exact (publishes r at_p).meets_update rfl saw ready
  | some claim => exact (publishes r at_p).meets_update rfl saw ready

/-- To enter a claim's devices into the node's record is one read and one write. -/
theorem meets_assign {before after : D.Lasting call} {claim : ClaimUid} {devices : List AllocatedDevice}
    (allocates : ∀ r, r.key = p.key → D.Writes S call op (.allocate claim devices) r before after)
    (ready : before w) :
    D.Meets S call op (outcome (fun _ => after.holds) before) (p.assign claim devices) w :=
  meets_modify (fun _ r at_p saw ready => (allocates r at_p).meets_update rfl saw ready) ready

/-- To take a claim's devices out of the node's record is one read and at most one write. -/
theorem meets_release {before : D.Lasting call} {claim : ClaimUid}
    (releases : ∀ r, r.key = p.key → D.Writes S call op (.release claim) r before before)
    (ready : before w) :
    D.Meets S call op (outcome (fun _ => before.holds) before) (p.release claim) w := by
  refine meets_modify (fun w₁ r at_p saw ready => ?_) ready
  split
  · exact (releases r at_p).meets_update rfl saw ready
  · exact fun w₂ later => before.stable _ _ later ready

/-- Devices are prepared and shown by their specification, or nothing has become of them. -/
theorem meets_prepareDevices {before after : D.Lasting call} {s : DeviceState} {claim : ClaimUid}
    {devices : List AllocatedDevice} {shown : List DeviceInfo → D.Lasting call}
    (unprepared : s.prepared.get? claim = none) (keeps : ∀ w', before w' → after w')
    (shows : ∀ ds, s.expandAll devices = .ok ds →
      D.Files S call op (.writeClaim claim (.ofClaim (ds.map (·.uuid)))) before (shown ds) after)
    (ready : before w) :
    D.Meets S call op (fun result w' => match result with
      | (.error _, s') => s' = s ∧ after w'
      | (.ok _, s') => ∃ ds, s.expandAll devices = .ok ds ∧
        s' = { s with prepared := s.prepared.insert claim ds } ∧ shown ds w')
      (s.prepare claim devices) w := by
  unfold DeviceState.prepare
  rw [DeviceState.claimNames?, unprepared]
  cases expanded : s.expandAll devices with
  | error e => exact fun w' later => ⟨rfl, after.stable _ _ later (keeps w ready)⟩
  | ok ds =>
    refine Meets.bind ((shows ds expanded w ready).weaken fun answer w₁ reached => ?_)
    cases answer with
    | error detail => exact fun w₂ later => ⟨rfl, after.stable _ _ later reached⟩
    | ok => exact fun w₂ later => ⟨ds, rfl, rfl, (shown ds).stable _ _ later reached⟩

/-- What is prepared for a claim is given up with its specification, or it stays. -/
theorem meets_unprepareDevices {before done failed : D.Lasting call} {s : DeviceState}
    {claim : ClaimUid} (prepared : s.isPrepared claim)
    (deletes : D.Files S call op (.deleteClaim claim) before done failed) (ready : before w) :
    D.Meets S call op (fun result w' => match result with
      | (.error _, s') => s' = s ∧ failed w'
      | (.ok _, s') => s' = { s with prepared := s.prepared.erase claim } ∧ done w')
      (s.unprepare claim) w := by
  unfold DeviceState.unprepare
  rw [if_pos prepared]
  refine Meets.bind ((deletes w ready).weaken fun answer w₁ reached => ?_)
  cases answer with
  | error detail => exact fun w₂ later => ⟨rfl, failed.stable _ _ later reached⟩
  | ok => exact fun w₂ later => ⟨rfl, done.stable _ _ later reached⟩

/-- What is to be shown of a call that prepares a claim: what is known when the plugin knows of all that
is prepared, when the claim's devices are known, and when they are shown but not yet recorded; and what
each access makes of it. -/
structure Prepares (D : Discipline) (S : Setting) (call : Nat) (op : Operation) (p : Plugin)
    (claim : NodeClaim) (s : DeviceState) (settled : DeviceState → D.Lasting call)
    (granted : List AllocatedDevice → D.Lasting call)
    (shown : List AllocatedDevice → List DeviceInfo → D.Lasting call) : Prop where
  assigns : ∀ devices r, claim.handles ≠ [] → r.key = p.key →
    D.Writes S call op (.allocate claim.uid devices) r (settled s) (granted devices)
  finds : ∀ devices w r, claim.handles = [] → w.record p.key = some r →
    r.spec.allocated.get? claim.uid = some devices → settled s w → granted devices w
  keeps : ∀ devices w, granted devices w → settled s w
  shows : ∀ devices ds, s.prepared.get? claim.uid = none → s.expandAll devices = .ok ds →
    D.Files S call op (.writeClaim claim.uid (.ofClaim (ds.map (·.uuid)))) (granted devices)
      (shown devices ds) (settled s)
  publishes : ∀ devices ds r, s.prepared.get? claim.uid = none → s.expandAll devices = .ok ds →
    r.key = p.key →
    D.Writes S call op
      (.publish s.devices.values
        ({ s with prepared := s.prepared.insert claim.uid ds } : DeviceState).recorded) r
      (shown devices ds) (settled { s with prepared := s.prepared.insert claim.uid ds })
  takesBack : ∀ devices ds, s.prepared.get? claim.uid = none →
    D.Files S call op (.deleteClaim claim.uid) (shown devices ds) (settled s)
      (settled { s with prepared := s.prepared.insert claim.uid ds })

namespace Prepares

variable {claim : NodeClaim} {s : DeviceState} {settled : DeviceState → D.Lasting call}
  {granted : List AllocatedDevice → D.Lasting call}
  {shown : List AllocatedDevice → List DeviceInfo → D.Lasting call}

/-- The devices of a claim are those that the record lists, or those of its handle once they are
entered. -/
theorem meets_allocation (prepares : D.Prepares S call op p claim s settled granted shown)
    {record : NodeRecord} (at_key : w.record p.key = some record) (ready : settled s w) :
    D.Meets S call op (outcome (fun devices => (granted devices).holds) (settled s))
      (p.allocation record claim) w := by
  have stays : ∀ (e : PluginError) w', settled s w' → D.Meets S call op
      (outcome (fun devices => (granted devices).holds) (settled s)) (.done (.error e)) w' :=
    fun _ w' ready w'' later => (settled s).stable _ _ later ready
  unfold Plugin.allocation
  split
  · next handles =>
    have handles : claim.handles ≠ [] := by simp [handles]
    split
    · exact stays _ w ready
    · next devices _ =>
      refine Meets.thenOk ((meets_assign (fun r => prepares.assigns devices r handles) ready).weaken
        fun result w₁ reached => ?_)
      cases result with
      | error e => exact fun e => stays e w₁ reached
      | ok => exact fun w₂ later => (granted devices).stable _ _ later reached
  · next handles =>
    split
    · exact stays _ w ready
    · next devices found =>
      have reached := prepares.finds devices w record handles at_key found ready
      exact fun w₁ later => (granted devices).stable _ _ later reached

/-- Whatever comes of a call that prepares a claim, the plugin knows of all that is prepared. -/
theorem meets_prepareClaim (prepares : D.Prepares S call op p claim s settled granted shown)
    (ready : settled s w) :
    D.Meets S call op (fun result => settled result.2) (p.prepareClaim claim s) w := by
  have stays : ∀ {s' : DeviceState} {w₁ : World} {r : Except PluginError (List String)},
      settled s' w₁ → D.Meets S call op (fun result => (settled result.2).holds) (.done (r, s')) w₁ :=
    fun reached w₂ later => (settled _).stable _ _ later reached
  refine Meets.ask_get (fun w₁ later record at_key => ?_) fun w₁ later _ =>
    stays ((settled s).stable _ _ later ready)
  have ready := (settled s).stable _ _ later ready
  simp only [Prog.bind]
  cases unprepared : s.prepared.get? claim.uid with
  | some ds =>
    rw [DeviceState.claimNames?, unprepared]
    exact stays ready
  | none =>
    rw [DeviceState.claimNames?, unprepared]
    refine Meets.bind ((prepares.meets_allocation at_key ready).weaken fun result w₂ reached => ?_)
    cases result with
    | error e => exact stays reached
    | ok devices =>
      refine Meets.bind ((meets_prepareDevices unprepared (prepares.keeps devices)
        (fun ds => prepares.shows devices ds unprepared) reached).weaken fun result w₃ reached => ?_)
      rcases result with ⟨e | names, s'⟩
      · obtain ⟨rfl, reached⟩ := reached
        exact stays reached
      · obtain ⟨ds, expanded, rfl, reached⟩ := reached
        refine Meets.bind ((meets_persist _ none
          (fun r => prepares.publishes devices ds r unprepared expanded) reached).weaken
          fun result w₄ reached => ?_)
        cases result with
        | ok => exact stays reached
        | error e =>
          -- What cannot be recorded is given up again, or else stays prepared.
          have prepared : ({ s with prepared := s.prepared.insert claim.uid ds } :
              DeviceState).isPrepared claim.uid := by
            simp [DeviceState.isPrepared, SortedMap.contains]
          refine Meets.bind ((meets_unprepareDevices prepared
            (prepares.takesBack devices ds unprepared) reached).weaken fun result w₅ reached => ?_)
          rcases result with ⟨e' | _, s'⟩
          · obtain ⟨rfl, reached⟩ := reached
            exact stays reached
          · obtain ⟨rfl, reached⟩ := reached
            have back : ({ s with prepared := (s.prepared.insert claim.uid ds).erase claim.uid } :
                DeviceState) = s :=
              congrArg (DeviceState.mk s.devices) (SortedMap.erase_insert unprepared ds)
            refine stays ?_
            rw [back]
            exact reached

/-- To prepare a claim leaves the plugin settled, whatever comes of it. -/
theorem meets_prepare (prepares : D.Prepares S call op p claim s settled granted shown)
    (ready : settled s w) :
    D.Meets S call op (fun result => settled result.2) (p.prepare claim s) w := by
  refine Meets.bind ((prepares.meets_prepareClaim ready).weaken fun result w₁ reached => ?_)
  rcases result with ⟨e | names, s'⟩ <;>
    exact fun w₂ later => (settled s').stable _ _ later reached

end Prepares

/-- What is to be shown of a call that gives up a claim: what is known when the plugin knows of all that
is prepared, and when the claim is off the record but still shown; and what each access makes of it. -/
structure GivesUp (D : Discipline) (S : Setting) (call : Nat) (op : Operation) (p : Plugin)
    (claim : NodeClaim) (s : DeviceState) (settled : DeviceState → D.Lasting call)
    (dropped : D.Lasting call) : Prop where
  releases : ∀ r, claim.handles ≠ [] → r.key = p.key →
    D.Writes S call op (.release claim.uid) r (settled s) (settled s)
  publishes : ∀ r, r.key = p.key →
    D.Writes S call op (.publish s.devices.values s.recorded) r (settled s) (settled s)
  drops : ∀ r, r.key = p.key →
    D.Writes S call op (.publish s.devices.values (s.recorded.erase claim.uid)) r (settled s) dropped
  deletes : D.Files S call op (.deleteClaim claim.uid) dropped
    (settled { s with prepared := s.prepared.erase claim.uid }) (settled s)

namespace GivesUp

variable {claim : NodeClaim} {s : DeviceState} {settled : DeviceState → D.Lasting call}
  {dropped : D.Lasting call}

/-- Whatever comes of a call that gives up a claim, the plugin knows of all that is prepared; and if the
call succeeds, the claim is not prepared any more. -/
theorem meets_unprepareClaim (gives : D.GivesUp S call op p claim s settled dropped)
    (ready : settled s w) :
    D.Meets S call op
      (fun result w' => settled result.2 w' ∧ (result.1 = .ok () → ¬ result.2.isPrepared claim.uid))
      (p.unprepareClaim claim s) w := by
  have fails : ∀ {w₁ : World} {e : PluginError}, settled s w₁ → D.Meets S call op
      (fun (result : Except PluginError Unit × DeviceState) w' =>
        settled result.2 w' ∧ (result.1 = .ok () → ¬ result.2.isPrepared claim.uid))
      (.done (.error e, s)) w₁ :=
    fun ready w' later => ⟨(settled s).stable _ _ later ready, nofun⟩
  refine Meets.ask_get (fun w₁ later record _ => ?_) fun w₁ later _ =>
    fails ((settled s).stable _ _ later ready)
  have ready := (settled s).stable _ _ later ready
  change D.Meets S call op _ (ite _ _ (ite _ _ _)) w₁
  split
  · next prepared =>
    have released : D.Meets S call op (outcome (fun _ => (settled s).holds) (settled s))
        (if claim.handles.isEmpty then .done (.ok ()) else p.release claim.uid) w₁ := by
      split
      · exact fun w' later => (settled s).stable _ _ later ready
      · next handles =>
        have handles : claim.handles ≠ [] := by simpa using handles
        exact meets_release (fun r => gives.releases r handles) ready
    refine Meets.bind (released.weaken fun result w₂ reached => ?_)
    cases result with
    | error e => exact fails reached
    | ok =>
      refine Meets.bind ((meets_persist s (some claim.uid) gives.drops reached).weaken
        fun result w₃ reached => ?_)
      cases result with
      | error e => exact fails reached
      | ok =>
        refine (meets_unprepareDevices prepared gives.deletes reached).weaken
          fun result w₄ reached => ?_
        rcases result with ⟨e | _, s'⟩
        · obtain ⟨rfl, reached⟩ := reached
          exact ⟨reached, nofun⟩
        · obtain ⟨rfl, reached⟩ := reached
          refine ⟨reached, fun _ => ?_⟩
          simp [DeviceState.isPrepared, SortedMap.contains]
  · next unprepared =>
    split
    · refine Meets.bind ((meets_persist s none gives.publishes ready).weaken
        fun result w₂ reached => ?_)
      have settles : settled s w₂ := by cases result <;> exact reached
      exact fun w₃ later => ⟨(settled s).stable _ _ later settles, fun _ => unprepared⟩
    · exact fun w₂ later => ⟨(settled s).stable _ _ later ready, fun _ => unprepared⟩

/-- To give a claim up leaves the plugin settled, and if it succeeds the claim is no longer prepared. -/
theorem meets_unprepare (gives : D.GivesUp S call op p claim s settled dropped) (ready : settled s w) :
    D.Meets S call op
      (fun result w' => settled result.2 w' ∧
        (result.1.failure = none → ¬ result.2.isPrepared claim.uid))
      (p.unprepare claim s) w := by
  refine Meets.bind ((gives.meets_unprepareClaim ready).weaken fun result w₁ reached => ?_)
  obtain ⟨reached, gone⟩ := reached
  rcases result with ⟨e | _, s'⟩
  · exact fun w₂ later => ⟨(settled s').stable _ _ later reached, nofun⟩
  · exact fun w₂ later => ⟨(settled s').stable _ _ later reached, fun _ => gone rfl⟩

end GivesUp

/-- What is to be shown of a call that starts a plugin: what is known between its attempts, and of a
record that it has made not ready, on which it has published its devices, and that is ready; what each
access makes of it, and with what the call may fail. -/
structure Restarts (D : Discipline) (S : Setting) (call : Nat) (op : Operation) (p : Plugin)
    (count : Nat) (starting : D.Lasting call) (adopted : NodeRecord → D.Lasting call)
    (settled : DeviceState → D.Lasting call) (fails : PluginError → Prop) : Prop where
  creates : ∀ w, D.Later call w w → S.mayStep op w → w.record p.key = none → starting w →
    D.Permits call op w (w.put ((NodeRecord.new p.key.name p.key.space).withVersion 1)) ∧
      starting (w.put ((NodeRecord.new p.key.name p.key.space).withVersion 1))
  adopts : ∀ r, r.key = p.key → D.Writes S call op (.status .notReady) r starting (adopted r)
  files : ∀ r, D.Files S call op (.writeCommon (.common p.key.name)) (adopted r) (adopted r) starting
  keeps : ∀ r w, adopted r w → starting w
  publishes : ∀ r s, r.key = p.key →
    (DeviceState.ofDevices (Emulator.devices p.key.name count)).sync r.spec = .ok s →
    D.Writes S call op (.publish s.devices.values s.recorded) ((Change.status .notReady).on r)
      (adopted r) (adopted r)
  readies : ∀ r s, r.key = p.key →
    (DeviceState.ofDevices (Emulator.devices p.key.name count)).sync r.spec = .ok s →
    D.Writes S call op (.status .ready)
      ((Change.publish s.devices.values s.recorded).on ((Change.status .notReady).on r))
      (adopted r) (settled s)
  refuses : ∀ r e w, adopted r w →
    (DeviceState.ofDevices (Emulator.devices p.key.name count)).sync r.spec = .error e → fails e
  store : ∀ e, fails (.store e)
  specFile : ∀ detail, fails (.specFile detail)

namespace Restarts

variable {count : Nat} {starting : D.Lasting call} {adopted : NodeRecord → D.Lasting call}
  {settled : DeviceState → D.Lasting call} {fails : PluginError → Prop}

/-- How a start ends: the plugin knows of all that is prepared, or the start may be made again. -/
def Started (starting : D.Lasting call) (settled : DeviceState → D.Lasting call)
    (fails : PluginError → Prop) : Except PluginError DeviceState → World → Prop
  | .ok s, w => settled s w
  | .error e, w => starting w ∧ fails e

/-- What a start has come to outlasts what others do. -/
theorem started_stable (starting : D.Lasting call) (settled : DeviceState → D.Lasting call)
    (fails : PluginError → Prop) (result : Except PluginError DeviceState) :
    D.Stable call (Started starting settled fails result) := by
  cases result with
  | ok s => exact (settled s).stable
  | error e => exact fun w w' later reached => ⟨starting.stable _ _ later reached.1, reached.2⟩

/-- An attempt to publish adopts what the record says is prepared, or leaves the
plugin about to start. -/
theorem meets_publishOn (restarts : D.Restarts S call op p count starting adopted settled fails)
    {r : NodeRecord} (key : r.key = p.key) (saw : w.Saw r) (ready : starting w) :
    D.Meets S call op (Started starting settled fails) (p.publishOn count r) w := by
  have failed : ∀ {w₁ : World} {e : PluginError}, starting w₁ → fails e →
      D.Meets S call op (Started starting settled fails) (.done (.error e)) w₁ :=
    fun ready fails w' later => ⟨starting.stable _ _ later ready, fails⟩
  refine (restarts.adopts r key).meets_ask_update rfl saw ready (fun w₁ saw reached => ?_)
    fun w₁ e ready => failed ready (restarts.store e)
  change D.Meets S call op _ (ite _ _ _) w₁
  split
  · trivial
  · refine Meets.bind (Meets.bind (((restarts.files r w₁ reached).and_saw saw).weaken
      fun answer w₂ reached => ?_))
    obtain ⟨reached, saw⟩ := reached
    cases answer with
    | error detail =>
      exact fun w₃ later => failed (starting.stable _ _ later reached) (restarts.specFile detail)
    | ok =>
      have refused : ∀ w' (e : StoreError), adopted r w' →
          D.Meets S call op (Started starting settled fails) (.done (.error (.store e))) w' :=
        fun w' e reached => failed (restarts.keeps r w' reached) (restarts.store e)
      refine fun w₃ later => ?_
      have reached := (adopted r).stable _ _ later reached
      have saw := saw.of_leaves later.leaves
      dsimp only [Except.mapError]
      cases synced : (DeviceState.ofDevices (Emulator.devices p.key.name count)).sync
        ((Change.status .notReady).on r).spec with
      | error e =>
        exact failed (restarts.keeps r w₃ reached) (restarts.refuses r e w₃ reached synced)
      | ok s =>
        refine (restarts.publishes r s key synced).meets_ask_update rfl saw reached
          (fun w₄ saw reached => ?_) refused
        exact (restarts.readies r s key synced).meets_ask_update rfl saw reached
          (fun w₅ _ reached w₆ later => (settled s).stable _ _ later reached) refused

/-- A start leaves the plugin settled or about to start, whatever comes of it. -/
theorem meets_start (restarts : D.Restarts S call op p count starting adopted settled fails)
    (ready : starting w) :
    D.Meets S call op (Started starting settled fails) (p.start count) w := by
  refine Meets.attempts (started_stable starting settled fails) starting.stable
    (fun n e w' reached => ⟨reached.1, restarts.store _⟩)
    (fun w₁ ready => (Meets.getOrCreate_thenOk (fun w₂ later r _ at_p saw =>
      restarts.meets_publishOn at_p saw (starting.stable _ _ later ready))
      (fun w₂ later may absent => ?_) fun w₂ later e w₃ after =>
        ⟨starting.stable _ _ (later.trans after) ready, restarts.store e⟩).weaken
      fun result w' reached => ⟨reached, ?_⟩) _ _ ready
  · obtain ⟨permits, created⟩ :=
      restarts.creates w₂ later.refl_right may absent (starting.stable _ _ later ready)
    exact ⟨permits, restarts.meets_publishOn rfl (.saw_put_self w₂ _) created⟩
  · rintro e rfl
    exact reached.1

end Restarts

end Discipline

end DeviceClaims
