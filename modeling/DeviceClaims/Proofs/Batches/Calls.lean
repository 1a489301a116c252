import DeviceClaims.Proofs.Batches

namespace DeviceClaims

namespace Plugin

variable {p : Plugin} {x : Standing} {b : Beset} {c : NodeClaim}

/-- A call ends with a value and leaves what a plugin keeps. -/
def Leaves {α : Type} (p : Plugin) (value : α) (x : Standing) (result : α × DeviceState) (b : Beset) : Prop :=
  result = (value, x.state) ∧ p.Stands x 0 b

/-- What is prepared is published once, however often the update is refused. -/
theorem persist_endures (own : x.record.key = p.key) (s : DeviceState) (released : Option ClaimUid)
    (stands : p.Stands x 0 b) :
    (p.persist s released).Endures p.retry (fun result b' => result = .ok () ∧ p.Stands { x with
      record := (Change.publish s.devices.values (released.elim s.recorded s.recorded.erase)).on x.record }
      0 b') b := by
  cases released with
  | none => exact rewrite_endures rfl own rfl stands
  | some claim => exact rewrite_endures rfl own rfl stands

theorem assign_endures (own : x.record.key = p.key) (claim : ClaimUid) (devices : List AllocatedDevice)
    (stands : p.Stands x 0 b) :
    (p.assign claim devices).Endures p.retry (fun result b' => result = .ok () ∧
      p.Stands { x with record := (Change.allocate claim devices).on x.record } 0 b') b :=
  rewrite_endures rfl own rfl stands

theorem release_endures (own : x.record.key = p.key) (claim : ClaimUid) (stands : p.Stands x 0 b) :
    (p.release claim).Endures p.retry (fun result b' => result = .ok () ∧ p.Stands
      (if x.record.spec.allocated.contains claim then
        { x with record := (Change.release claim).on x.record } else x) 0 b') b := by
  cases known : x.record.spec.allocated.contains claim with
  | true =>
    refine rewrite_endures ?_ own rfl stands
    rw [if_pos known]
  | false =>
    unfold release Prog.retry Prog.attempts
    refine .bind (get_endures stands ?_)
    dsimp only
    rw [known]
    exact .done (.done ⟨rfl, stands⟩)

/-- The devices of a claim are those due to it, and the record then lists them. -/
theorem allocation_endures (own : x.record.key = p.key) (stands : p.Stands x 0 b) :
    (p.allocation x.record c).Endures p.retry (fun result b' => result = due c x.record ∧
      match result with
      | .ok devices => p.Stands (x.deeds c.uid (allotting c devices)) 0 b'
      | .error _ => p.Stands x 0 b') b := by
  unfold allocation due allotting
  cases handles : c.handles with
  | nil =>
    dsimp only
    cases x.record.spec.allocated.get? c.uid with
    | none => exact .done ⟨rfl, stands⟩
    | some devices => exact .done ⟨rfl, stands⟩
  | cons h rest =>
    dsimp only
    cases handleDevices h with
    | error e => exact .done ⟨rfl, stands⟩
    | ok devices =>
      refine .bind ((assign_endures own c.uid devices stands).weaken ?_)
      rintro _ b' ⟨rfl, stands⟩
      exact .done ⟨rfl, stands⟩

theorem state_allotting (devices : List AllocatedDevice) :
    (x.deeds c.uid (allotting c devices)).state = x.state := by
  unfold allotting
  split <;> rfl

/-- To prepare a claim does what the plugin does for it when no update is refused. -/
theorem prepareClaim_endures (orderly : p.Orderly x) (stands : p.Stands x 0 b) :
    (p.prepareClaim c x.state).Endures p.retry
      (p.Leaves (preparing c x).1 (x.deeds c.uid (preparing c x).2)) b := by
  refine get_endures stands ?_
  unfold preparing
  dsimp only
  cases named : x.state.claimNames? c.uid with
  | some names => exact .done ⟨rfl, stands⟩
  | none =>
    refine .bind ((allocation_endures orderly.own stands).weaken ?_)
    rintro _ b₁ ⟨rfl, allotted⟩
    cases given : due c x.record with
    | error e =>
      rw [given] at allotted
      exact .done ⟨rfl, allotted⟩
    | ok devices =>
      rw [given] at allotted
      -- The devices of a handle are recorded from here on, whatever comes of the rest.
      let x₁ := x.deeds c.uid (allotting c devices)
      have state : x₁.state = x.state := state_allotting devices
      have orderly₁ : p.Orderly x₁ := orderly.deeds c.uid _
      dsimp only
      unfold DeviceState.prepare
      rw [named]
      cases expanded : x.state.expandAll devices with
      | error e => exact .done ⟨Prod.ext rfl state.symm, allotted⟩
      | ok ds =>
        dsimp only
        rw [Prog.bind_assoc]
        refine spec_endures allotted (orderly₁.obliges.1.apply_writeClaim ..) fun b₂ stands₂ => ?_
        have kept : (x₁.deed c.uid (.keep (some ds))).state =
            { x.state with prepared := x.state.prepared.insert c.uid ds } := by
          show { x₁.state with prepared := x₁.state.prepared.insert c.uid ds } = _
          rw [state]
        rw [← kept, Standing.deeds_append]
        change (Prog.bind (p.persist (x₁.deed c.uid (.keep (some ds))).state none) _).Endures _ _ _
        refine .bind (.weaken (persist_endures ?own _ none stands₂) ?_)
        case own => exact orderly₁.own
        rintro _ b₃ ⟨rfl, stands₃⟩
        exact .done ⟨rfl, stands₃⟩

theorem state_releasing : (x.deeds c.uid (releasing c x)).state = x.state := by
  unfold releasing
  split <;> rfl

/-- A claim with a handle is released before it is given up. -/
theorem releasing_endures (own : x.record.key = p.key) (stands : p.Stands x 0 b) :
    (if c.handles.isEmpty then .done (.ok ()) else p.release c.uid).Endures p.retry
      (fun result b' => result = .ok () ∧ p.Stands (x.deeds c.uid (releasing c x)) 0 b') b := by
  unfold releasing
  cases c.handles.isEmpty with
  | true => exact .done ⟨rfl, stands⟩
  | false =>
    refine (release_endures own c.uid stands).weaken ?_
    rintro _ b' ⟨rfl, stands⟩
    refine ⟨rfl, ?_⟩
    cases known : x.record.spec.allocated.contains c.uid with
    | true =>
      rw [if_pos known] at stands
      exact stands
    | false =>
      rw [if_neg (by simp [known])] at stands
      exact stands

theorem unprepareClaim_endures (orderly : p.Orderly x) (stands : p.Stands x 0 b) :
    (p.unprepareClaim c x.state).Endures p.retry
      (p.Leaves (.ok ()) (x.deeds c.uid (unpreparing c x))) b := by
  refine get_endures stands ?_
  unfold unpreparing
  dsimp only
  cases prepared : x.state.isPrepared c.uid with
  | false =>
    have unrecorded : ¬ x.record.spec.prepared.contains c.uid := fun recorded => by
      simp [orderly.known c.uid recorded] at prepared
    rw [if_neg nofun, if_neg unrecorded]
    exact .done ⟨rfl, stands⟩
  | true =>
    rw [if_pos rfl, if_pos rfl]
    let x₁ := x.deeds c.uid (releasing c x)
    have orderly₁ : p.Orderly x₁ := orderly.deeds c.uid _
    have state : x₁.state = x.state := state_releasing
    have kept : (x₁.deed c.uid (.keep none)).state =
        { x.state with prepared := x.state.prepared.erase c.uid } := by
      show { x₁.state with prepared := x₁.state.prepared.erase c.uid } = _
      rw [state]
    refine .bind ((releasing_endures orderly.own stands).weaken ?_)
    rintro _ b₁ ⟨rfl, stands₁⟩
    refine .bind ((persist_endures orderly₁.own x.state (some c.uid) stands₁).weaken ?_)
    rintro _ b₂ ⟨rfl, stands₂⟩
    show (x.state.unprepare c.uid).Endures _ _ _
    rw [DeviceState.unprepare, if_pos prepared, Standing.deeds_append]
    refine spec_endures stands₂ (orderly₁.obliges.apply_deleteClaim c.uid) fun b₃ stands₃ =>
      .done ⟨Prod.ext rfl kept.symm, ?_⟩
    have record : (x₁.deed c.uid (.keep none)).record =
        (Change.publish x.state.devices.values (x.state.recorded.erase c.uid)).on x₁.record := by
      rw [← DeviceState.recorded_erase, ← state]
      rfl
    obtain ⟨inner, pending, calls, same, writable, read⟩ := stands₃
    exact ⟨inner, pending, calls, same, writable, read.trans (congrArg Except.ok record.symm)⟩

theorem prepare_endures (orderly : p.Orderly x) (stands : p.Stands x 0 b) :
    (p.prepare c x.state).Endures p.retry
      (p.Leaves (Work.prepares.act c x).1 (Work.prepares.after c x)) b := by
  refine .bind ((prepareClaim_endures orderly stands).weaken ?_)
  rintro _ b' ⟨rfl, stands⟩
  unfold Work.prepares Work.after
  dsimp only
  cases result : (preparing c x).1 <;> exact .done ⟨rfl, stands⟩

theorem unprepare_endures (orderly : p.Orderly x) (stands : p.Stands x 0 b) :
    (p.unprepare c x.state).Endures p.retry
      (p.Leaves (Work.unprepares.act c x).1 (Work.unprepares.after c x)) b := by
  refine .bind ((unprepareClaim_endures orderly stands).weaken ?_)
  rintro _ b' ⟨rfl, stands⟩
  exact .done ⟨rfl, stands⟩

/-- Where a call does what comes of each claim, calls for several do what comes of them all. -/
theorem forEach_endures {α : Type} {w : Work α} {f : NodeClaim → DeviceState → Prog (α × DeviceState)}
    (does : ∀ c x b, p.Orderly x → p.Stands x 0 b →
      (f c x.state).Endures p.retry (p.Leaves (w.act c x).1 (w.after c x)) b)
    (cs : List NodeClaim) (outcomes : SortedMap ClaimUid α) (orderly : p.Orderly x) (stands : p.Stands x 0 b) :
    (forEach f cs outcomes x.state).Endures p.retry
      (p.Leaves (w.all cs outcomes x).1 (w.all cs outcomes x).2) b := by
  induction cs generalizing outcomes x b with
  | nil => exact .done ⟨rfl, stands⟩
  | cons c cs ih =>
    refine .bind ((does c x b orderly stands).weaken ?_)
    rintro _ b' ⟨rfl, stands⟩
    exact ih _ (orderly.deeds c.uid _) stands

/-- However its updates are refused while attempts are left, a call ends with this value, and this is what the
plugin keeps then. -/
def EndsIn {α : Type} (p : Plugin) (b : Beset) (call : Prog (α × DeviceState)) (value : α) (x : Standing) : Prop :=
  call.Endures p.retry (fun result b' => result = (value, x.state) ∧
    b'.site.store.inner.get p.key = .ok x.record ∧ b'.site.specs = x.specs) b

/-- A request for claims ends in the same way in whichever order they come, and each is answered as it is if the
request is for it alone. -/
def AnyOrder {α : Type} (p : Plugin) (b : Beset) (s : DeviceState) (cs : List NodeClaim)
    (call : List NodeClaim → DeviceState → Prog (SortedMap ClaimUid α × DeviceState)) : Prop :=
  ∃ outcomes x, (∀ cs', cs'.Perm cs → p.EndsIn b (call cs' s) outcomes x) ∧
    ∀ c ∈ cs, ∃ outcome x', outcomes.get? c.uid = some outcome ∧
      p.EndsIn b (call [c] s) (.single c.uid outcome) x'

/-- A request may list its claims in any order if what is done for each does not
depend on the others. -/
theorem anyOrder_of_does {α : Type} {w : Work α} {f : NodeClaim → DeviceState → Prog (α × DeviceState)}
    (does : ∀ c x b, p.Orderly x → p.Stands x 0 b →
      (f c x.state).Endures p.retry (p.Leaves (w.act c x).1 (w.after c x)) b)
    (orderly : p.Orderly x) (stands : p.Stands x 0 b) {cs : List NodeClaim}
    (distinct : (cs.map (·.uid)).Nodup) : p.AnyOrder b x.state cs fun cs s => forEach f cs .empty s := by
  have ends : ∀ cs, p.EndsIn b (forEach f cs .empty x.state) (w.all cs .empty x).1 (w.all cs .empty x).2 := by
    intro cs
    refine (forEach_endures does cs .empty orderly stands).weaken ?_
    rintro _ _ ⟨rfl, inner, pending, calls, rfl, writable, read⟩
    exact ⟨rfl, read, rfl⟩
  refine ⟨(w.all cs .empty x).1, (w.all cs .empty x).2, fun cs' perm => ?_, fun c member => ?_⟩
  · exact Work.all_perm distinct perm .empty x ▸ ends cs'
  · exact ⟨_, _, Work.get?_all distinct member .empty x, ends [c]⟩

/-- The order of the claims of a request does not matter. Let what the plugin keeps be as it is between its calls,
with specifications that can be changed, where nobody else writes; updates may be refused for conflicts, but not so
often that the attempts are used up. Then to prepare claims with distinct identifiers, and so to give them up, ends
with the same answers, the same devices prepared, the same record and the same specifications whatever order they
come in; and each of them is answered as if the request were for it alone. -/
theorem requests_in_any_order (orderly : p.Orderly x) (stands : p.Stands x 0 b)
    {cs : List NodeClaim} (distinct : (cs.map (·.uid)).Nodup) :
    p.AnyOrder b x.state cs p.prepareAll ∧ p.AnyOrder b x.state cs p.unprepareAll :=
  ⟨anyOrder_of_does (w := .prepares) (fun _ _ _ => prepare_endures) orderly stands distinct,
    anyOrder_of_does (w := .unprepares) (fun _ _ _ => unprepare_endures) orderly stands distinct⟩

end Plugin

namespace Candidates

def handed : NodeClaim :=
  { claim with
    uid := ⟨.filled 4⟩
    handles := [⟨some parameters.spec.vendorForm, "node", state.devices.keys.map (·.resourceName)⟩] }

end Candidates

open Candidates in
/-- The node of the candidates is asked for a claim that it does not know and for one whose handle names
its device. -/
theorem Plugin.requests_in_any_order_candidates :
    plugin.retry.Steady ∧ plugin.AnyOrder ⟨site, 0⟩ state [claim, handed] plugin.prepareAll ∧
      plugin.AnyOrder ⟨site, 0⟩ state [claim, handed] plugin.unprepareAll := by
  have orderly : plugin.Orderly ⟨state, record, {}⟩ := .of_recorded rfl rfl ⟨⟨rfl, rfl⟩, rfl⟩
  have read : site.store.inner.get plugin.key = .ok record := by decide +kernel
  have stands : plugin.Stands ⟨state, record, {}⟩ 0 ⟨site, 0⟩ := ⟨_, {}, 0, rfl, trivial, read⟩
  have distinct : ([claim, handed].map (·.uid)).Nodup := by decide
  exact ⟨RetryPolicy.steady_default 5, requests_in_any_order orderly stands distinct⟩

end DeviceClaims
