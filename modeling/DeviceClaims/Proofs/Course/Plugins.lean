import DeviceClaims.Proofs.Course.Calls
import DeviceClaims.Proofs.Machine.Play

namespace DeviceClaims

/-- Around a call of a plugin others may do anything that leaves the call what is its own and the
specifications as they are; if the call is `alone`, they leave the node's record as well. Directories
may fail if `faulty`. -/
def Surroundings.ofPlugin (p : Plugin) (call : Nat) (op : Operation) (alone faulty : Prop) :
    Surroundings World where
  between w w' := (w.Leaves call w' ∧ (w.WellKeyed → w'.WellKeyed)) ∧
    w'.specs p.key = w.specs p.key ∧ (alone → w'.record p.key = w.record p.key)
  answers := World.Answers faulty call op

theorem Surroundings.ofPlugin_spares (p : Plugin) (call : Nat) (op : Operation) (alone faulty : Prop) :
    (ofPlugin p call op alone faulty).Spares call op faulty :=
  ⟨fun between => between.1.1, fun between => between.1.2, rfl⟩

/-- What following a call that nobody disturbs shows is shown by a course of it. -/
theorem Surroundings.ofPlugin_course {α : Type} (p : Plugin) (call : Nat) (op : Operation)
    (alone faulty : Prop) (prog : Prog α) (w : World) (shows : List (Step World) × α × World → Bool)
    (shown : (prog.follow (fun a w => w.answer? call op a) w).any shows = true) :
    ∃ steps result w', Prog.Course (.ofPlugin p call op alone faulty) prog w steps result w' ∧
      shows (steps, result, w') = true := by
  obtain ⟨⟨steps, result, w'⟩, followed, shown⟩ := (Option.any_eq_true ..).mp shown
  refine ⟨steps, result, w', ?_, shown⟩
  exact Prog.course_of_follow (E := .ofPlugin p call op alone faulty)
    (fun w => ⟨⟨.refl call w, id⟩, rfl, fun _ => rfl⟩) (fun _ _ _ _ => World.answers_of_answer?) followed

/-- What changes make of a record, one after the other. -/
def Change.allOn (changes : List Change) (r : NodeRecord) : NodeRecord :=
  changes.foldl (fun r change => change.on r) r

@[simp] theorem Change.map_allOn_nil (first : Option NodeRecord) : first.map (allOn []) = first :=
  Option.map_id' ..

theorem Change.allOn_append (changes : List Change) (change : Change) (r : NodeRecord) :
    allOn (changes ++ [change]) r = change.on (allOn changes r) := by
  rw [allOn, List.foldl_append]
  rfl

/-- Steps that change the record under a key so, one change after the other, and write nothing else. -/
inductive Wrote (key : ObjectKey) : List (Step World) → List Change → Prop
  | nothing : Wrote key [] []
  | quiet {steps : List (Step World)} {changes : List Change} {s : Step World}
      (wrote : Wrote key steps changes) (quiet : s.Quiet) : Wrote key (steps ++ [s]) changes
  | rewrite {steps : List (Step World)} {changes : List Change} {w : World} {change : Change}
      {r : NodeRecord} (wrote : Wrote key steps changes) (replaced : w.record key = some r) :
      Wrote key (steps ++ [.rewrite w change r]) (changes ++ [change])

/-- What a call of a plugin has done: by which changes it has written the record, and what the
specifications are now. If it was alone, the record is what its changes have made of the first one. -/
structure Plugin.Done (p : Plugin) (alone : Prop) (first : Option NodeRecord)
    (steps : List (Step World)) (changes : List Change) (dir : SpecDir) (w : World) : Prop where
  wrote : Wrote p.key steps changes
  wellKeyed : w.WellKeyed
  specs : w.specs p.key = dir
  record : alone → w.record p.key = first.map (Change.allOn changes)

namespace Plugin

variable {p : Plugin} {call : Nat} {op : Operation} {alone faulty : Prop} {first : Option NodeRecord}
  {steps : List (Step World)} {changes : List Change} {dir : SpecDir} {w w' : World}

namespace Done

theorem append_quiet (done : p.Done alone first steps changes dir w) {s : Step World}
    (between : (Surroundings.ofPlugin p call op alone faulty).between w w') (quiet : s.Quiet) :
    p.Done alone first (steps ++ [s]) changes dir w' where
  wrote := done.wrote.quiet quiet
  wellKeyed := between.1.2 done.wellKeyed
  specs := between.2.1.trans done.specs
  record alone := (between.2.2 alone).trans (done.record alone)

theorem append_rewrite (done : p.Done alone first steps changes dir w) {change : Change} {r : NodeRecord}
    (between : (Surroundings.ofPlugin p call op alone faulty).between w w')
    (at_key : w'.record p.key = some r) :
    p.Done alone first (steps ++ [.rewrite w' change r]) (changes ++ [change]) dir
      (w'.put (change.on r)) where
  wrote := done.wrote.rewrite at_key
  wellKeyed := (between.1.2 done.wellKeyed).put _
  specs := between.2.1.trans done.specs
  record alone := by
    have before := (between.2.2 alone).trans (done.record alone)
    have key : r.key = p.key := between.1.2 done.wellKeyed _ r at_key
    have after : (w'.put (change.on r)).record p.key = some (change.on r) := by
      rw [← key, ← change.on_key r]
      exact World.record_put_self w' _
    rw [after]
    rw [at_key, eq_comm, Option.map_eq_some_iff] at before
    obtain ⟨r₀, rfl, made⟩ := before
    rw [Option.map_some, Change.allOn_append, made]

theorem append_sleep (done : p.Done alone first steps changes dir w)
    (between : (Surroundings.ofPlugin p call op alone faulty).between w w') (delay : Delay) :
    (∃ answer v, (Surroundings.ofPlugin p call op alone faulty).answers w' (.sleep delay) answer v) ∧
      ∀ answer v, (Surroundings.ofPlugin p call op alone faulty).answers w' (.sleep delay) answer v →
        p.Done alone first (steps ++ [⟨w', .sleep delay, answer, v⟩]) changes dir v := by
  refine ⟨⟨(), w', .sleep delay⟩, fun answer v answers => ?_⟩
  cases answers with
  | sleep _ => exact done.append_quiet between ⟨rfl, rfl⟩

end Done

/-- How a repeated attempt ends that is to change the record: it has, or it has written nothing. -/
def Rewrites (p : Plugin) (alone : Prop) (first : Option NodeRecord) (changes : List Change)
    (change : Change) (dir : SpecDir) : List (Step World) → Except PluginError Unit → World → Prop :=
  Prog.outcome (fun steps _ w => p.Done alone first steps (changes ++ [change]) dir w)
    fun steps w => p.Done alone first steps changes dir w

theorem update_always {crashed : List (Step World) → World → Prop} {r : NodeRecord} {spec : NodeSpec}
    (change : Change) (made : { r with spec } = change.apply r) (saw : w.Saw r) (key : r.key = p.key)
    (done : p.Done alone first steps changes dir w) :
    ((update r spec).thenOk fun _ => .done (.ok ())).Always (.ofPlugin p call op alone faulty)
      (p.Rewrites alone first changes change dir) crashed steps w := by
  refine Prog.Always.rewrite_of_spares (Surroundings.ofPlugin_spares p call op alone faulty) change made
    done.wellKeyed saw (fun w₁ between wellKeyed at_key => ?_)
    fun w₁ s e between wellKeyed quiet => done.append_quiet between quiet
  exact done.append_rewrite between (key ▸ at_key)

theorem get_always {α : Type} {next : Except PluginError NodeRecord → Prog α}
    {post : List (Step World) → α → World → Prop} {crashed : List (Step World) → World → Prop}
    (done : p.Done alone first steps changes dir w)
    (found : ∀ steps w r, p.Done alone first steps changes dir w → w.record p.key = some r →
      (next (.ok r)).Always (.ofPlugin p call op alone faulty) post crashed steps w)
    (missing : ∀ e steps w, p.Done alone first steps changes dir w →
      (next (.error e)).Always (.ofPlugin p call op alone faulty) post crashed steps w) :
    (p.get.bind next).Always (.ofPlugin p call op alone faulty) post crashed steps w :=
  Prog.Always.get_of_spares (Surroundings.ofPlugin_spares p call op alone faulty) done.wellKeyed
    (fun _ between _ r at_key => found _ _ r (done.append_quiet between (Step.quiet_get ..)) at_key)
    fun _ _ between _ quiet => missing _ _ _ (done.append_quiet between quiet)

/-- Attempts that begin with reading the record are repeated from what the call has done before. -/
theorem retry_always {ok : List (Step World) → Unit → World → Prop}
    {attempt : NodeRecord → Prog (Except PluginError Unit)}
    (once : ∀ steps w r, p.Done alone first steps changes dir w → w.record p.key = some r →
      (attempt r).Always (.ofPlugin p call op alone faulty)
        (Prog.outcome ok fun steps w => p.Done alone first steps changes dir w)
        (fun _ _ => ¬ p.retry.Steady) steps w)
    (done : p.Done alone first steps changes dir w) :
    (Prog.retry p.retry (p.get.thenOk attempt)).Always (.ofPlugin p call op alone faulty)
      (Prog.outcome ok fun steps w => p.Done alone first steps changes dir w)
      (fun _ _ => ¬ p.retry.Steady) steps w :=
  Prog.Always.retry (fun _ _ done => get_always done once fun _ _ _ done => done)
    (fun _ _ _ delay done between => done.append_sleep between delay) (fun unsteady _ _ _ => unsteady) done

/-- What is prepared is published by one write, however often that has to be tried. -/
theorem persist_always (s : DeviceState) (released : Option ClaimUid)
    (done : p.Done alone first steps changes dir w) :
    (p.persist s released).Always (.ofPlugin p call op alone faulty)
      (p.Rewrites alone first changes
        (.publish s.devices.values (released.elim s.recorded s.recorded.erase)) dir)
      (fun _ _ => ¬ p.retry.Steady) steps w := by
  refine retry_always (fun steps w r done at_key => ?_) done
  have saw := World.Saw.of_record done.wellKeyed at_key
  have key : r.key = p.key := done.wellKeyed _ r at_key
  cases released with
  | none => exact update_always _ rfl saw key done
  | some claim => exact update_always _ rfl saw key done

theorem assign_always (claim : ClaimUid) (devices : List AllocatedDevice)
    (done : p.Done alone first steps changes dir w) :
    (p.assign claim devices).Always (.ofPlugin p call op alone faulty)
      (p.Rewrites alone first changes (.allocate claim devices) dir)
      (fun _ _ => ¬ p.retry.Steady) steps w := by
  refine retry_always (fun steps w r done at_key => ?_) done
  exact update_always _ rfl (.of_record done.wellKeyed at_key) (done.wellKeyed _ r at_key) done

/-- A claim is taken off the record, unless the record does not know it. -/
theorem release_always (claim : ClaimUid) (done : p.Done alone first steps changes dir w) :
    (p.release claim).Always (.ofPlugin p call op alone faulty)
      (Prog.outcome
        (fun steps _ w => p.Done alone first steps (changes ++ [.release claim]) dir w ∨
          p.Done alone first steps changes dir w ∧ w.allocation p.key claim = none)
        fun steps w => p.Done alone first steps changes dir w)
      (fun _ _ => ¬ p.retry.Steady) steps w := by
  refine retry_always (fun steps w r done at_key => ?_) done
  split
  · refine (update_always (.release claim) rfl (.of_record done.wellKeyed at_key)
      (done.wellKeyed _ r at_key) done).weaken fun _ result _ reached => ?_
    cases result with
    | ok => exact .inl reached
    | error e => exact reached
  · next unknown =>
    refine .inr ⟨done, ?_⟩
    rw [World.allocation, at_key, Option.bind_some]
    exact SortedMap.get?_of_not_contains unknown

/-- A request to the directory of specifications is answered by the directory, if it does not fail. -/
theorem spec_always {α : Type} {post : List (Step World) → α → World → Prop}
    {crashed : List (Step World) → World → Prop} {a : SpecAccess} {next : SpecAccess.Answer → Prog α}
    (takes : op.takes = some p.key) (done : p.Done alone first steps changes dir w)
    (answered : ∀ steps w, p.Done alone first steps changes (dir.apply a).2 w →
      (next (dir.apply a).1).Always (.ofPlugin p call op alone faulty) post crashed steps w)
    (failed : faulty → ∀ detail steps w, p.Done alone first steps changes dir w →
      (next (.error detail)).Always (.ofPlugin p call op alone faulty) post crashed steps w) :
    (Prog.ask (.spec a) next).Always (.ofPlugin p call op alone faulty) post crashed steps w := by
  refine Prog.Always.ask (fun v _ => .inr ⟨_, _, .spec a p.key takes⟩) fun v between answer v' answers => ?_
  cases answers with
  | spec _ key own =>
    cases takes.symm.trans own
    have same : v.specs p.key = dir := between.2.1.trans done.specs
    have step := done.append_quiet between (s := ⟨v, .spec a, ((v.specs p.key).apply a).1, v⟩) ⟨rfl, rfl⟩
    rw [same]
    refine answered _ _ ⟨?_, step.wellKeyed, Function.update_self .., step.record⟩
    exact done.wrote.quiet ⟨rfl, rfl⟩
  | specFault _ detail may => exact failed may detail _ _ (done.append_quiet between ⟨rfl, rfl⟩)

/-- The change that a claim's handle asks of the record, if there is a handle and it can be read. -/
def handed (c : NodeClaim) : List Change :=
  match c.handles with
  | h :: _ => match handleDevices h with
    | .ok devices => [.allocate c.uid devices]
    | .error _ => []
  | [] => []

/-- The devices of a claim are known after at most the one write of its handle. -/
theorem allocation_always (record : NodeRecord) (c : NodeClaim)
    (done : p.Done alone first steps [] dir w) :
    (p.allocation record c).Always (.ofPlugin p call op alone faulty)
      (Prog.outcome (fun steps _ w => p.Done alone first steps (handed c) dir w)
        fun steps w => p.Done alone first steps [] dir w)
      (fun _ _ => ¬ p.retry.Steady) steps w := by
  unfold allocation handed
  cases c.handles with
  | cons h rest =>
    dsimp only
    cases handleDevices h with
    | error e => exact done
    | ok devices =>
      refine Prog.Always.thenOk ((assign_always c.uid devices done).weaken fun _ result _ reached => ?_)
      cases result with
      | ok => exact reached
      | error e => exact fun _ => reached
  | nil =>
    dsimp only
    split
    · exact done
    · exact done

/-- How a call ends that prepares a claim, by its result, what the plugin knows then, the changes of the
record and the specifications. -/
inductive Prepares (c : NodeClaim) (s : DeviceState) (faulty : Prop) (dir : SpecDir) :
    Except PluginError (List String) × DeviceState → List Change → SpecDir → Prop
  | known {names : List String} (found : s.claimNames? c.uid = some names) :
      Prepares c s faulty dir (.ok names, s) [] dir
  | refused {e : PluginError} {s' : DeviceState} {changes : List Change} {dir' : SpecDir}
      (written : changes = [] ∨ changes = handed c) (kept : ¬ faulty → s' = s ∧ dir' = dir) :
      Prepares c s faulty dir (.error e, s') changes dir'
  | prepared {ds : List DeviceInfo} {s' : DeviceState} {dir' : SpecDir}
      (unprepared : s.prepared.get? c.uid = none)
      (added : s' = { s with prepared := s.prepared.insert c.uid ds }) :
      Prepares c s faulty dir (.ok (DeviceState.names ds), s')
        (handed c ++ [.publish s.devices.values s'.recorded]) dir'

/-- What was prepared for a claim and could not be recorded is given up, so that only what the handle
asked for may remain. -/
theorem takeBack_always (takes : op.takes = some p.key) {c : NodeClaim} {s : DeviceState}
    {ds : List DeviceInfo} {spec : DeviceSpec} (unprepared : s.prepared.get? c.uid = none)
    (unwritten : ¬ faulty → dir.claims.get? c.uid = none) (e : PluginError)
    {crashed : List (Step World) → World → Prop}
    (done : p.Done alone first steps (handed c) { dir with claims := dir.claims.insert c.uid spec } w) :
    ((({ s with prepared := s.prepared.insert c.uid ds } : DeviceState).unprepare c.uid).bind fun r =>
      .done ((.error e : Except PluginError (List String)), r.2)).Always
      (.ofPlugin p call op alone faulty)
      (fun steps result w => ∃ changes dir', p.Done alone first steps changes dir' w ∧
        Prepares c s faulty dir result changes dir') crashed steps w := by
  have prepared : ({ s with prepared := s.prepared.insert c.uid ds } : DeviceState).isPrepared c.uid := by
    simp [DeviceState.isPrepared, SortedMap.contains]
  unfold DeviceState.unprepare
  rw [if_pos prepared]
  refine spec_always takes done (fun steps w done => ?_) fun faulty detail steps w done =>
    ⟨_, _, done, .refused (.inr rfl) fun perfect => absurd faulty perfect⟩
  -- The claim was in neither map before, so to erase it is to undo its insertion.
  refine ⟨_, _, done, .refused (.inr rfl) fun perfect => ⟨?_, ?_⟩⟩
  · exact congrArg (DeviceState.mk s.devices) (SortedMap.erase_insert unprepared ds)
  · exact congrArg (SpecDir.mk dir.present dir.common) (SortedMap.erase_insert (unwritten perfect) spec)

/-- However the call is disturbed, it ends in one of these ways. -/
theorem prepareClaim_always (takes : op.takes = some p.key) {c : NodeClaim} {s : DeviceState}
    (unwritten : ¬ faulty → s.prepared.get? c.uid = none → dir.claims.get? c.uid = none)
    (done : p.Done alone first steps [] dir w) :
    (p.prepareClaim c s).Always (.ofPlugin p call op alone faulty)
      (fun steps result w => ∃ changes dir', p.Done alone first steps changes dir' w ∧
        Prepares c s faulty dir result changes dir')
      (fun _ _ => ¬ p.retry.Steady) steps w := by
  refine get_always done (fun steps w r done at_key => ?_)
    fun e steps w done => ⟨[], dir, done, .refused (.inl rfl) fun _ => ⟨rfl, rfl⟩⟩
  dsimp only
  cases found : s.claimNames? c.uid with
  | some names => exact ⟨[], dir, done, .known found⟩
  | none =>
    have unprepared : s.prepared.get? c.uid = none := Option.map_eq_none_iff.mp found
    refine Prog.Always.bind ((allocation_always r c done).weaken fun steps result w reached => ?_)
    cases result with
    | error e => exact ⟨[], dir, reached, .refused (.inl rfl) fun _ => ⟨rfl, rfl⟩⟩
    | ok devices =>
      have done : p.Done alone first steps (handed c) dir w := reached
      refine Prog.Always.bind ?_
      unfold DeviceState.prepare
      rw [found]
      cases s.expandAll devices with
      | error e => exact ⟨_, dir, done, .refused (.inr rfl) fun _ => ⟨rfl, rfl⟩⟩
      | ok ds =>
        dsimp only
        refine spec_always takes done (fun steps w done => ?_) fun _ detail steps w done =>
          ⟨_, dir, done, .refused (.inr rfl) fun _ => ⟨rfl, rfl⟩⟩
        rw [SpecDir.apply] at done ⊢
        split at done
        · next present =>
          rw [if_pos present]
          change Prog.Always _ _ _ (Prog.bind (p.persist _ none) _) _ _
          refine Prog.Always.bind ((persist_always _ none done).weaken fun steps result w reached => ?_)
          cases result with
          | ok => exact ⟨_, _, reached, .prepared unprepared rfl⟩
          | error e => exact takeBack_always takes unprepared (unwritten · unprepared) e reached
        · next absent =>
          rw [if_neg absent]
          exact ⟨_, dir, done, .refused (.inr rfl) fun _ => ⟨rfl, rfl⟩⟩

/-- By which changes a claim with a handle is taken off the record before it is given up: there is
nothing to take off if it is not there. -/
inductive Frees (alone : Prop) (first : Option NodeRecord) (c : NodeClaim) : List Change → Prop
  | plain (plain : c.handles = []) : Frees alone first c []
  | released (handle : c.handles ≠ []) : Frees alone first c [.release c.uid]
  | unknown (absent : alone → first.bind (·.spec.allocated.get? c.uid) = none) :
      Frees alone first c []

theorem Frees.changes_eq {c : NodeClaim} (frees : Frees alone first c changes) :
    changes = [] ∨ c.handles ≠ [] ∧ changes = [.release c.uid] := by
  cases frees with
  | released handle => exact .inr ⟨handle, rfl⟩
  | plain | unknown => exact .inl rfl

/-- How a call ends that gives a claim up. -/
inductive Unprepares (alone : Prop) (first : Option NodeRecord) (c : NodeClaim) (s : DeviceState)
    (faulty : Prop) (dir : SpecDir) :
    Except PluginError Unit × DeviceState → List Change → SpecDir → Prop
  | refused {e : PluginError} {changes : List Change}
      (written : ¬ faulty → changes = [] ∨ c.handles ≠ [] ∧ changes = [.release c.uid]) :
      Unprepares alone first c s faulty dir (.error e, s) changes dir
  | absent (unprepared : s.isPrepared c.uid = false)
      (unknown : alone → first.bind (·.spec.prepared.get? c.uid) = none) :
      Unprepares alone first c s faulty dir (.ok (), s) [] dir
  | cleared (unprepared : s.isPrepared c.uid = false) :
      Unprepares alone first c s faulty dir (.ok (), s) [.publish s.devices.values s.recorded] dir
  | gone {changes : List Change} {dir' : SpecDir} (prepared : s.isPrepared c.uid = true)
      (frees : Frees alone first c changes) :
      Unprepares alone first c s faulty dir (.ok (), { s with prepared := s.prepared.erase c.uid })
        (changes ++ [.publish s.devices.values (s.recorded.erase c.uid)]) dir'

/-- A claim with a handle is taken off the record by at most one write, and one without costs none. -/
theorem frees_always {c : NodeClaim} (done : p.Done alone first steps [] dir w) :
    (if c.handles.isEmpty then .done (.ok ()) else p.release c.uid).Always
      (.ofPlugin p call op alone faulty)
      (Prog.outcome
        (fun steps _ w => ∃ changes, p.Done alone first steps changes dir w ∧ Frees alone first c changes)
        fun steps w => p.Done alone first steps [] dir w)
      (fun _ _ => ¬ p.retry.Steady) steps w := by
  split
  · next plain => exact ⟨[], done, .plain (List.isEmpty_iff.mp plain)⟩
  · next handle =>
    refine (release_always c.uid done).weaken fun steps result w reached => ?_
    cases result with
    | error e => exact reached
    | ok =>
      rcases reached with done | ⟨done, absent⟩
      · exact ⟨_, done, .released fun plain => handle (List.isEmpty_iff.mpr plain)⟩
      · refine ⟨[], done, .unknown fun alone => ?_⟩
        have same := done.record alone
        rw [World.allocation, same] at absent
        cases first with
        | none => rfl
        | some r => exact absent

/-- To give a claim up frees what its handle named and then publishes what is still prepared. -/
theorem unprepareClaim_always (takes : op.takes = some p.key) {c : NodeClaim} {s : DeviceState}
    (done : p.Done alone first steps [] dir w) :
    (p.unprepareClaim c s).Always (.ofPlugin p call op alone faulty)
      (fun steps result w => ∃ changes dir', p.Done alone first steps changes dir' w ∧
        Unprepares alone first c s faulty dir result changes dir')
      (fun _ _ => ¬ p.retry.Steady) steps w := by
  refine get_always done (fun steps w r done at_key => ?_)
    fun e steps w done => ⟨[], dir, done, .refused fun _ => .inl rfl⟩
  dsimp only
  split
  · next prepared =>
    refine Prog.Always.bind (frees_always done |>.weaken fun steps result w reached => ?_)
    cases result with
    | error e => exact ⟨[], dir, reached, .refused fun _ => .inl rfl⟩
    | ok =>
      obtain ⟨changes, done, frees⟩ := reached
      refine Prog.Always.bind ((persist_always s (some c.uid) done).weaken
        fun steps result w reached => ?_)
      cases result with
      | error e => exact ⟨changes, dir, reached, .refused fun _ => frees.changes_eq⟩
      | ok =>
        have done : p.Done alone first steps _ dir w := reached
        dsimp only
        unfold DeviceState.unprepare
        rw [if_pos prepared]
        exact spec_always takes done (fun steps w done => ⟨_, _, done, .gone prepared frees⟩)
          fun faulty detail steps w done => ⟨_, dir, done, .refused fun perfect => absurd faulty perfect⟩
  · next unprepared =>
    have unprepared : s.isPrepared c.uid = false := by simpa using unprepared
    split
    · refine Prog.Always.bind ((persist_always s none done).weaken fun steps result w reached => ?_)
      cases result with
      | error e => exact ⟨[], dir, reached, .refused fun _ => .inl rfl⟩
      | ok => exact ⟨_, dir, reached, .cleared unprepared⟩
    · next unknown =>
      refine ⟨[], dir, done, .absent unprepared fun alone => ?_⟩
      have same := (done.record alone).symm.trans at_key
      cases first with
      | none => rfl
      | some r₀ =>
        cases same
        exact SortedMap.get?_of_not_contains unknown

end Plugin

namespace Machine

/-- Whether a plugin runs after some turns, and a call of it that nobody disturbs then shows something
of what is shared and known before it, and of its course. -/
def showsNext {α : Type} (p : Plugin) (turns : List Turn) (op : Operation)
    (program : DeviceState → Prog α)
    (shows : World → DeviceState → List (Step World) × α × World → Bool) : Bool :=
  (play turns (.idle {})).any fun m => match m.world.plugins p.key with
    | .up s => ((program s).follow (fun a w => w.answer? 1 op a) (op.enter 1 m.world)).any
      (shows m.world s)
    | _ => false

/-- What can be computed of a call after a schedule is a course of the call in a machine that is
reached. -/
theorem course_of_showsNext {S : Setting} {α : Type} (p : Plugin) (op : Operation)
    (alone faulty : Prop) (program : DeviceState → Prog α) {turns : List Turn}
    (may : ∀ call op, .begins call op ∈ turns → S.mayCall op ∧ ∀ w, S.mayStep op w)
    (shows : World → DeviceState → List (Step World) × α × World → Bool)
    (shown : showsNext p turns op program shows = true) :
    ∃ m s steps result w', Reach S (.idle {}) m ∧ m.world.plugins p.key = .up s ∧
      Prog.Course (.ofPlugin p 1 op alone faulty) (program s) (op.enter 1 m.world) steps result w' ∧
      shows m.world s (steps, result, w') = true := by
  obtain ⟨m, played, shown⟩ := (Option.any_eq_true ..).mp shown
  have reach := (play_reach may (fun _ _ absent => by cases absent) .start played).1
  split at shown
  · next s up =>
    obtain ⟨steps, result, w', course⟩ := Surroundings.ofPlugin_course p 1 op alone faulty _ _ _ shown
    exact ⟨m, s, steps, result, w', reach, up, course⟩
  · cases shown

end Machine

end DeviceClaims
