import DeviceClaims.Proofs.Course
import DeviceClaims.Site
import DeviceClaims.Store.Client

namespace DeviceClaims

namespace Backend

variable {b b' : Backend} {r : NodeRecord} {key : ObjectKey}

/-- No read meets a conflict. -/
theorem get_isConflict {e : StoreError} (read : b.get key = .error e) : e.isConflict = false := by
  cases b with
  | memory m =>
    simp only [get, apply, MemoryStore.apply, MemoryStore.get] at read
    split at read <;> cases read
    rfl
  | table t | readOnly t =>
    simp only [get, apply, TableStore.apply, TableStore.get] at read
    split at read
    · cases read; rfl
    · simp only [TableStore.ofRow] at read
      split at read <;> cases read
      rfl

/-- An update that fails changes nothing. -/
theorem update_error {e : StoreError} (refused : b.apply (.update r) = (.error e, b')) : b' = b := by
  cases b with
  | memory m =>
    simp only [apply, MemoryStore.apply, MemoryStore.update] at refused
    split at refused
    · cases refused; rfl
    · split at refused <;> cases refused; rfl
  | table t =>
    simp only [apply, TableStore.apply, TableStore.update] at refused
    split at refused
    · cases refused; rfl
    · split at refused <;> cases refused; rfl
  | readOnly t => cases refused; rfl

/-- What an update gave back can be written on. -/
theorem update_again {stored : NodeRecord} (new : NodeRecord)
    (written : b.apply (.update r) = (.ok stored, b')) (same : new.metadata = stored.metadata) :
    ∃ b'', b'.apply (.update new) = (.ok (new.withVersion (new.version + 1)), b'') := by
  have version : new.version = stored.version := congrArg ObjectMeta.version same
  cases b with
  | memory m =>
    simp only [apply, MemoryStore.apply, MemoryStore.update] at written
    split at written
    · cases written
    next current _ =>
    split at written <;> cases written
    have key : new.key = r.key := by
      rw [NodeRecord.key, same]
      rfl
    simp only [apply, MemoryStore.apply, MemoryStore.update, key, SortedMap.get?_insert_self, version,
      ne_eq, not_true, if_false]
    exact ⟨_, rfl⟩
  | table t =>
    simp only [apply, TableStore.apply, TableStore.update] at written
    split at written
    · cases written
    split at written <;> cases written
    have key : new.key = r.key := by
      rw [NodeRecord.key, same]
      rfl
    simp only [apply, TableStore.apply, TableStore.update, key, SortedMap.get?_insert_self, version,
      TableStore.rowOf, if_true]
    exact ⟨_, rfl⟩
  | readOnly t => cases written

end Backend

/-- A site whose store has counted so many updates and reports so many conflicts before it does as it
should. -/
def Site.conflicting (inner : Backend) (pending : PendingTracker) (specs : FaultySpecDir)
    (calls conflicts : Nat) : Site where
  store := { inner, conflicts, updateCalls := calls }
  pending := pending
  specs := specs

namespace Prog

variable {α β ε : Type} {s s' : Site}

theorem site_run_bind {p : Prog α} {f : α → Prog β} {a : α} (first : Site.run p s = (some a, s')) :
    Site.run (p.bind f) s = Site.run (f a) s' := by
  simp only [Site.run] at first
  simp only [Site.run, run_bind, first]

theorem site_run_bind_some {p : Prog α} {f : α → Prog β} {b : β}
    (ran : Site.run (p.bind f) s = (some b, s')) :
    ∃ a s₁, Site.run p s = (some a, s₁) ∧ Site.run (f a) s₁ = (some b, s') := by
  cases first : Site.run p s with
  | mk result s₁ =>
    cases result with
    | none =>
      simp only [Site.run] at first ran
      simp [run_bind, first] at ran
    | some a => exact ⟨a, s₁, rfl, (site_run_bind first).symm.trans ran⟩

theorem run_sleep {delay : Delay} {next : (Access.sleep delay).Answer → Prog α} :
    Site.run (.ask (.sleep delay) next) s = Site.run (next ()) s := rfl

section

variable [Retryable ε] {policy : RetryPolicy} {op : Prog (Except ε α)} {left : Nat} {delay : Delay}
  {e : ε}

/-- An attempt that meets no conflict is the last. -/
theorem run_attempts_last {result : Except ε α} (attempt : Site.run op s = (some result, s'))
    (last : ∀ e, result = .error e → Retryable.isConflict e = false) :
    Site.run (attempts policy op left delay) s = (some result, s') := by
  unfold attempts
  rw [site_run_bind attempt]
  cases result with
  | ok a => rfl
  | error e => simp only [last e rfl, Bool.false_eq_true, if_false]; rfl

theorem run_attempts_spent (attempt : Site.run op s = (some (.error e), s'))
    (conflict : Retryable.isConflict e = true) :
    Site.run (attempts policy op 0 delay) s =
      (some (.error (Retryable.exhausted policy.budget e)), s') := by
  unfold attempts
  rw [site_run_bind attempt]
  simp only [conflict, if_true]
  rfl

theorem run_attempts_again (attempt : Site.run op s = (some (.error e), s'))
    (conflict : Retryable.isConflict e = true) {following : Delay}
    (found : policy.next? delay = some following) :
    Site.run (attempts policy op (left + 1) delay) s =
      Site.run (attempts policy op left following) s' := by
  rw [attempts.eq_def, site_run_bind attempt]
  simp only [conflict, if_true, pause]
  rw [run_sleep, found]
  rfl

end

theorem run_read {key : ObjectKey} {wrap : StoreError → ε} {f : Except ε NodeRecord → Prog β}
    {inner : Backend} {pending : PendingTracker} {specs : FaultySpecDir} (calls n : Nat) :
    Site.run (((StoreClient.get key).mapError wrap).bind f)
        (.conflicting inner pending specs calls n) =
      Site.run (f ((inner.get key).mapError wrap)) (.conflicting inner pending specs calls n) := by
  change Site.run (((Prog.done (inner.get key)).mapError wrap).bind f) _ = _
  cases inner.get key <;> rfl

/-- Without conflicts it makes no difference how many updates were counted. -/
theorem run_calls (p : Prog α) (inner : Backend) (pending : PendingTracker) (specs : FaultySpecDir) :
    ∃ result inner' pending' specs' more, ∀ calls,
      Site.run p (.conflicting inner pending specs calls 0) =
        (result, .conflicting inner' pending' specs' (calls + more) 0) := by
  induction p generalizing inner pending specs with
  | done a => exact ⟨some a, inner, pending, specs, 0, fun _ => rfl⟩
  | crash => exact ⟨none, inner, pending, specs, 0, fun _ => rfl⟩
  | ask a next ih =>
    cases a with
    | store a =>
      cases a with
      | get key => exact ih (inner.get key) inner pending specs
      | create r =>
        exact ih (inner.apply (.create r)).1 (inner.apply (.create r)).2 pending specs
      | update r =>
        obtain ⟨result, inner', pending', specs', more, runs⟩ :=
          ih (inner.apply (.update r)).1 (inner.apply (.update r)).2 pending specs
        refine ⟨result, inner', pending', specs', 1 + more, fun calls => ?_⟩
        rw [← Nat.add_assoc]
        exact runs (calls + 1)
      | delete key =>
        exact ih (inner.apply (.delete key)).1 (inner.apply (.delete key)).2 pending specs
    | pending a => exact ih (pending.apply a).1 inner (pending.apply a).2 specs
    | spec a => exact ih (specs.apply a).1 inner pending (specs.apply a).2
    | lock | unlock | sleep => exact ih () inner pending specs

end Prog

/-- Failures of a store are told as such among larger ones. -/
structure Retryable.Wraps {ε : Type} [Retryable ε] (wrap : StoreError → ε) : Prop where
  isConflict : ∀ e, Retryable.isConflict (wrap e) = e.isConflict
  exhausted : ∀ attempts e,
    Retryable.exhausted attempts (wrap e) = wrap (.persistence attempts e.message)

theorem StoreError.wraps_id : Retryable.Wraps (id : StoreError → StoreError) :=
  ⟨fun _ => rfl, fun _ _ => rfl⟩

/-- So many attempts were used up. -/
def Spent {α ε : Type} (wrap : StoreError → ε) (attempts : Nat) (result : Except ε α) : Prop :=
  ∃ last, result = .error (wrap (.persistence attempts last))

/-- An attempt that comes to an update. What it did before can be done again, a refusal ends it, and once
the update is made no conflict ends it. -/
structure Attempt {α ε : Type} [Retryable ε] (op : Prog (Except ε α)) (inner : Backend)
    (specs : FaultySpecDir) (pending : PendingTracker) where
  /-- The tracker at the update. -/
  tracker : PendingTracker
  record : NodeRecord
  next : Except StoreError NodeRecord → Prog (Except ε α)
  wrap : StoreError → ε
  comes : ∀ calls n, Site.run op (.conflicting inner pending specs calls n) =
    Site.run (.ask (.store (.update record)) next) (.conflicting inner tracker specs calls n)
  again : ∀ calls n, Site.run op (.conflicting inner tracker specs calls n) =
    Site.run (.ask (.store (.update record)) next) (.conflicting inner tracker specs calls n)
  refused : ∀ e, next (.error e) = .done (.error (wrap e))
  wraps : Retryable.Wraps wrap
  settled : ∀ {stored inner'}, inner.apply (.update record) = (.ok stored, inner') →
    ∀ {calls e s}, Site.run (next (.ok stored)) (.conflicting inner' tracker specs calls 0) =
      (some (.error e), s) → Retryable.isConflict e = false

namespace Attempt

variable {α ε : Type} [Retryable ε] {op : Prog (Except ε α)} {inner : Backend}
  {specs : FaultySpecDir} {pending : PendingTracker}

/-- The attempt after one that was refused. -/
def anew (t : Attempt op inner specs pending) : Attempt op inner specs t.tracker :=
  { t with comes := t.again }

/-- The refusal of an attempt for a conflict that was planned. -/
def refusal (t : Attempt op inner specs pending) : ε :=
  t.wrap (.conflict t.record.key t.record.version (t.record.version + 1))

/-- An attempt whose update is refused has counted one update and changed nothing else that matters. -/
theorem run_refused (t : Attempt op inner specs pending) (calls n : Nat) :
    Site.run op (.conflicting inner pending specs calls (n + 1)) =
      (some (.error t.refusal), .conflicting inner t.tracker specs (calls + 1) n) := by
  rw [t.comes]
  change Site.run (t.next (.error _)) _ = _
  rw [t.refused]
  rfl

theorem run_anew (t : Attempt op inner specs pending) (calls n : Nat) :
    Site.run op (.conflicting inner t.tracker specs calls n) =
      Site.run op (.conflicting inner pending specs calls n) :=
  (t.again calls n).trans (t.comes calls n).symm

theorem refusal_isConflict (t : Attempt op inner specs pending) :
    Retryable.isConflict t.refusal = true := t.wraps.isConflict _

/-- Attempts that succeed do so at once when no conflicts are planned. -/
def Succeeds (op : Prog (Except ε α)) (inner : Backend) (specs : FaultySpecDir)
    (pending : PendingTracker) : Prop :=
  ∀ calls, ∃ a s, Site.run op (.conflicting inner pending specs calls 0) = (some (.ok a), s)

variable {policy : RetryPolicy}

theorem run_update (t : Attempt op inner specs pending) {answer : Except StoreError NodeRecord}
    {inner' : Backend} (answered : inner.apply (.update t.record) = (answer, inner')) (calls : Nat) :
    Site.run op (.conflicting inner pending specs calls 0) =
      Site.run (t.next answer) (.conflicting inner' t.tracker specs (calls + 1) 0) := by
  rw [t.comes]
  change Site.run (t.next (inner.apply (.update t.record)).1)
    (.conflicting (inner.apply (.update t.record)).2 t.tracker specs (calls + 1) 0) = _
  rw [answered]

theorem run_failed (t : Attempt op inner specs pending) {cause : StoreError} {inner' : Backend}
    (fails : inner.apply (.update t.record) = (.error cause, inner')) (calls : Nat) :
    Site.run op (.conflicting inner pending specs calls 0) =
      (some (.error (t.wrap cause)), .conflicting inner t.tracker specs (calls + 1) 0) := by
  obtain rfl := Backend.update_error fails
  rw [t.run_update fails, t.refused]
  rfl

/-- An update that fails on its own account fails in every attempt. -/
theorem not_ok (t : Attempt op inner specs pending) {cause : StoreError} {inner' : Backend}
    (fails : inner.apply (.update t.record) = (.error cause, inner')) {left : Nat} {delay : Delay}
    (lasts : policy.Lasts left delay) {calls : Nat} {a : α} {s : Site} :
    Site.run (Prog.attempts policy op left delay) (.conflicting inner pending specs calls 0) ≠
      (some (.ok a), s) := by
  by_cases conflict : Retryable.isConflict (t.wrap cause) = true
  · induction left generalizing pending delay calls with
    | zero =>
      rw [Prog.run_attempts_spent (t.run_failed fails calls) conflict]
      nofun
    | succ left ih =>
      obtain ⟨following, found, lasts⟩ := lasts
      rw [Prog.run_attempts_again (t.run_failed fails calls) conflict found]
      exact ih t.anew fails lasts conflict
  · rw [Prog.run_attempts_last (t.run_failed fails calls) (by rintro _ ⟨⟩; simpa using conflict)]
    nofun

/-- A repetition that succeeds without conflicts makes an attempt whose update is accepted. -/
theorem succeeds_of_run (t : Attempt op inner specs pending) {left : Nat} {delay : Delay}
    (lasts : policy.Lasts left delay) {calls : Nat} {a : α} {s : Site}
    (ran : Site.run (Prog.attempts policy op left delay) (.conflicting inner pending specs calls 0) =
      (some (.ok a), s)) : Succeeds op inner specs pending := by
  obtain ⟨result, inner₁, pending₁, specs₁, more, runs⟩ := Prog.run_calls op inner pending specs
  suffices ∃ a, result = some (.ok a) by
    obtain ⟨a, rfl⟩ := this
    exact fun calls => ⟨a, _, runs calls⟩
  cases answer : inner.apply (.update t.record) with
  | mk stored inner' =>
    cases stored with
    | error cause => exact absurd ran (t.not_ok answer lasts)
    | ok stored =>
      cases result with
      | none =>
        unfold Prog.attempts at ran
        obtain ⟨_, _, first, _⟩ := Prog.site_run_bind_some ran
        cases first.symm.trans (runs calls)
      | some result =>
        cases result with
        | ok a => exact ⟨a, rfl⟩
        | error e =>
          have last := t.settled answer ((t.run_update answer calls).symm.trans (runs calls))
          rw [Prog.run_attempts_last (runs calls) (by rintro _ ⟨⟩; exact last)] at ran
          cases ran

/-- Conflicts that are no more than the attempts left only add to the updates that are counted. -/
theorem run_within (t : Attempt op inner specs pending) (succeeds : Succeeds op inner specs pending)
    {left : Nat} {delay : Delay} (lasts : policy.Lasts left delay) {n : Nat} (within : n ≤ left)
    (calls : Nat) :
    Site.run (Prog.attempts policy op left delay) (.conflicting inner pending specs calls n) =
      Site.run op (.conflicting inner pending specs (calls + n) 0) := by
  induction n generalizing pending left delay calls with
  | zero =>
    obtain ⟨a, s, ran⟩ := succeeds calls
    rw [Nat.add_zero, ran]
    exact Prog.run_attempts_last ran nofun
  | succ n ih =>
    cases left with
    | zero => exact absurd within (Nat.not_succ_le_zero n)
    | succ left =>
      obtain ⟨following, found, lasts⟩ := lasts
      have again : Succeeds op inner specs t.tracker := by
        intro calls
        rw [t.run_anew]
        exact succeeds calls
      rw [Prog.run_attempts_again (t.run_refused calls n) t.refusal_isConflict found,
        ih t.anew again lasts (Nat.le_of_succ_le_succ within), t.run_anew]
      congr 2
      omega

/-- More conflicts than attempts left use the attempts up. -/
theorem run_beyond (t : Attempt op inner specs pending) {left : Nat} {delay : Delay}
    (lasts : policy.Lasts left delay) {n : Nat} (beyond : left < n) (calls : Nat) :
    Site.run (Prog.attempts policy op left delay) (.conflicting inner pending specs calls n) =
      (some (.error (Retryable.exhausted policy.budget t.refusal)),
        .conflicting inner t.tracker specs (calls + (left + 1)) (n - (left + 1))) := by
  induction left generalizing pending n delay calls with
  | zero =>
    obtain ⟨n, rfl⟩ := Nat.exists_eq_add_of_lt beyond
    rw [Nat.zero_add]
    exact Prog.run_attempts_spent (t.run_refused calls n) t.refusal_isConflict
  | succ left ih =>
    obtain ⟨m, rfl⟩ : ∃ m, n = m + 1 := ⟨n - 1, by omega⟩
    obtain ⟨following, found, lasts⟩ := lasts
    rw [Prog.run_attempts_again (t.run_refused calls m) t.refusal_isConflict found,
      ih t.anew lasts (Nat.lt_of_succ_lt_succ beyond)]
    refine Prod.ext rfl ?_
    change Site.conflicting inner t.tracker specs _ _ = _
    congr 1 <;> omega

/-- An attempt that begins with its update. -/
def write {wrap : StoreError → ε} (wraps : Retryable.Wraps wrap)
    {r : NodeRecord} {f : NodeRecord → Prog (Except ε α)}
    (settled : ∀ {stored inner'}, inner.apply (.update r) = (.ok stored, inner') → ∀ {calls e s},
      Site.run (f stored) (.conflicting inner' pending specs calls 0) = (some (.error e), s) →
        Retryable.isConflict e = false) :
    Attempt (((Prog.store (.update r)).mapError wrap).thenOk f) inner specs pending where
  tracker := pending
  record := r
  next answer := ((Prog.done answer).mapError wrap).thenOk f
  wrap := wrap
  comes _ _ := rfl
  again _ _ := rfl
  refused _ := rfl
  wraps := wraps
  settled := settled

/-- An attempt that runs as another one does. -/
def of_run {op' : Prog (Except ε α)} (t : Attempt op' inner specs pending)
    (unchanged : t.tracker = pending)
    (same : ∀ calls n, Site.run op (.conflicting inner pending specs calls n) =
      Site.run op' (.conflicting inner pending specs calls n)) : Attempt op inner specs pending :=
  { t with
    comes := fun calls n => (same calls n).trans (t.comes calls n)
    again := fun calls n => by rw [unchanged, same calls n, t.comes calls n, unchanged] }

end Attempt

namespace Prog

variable {α β ε : Type} {inner : Backend} {specs specs' : FaultySpecDir}
  {pending pending' : PendingTracker}

/-- Planned conflicts that are fewer than the attempts only add to the counted updates; with as many or
more a program fails and leaves the store as it was. -/
def Weathers (budget : Nat) (failed : β → Prop) (p : Prog β) (inner : Backend)
    (pending : PendingTracker) (specs : FaultySpecDir) : Prop :=
  ∀ calls n,
    (n < budget → Site.run p (.conflicting inner pending specs calls n) =
      Site.run p (.conflicting inner pending specs (calls + n) 0)) ∧
    (budget ≤ n → ∃ b s, Site.run p (.conflicting inner pending specs calls n) = (some b, s) ∧
      failed b ∧ s.store.inner = inner ∧ s.store.updateCalls = calls + budget)

namespace Weathers

variable {budget : Nat} {failed : β → Prop}

theorem of_run {p p' : Prog β}
    (same : ∀ calls n, Site.run p (.conflicting inner pending specs calls n) =
      Site.run p' (.conflicting inner pending' specs' calls n))
    (weathers : p'.Weathers budget failed inner pending' specs') :
    p.Weathers budget failed inner pending specs := by
  intro calls n
  rw [same, same]
  exact weathers calls n

/-- If what follows a failure leaves the store alone, a program weathers conflicts also with what
follows it. -/
theorem bind {failed : α → Prop} {failed' : β → Prop} {p : Prog α} {f : α → Prog β}
    (weathers : p.Weathers budget failed inner pending specs)
    (after : ∀ a s, failed a → ∃ b s', Site.run (f a) s = (some b, s') ∧ failed' b ∧
      s'.store = s.store) : (p.bind f).Weathers budget failed' inner pending specs := by
  intro calls n
  obtain ⟨within, beyond⟩ := weathers calls n
  refine ⟨fun few => ?_, fun many => ?_⟩
  · have same := within few
    simp only [Site.run] at same
    simp only [Site.run, run_bind, same]
  · obtain ⟨a, s, ran, fails, kept, counted⟩ := beyond many
    obtain ⟨b, s', ran', fails', store⟩ := after a s fails
    exact ⟨b, s', (site_run_bind ran).trans ran', fails', store ▸ kept, store ▸ counted⟩

end Weathers

end Prog

/-- A repeated attempt weathers as many conflicts as it has attempts. -/
theorem Attempt.retry_weathers {α ε : Type} [Retryable ε] {op : Prog (Except ε α)} {inner : Backend}
    {specs : FaultySpecDir} {pending : PendingTracker} (t : Attempt op inner specs pending)
    {policy : RetryPolicy} (steady : policy.Steady) {calls : Nat} {a : α} {s : Site}
    (ran : Site.run (Prog.retry policy op) (.conflicting inner pending specs calls 0) =
      (some (.ok a), s)) :
    (Prog.retry policy op).Weathers policy.budget (Spent t.wrap policy.budget) inner pending specs := by
  have positive : 0 < policy.budget := Nat.lt_of_lt_of_le Nat.one_pos (Nat.le_max_right ..)
  have succeeds := t.succeeds_of_run steady ran
  intro calls n
  refine ⟨fun few => ?_, fun many => ?_⟩
  · rw [Prog.retry, t.run_within succeeds steady (by omega), t.run_within succeeds steady (by omega)]
    rfl
  · refine ⟨_, _, t.run_beyond steady (by omega) calls,
      ⟨_, congrArg _ (t.wraps.exhausted _ _)⟩, rfl, ?_⟩
    change calls + (policy.budget - 1 + 1) = _
    omega

/-- Attempts that succeed have read the record that they begin with. -/
theorem Prog.read_of_retry {α ε : Type} [Retryable ε] {policy : RetryPolicy} {inner : Backend}
    {pending : PendingTracker} {specs : FaultySpecDir} {key : ObjectKey} {wrap : StoreError → ε}
    (wraps : Retryable.Wraps wrap) {f : NodeRecord → Prog (Except ε α)} {calls : Nat} {a : α} {s : Site}
    (ran : Site.run (.retry policy (((StoreClient.get key).mapError wrap).thenOk f))
      (.conflicting inner pending specs calls 0) = (some (.ok a), s)) :
    ∃ r, inner.get key = .ok r ∧ ∀ pending calls n,
      Site.run (((StoreClient.get key).mapError wrap).thenOk f)
          (.conflicting inner pending specs calls n) =
        Site.run (f r) (.conflicting inner pending specs calls n) := by
  have read : ∀ pending calls n, Site.run (((StoreClient.get key).mapError wrap).thenOk f)
      (.conflicting inner pending specs calls n) = _ := fun _ calls n => run_read calls n
  cases found : inner.get key with
  | error e =>
    have failed := read pending calls 0
    rw [found] at failed
    rw [retry, run_attempts_last failed] at ran
    · cases ran
    · rintro _ ⟨⟩
      exact (wraps.isConflict e).trans (Backend.get_isConflict found)
  | ok r =>
    refine ⟨r, rfl, fun pending calls n => (read pending calls n).trans ?_⟩
    rw [found]
    rfl

/-- Attempts to change a record weather planned conflicts. -/
theorem Prog.modify_weathers {α ε : Type} [Retryable ε] {policy : RetryPolicy} (steady : policy.Steady)
    {inner : Backend} {pending : PendingTracker} {specs : FaultySpecDir} {key : ObjectKey}
    {wrap : StoreError → ε} (wraps : Retryable.Wraps wrap)
    {change : NodeRecord → NodeRecord} {result : NodeRecord → α} {calls : Nat} {a : α} {s : Site}
    (ran : Site.run (.retry policy (((StoreClient.get key).mapError wrap).thenOk fun r =>
      ((Prog.store (.update (change r))).mapError wrap).thenOk fun r' => .done (.ok (result r'))))
      (.conflicting inner pending specs calls 0) = (some (.ok a), s)) :
    (Prog.retry policy (((StoreClient.get key).mapError wrap).thenOk fun r =>
      ((Prog.store (.update (change r))).mapError wrap).thenOk fun r' =>
        .done (.ok (result r')))).Weathers policy.budget (Spent wrap policy.budget)
      inner pending specs := by
  obtain ⟨r, _, reads⟩ := read_of_retry wraps ran
  let writes : Attempt (((Prog.store (.update (change r))).mapError wrap).thenOk fun r' =>
      .done (.ok (result r'))) inner specs pending :=
    .write wraps fun _ _ _ _ failed => by cases failed
  exact (writes.of_run rfl (reads pending)).retry_weathers steady ran

end DeviceClaims
