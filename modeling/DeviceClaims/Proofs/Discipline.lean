import DeviceClaims.Proofs.Machine

namespace DeviceClaims

namespace World

@[simp] theorem record_put_self (w : World) (r : NodeRecord) : (w.put r).record r.key = some r :=
  SortedMap.get?_insert_self ..

theorem record_put_ne (w : World) (r : NodeRecord) {key : ObjectKey} (apart : r.key ≠ key) :
    (w.put r).record key = w.record key :=
  SortedMap.get?_insert_ne _ apart _

/-- A write replaces the record under one key and no other. -/
theorem record_put (w : World) (r : NodeRecord) (key : ObjectKey) :
    (w.put r).record key = if r.key = key then some r else w.record key := by
  split
  · next same => rw [← same, record_put_self]
  · next apart => exact record_put_ne w r apart

theorem WellKeyed.put {w : World} (wellKeyed : w.WellKeyed) (r : NodeRecord) : (w.put r).WellKeyed := by
  intro key r' at_key
  rw [record_put] at at_key
  split at at_key
  · next same => cases at_key; exact same
  · exact wellKeyed key r' at_key

theorem writes_put_self (w : World) (r : NodeRecord) :
    (w.put r).writes r.key = w.writes r.key + 1 := Function.update_self ..

theorem writes_put_ne (w : World) (r : NodeRecord) {key : ObjectKey} (apart : r.key ≠ key) :
    (w.put r).writes key = w.writes key := Function.update_of_ne apart.symm ..

/-- A record replaced by one of the next version is all that anyone sees of a write. -/
theorem Leaves.put (call : Nat) {w : World} {r cur : NodeRecord} (at_key : w.record r.key = some cur)
    (counts : r.version = cur.version + 1) : w.Leaves call (w.put r) := by
  refine ⟨fun key r' at_r' => ?_, fun _ held => held, fun _ _ busy => busy⟩
  by_cases same : r.key = key
  · subst same
    cases at_key.symm.trans at_r'
    exact ⟨r, 1, record_put_self w r, writes_put_self w r, counts, nofun⟩
  · exact ⟨r', 0, (record_put_ne w r same).trans at_r', writes_put_ne w r same, .refl r'⟩

/-- A record made where there was none takes no version back. -/
theorem Leaves.put_new (call : Nat) {w : World} {r : NodeRecord} (absent : w.record r.key = none) :
    w.Leaves call (w.put r) := by
  refine ⟨fun key r' at_r' => ?_, fun _ held => held, fun _ _ busy => busy⟩
  have apart : r.key ≠ key := by
    rintro rfl
    cases absent.symm.trans at_r'
  exact ⟨r', 0, (record_put_ne w r apart).trans at_r', writes_put_ne w r apart, .refl r'⟩

end World

/-- What is always true, what a call relies on, and what its moves promise. If the programs of all calls
meet a discipline, every machine made of them keeps it. -/
structure Discipline where
  inv : World → Prop
  rely : Nat → World → World → Prop
  promise : Nat → Operation → World → World → Prop := fun _ _ _ _ => True
  rely_refl : ∀ call w, rely call w w
  rely_trans : ∀ {call u v w}, rely call u v → rely call v w → rely call u w
  promise_refl : ∀ call op w, promise call op w w := by intros; trivial

namespace Discipline

/-- What a call may find later in place of a world. -/
structure Later (D : Discipline) (call : Nat) (w w' : World) : Prop where
  leaves : w.Leaves call w'
  rely : D.rely call w w'
  wellKeyed : w'.WellKeyed
  inv : D.inv w'

/-- What a move of a call may make of a world. -/
structure Allows (D : Discipline) (call : Nat) (op : Operation) (w w' : World) : Prop where
  leaves : ∀ other, other ≠ call → w.Leaves other w'
  rely : ∀ other, other ≠ call → D.rely other w w'
  wellKeyed : w'.WellKeyed
  inv : D.inv w'
  promise : D.promise call op w w'

/-- The part of a move that is the discipline's own. -/
structure Permits (D : Discipline) (call : Nat) (op : Operation) (w w' : World) : Prop where
  rely : ∀ other, other ≠ call → D.rely other w w'
  inv : D.inv w'
  promise : D.promise call op w w'

/-- Every access of a program that is left of a call is allowed, and what it stops with satisfies a
condition, also later. -/
def Meets (D : Discipline) (S : Setting) (call : Nat) (op : Operation) {α : Type}
    (post : α → World → Prop) : Prog α → World → Prop
  | .done a, w => ∀ w', D.Later call w w' → post a w'
  | .crash, _ => True
  | .ask a next, w => ∀ w', D.Later call w w' → S.mayStep op w' → ∀ answer w'',
      w'.Answers S.faulty call op a answer w'' →
        D.Allows call op w' w'' ∧ D.Meets S call op post (next answer) w''

def Stable (D : Discipline) (call : Nat) (A : World → Prop) : Prop :=
  ∀ w w', D.Later call w w' → A w → A w'

/-- A condition on what a program stops with, and another one for all failures. -/
def outcome {α ε : Type} (ok : α → World → Prop) (failed : World → Prop) :
    Except ε α → World → Prop
  | .ok a, w => ok a w
  | .error _, w => failed w

variable {D : Discipline} {S : Setting} {call : Nat} {op : Operation} {α β ε : Type}

theorem Later.trans {u v w : World} (first : D.Later call u v) (last : D.Later call v w) :
    D.Later call u w :=
  ⟨first.leaves.trans last.leaves, D.rely_trans first.rely last.rely, last.wellKeyed, last.inv⟩

theorem Later.refl_right {w w' : World} (later : D.Later call w w') : D.Later call w' w' :=
  ⟨.refl call w', D.rely_refl call w', later.wellKeyed, later.inv⟩

theorem Later.refl {w : World} (wellKeyed : w.WellKeyed) (inv : D.inv w) : D.Later call w w :=
  ⟨.refl call w, D.rely_refl call w, wellKeyed, inv⟩

/-- What a move of another call makes of a world may be found later. -/
theorem Allows.later_of_ne {other : Nat} {w w' : World} (allows : D.Allows call op w w')
    (apart : other ≠ call) : D.Later other w w' :=
  ⟨allows.leaves other apart, allows.rely other apart, allows.wellKeyed, allows.inv⟩

theorem Allows.refl {w : World} (wellKeyed : w.WellKeyed) (inv : D.inv w) : D.Allows call op w w :=
  ⟨fun other _ => .refl other w, fun other _ => D.rely_refl other w, wellKeyed, inv,
    D.promise_refl call op w⟩

theorem Later.allows_refl {w w' : World} (later : D.Later call w w') : D.Allows call op w' w' :=
  .refl later.wellKeyed later.inv

/-- The own part of a move suffices if it touches neither records nor locks nor plugins. -/
theorem Permits.allows_of_same {w w' : World} (permits : D.Permits call op w w') (wellKeyed : w.WellKeyed)
    (records : ∀ key, w'.record key = w.record key) (writes : w'.writes = w.writes)
    (holder : ∀ node other, other ≠ call → w.holder node = some other → w'.holder node = some other)
    (plugins : ∀ key other preparing, other ≠ call → w.plugins key = .busy other preparing →
      w'.plugins key = .busy other preparing) : D.Allows call op w w' where
  leaves other apart :=
    ⟨fun key r at_key => ⟨r, 0, (records key).trans at_key, congrFun writes key, .refl r⟩,
      fun node held => holder node other apart held,
      fun key preparing busy => plugins key other preparing apart busy⟩
  rely := permits.rely
  wellKeyed key r at_key := wellKeyed key r ((records key).symm.trans at_key)
  inv := permits.inv
  promise := permits.promise

/-- To write the next version of a record is allowed if the discipline permits it. -/
theorem Permits.allows_put {w : World} {r cur : NodeRecord} (permits : D.Permits call op w (w.put r))
    (at_key : w.record r.key = some cur) (counts : r.version = cur.version + 1)
    (wellKeyed : w.WellKeyed) : D.Allows call op w (w.put r) :=
  ⟨fun other _ => .put other at_key counts, permits.rely, wellKeyed.put r, permits.inv, permits.promise⟩

theorem Permits.allows_put_new {w : World} {r : NodeRecord} (permits : D.Permits call op w (w.put r))
    (absent : w.record r.key = none) (wellKeyed : w.WellKeyed) : D.Allows call op w (w.put r) :=
  ⟨fun other _ => .put_new other absent, permits.rely, wellKeyed.put r, permits.inv, permits.promise⟩

namespace Meets

variable {post : α → World → Prop} {p : Prog α} {w w' : World}

theorem mono (meets : D.Meets S call op post p w) (later : D.Later call w w') :
    D.Meets S call op post p w' := by
  cases p with
  | done a => exact fun v after => meets v (later.trans after)
  | crash => trivial
  | ask a next => exact fun v after may answer v' => meets v (later.trans after) may answer v'

theorem of_later (h : ∀ w', D.Later call w w' → D.Meets S call op post p w') :
    D.Meets S call op post p w := by
  cases p with
  | done a => exact fun v later => h v later v later.refl_right
  | crash => trivial
  | ask a next => exact fun v later => h v later v later.refl_right

theorem weaken {other : α → World → Prop} (meets : D.Meets S call op post p w)
    (implies : ∀ a w', post a w' → other a w') : D.Meets S call op other p w := by
  induction p generalizing w with
  | done a => exact fun v later => implies a v (meets v later)
  | crash => trivial
  | ask a next ih =>
    intro v later may answer v' answers
    obtain ⟨allows, rest⟩ := meets v later may answer v' answers
    exact ⟨allows, ih answer rest⟩

theorem and_inv (meets : D.Meets S call op post p w) :
    D.Meets S call op (fun a w' => post a w' ∧ D.inv w') p w := by
  induction p generalizing w with
  | done a => exact fun v later => ⟨meets v later, later.inv⟩
  | crash => trivial
  | ask a next ih =>
    intro v later may answer v' answers
    obtain ⟨allows, rest⟩ := meets v later may answer v' answers
    exact ⟨allows, ih answer rest⟩

/-- Two programs in a row meet what the second meets from wherever the first may stop. -/
theorem bind {post : β → World → Prop} {f : α → Prog β}
    (meets : D.Meets S call op (fun a w' => D.Meets S call op post (f a) w') p w) :
    D.Meets S call op post (p.bind f) w := by
  induction p generalizing w with
  | done a => exact of_later meets
  | crash => trivial
  | ask a next ih =>
    intro v later may answer v' answers
    obtain ⟨allows, rest⟩ := meets v later may answer v' answers
    exact ⟨allows, ih answer rest⟩

theorem thenOk {p : Prog (Except ε α)} {f : α → Prog (Except ε β)}
    {post : Except ε β → World → Prop}
    (meets : D.Meets S call op (outcome (fun a w' => D.Meets S call op post (f a) w')
      fun w' => ∀ e, D.Meets S call op post (.done (.error e)) w') p w) :
    D.Meets S call op post (p.thenOk f) w := by
  refine bind (weaken meets fun result w' reached => ?_)
  cases result with
  | ok a => exact reached
  | error e => exact reached e

/-- A read finds the record that is there when it is served, or that there is none. -/
theorem ask_get {key : ObjectKey} {next : Except StoreError NodeRecord → Prog α}
    (found : ∀ w', D.Later call w w' → ∀ r, w'.record key = some r →
      D.Meets S call op post (next (.ok r)) w')
    (missing : ∀ w', D.Later call w w' → w'.record key = none →
      D.Meets S call op post (next (.error (.notFound key))) w') :
    D.Meets S call op post (.ask (.store (.get key)) next) w := by
  intro v later _ answer v' answers
  cases answers with
  | store _ _ =>
    refine ⟨later.allows_refl, ?_⟩
    simp only [MemoryStore.apply, MemoryStore.get]
    cases at_key : v.store.records.get? key with
    | some r => exact found v later r at_key
    | none => exact missing v later at_key

/-- An update replaces a record of the version it names by one of the next, or changes nothing. Updates
of records that have been written 2^64 times are left out. -/
theorem ask_update {r : NodeRecord} {next : Except StoreError NodeRecord → Prog α}
    (written : ∀ w', D.Later call w w' → S.mayStep op w' → ∀ cur, w'.record r.key = some cur →
      cur.version = r.version → w'.writes r.key < 2 ^ 64 →
      D.Permits call op w' (w'.put (r.withVersion (cur.version + 1))) ∧
        D.Meets S call op post (next (.ok (r.withVersion (cur.version + 1))))
          (w'.put (r.withVersion (cur.version + 1))))
    (refused : ∀ w', D.Later call w w' → ∀ e, D.Meets S call op post (next (.error e)) w') :
    D.Meets S call op post (.ask (.store (.update r)) next) w := by
  intro v later may answer v' answers
  cases answers with
  | conflict _ actual => exact ⟨later.allows_refl, refused v later _⟩
  | store _ fresh =>
    cases at_key : v.store.records.get? r.key with
    | none =>
      simp only [World.access, MemoryStore.apply, MemoryStore.update, at_key]
      exact ⟨later.allows_refl, refused v later _⟩
    | some cur =>
      by_cases same : cur.version = r.version
      · have seldom : v.writes r.key < 2 ^ 64 := Nat.lt_of_not_le fun often => fresh ⟨r, rfl, often⟩
        obtain ⟨permits, rest⟩ := written v later may cur at_key same seldom
        simp only [World.access, MemoryStore.apply, MemoryStore.update, at_key, same, ne_eq, not_true,
          if_false]
        rw [same] at permits rest
        exact ⟨permits.allows_put at_key (congrArg (· + 1) same.symm) later.wellKeyed, rest⟩
      · simp only [World.access, MemoryStore.apply, MemoryStore.update, at_key, same, ne_eq,
          not_false_eq_true, if_true]
        exact ⟨later.allows_refl, refused v later _⟩

/-- A record is made at version one if there is none, or nothing is changed. -/
theorem ask_create {r : NodeRecord} {next : Except StoreError NodeRecord → Prog α}
    (made : ∀ w', D.Later call w w' → S.mayStep op w' → w'.record r.key = none →
      D.Permits call op w' (w'.put (r.withVersion 1)) ∧
        D.Meets S call op post (next (.ok (r.withVersion 1))) (w'.put (r.withVersion 1)))
    (refused : ∀ w', D.Later call w w' → ∀ e, D.Meets S call op post (next (.error e)) w') :
    D.Meets S call op post (.ask (.store (.create r)) next) w := by
  intro v later may answer v' answers
  cases answers with
  | store _ _ =>
    cases at_key : v.store.records.get? r.key with
    | some cur =>
      simp only [World.access, MemoryStore.apply, MemoryStore.create, SortedMap.contains, at_key,
        Option.isSome_some, if_true]
      exact ⟨later.allows_refl, refused v later _⟩
    | none =>
      obtain ⟨permits, rest⟩ := made v later may at_key
      simp only [World.access, MemoryStore.apply, MemoryStore.create, SortedMap.contains, at_key,
        Option.isSome_none, Bool.false_eq_true, if_false]
      exact ⟨permits.allows_put_new at_key later.wellKeyed, rest⟩

theorem ask_pendingGet {claim : ClaimUid} {node : String}
    {next : Option (List AllocatedDevice) → Prog α}
    (read : ∀ w', D.Later call w w' →
      D.Meets S call op post (next (w'.pending.get? claim node)) w') :
    D.Meets S call op post (.ask (.pending (.get claim node)) next) w := by
  intro v later _ answer v' answers
  cases answers with
  | pending _ => exact ⟨later.allows_refl, read v later⟩

/-- The claims with devices set aside may be listed in any order. -/
theorem ask_pendingClaims {next : List ClaimUid → Prog α}
    (read : ∀ w', D.Later call w w' → ∀ l : List ClaimUid, l.Perm w'.pending.claims.keys →
      D.Meets S call op post (next l) w') :
    D.Meets S call op post (.ask (.pending .claims) next) w := by
  intro v later _ answer v' answers
  cases answers with
  | pending _ => exact ⟨later.allows_refl, read v later _ (.refl _)⟩
  | claims _ same => exact ⟨later.allows_refl, read v later _ same⟩

theorem ask_pendingSet {claim : ClaimUid} {node : String} {devices : List AllocatedDevice}
    {next : Unit → Prog α}
    (changed : ∀ w', D.Later call w w' →
      D.Permits call op w' (w'.setPending (w'.pending.set claim node devices)) ∧
        D.Meets S call op post (next ()) (w'.setPending (w'.pending.set claim node devices))) :
    D.Meets S call op post (.ask (.pending (.set claim node devices)) next) w := by
  intro v later _ answer v' answers
  cases answers with
  | pending _ =>
    obtain ⟨permits, rest⟩ := changed v later
    exact ⟨permits.allows_of_same later.wellKeyed (fun _ => rfl) rfl (fun _ _ _ held => held)
      fun _ _ _ _ busy => busy, rest⟩

theorem ask_pendingRemove {claim : ClaimUid} {next : Unit → Prog α}
    (changed : ∀ w', D.Later call w w' →
      D.Permits call op w' (w'.setPending (w'.pending.remove claim)) ∧
        D.Meets S call op post (next ()) (w'.setPending (w'.pending.remove claim))) :
    D.Meets S call op post (.ask (.pending (.remove claim)) next) w := by
  intro v later _ answer v' answers
  cases answers with
  | pending _ =>
    obtain ⟨permits, rest⟩ := changed v later
    exact ⟨permits.allows_of_same later.wellKeyed (fun _ => rfl) rfl (fun _ _ _ held => held)
      fun _ _ _ _ busy => busy, rest⟩

/-- A request to the directory of the call's own plugin is answered by it, or fails where it may. -/
theorem ask_spec {a : SpecAccess} {next : Except String Unit → Prog α}
    (answered : ∀ w', D.Later call w w' → ∀ key, op.takes = some key →
      D.Permits call op w' (w'.setSpecs key ((w'.specs key).apply a).2) ∧
        D.Meets S call op post (next ((w'.specs key).apply a).1)
          (w'.setSpecs key ((w'.specs key).apply a).2))
    (failed : ∀ w', D.Later call w w' → S.faulty → ∀ detail,
      D.Meets S call op post (next (.error detail)) w') :
    D.Meets S call op post (.ask (.spec a) next) w := by
  intro v later _ answer v' answers
  cases answers with
  | spec _ key own =>
    obtain ⟨permits, rest⟩ := answered v later key own
    exact ⟨permits.allows_of_same later.wellKeyed (fun _ => rfl) rfl (fun _ _ _ held => held)
      fun _ _ _ _ busy => busy, rest⟩
  | specFault _ detail may => exact ⟨later.allows_refl, failed v later may detail⟩

theorem ask_sleep {delay : Delay} {next : Unit → Prog α}
    (woken : ∀ w', D.Later call w w' → D.Meets S call op post (next ()) w') :
    D.Meets S call op post (.ask (.sleep delay) next) w := by
  intro v later _ answer v' answers
  cases answers with
  | sleep _ => exact ⟨later.allows_refl, woken v later⟩

/-- A lock is taken when nobody holds it; until then the others go on. -/
theorem ask_lock {node : String} {next : Unit → Prog α}
    (taken : ∀ w', D.Later call w w' → w'.holder node = none →
      D.Permits call op w' (w'.setHolder node (some call)) ∧
        D.Meets S call op post (next ()) (w'.setHolder node (some call))) :
    D.Meets S call op post (.ask (.lock node) next) w := by
  intro v later _ answer v' answers
  cases answers with
  | lock _ isFree =>
    obtain ⟨permits, rest⟩ := taken v later isFree
    refine ⟨permits.allows_of_same later.wellKeyed (fun _ => rfl) rfl (fun other held _ at_other => ?_)
      fun _ _ _ _ busy => busy, rest⟩
    have apart : other ≠ node := by rintro rfl; simp [isFree] at at_other
    exact (Function.update_of_ne apart _ _).trans at_other

theorem ask_unlock {node : String} {next : Unit → Prog α}
    (freed : ∀ w', D.Later call w w' → w'.holder node = some call →
      D.Permits call op w' (w'.setHolder node none) ∧
        D.Meets S call op post (next ()) (w'.setHolder node none)) :
    D.Meets S call op post (.ask (.unlock node) next) w := by
  intro v later _ answer v' answers
  cases answers with
  | unlock _ own =>
    obtain ⟨permits, rest⟩ := freed v later own
    refine ⟨permits.allows_of_same later.wellKeyed (fun _ => rfl) rfl (fun other held apart at_other => ?_)
      fun _ _ _ _ busy => busy, rest⟩
    have unlike : other ≠ node := by
      rintro rfl
      exact apart (Option.some.inj (at_other.symm.trans own))
    exact (Function.update_of_ne unlike _ _).trans at_other

theorem resume {next : Delay → Prog α} (following : Option Delay)
    (woken : ∀ delay, D.Meets S call op post (next delay) w) :
    D.Meets S call op post (Prog.resume next following) w := by
  cases following with
  | none => trivial
  | some delay => exact woken delay

theorem pause {policy : RetryPolicy} {delay : Delay} {next : Delay → Prog α}
    (woken : ∀ w', D.Later call w w' → ∀ delay, D.Meets S call op post (next delay) w') :
    D.Meets S call op post (Prog.pause policy delay next) w :=
  ask_sleep fun v later => resume _ (woken v later)

/-- Attempts may be repeated if each of them can be made after any that failed. What comes of them all
is what comes of one, whose failure may be the last of many. -/
theorem attempts [Retryable ε] {policy : RetryPolicy} {p : Prog (Except ε α)}
    {post : Except ε α → World → Prop} {ready : World → Prop} (stable : ∀ result, D.Stable call (post result))
    (readyStable : D.Stable call ready)
    (exhausted : ∀ n e w', post (.error e) w' → post (.error (Retryable.exhausted n e)) w')
    (attempt : ∀ w', ready w' →
      D.Meets S call op (fun result w'' => post result w'' ∧ ∀ e, result = .error e → ready w'') p w')
    (left : Nat) (delay : Delay) (first : ready w) :
    D.Meets S call op post (Prog.attempts policy p left delay) w := by
  induction left generalizing w delay with
  | zero =>
    unfold Prog.attempts
    refine bind (weaken (attempt w first) fun result w' reached => ?_)
    cases result with
    | ok a => exact fun v later => stable _ w' v later reached.1
    | error e =>
      dsimp only
      split
      · exact fun v later => stable _ w' v later (exhausted _ e w' reached.1)
      · exact fun v later => stable _ w' v later reached.1
  | succ left ih =>
    unfold Prog.attempts
    refine bind (weaken (attempt w first) fun result w' reached => ?_)
    cases result with
    | ok a => exact fun v later => stable _ w' v later reached.1
    | error e =>
      dsimp only
      split
      · exact pause fun v later delay => ih delay (readyStable w' v later (reached.2 e rfl))
      · exact fun v later => stable _ w' v later reached.1

/-- What an attempt may come to, all of them come to, if a failed one leaves what it was made from. -/
theorem retry [Retryable ε] {policy : RetryPolicy} {p : Prog (Except ε α)} {ok : α → World → Prop}
    {failed : World → Prop} (okStable : ∀ a, D.Stable call (ok a))
    (failedStable : D.Stable call failed)
    (attempt : ∀ w', failed w' → D.Meets S call op (outcome ok failed) p w') (ready : failed w) :
    D.Meets S call op (outcome ok failed) (p.retry policy) w := by
  refine attempts (fun result => ?_) failedStable (fun _ _ _ reached => reached)
    (fun w' ready => (attempt w' ready).weaken fun result w'' reached => ⟨reached, ?_⟩) _ _ ready
  · cases result with
    | ok a => exact okStable a
    | error e => exact failedStable
  · rintro e rfl
    exact reached

/-- Attempts may be repeated if each of them can be made at any time, and all that is asked is what they
stop with. -/
theorem retry_of_forall [Retryable ε] {policy : RetryPolicy} {p : Prog (Except ε α)} {post : Except ε α → Prop}
    (exhausted : ∀ n e, post (.error (Retryable.exhausted n e)))
    (attempt : ∀ w, D.Meets S call op (fun result _ => post result) p w) :
    D.Meets S call op (fun result _ => post result) (p.retry policy) w :=
  attempts (fun _ _ _ _ reached => reached) (fun _ _ _ ready => ready) (fun n e _ _ => exhausted n e)
    (fun w' _ => (attempt w').weaken fun _ _ reached => ⟨reached, fun _ _ => trivial⟩) _ _ trivial

/-- A walk keeps what each of its visits keeps; entries that are gone are passed over. -/
theorem visitPairs {σ : Type} {visit : PendingClient.Visitor σ}
    {keeps : List (ClaimUid × String) → σ → World → Prop}
    (stable : ∀ rest s, D.Stable call (keeps rest s))
    (gone : ∀ claim node rest s w', keeps ((claim, node) :: rest) s w' →
      w'.pending.get? claim node = none → keeps rest s w')
    (visits : ∀ claim node rest s w' devices, D.Later call w' w' → keeps ((claim, node) :: rest) s w' →
      w'.pending.get? claim node = some devices →
      D.Meets S call op (keeps rest) (visit s claim node devices) w')
    (pairs : List (ClaimUid × String)) (s : σ) (ready : keeps pairs s w) :
    D.Meets S call op (keeps []) (PendingClient.visitPairs visit pairs s) w := by
  induction pairs generalizing s w with
  | nil => exact fun v later => stable [] s w v later ready
  | cons pair rest ih =>
    obtain ⟨claim, node⟩ := pair
    refine ask_pendingGet fun v later => ?_
    have ready := stable _ s w v later ready
    cases at_node : v.pending.get? claim node with
    | none => exact ih s (gone claim node rest s v ready at_node)
    | some devices =>
      have visited := visits claim node rest s v devices later.refl_right ready at_node
      have walk : D.Meets S call op (keeps [])
          ((visit s claim node devices).bind (PendingClient.visitPairs visit rest)) v :=
        bind (visited.weaken fun s w' kept => ih s kept)
      exact walk

end Meets

/-- A program that is left of a call may go on, whatever comes of it. -/
abbrev Allowed (D : Discipline) (S : Setting) (call : Nat) (op : Operation) (p : Prog α) (w : World) :
    Prop := D.Meets S call op (fun _ _ => True) p w

namespace Allowed

variable {p : Prog α} {w : World}

theorem done (a : α) (w : World) : D.Allowed S call op (.done a) w := fun _ _ => trivial

/-- Two allowed programs in a row are allowed if the second is from everywhere. -/
theorem bind {f : α → Prog β} (first : D.Allowed S call op p w)
    (last : ∀ a w', D.Allowed S call op (f a) w') : D.Allowed S call op (p.bind f) w :=
  Meets.bind (first.weaken fun a w' _ => last a w')

theorem thenOk {p : Prog (Except ε α)} {f : α → Prog (Except ε β)} (first : D.Allowed S call op p w)
    (last : ∀ a w', D.Allowed S call op (f a) w') : D.Allowed S call op (p.thenOk f) w :=
  bind first fun result w' => by
    cases result with
    | ok a => exact last a w'
    | error e => exact done _ w'

theorem retry_of_forall [Retryable ε] {policy : RetryPolicy} {p : Prog (Except ε α)}
    (attempt : ∀ w, D.Allowed S call op p w) : D.Allowed S call op (p.retry policy) w :=
  Meets.retry_of_forall (fun _ _ => trivial) attempt

/-- A program may be run under the lock of a node if locks may be taken and returned. -/
theorem locked {node : String} {p : Prog α}
    (locks : ∀ w w' : World, D.inv w → (∀ key, w'.record key = w.record key) → w'.pending = w.pending →
      (∀ place other, other ≠ call → w.holder place = some other → w'.holder place = some other) →
      D.Permits call op w w')
    (within : ∀ w', w'.holder node = some call → D.Allowed S call op p w') :
    D.Allowed S call op (.locked node p) w := by
  refine Meets.ask_lock fun w₁ later isFree => ⟨locks w₁ _ later.inv (fun _ => rfl) rfl
    fun place other unlike at_place => ?_, ?_⟩
  · have apart : place ≠ node := by rintro rfl; simp [isFree] at at_place
    exact (Function.update_of_ne apart _ _).trans at_place
  · refine bind (within _ (Function.update_self ..)) fun a w₂ => Meets.ask_unlock fun w₃ later own =>
      ⟨locks w₃ _ later.inv (fun _ => rfl) rfl fun place other unlike at_place => ?_, done a _⟩
    have apart : place ≠ node := by
      rintro rfl
      exact unlike (Option.some.inj (at_place.symm.trans own))
    exact (Function.update_of_ne apart _ _).trans at_place

/-- Attempts may be repeated while a condition lasts under which each of them may be made. -/
theorem retry [Retryable ε] {policy : RetryPolicy} {p : Prog (Except ε α)} {ready : World → Prop}
    (stable : D.Stable call ready)
    (attempt : ∀ w', ready w' → D.Meets S call op (outcome (fun _ _ => True) ready) p w')
    (first : ready w) : D.Allowed S call op (p.retry policy) w :=
  (Meets.retry (fun _ _ _ _ _ => trivial) stable attempt first).weaken fun _ _ _ => trivial

end Allowed

end Discipline

end DeviceClaims
