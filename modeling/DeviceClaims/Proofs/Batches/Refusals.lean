import DeviceClaims.Proofs.Agreement

namespace DeviceClaims

/-- A site, and how many updates have been refused since one was made. -/
structure Beset where
  site : Site
  refused : Nat := 0

namespace Beset

/-- How many refusals there are after an access that is answered: none after an update. -/
def after (b : Beset) : Access → Nat
  | .store (.update _) => 0
  | _ => b.refused

/-- An access is answered as the site does. An update may be refused instead, unless that is the refusal of
the last of so many attempts. -/
inductive Answers (budget : Nat) (b : Beset) : (a : Access) → a.Answer → Beset → Prop
  | given (a : Access) : Answers budget b a (Site.answer a b.site).1 ⟨(Site.answer a b.site).2, b.after a⟩
  | refused (r : NodeRecord) {e : StoreError} (conflict : e.isConflict = true)
      (left : b.refused + 1 < budget) :
      Answers budget b (.store (.update r)) (.error e) ⟨b.site, b.refused + 1⟩

end Beset

def Surroundings.refusing (budget : Nat) : Surroundings Beset where
  between := Eq
  answers := Beset.Answers budget

namespace Prog

variable {α β : Type} {policy : RetryPolicy}

/-- However its updates are refused while attempts are left, a program stops with a value that satisfies a
condition. It gives up only over a delay between attempts that is too long to be written. -/
def Endures (policy : RetryPolicy) (post : α → Beset → Prop) (p : Prog α) (b : Beset) : Prop :=
  ∀ steps, p.Always (.refusing policy.budget) (fun _ => post) (fun _ _ => ¬ policy.Steady) steps b

namespace Endures

variable {post : α → Beset → Prop} {b : Beset}

theorem done {a : α} (reached : post a b) : (Prog.done a).Endures policy post b := fun _ => reached

theorem weaken {post' : α → Beset → Prop} {p : Prog α} (endures : p.Endures policy post' b)
    (implies : ∀ a b, post' a b → post a b) : p.Endures policy post b :=
  fun steps => (endures steps).weaken fun _ => implies

theorem bind {f : α → Prog β} {post : β → Beset → Prop} {p : Prog α}
    (endures : p.Endures policy (fun a b => (f a).Endures policy post b) b) :
    (p.bind f).Endures policy post b :=
  fun steps => .bind ((endures steps).weaken fun steps _ _ reached => reached steps)

theorem ask {a : Access} {next : a.Answer → Prog α}
    (answered : ∀ answer b', b.Answers policy.budget a answer b' → (next answer).Endures policy post b') :
    (Prog.ask a next).Endures policy post b := by
  intro steps
  refine .ask (fun b₁ _ => .inr ⟨_, _, .given a⟩) fun b₁ same answer b' answers => ?_
  cases same
  exact answered answer b' answers _

end Endures

end Prog

/-- What a plugin keeps: what it knows, the record of its node, and the specifications. -/
structure Standing where
  state : DeviceState
  record : NodeRecord
  specs : FaultySpecDir

namespace Plugin

variable {p : Plugin} {x : Standing} {n : Nat} {policy : RetryPolicy} {b : Beset} {α : Type} {post : α → Beset → Prop}

/-- What a plugin keeps is kept at a site where nothing fails, after so many refusals. -/
def Stands (p : Plugin) (x : Standing) (n : Nat) (b : Beset) : Prop :=
  ∃ inner pending calls, b = ⟨.conflicting inner pending x.specs calls 0, n⟩ ∧ inner.Writable ∧
    inner.get p.key = .ok x.record

/-- A read finds the record that the plugin stands on, however often its updates were refused. -/
theorem get_endures {next : Except PluginError NodeRecord → Prog α} (stands : p.Stands x n b)
    (found : (next (.ok x.record)).Endures policy post b) : (p.get.bind next).Endures policy post b := by
  obtain ⟨inner, pending, calls, rfl, -, read⟩ := stands
  refine Prog.Endures.ask (a := .store (.get p.key)) fun answer b' answers => ?_
  cases answers with
  | given =>
    change (Prog.bind (Prog.mapError _ (.done (inner.get p.key))) next).Endures policy post _
    rw [read]
    exact found

/-- An update is refused for a conflict, or accepted as if none had been. -/
theorem update_endures {spec : NodeSpec} {change : Change} {next : Except PluginError NodeRecord → Prog α}
    (own : x.record.key = p.key) (made : { x.record with spec } = change.apply x.record)
    (stands : p.Stands x n b)
    (updated : ∀ b', p.Stands { x with record := change.on x.record } 0 b' →
      (next (.ok (change.on x.record))).Endures policy post b')
    (refused : n + 1 < policy.budget → ∀ e b', e.isConflict = true → p.Stands x (n + 1) b' →
      (next (.error (.store e))).Endures policy post b') :
    ((update x.record spec).bind next).Endures policy post b := by
  obtain ⟨inner, pending, calls, rfl, writable, read⟩ := stands
  refine Prog.Endures.ask (a := .store (.update { x.record with spec })) fun answer b' answers => ?_
  cases answers with
  | given =>
    obtain ⟨inner', written, after, writable'⟩ := Backend.apply_update_change writable (own ▸ read) change
    rw [← made] at written
    have answer : (Site.conflicting inner pending x.specs calls 0).store.apply (.update { x.record with spec }) =
        (.ok (change.on x.record), { inner := inner', updateCalls := calls + 1 }) := by
      change ((inner.apply (.update { x.record with spec })).1,
        ({ inner := (inner.apply (.update { x.record with spec })).2, updateCalls := calls + 1 } : FaultyStore)) = _
      rw [written]
    simp only [Site.answer, answer]
    exact updated _ ⟨inner', pending, calls + 1, rfl, writable', own ▸ after⟩
  | refused _ conflict left =>
    exact refused left _ _ conflict ⟨inner, pending, calls, rfl, writable, read⟩

/-- Specifications that can be changed are changed once, however often updates are refused. -/
theorem spec_endures {a : SpecAccess} {specs : FaultySpecDir} {next : SpecAccess.Answer → Prog α}
    (stands : p.Stands x n b) (works : x.specs.apply a = (.ok (), specs))
    (answered : ∀ b', p.Stands { x with specs } n b' → (next (.ok ())).Endures policy post b') :
    ((Prog.spec a).bind next).Endures policy post b := by
  obtain ⟨inner, pending, calls, rfl, writable, read⟩ := stands
  refine Prog.Endures.ask (a := .spec a) fun answer b' answers => ?_
  cases answers with
  | given =>
    change (next (x.specs.apply a).1).Endures policy post
      ⟨.conflicting inner pending (x.specs.apply a).2 calls 0, n⟩
    rw [works]
    exact answered _ ⟨inner, pending, calls, rfl, writable, read⟩

/-- One change of the record: refusals only lead to further attempts, of which enough are left. -/
theorem rewrite_endures {attempt : NodeRecord → Prog (Except PluginError Unit)} {spec : NodeSpec} {change : Change}
    (once : attempt x.record = (update x.record spec).thenOk fun _ => .done (.ok ()))
    (own : x.record.key = p.key) (made : { x.record with spec } = change.apply x.record)
    (stands : p.Stands x 0 b) :
    (Prog.retry p.retry (p.get.thenOk attempt)).Endures p.retry
      (fun result b' => result = .ok () ∧ p.Stands { x with record := change.on x.record } 0 b') b := by
  -- As many attempts are left as there may still be refusals.
  suffices enough : ∀ left delay n b, n + left + 1 = p.retry.budget →
      (p.retry.Steady → p.retry.Lasts left delay) → p.Stands x n b →
      (Prog.attempts p.retry (p.get.thenOk attempt) left delay).Endures p.retry
        (fun result b' => result = .ok () ∧ p.Stands { x with record := change.on x.record } 0 b') b by
    have positive : 0 < p.retry.budget := Nat.lt_of_lt_of_le Nat.one_pos (Nat.le_max_right ..)
    exact enough _ _ 0 b (by omega) id stands
  intro left
  induction left with
  | zero =>
    intro delay n b counted _ stands
    unfold Prog.attempts
    refine .bind (get_endures stands ?_)
    change (attempt x.record).Endures _ _ _
    rw [once]
    refine update_endures own made stands (fun b' stands => .done (.done ⟨rfl, stands⟩)) fun few => ?_
    omega
  | succ left ih =>
    intro delay n b counted lasts stands
    unfold Prog.attempts
    refine .bind (get_endures stands ?_)
    change (attempt x.record).Endures _ _ _
    rw [once]
    refine update_endures own made stands (fun b' stands => .done (.done ⟨rfl, stands⟩))
      fun _ e b' conflict stands => .done ?_
    have again : Retryable.isConflict (PluginError.store e) = true := conflict
    dsimp only
    rw [if_pos again, Prog.pause]
    refine .ask fun _ b'' answers => ?_
    cases answers with
    | given =>
      cases found : p.retry.next? delay with
      | none => exact fun _ steady => (lasts steady).next_ne_none found
      | some following =>
        exact ih following (n + 1) _ (by omega) (fun steady => (lasts steady).of_next found) stands

end Plugin

end DeviceClaims
