import DeviceClaims.Proofs.Discipline.Soundness

namespace DeviceClaims

/-- The setting in which only calls of a sort begin. -/
def Setting.among (S : Setting) (may : Operation → Prop) : Setting :=
  { S with mayCall := fun op => S.mayCall op ∧ may op }

theorem Setting.among_within (S : Setting) (may : Operation → Prop) :
    Machine.Within (S.among may) S :=
  ⟨fun _ may => may.1, fun _ _ => id, id, id, fun _ _ => id⟩

/-- The setting in which a call goes on only when a condition holds. -/
def Setting.when (S : Setting) (may : Operation → World → Prop) : Setting :=
  { S with mayStep := fun op w => S.mayStep op w ∧ may op w }

namespace Machine

variable {S : Setting} {sort : Event → Prop} {m₀ m : Machine}

/-- Steps on the way of which a condition always holds for the calls that there are. -/
theorem Steps.when_of_calls {may : Operation → World → Prop} (steps : Steps S sort m₀ m)
    (holds : ∀ m₁ call op rest, Steps S sort m₀ m₁ → Reach S m₁ m →
      m₁.calls call = some ⟨op, rest⟩ → may op m₁.world) : Steps (S.when may) sort m₀ m := by
  induction steps with
  | start => exact .start
  | next before sorted move ih =>
    have earlier := ih fun m₁ call op rest first last =>
      holds m₁ call op rest first (last.next trivial move)
    refine earlier.next sorted ?_
    cases move with
    | begins may unused begun => exact .begins may unused begun
    | asks at_call may answered =>
      have now := holds _ _ _ _ before (.next .start trivial (.asks at_call may answered)) at_call
      exact .asks at_call ⟨may, now⟩ answered
    | ends at_call => exact .ends at_call
    | vanishes may at_call => exact .vanishes may at_call
    | outside others => exact .outside others

theorem Steps.extend_reach {m' : Machine} (steps : Steps S sort m m') (reach : Reach S m₀ m) :
    Reach S m₀ m' := by
  induction steps with
  | start => exact reach
  | next _ _ move ih => exact ih.next trivial move

/-- What is true of calls that begin, and is kept by their own accesses and by whatever the others do,
is true of every call. -/
theorem Steps.forall_calls {P : Nat → Call → World → Prop}
    (first : ∀ call c, m₀.calls call = some c → P call c m₀.world)
    (begins : ∀ {m₁ call op prog}, Steps S sort m₀ m₁ → S.mayCall op → m₁.calls call = none →
      op.program m₁.world = some prog → P call ⟨op, prog⟩ (op.enter call m₁.world))
    (asks : ∀ {m₁ call op a next answer w}, Steps S sort m₀ m₁ →
      m₁.calls call = some ⟨op, .ask a next⟩ → S.mayStep op m₁.world →
      m₁.world.Answers S.faulty call op a answer w → P call ⟨op, .ask a next⟩ m₁.world →
      P call ⟨op, next answer⟩ w)
    (others : ∀ {m₁ m₂ e call c}, Steps S sort m₀ m₁ → Move S e m₁ m₂ →
      (∀ op, e.caller? ≠ some (call, op)) → m₁.calls call = some c → P call c m₁.world →
      P call c m₂.world)
    (steps : Steps S sort m₀ m) : ∀ call c, m.calls call = some c → P call c m.world := by
  induction steps with
  | start => exact first
  | @next m₁ m₂ e before _ move ih =>
    intro call c at_call
    by_cases own : ∃ op, e.caller? = some (call, op)
    · obtain ⟨op, caller⟩ := own
      cases move with
      | begins may unused begun =>
        cases caller
        simp only [Function.update_self] at at_call
        cases at_call
        exact begins before may unused begun
      | asks at_before may answered =>
        cases caller
        simp only [Function.update_self] at at_call
        cases at_call
        exact asks before at_before may answered (ih _ _ at_before)
      | ends | vanishes =>
        cases caller
        simp only [Function.update_self, reduceCtorEq] at at_call
      | outside => cases caller
    · have apart : ∀ op, e.caller? ≠ some (call, op) := fun op caller => own ⟨op, caller⟩
      have same : m₁.calls call = some c := by
        cases move with
        | outside => exact at_call
        | begins | asks | ends | vanishes =>
          rw [← at_call]
          refine (Function.update_of_ne ?_ _ _).symm
          rintro rfl
          exact apart _ rfl
      exact others before move apart same (ih call c same)

end Machine

namespace Prog

variable {α β : Type}

/-- Whatever a program stops with satisfies a condition. -/
def Yields (post : α → Prop) : Prog α → Prop
  | done a => post a
  | crash => True
  | ask a next => ∀ answer : a.Answer, (next answer).Yields post

theorem Yields.weaken {post other : α → Prop} {p : Prog α} (yields : p.Yields post)
    (implies : ∀ a, post a → other a) : p.Yields other := by
  induction p with
  | done a => exact implies a yields
  | crash => trivial
  | ask a next ih => exact fun answer => ih answer (yields answer)

theorem Yields.bind {p : Prog α} {f : α → Prog β} {post : β → Prop}
    (yields : p.Yields fun a => (f a).Yields post) : (p.bind f).Yields post := by
  induction p with
  | done a => exact yields
  | crash => trivial
  | ask a next ih => exact fun answer => ih answer (yields answer)

theorem Yields.of_forall {post : α → Prop} (all : ∀ a, post a) (p : Prog α) : p.Yields post := by
  induction p with
  | done a => exact all a
  | crash => trivial
  | ask a next ih => exact ih

end Prog

/-- What all programs of calls may stop with is what their calls stop with. -/
theorem Machine.Steps.yields_of_programs {S : Setting} {sort : Event → Prop} {w₀ : World} {m : Machine}
    {post : (op : Operation) → op.Result → Prop}
    (programs : ∀ (op : Operation) (w : World) (prog : Prog op.Result), op.program w = some prog →
      prog.Yields (post op))
    (steps : Steps S sort (.idle w₀) m) {call : Nat} {c : Call} (at_call : m.calls call = some c) :
    c.rest.Yields (post c.op) :=
  steps.forall_calls (P := fun _ c _ => c.rest.Yields (post c.op)) (fun _ _ absent => by cases absent)
    (fun _ _ _ begun => programs _ _ _ begun) (fun _ _ _ _ yields => yields _)
    (fun _ _ _ _ yields => yields) call c at_call

/-- What the programs of a sort of calls meet from their beginning, what is left of them meets. -/
theorem Discipline.Governs.meets_of_call {D : Discipline} {S : Setting} {sort : Operation → Prop}
    {known : Nat → Operation → World → World → Prop} (governs : D.Governs S sort known) {w₀ : World}
    {m : Machine} (initial : D.Keeps S sort (.idle w₀))
    (knows : ∀ {m m' e}, Machine.Reach S (.idle w₀) m → Machine.Move S e m m' → ∀ call op,
      e.caller? = some (call, op) → known call op m.world m'.world)
    {post : (op : Operation) → op.Result → World → Prop}
    (begins : ∀ call op w prog, S.mayCall op → sort op → w.WellKeyed → D.inv w →
      op.program w = some prog → D.Meets S call op (post op) prog (op.enter call w))
    (reach : Machine.Reach S (.idle w₀) m) {call : Nat} {c : Call} (at_call : m.calls call = some c)
    (sorted : sort c.op) : D.Meets S call c.op (post c.op) c.rest m.world := by
  have keeps : ∀ {m}, Machine.Reach S (.idle w₀) m → D.Keeps S sort m :=
    fun before => governs.keeps_reach initial knows before
  refine reach.forall_calls (P := fun call c w => sort c.op → D.Meets S call c.op (post c.op) c.rest w)
    (fun _ _ absent => by cases absent) (fun before may _ begun sorted => ?_)
    (fun before at_call may answered meets sorted => ?_)
    (fun {m₁ m₂ e call c} before move apart _ meets sorted => ?_) call c at_call sorted
  · exact begins _ _ _ _ may sorted (keeps before).wellKeyed (keeps before).inv begun
  · exact (meets sorted _ ((keeps before).later_refl _) may _ _ answered).2
  · cases caller : e.caller? with
    | some other =>
      obtain ⟨other, op⟩ := other
      have unlike : call ≠ other := by
        rintro rfl
        exact apart op caller
      have allows := (governs.keeps_move (keeps before) move (knows before move)).2 other op caller
      exact (meets sorted).mono (allows.later_of_ne unlike)
    | none =>
      cases move with
      | outside others =>
        obtain ⟨inv, rely⟩ := governs.outside _ _ others (keeps before).wellKeyed (keeps before).inv
        exact (meets sorted).mono ⟨S.outside_leaves _ _ others call, rely call,
          S.outside_wellKeyed _ _ others (keeps before).wellKeyed, inv⟩
      | _ => cases caller

end DeviceClaims
