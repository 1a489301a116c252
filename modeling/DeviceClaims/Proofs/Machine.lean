import DeviceClaims.Proofs.World

namespace DeviceClaims

/-- What so many writes make of a record: each of them counts its version on. -/
structure NodeRecord.Becomes (writes : Nat) (r r' : NodeRecord) : Prop where
  version : r'.version = r.version + UInt64.ofNat writes
  same : writes = 0 → r' = r

theorem NodeRecord.Becomes.refl (r : NodeRecord) : r.Becomes 0 r :=
  ⟨(UInt64.add_zero r.version).symm, fun _ => rfl⟩

theorem NodeRecord.Becomes.trans {n n' : Nat} {r r' r'' : NodeRecord} (first : r.Becomes n r')
    (last : r'.Becomes n' r'') : r.Becomes (n + n') r'' := by
  refine ⟨?_, fun none => ?_⟩
  · rw [last.version, first.version, UInt64.ofNat_add, UInt64.add_assoc]
  · have ⟨none₁, none₂⟩ := Nat.add_eq_zero_iff.mp none
    exact (last.same none₂).trans (first.same none₁)

/-- What a change leaves to a call: records are replaced only by what writes make of them, and the
call keeps its locks and the plugin that it has in hand. -/
structure World.Leaves (call : Nat) (w w' : World) : Prop where
  grows : ∀ key r, w.record key = some r →
    ∃ r' n, w'.record key = some r' ∧ w'.writes key = w.writes key + n ∧ r.Becomes n r'
  holder : ∀ node, w.holder node = some call → w'.holder node = some call
  plugin : ∀ key preparing, w.plugins key = .busy call preparing → w'.plugins key = .busy call preparing

theorem World.Leaves.refl (call : Nat) (w : World) : w.Leaves call w :=
  ⟨fun _ r at_key => ⟨r, 0, at_key, rfl, .refl r⟩, fun _ held => held, fun _ _ busy => busy⟩

theorem World.Leaves.trans {call : Nat} {u v w : World} (first : u.Leaves call v)
    (last : v.Leaves call w) : u.Leaves call w := by
  refine ⟨fun key r at_key => ?_, fun node held => last.holder node (first.holder node held),
    fun key c busy => last.plugin key c (first.plugin key c busy)⟩
  obtain ⟨r₁, n₁, at₁, writes₁, becomes₁⟩ := first.grows key r at_key
  obtain ⟨r₂, n₂, at₂, writes₂, becomes₂⟩ := last.grows key r₁ at₁
  exact ⟨r₂, n₁ + n₂, at₂, by rw [writes₂, writes₁, Nat.add_assoc], becomes₁.trans becomes₂⟩

theorem World.leaves_of_false (w w' : World) (none : False) (call : Nat) : w.Leaves call w' := none.elim

theorem World.wellKeyed_of_false (w w' : World) (none : False) (_ : w.WellKeyed) : w'.WellKeyed :=
  none.elim

/-- Which calls there are, when a call may go on, whether calls may come to nothing, whether
directories of specifications may fail, and what others may do. -/
structure Setting where
  mayCall : Operation → Prop := fun _ => True
  mayStep : Operation → World → Prop := fun _ _ => True
  mayVanish : Prop := True
  faulty : Prop := True
  outside : World → World → Prop := fun _ _ => False
  outside_leaves : ∀ w w', outside w w' → ∀ call, w.Leaves call w' := by exact World.leaves_of_false
  outside_wellKeyed : ∀ w w', outside w w' → w.WellKeyed → w'.WellKeyed := by
    exact World.wellKeyed_of_false

structure Call where
  op : Operation
  rest : Prog op.Result

/-- It moves when a call begins, when one access of a call is answered, when a call gives back its
result or comes to nothing, or when someone else changes what is shared. -/
structure Machine where
  world : World
  calls : Nat → Option Call

/-- What makes a machine move. -/
inductive Event
  | begins (call : Nat) (op : Operation)
  | asks (call : Nat) (op : Operation) (a : Access) (answer : a.Answer)
  | ends (call : Nat) (op : Operation)
  | vanishes (call : Nat) (op : Operation)
  | outside

def Event.caller? : Event → Option (Nat × Operation)
  | begins call op | asks call op _ _ | ends call op | vanishes call op => some (call, op)
  | outside => none

/-- What may answer an access where directories cannot fail may answer it where they can. -/
theorem World.Answers.mono {faulty faulty' : Prop} {call : Nat} {op : Operation} {w w' : World}
    {a : Access} {answer : a.Answer} (answers : w.Answers faulty call op a answer w')
    (may : faulty → faulty') : w.Answers faulty' call op a answer w' := by
  cases answers with
  | specFault a detail is_faulty => exact .specFault a detail (may is_faulty)
  | store a fresh => exact .store a fresh
  | conflict r actual => exact .conflict r actual
  | pending a => exact .pending a
  | claims l same => exact .claims l same
  | pairs l same => exact .pairs l same
  | spec a key own => exact .spec a key own
  | lock node isFree => exact .lock node isFree
  | unlock node own => exact .unlock node own
  | sleep delay => exact .sleep delay

namespace Machine

def idle (w : World) : Machine := ⟨w, fun _ => none⟩

/-- One move of a machine. -/
inductive Move (S : Setting) : Event → Machine → Machine → Prop
  | begins {m : Machine} {call : Nat} {op : Operation} {prog : Prog op.Result}
      (may : S.mayCall op) (unused : m.calls call = none) (begun : op.program m.world = some prog) :
      Move S (.begins call op) m
        ⟨op.enter call m.world, Function.update m.calls call (some ⟨op, prog⟩)⟩
  | asks {m : Machine} {call : Nat} {op : Operation} {a : Access} {next : a.Answer → Prog op.Result}
      {answer : a.Answer} {w : World} (at_call : m.calls call = some ⟨op, .ask a next⟩)
      (may : S.mayStep op m.world) (answered : m.world.Answers S.faulty call op a answer w) :
      Move S (.asks call op a answer) m
        ⟨w, Function.update m.calls call (some ⟨op, next answer⟩)⟩
  | ends {m : Machine} {call : Nat} {op : Operation} {result : op.Result}
      (at_call : m.calls call = some ⟨op, .done result⟩) :
      Move S (.ends call op) m ⟨op.leave result m.world, Function.update m.calls call none⟩
  | vanishes {m : Machine} {call : Nat} {op : Operation} {rest : Prog op.Result}
      (may : S.mayVanish) (at_call : m.calls call = some ⟨op, rest⟩) :
      Move S (.vanishes call op) m ⟨op.vanish call m.world, Function.update m.calls call none⟩
  | outside {m : Machine} {w : World} (others : S.outside m.world w) :
      Move S .outside m ⟨w, m.calls⟩

/-- Any number of moves by events of a sort. -/
inductive Steps (S : Setting) (sort : Event → Prop) (m₀ : Machine) : Machine → Prop
  | start : Steps S sort m₀ m₀
  | next {m m' : Machine} {e : Event} : Steps S sort m₀ m → sort e → Move S e m m' →
      Steps S sort m₀ m'

theorem Steps.trans {S : Setting} {sort : Event → Prop} {m₀ m m' : Machine} (first : Steps S sort m₀ m)
    (last : Steps S sort m m') : Steps S sort m₀ m' := by
  induction last with
  | start => exact first
  | next _ sorted move ih => exact ih.next sorted move

/-- The machines that a machine becomes. -/
abbrev Reach (S : Setting) (m₀ m : Machine) : Prop := Steps S (fun _ => True) m₀ m

structure Within (S S' : Setting) : Prop where
  mayCall : ∀ op, S.mayCall op → S'.mayCall op
  mayStep : ∀ op w, S.mayStep op w → S'.mayStep op w
  mayVanish : S.mayVanish → S'.mayVanish
  faulty : S.faulty → S'.faulty
  outside : ∀ w w', S.outside w w' → S'.outside w w'

theorem Move.of_within {S S' : Setting} (within : Within S S') {e : Event} {m m' : Machine}
    (move : Move S e m m') : Move S' e m m' := by
  cases move with
  | begins may unused begun => exact .begins (within.mayCall _ may) unused begun
  | asks at_call may answered =>
    exact .asks at_call (within.mayStep _ _ may) (answered.mono within.faulty)
  | ends at_call => exact .ends at_call
  | vanishes may at_call => exact .vanishes (within.mayVanish may) at_call
  | outside others => exact .outside (within.outside _ _ others)

/-- What is reached where less may happen is reached where more may. -/
theorem Steps.of_within {S S' : Setting} (within : Within S S') {sort : Event → Prop} {m₀ m : Machine}
    (steps : Steps S sort m₀ m) : Steps S' sort m₀ m := by
  induction steps with
  | start => exact .start
  | next _ sorted move ih => exact ih.next sorted (move.of_within within)

end Machine

theorem World.Answers.plugins_eq {faulty : Prop} {call : Nat} {op : Operation} {w w' : World} {a : Access}
    {answer : a.Answer} (answers : w.Answers faulty call op a answer w') : w'.plugins = w.plugins := by
  cases answers <;> rfl

/-- A call has the plugin in hand that it takes. -/
def Operation.InHand (call : Nat) (op : Operation) (w : World) : Prop :=
  ∀ key, op.takes = some key → ∃ preparing, w.plugins key = .busy call preparing

theorem Operation.enter_inHand (call : Nat) (op : Operation) (w : World) :
    op.InHand call (op.enter call w) := by
  intro key taken
  cases op <;> simp only [takes, Option.some.injEq, reduceCtorEq] at taken <;> subst taken <;>
    exact ⟨_, Function.update_self ..⟩

theorem Operation.InHand.congr {call : Nat} {op : Operation} {w w' : World}
    (inHand : op.InHand call w)
    (same : ∀ key preparing, w.plugins key = .busy call preparing →
      w'.plugins key = .busy call preparing) : op.InHand call w' :=
  fun key taken => (inHand key taken).imp fun preparing busy => same key preparing busy

/-- A call begins only with a plugin that nobody has in hand. -/
theorem Operation.enter_busy {call other : Nat} {op : Operation} {w : World} {prog : Prog op.Result}
    (begun : op.program w = some prog) {key : ObjectKey} {preparing : Option ClaimUid}
    (busy : w.plugins key = .busy other preparing) :
    (op.enter call w).plugins key = .busy other preparing := by
  have apart : ∀ taken, op.takes = some taken → key ≠ taken := by
    rintro taken at_taken rfl
    cases op <;> simp only [takes, Option.some.injEq, reduceCtorEq] at at_taken <;> subst at_taken <;>
      simp [program, busy] at begun
  cases op <;>
    first
    | exact busy
    | exact (Function.update_of_ne (apart _ rfl) _ _).trans busy

/-- A call that ends gives back no plugin but its own. -/
theorem Operation.leave_plugins {op : Operation} (result : op.Result) (w : World) {key : ObjectKey}
    (apart : ∀ taken, op.takes = some taken → key ≠ taken) :
    (op.leave result w).plugins key = w.plugins key := by
  cases op <;>
    first
    | rfl
    | cases result <;> exact Function.update_of_ne (apart _ rfl) _ _

theorem Operation.vanish_plugins (call : Nat) (op : Operation) (w : World) {key : ObjectKey}
    (apart : ∀ taken, op.takes = some taken → key ≠ taken) :
    (op.vanish call w).plugins key = w.plugins key := by
  cases op <;>
    first
    | rfl
    | exact Function.update_of_ne (apart _ rfl) _ _

end DeviceClaims
