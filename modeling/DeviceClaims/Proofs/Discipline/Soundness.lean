import DeviceClaims.Proofs.Discipline

namespace DeviceClaims

variable {S : Setting} {D : Discipline}

theorem Operation.enter_record (call : Nat) (op : Operation) (w : World) (key : ObjectKey) :
    (op.enter call w).record key = w.record key := by
  cases op <;> rfl

theorem Operation.enter_writes (call : Nat) (op : Operation) (w : World) :
    (op.enter call w).writes = w.writes := by
  cases op <;> rfl

theorem Operation.enter_holder (call : Nat) (op : Operation) (w : World) :
    (op.enter call w).holder = w.holder := by
  cases op <;> rfl

theorem Operation.leave_record {op : Operation} (result : op.Result) (w : World) (key : ObjectKey) :
    (op.leave result w).record key = w.record key := by
  cases op <;> first | rfl | cases result <;> rfl

theorem Operation.leave_writes {op : Operation} (result : op.Result) (w : World) :
    (op.leave result w).writes = w.writes := by
  cases op <;> first | rfl | cases result <;> rfl

theorem Operation.leave_holder {op : Operation} (result : op.Result) (w : World) :
    (op.leave result w).holder = w.holder := by
  cases op <;> first | rfl | cases result <;> rfl

theorem Operation.vanish_record (call : Nat) (op : Operation) (w : World) (key : ObjectKey) :
    (op.vanish call w).record key = w.record key := by
  cases op <;> rfl

theorem Operation.vanish_writes (call : Nat) (op : Operation) (w : World) :
    (op.vanish call w).writes = w.writes := by
  cases op <;> rfl

theorem Operation.vanish_holder (call : Nat) (op : Operation) (w : World) :
    (op.vanish call w).holder = (w.unlockAll call).holder := by
  cases op <;> rfl

/-- A call that takes a plugin in hand starts it, or prepares a claim or gives it up with what the plugin
knows. -/
theorem Operation.begun_of_takes {key : ObjectKey} {w : World}
    {motive : (op : Operation) → Prog op.Result → Prop} {op : Operation} {prog : Prog op.Result}
    (takes : op.takes = some key) (begun : op.program w = some prog)
    (start : ∀ p count, p.key = key → motive (.start p count) (p.start count))
    (prepare : ∀ p claim s, p.key = key → w.plugins key = .up s →
      motive (.prepare p claim) (p.prepare claim s))
    (unprepare : ∀ p claim s, p.key = key → w.plugins key = .up s →
      motive (.unprepare p claim) (p.unprepare claim s)) : motive op prog := by
  cases op with
  | start p count =>
    simp only [program] at begun
    split at begun <;> cases begun
    exact start p count (Option.some.inj takes)
  | prepare p claim =>
    have same : p.key = key := Option.some.inj takes
    simp only [program] at begun
    split at begun <;> cases begun
    next s up => exact prepare p claim s same (same ▸ up)
  | unprepare p claim =>
    have same : p.key = key := Option.some.inj takes
    simp only [program] at begun
    split at begun <;> cases begun
    next s up => exact unprepare p claim s same (same ▸ up)
  | _ => cases takes

/-- No call begins that takes a plugin which another call has in hand. -/
theorem Operation.not_busy_of_begun {key : ObjectKey} {w : World} {op : Operation}
    {prog : Prog op.Result} (takes : op.takes = some key) (begun : op.program w = some prog)
    (other : Nat) (preparing : Option ClaimUid) : w.plugins key ≠ .busy other preparing := by
  intro busy
  cases op <;> simp only [Operation.takes, Option.some.injEq, reduceCtorEq] at takes <;> subst takes <;>
    simp [Operation.program, busy] at begun

/-- A call that takes a plugin has it in hand from its beginning. -/
theorem Operation.enter_of_takes {key : ObjectKey} {op : Operation} (takes : op.takes = some key)
    (call : Nat) (w : World) : ∃ preparing, op.enter call w = w.setPlugin key (.busy call preparing) := by
  cases op with
  | start p count => exact ⟨none, congrArg (w.setPlugin · _) (Option.some.inj takes)⟩
  | prepare p claim => exact ⟨some claim.uid, congrArg (w.setPlugin · _) (Option.some.inj takes)⟩
  | unprepare p claim => exact ⟨none, congrArg (w.setPlugin · _) (Option.some.inj takes)⟩
  | _ => cases takes

/-- How a call leaves the plugin that it has in hand. -/
def Operation.phaseAfter : (op : Operation) → op.Result → PluginPhase
  | start .., .ok s => .up s
  | prepare .., (_, s) | unprepare .., (_, s) => .up s
  | start .., .error _ | filter .., _ | allocate .., _ | deallocate .., _ | shutdown _, _
  | setStatus .., _ => .down

/-- A call that ends gives its plugin back as its result says. -/
theorem Operation.leave_of_takes {key : ObjectKey} {op : Operation} (takes : op.takes = some key)
    (result : op.Result) (w : World) : op.leave result w = w.setPlugin key (op.phaseAfter result) := by
  cases op with
  | start p count =>
    cases result <;> exact congrArg (w.setPlugin · _) (Option.some.inj takes)
  | prepare p claim => exact congrArg (w.setPlugin · _) (Option.some.inj takes)
  | unprepare p claim => exact congrArg (w.setPlugin · _) (Option.some.inj takes)
  | _ => cases takes

/-- A call that comes to nothing leaves its plugin down. -/
theorem Operation.vanish_of_takes {key : ObjectKey} {op : Operation} (takes : op.takes = some key)
    (call : Nat) (w : World) : op.vanish call w = (w.unlockAll call).setPlugin key .down := by
  rw [vanish, takes]

/-- A plugin that another call has in hand is not the one that a call takes. -/
theorem Operation.InHand.ne_taken_of_busy {call other : Nat} {op : Operation} {w : World}
    (inHand : op.InHand call w) (unlike : other ≠ call) {key : ObjectKey}
    {preparing : Option ClaimUid} (busy : w.plugins key = .busy other preparing) :
    ∀ taken, op.takes = some taken → key ≠ taken := by
  rintro taken at_taken rfl
  obtain ⟨_, own⟩ := inHand key at_taken
  cases busy.symm.trans own
  exact unlike rfl

namespace Discipline

theorem Permits.allows_enter {call : Nat} {op : Operation} {w : World} {prog : Prog op.Result}
    (permits : D.Permits call op w (op.enter call w)) (begun : op.program w = some prog)
    (wellKeyed : w.WellKeyed) : D.Allows call op w (op.enter call w) :=
  permits.allows_of_same wellKeyed (op.enter_record call w) (op.enter_writes call w)
    (fun _ _ _ held => (congrFun (op.enter_holder call w) _).trans held)
    fun _ _ _ _ busy => Operation.enter_busy begun busy

theorem Permits.allows_leave {call : Nat} {op : Operation} {w : World} {result : op.Result}
    (permits : D.Permits call op w (op.leave result w)) (inHand : op.InHand call w)
    (wellKeyed : w.WellKeyed) : D.Allows call op w (op.leave result w) :=
  permits.allows_of_same wellKeyed (Operation.leave_record result w) (Operation.leave_writes result w)
    (fun _ _ _ held => (congrFun (Operation.leave_holder result w) _).trans held)
    fun _ _ _ unlike busy =>
      (Operation.leave_plugins result w (inHand.ne_taken_of_busy unlike busy)).trans busy

theorem Permits.allows_vanish {call : Nat} {op : Operation} {w : World}
    (permits : D.Permits call op w (op.vanish call w)) (inHand : op.InHand call w)
    (wellKeyed : w.WellKeyed) : D.Allows call op w (op.vanish call w) := by
  refine permits.allows_of_same wellKeyed (op.vanish_record call w) (op.vanish_writes call w)
    (fun node other unlike held => ?_)
    fun _ _ _ unlike busy => (op.vanish_plugins call w (inHand.ne_taken_of_busy unlike busy)).trans busy
  rw [op.vanish_holder]
  exact (if_neg (by rw [held]; exact fun same => unlike (Option.some.inj same))).trans held

def Ends (D : Discipline) (call : Nat) (op : Operation) (result : op.Result) (w : World) : Prop :=
  op.InHand call w → D.Permits call op w (op.leave result w)

/-- Calls of a sort meet a discipline from their beginning; what is known of the moves of all others is
allowed by it, and so is what outsiders do. Only the calls of a sort are looked at; of all others it is
enough to know what their moves do. -/
structure Governs (D : Discipline) (S : Setting) (sort : Operation → Prop)
    (known : Nat → Operation → World → World → Prop) : Prop where
  begins : ∀ call op w prog, S.mayCall op → sort op → w.WellKeyed → D.inv w →
    op.program w = some prog →
    D.Permits call op w (op.enter call w) ∧
      D.Meets S call op (D.Ends call op) prog (op.enter call w)
  vanishes : ∀ call op w, S.mayVanish → sort op → w.WellKeyed → D.inv w → op.InHand call w →
    D.Permits call op w (op.vanish call w)
  others : ∀ call op w w', ¬ sort op → w.WellKeyed → D.inv w → known call op w w' →
    D.Allows call op w w'
  outside : ∀ w w', S.outside w w' → w.WellKeyed → D.inv w →
    D.inv w' ∧ ∀ call, D.rely call w w'

/-- A machine keeps a discipline, and what is left of its calls meets it. -/
structure Keeps (D : Discipline) (S : Setting) (sort : Operation → Prop) (m : Machine) : Prop where
  wellKeyed : m.world.WellKeyed
  inv : D.inv m.world
  inHand : ∀ call c, m.calls call = some c → c.op.InHand call m.world
  meets : ∀ call c, m.calls call = some c → sort c.op →
    D.Meets S call c.op (D.Ends call c.op) c.rest m.world

variable {sort : Operation → Prop} {known : Nat → Operation → World → World → Prop}

theorem Keeps.idle {w : World} (wellKeyed : w.WellKeyed) (inv : D.inv w) :
    D.Keeps S sort (.idle w) :=
  ⟨wellKeyed, inv, (fun _ _ absent => by cases absent), fun _ _ absent => by cases absent⟩

theorem Keeps.later_refl {m : Machine} (keeps : D.Keeps S sort m) (call : Nat) :
    D.Later call m.world m.world := .refl keeps.wellKeyed keeps.inv

/-- After a move of one call, only what is left of that call has to be looked at. -/
theorem Keeps.update_call {m : Machine} {call : Nat} {op : Operation} {w : World} {left : Option Call}
    (keeps : D.Keeps S sort m) (allows : D.Allows call op m.world w)
    (inHand : ∀ c, left = some c → c.op.InHand call w)
    (meets : ∀ c, left = some c → sort c.op → D.Meets S call c.op (D.Ends call c.op) c.rest w) :
    D.Keeps S sort ⟨w, Function.update m.calls call left⟩ := by
  refine ⟨allows.wellKeyed, allows.inv, fun other c at_other => ?_, fun other c at_other sorted => ?_⟩
  · by_cases same : other = call
    · subst same
      exact inHand c (by simpa only [Function.update_self] using at_other)
    · have before : m.calls other = some c := by
        simpa only [Function.update_of_ne same] using at_other
      exact (keeps.inHand other c before).congr (allows.leaves other same).plugin
  · by_cases same : other = call
    · subst same
      exact meets c (by simpa only [Function.update_self] using at_other) sorted
    · have before : m.calls other = some c := by
        simpa only [Function.update_of_ne same] using at_other
      exact (keeps.meets other c before sorted).mono (allows.later_of_ne same)

variable {m : Machine} {call : Nat} {op : Operation}

/-- A call that begins is allowed to, and its program meets what its sort must. -/
theorem Governs.allows_enter (governs : D.Governs S sort known) (keeps : D.Keeps S sort m)
    {prog : Prog op.Result} (may : S.mayCall op) (begun : op.program m.world = some prog)
    (knows : known call op m.world (op.enter call m.world)) :
    D.Allows call op m.world (op.enter call m.world) ∧
      (sort op → D.Meets S call op (D.Ends call op) prog (op.enter call m.world)) := by
  by_cases sorted : sort op
  · obtain ⟨permits, meets⟩ :=
      governs.begins call op _ prog may sorted keeps.wellKeyed keeps.inv begun
    exact ⟨permits.allows_enter begun keeps.wellKeyed, fun _ => meets⟩
  · have allows := governs.others call op _ _ sorted keeps.wellKeyed keeps.inv knows
    exact ⟨allows, fun contra => absurd contra sorted⟩

/-- An answered access is allowed, and what is left of the program still meets what its sort must. -/
theorem Governs.allows_answer (governs : D.Governs S sort known) (keeps : D.Keeps S sort m) {a : Access}
    {next : a.Answer → Prog op.Result} {answer : a.Answer} {w : World}
    (at_call : m.calls call = some ⟨op, .ask a next⟩) (may : S.mayStep op m.world)
    (answered : m.world.Answers S.faulty call op a answer w) (knows : known call op m.world w) :
    D.Allows call op m.world w ∧ (sort op → D.Meets S call op (D.Ends call op) (next answer) w) := by
  by_cases sorted : sort op
  · obtain ⟨allows, rest⟩ :=
      keeps.meets call _ at_call sorted _ (keeps.later_refl call) may answer w answered
    exact ⟨allows, fun _ => rest⟩
  · have allows := governs.others call op _ _ sorted keeps.wellKeyed keeps.inv knows
    exact ⟨allows, fun contra => absurd contra sorted⟩

theorem Governs.allows_leave (governs : D.Governs S sort known) (keeps : D.Keeps S sort m)
    {result : op.Result} (at_call : m.calls call = some ⟨op, .done result⟩)
    (knows : known call op m.world (op.leave result m.world)) :
    D.Allows call op m.world (op.leave result m.world) := by
  by_cases sorted : sort op
  · have inHand := keeps.inHand call _ at_call
    have permits := keeps.meets call _ at_call sorted _ (keeps.later_refl call) inHand
    exact permits.allows_leave inHand keeps.wellKeyed
  · exact governs.others call op _ _ sorted keeps.wellKeyed keeps.inv knows

theorem Governs.allows_vanish (governs : D.Governs S sort known) (keeps : D.Keeps S sort m)
    {rest : Prog op.Result} (may : S.mayVanish) (at_call : m.calls call = some ⟨op, rest⟩)
    (knows : known call op m.world (op.vanish call m.world)) :
    D.Allows call op m.world (op.vanish call m.world) := by
  by_cases sorted : sort op
  · have inHand := keeps.inHand call _ at_call
    have permits := governs.vanishes call op _ may sorted keeps.wellKeyed keeps.inv inHand
    exact permits.allows_vanish inHand keeps.wellKeyed
  · exact governs.others call op _ _ sorted keeps.wellKeyed keeps.inv knows

/-- What others than the calls do keeps a discipline that governs the setting. -/
theorem Governs.keeps_outside (governs : D.Governs S sort known) (keeps : D.Keeps S sort m) {w : World}
    (others : S.outside m.world w) : D.Keeps S sort ⟨w, m.calls⟩ := by
  obtain ⟨inv, rely⟩ := governs.outside _ w others keeps.wellKeyed keeps.inv
  have wellKeyed := S.outside_wellKeyed _ w others keeps.wellKeyed
  have later : ∀ call, D.Later call m.world w :=
    fun call => ⟨S.outside_leaves _ w others call, rely call, wellKeyed, inv⟩
  refine ⟨wellKeyed, inv, fun call c at_call => ?_, fun call c at_call sorted => ?_⟩
  · exact (keeps.inHand call c at_call).congr (later call).leaves.plugin
  · exact (keeps.meets call c at_call sorted).mono (later call)

/-- A move keeps the discipline, and if it is that of a call it is allowed. -/
theorem Governs.keeps_move (governs : D.Governs S sort known) {m' : Machine} {e : Event}
    (keeps : D.Keeps S sort m) (move : Machine.Move S e m m')
    (knows : ∀ call op, e.caller? = some (call, op) → known call op m.world m'.world) :
    D.Keeps S sort m' ∧
      ∀ call op, e.caller? = some (call, op) → D.Allows call op m.world m'.world := by
  have single : ∀ {call op w left}, m' = ⟨w, Function.update m.calls call left⟩ →
      e.caller? = some (call, op) → D.Allows call op m.world w →
      (∀ c, left = some c → c.op.InHand call w) →
      (∀ c, left = some c → sort c.op → D.Meets S call c.op (D.Ends call c.op) c.rest w) →
      D.Keeps S sort m' ∧
        ∀ call op, e.caller? = some (call, op) → D.Allows call op m.world m'.world := by
    rintro call op w left rfl caller allows inHand meets
    refine ⟨keeps.update_call allows inHand meets, fun _ _ caller' => ?_⟩
    cases caller.symm.trans caller'
    exact allows
  cases move with
  | @begins _ call op prog may unused begun =>
    obtain ⟨allows, meets⟩ := governs.allows_enter keeps may begun (knows _ _ rfl)
    refine single rfl rfl allows ?_ ?_
    · rintro c ⟨⟩; exact op.enter_inHand call _
    · rintro c ⟨⟩; exact meets
  | @asks _ call op a next answer w at_call may answered =>
    obtain ⟨allows, meets⟩ := governs.allows_answer keeps at_call may answered (knows _ _ rfl)
    have inHand : op.InHand call w := by
      intro key taken
      rw [answered.plugins_eq]
      exact keeps.inHand call _ at_call key taken
    refine single rfl rfl allows ?_ ?_
    · rintro c ⟨⟩; exact inHand
    · rintro c ⟨⟩; exact meets
  | @ends _ call op result at_call =>
    have allows := governs.allows_leave keeps at_call (knows _ _ rfl)
    exact single rfl rfl allows (fun _ absent => by cases absent) fun _ absent => by cases absent
  | @vanishes _ call op rest may at_call =>
    have allows := governs.allows_vanish keeps may at_call (knows _ _ rfl)
    exact single rfl rfl allows (fun _ absent => by cases absent) fun _ absent => by cases absent
  | @outside _ w others =>
    exact ⟨governs.keeps_outside keeps others, fun _ _ caller => by cases caller⟩

/-- A discipline that is kept at first is kept in every machine that is reached. -/
theorem Governs.keeps_reach (governs : D.Governs S sort known) {m₀ : Machine}
    (initial : D.Keeps S sort m₀)
    (knows : ∀ {m m' e}, Machine.Reach S m₀ m → Machine.Move S e m m' → ∀ call op,
      e.caller? = some (call, op) → known call op m.world m'.world)
    (reach : Machine.Reach S m₀ m) : D.Keeps S sort m := by
  induction reach with
  | start => exact initial
  | next before _ move ih => exact (governs.keeps_move ih move (knows before move)).1

end Discipline

end DeviceClaims
