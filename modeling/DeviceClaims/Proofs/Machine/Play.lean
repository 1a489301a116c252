import DeviceClaims.Proofs.Machine

namespace DeviceClaims

/-- What is next in a schedule: a call begins, an access of a call is answered, or a call is over. -/
inductive Turn
  | begins (call : Nat) (op : Operation)
  | goesOn (call : Nat)
  | ends (call : Nat)

/-- All turns of a call that makes so many accesses. -/
def Turn.whole (call : Nat) (op : Operation) (accesses : Nat) : List Turn :=
  .begins call op :: List.replicate accesses (.goesOn call) ++ [.ends call]

namespace World

instance (w : World) (a : StoreAccess) : Decidable (w.Worn a) :=
  match a with
  | .update r => decidable_of_iff (2 ^ 64 ≤ w.writes r.key)
    ⟨fun often => ⟨r, rfl, often⟩, fun ⟨_, same, often⟩ => by cases same; exact often⟩
  | .get _ | .create _ | .delete _ => isFalse nofun

/-- The answer to an access of a call, and what it makes of what calls share. There is none while a
lock is taken. -/
def answer? (w : World) (call : Nat) (op : Operation) : (a : Access) → Option (a.Answer × World)
  | .store a => if w.Worn a then none else some ((w.store.apply a).1, w.access a)
  | .pending a => some ((w.pending.apply a).1, w.setPending (w.pending.apply a).2)
  | .spec a => op.takes.map fun key =>
    (((w.specs key).apply a).1, w.setSpecs key ((w.specs key).apply a).2)
  | .lock node => if w.holder node = none then some ((), w.setHolder node (some call)) else none
  | .unlock node => if w.holder node = some call then some ((), w.setHolder node none) else none
  | .sleep _ => some ((), w)

theorem answers_of_answer? {faulty : Prop} {w w' : World} {call : Nat} {op : Operation} {a : Access}
    {answer : a.Answer} (found : w.answer? call op a = some (answer, w')) :
    w.Answers faulty call op a answer w' := by
  cases a with
  | store a =>
    by_cases worn : w.Worn a
    · simp [answer?, worn] at found
    · simp only [answer?, if_neg worn] at found
      cases found
      exact .store a worn
  | pending a =>
    cases found
    exact .pending a
  | spec a =>
    obtain ⟨key, takes, same⟩ := Option.map_eq_some_iff.mp found
    cases same
    exact .spec a key takes
  | lock node =>
    by_cases isFree : w.holder node = none
    · simp only [answer?, if_pos isFree] at found
      cases found
      exact .lock node isFree
    · simp [answer?, isFree] at found
  | unlock node =>
    by_cases own : w.holder node = some call
    · simp only [answer?, if_pos own] at found
      cases found
      exact .unlock node own
    · simp [answer?, own] at found
  | sleep delay =>
    cases found
    exact .sleep delay

end World

namespace Machine

/-- One turn of a schedule, unless it cannot be taken. -/
def turn (m : Machine) : Turn → Option (Event × Machine)
  | .begins call op => match m.calls call, op.program m.world with
    | none, some prog => some (.begins call op,
      ⟨op.enter call m.world, Function.update m.calls call (some ⟨op, prog⟩)⟩)
    | _, _ => none
  | .goesOn call => match m.calls call with
    | some ⟨op, .ask a next⟩ => (m.world.answer? call op a).map fun (answer, w) =>
      (.asks call op a answer, ⟨w, Function.update m.calls call (some ⟨op, next answer⟩)⟩)
    | _ => none
  | .ends call => match m.calls call with
    | some ⟨op, .done result⟩ => some (.ends call op,
      ⟨op.leave result m.world, Function.update m.calls call none⟩)
    | _ => none

def play : List Turn → Machine → Option Machine
  | [], m => some m
  | t :: rest, m => match m.turn t with
    | some (_, m') => play rest m'
    | none => none

def Free (S : Setting) (m : Machine) : Prop :=
  ∀ call c, m.calls call = some c → ∀ w, S.mayStep c.op w

theorem Free.update {S : Setting} {m : Machine} (free : m.Free S) {call : Nat} {w : World}
    {left : Option Call} (frees : ∀ c, left = some c → ∀ w, S.mayStep c.op w) :
    Free S ⟨w, Function.update m.calls call left⟩ := by
  intro other c at_other
  by_cases same : other = call
  · subst same
    exact frees c (by simpa only [Function.update_self] using at_other)
  · exact free other c (by simpa only [Function.update_of_ne same] using at_other)

/-- A turn is a move if its call may begin, and if it may always go on. -/
theorem turn_move {S : Setting} {m m' : Machine} {t : Turn} {e : Event}
    (may : ∀ call op, t = .begins call op → S.mayCall op ∧ ∀ w, S.mayStep op w) (free : m.Free S)
    (taken : m.turn t = some (e, m')) : Move S e m m' ∧ m'.Free S := by
  cases t with
  | begins call op =>
    cases unused : m.calls call with
    | some c => simp [turn, unused] at taken
    | none =>
      cases begun : op.program m.world with
      | none => simp [turn, unused, begun] at taken
      | some prog =>
        simp only [turn, unused, begun, Option.some.injEq, Prod.mk.injEq] at taken
        obtain ⟨rfl, rfl⟩ := taken
        obtain ⟨may, frees⟩ := may call op rfl
        exact ⟨.begins may unused begun, free.update (by rintro c ⟨⟩; exact frees)⟩
  | goesOn call =>
    cases at_call : m.calls call with
    | none => simp [turn, at_call] at taken
    | some c =>
      obtain ⟨op, rest⟩ := c
      cases rest with
      | ask a next =>
        simp only [turn, at_call] at taken
        obtain ⟨⟨answer, w⟩, found, same⟩ := Option.map_eq_some_iff.mp taken
        cases same
        have frees := free call _ at_call
        exact ⟨.asks at_call (frees _) (World.answers_of_answer? found),
          free.update (by rintro c ⟨⟩; exact frees)⟩
      | done | crash => simp [turn, at_call] at taken
  | ends call =>
    cases at_call : m.calls call with
    | none => simp [turn, at_call] at taken
    | some c =>
      obtain ⟨op, rest⟩ := c
      cases rest with
      | done result =>
        simp only [turn, at_call, Option.some.injEq, Prod.mk.injEq] at taken
        obtain ⟨rfl, rfl⟩ := taken
        exact ⟨.ends at_call, free.update (by rintro c ⟨⟩)⟩
      | ask | crash => simp [turn, at_call] at taken

theorem play_reach {S : Setting} {m₀ m m' : Machine} {turns : List Turn}
    (may : ∀ call op, .begins call op ∈ turns → S.mayCall op ∧ ∀ w, S.mayStep op w) (free : m.Free S)
    (before : Reach S m₀ m) (played : play turns m = some m') : Reach S m₀ m' ∧ m'.Free S := by
  induction turns generalizing m with
  | nil =>
    cases played
    exact ⟨before, free⟩
  | cons t rest ih =>
    unfold play at played
    split at played
    · next e m₁ taken =>
      obtain ⟨move, free⟩ := turn_move (fun call op same => may call op (same ▸ List.mem_cons_self)) free
        taken
      exact ih (fun call op member => may call op (List.mem_cons_of_mem _ member)) free
        (before.next trivial move) played
    · cases played

/-- The next access of a call is one to its directory of specifications, which fails. -/
def fail (m : Machine) (call : Nat) (detail : String) : Option Machine :=
  match m.calls call with
  | some ⟨op, .ask (.spec _) next⟩ => some ⟨m.world, Function.update m.calls call
    (some ⟨op, next (Except.error detail : Except String Unit)⟩)⟩
  | _ => none

/-- A machine in which a request to the specifications fails is reached. -/
theorem fail_reach {S : Setting} {m₀ m m' : Machine} {call : Nat} {detail : String} (faulty : S.faulty)
    (free : m.Free S) (before : Reach S m₀ m) (failed : m.fail call detail = some m') :
    Reach S m₀ m' ∧ m'.Free S := by
  unfold fail at failed
  split at failed
  · next op a next at_call =>
    cases failed
    have frees := free call _ at_call
    exact ⟨before.next trivial (.asks at_call (frees _) (.specFault a detail faulty)),
      free.update (by rintro c ⟨⟩; exact frees)⟩
  · cases failed

/-- What a turn after a schedule shows is shown by a move of a machine that is reached. -/
theorem play_shows_from {S : Setting} {m₀ : Machine} (free : m₀.Free S) (turns : List Turn) (t : Turn)
    (shows : Machine → Event → Machine → Bool)
    (may : ∀ call op, .begins call op ∈ t :: turns → S.mayCall op ∧ ∀ w, S.mayStep op w)
    (shown : ((play turns m₀).any fun m => (m.turn t).any fun (e, m') => shows m e m') = true) :
    ∃ m e m', Reach S m₀ m ∧ Move S e m m' ∧ m'.Free S ∧ shows m e m' = true := by
  cases played : play turns m₀ with
  | none => simp [played] at shown
  | some m =>
    obtain ⟨reach, free⟩ := play_reach
      (fun call op member => may call op (List.mem_cons_of_mem _ member)) free .start played
    rw [played, Option.any_some] at shown
    cases taken : m.turn t with
    | none => simp [taken] at shown
    | some next =>
      obtain ⟨e, m'⟩ := next
      rw [taken, Option.any_some] at shown
      obtain ⟨move, free⟩ :=
        turn_move (fun call op same => may call op (same ▸ List.mem_cons_self)) free taken
      exact ⟨m, e, m', reach, move, free, shown⟩

/-- What is shown after a schedule of calls that begin from nothing. -/
theorem play_shows {S : Setting} {w : World} (turns : List Turn) (t : Turn)
    (shows : Machine → Event → Machine → Bool)
    (may : ∀ call op, .begins call op ∈ t :: turns → S.mayCall op ∧ ∀ w, S.mayStep op w)
    (shown : ((play turns (.idle w)).any fun m => (m.turn t).any fun (e, m') => shows m e m') = true) :
    ∃ m e m', Reach S (.idle w) m ∧ Move S e m m' ∧ shows m e m' = true := by
  have free : (idle w).Free S := fun _ _ absent => by cases absent
  obtain ⟨m, e, m', reach, move, -, shown⟩ := play_shows_from free turns t shows may shown
  exact ⟨m, e, m', reach, move, shown⟩

end Machine

end DeviceClaims
