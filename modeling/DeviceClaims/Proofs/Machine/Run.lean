import DeviceClaims.Proofs.Course
import DeviceClaims.Proofs.Machine.Play

namespace DeviceClaims

/-- What happens when a machine moves, with what is shared before and after it. -/
structure Happening where
  before : World
  event : Event
  after : World

/-- Whatever others do between the accesses of a program changes nothing of what it has come to. -/
structure Surroundings.Settles {σ α : Type} (E : Surroundings σ)
    (post : List (Step σ) → α → σ → Prop) (crashed : List (Step σ) → σ → Prop) : Prop where
  refl : ∀ s, E.between s s
  trans : ∀ {s s' s''}, E.between s s' → E.between s' s'' → E.between s s''
  post : ∀ {steps a s s'}, E.between s s' → post steps a s → post steps a s'
  crashed : ∀ {steps s s'}, E.between s s' → crashed steps s → crashed steps s'

/-- What always comes of a program comes of it after others have done what they may. -/
theorem Prog.Always.of_between {σ α : Type} {E : Surroundings σ} {post : List (Step σ) → α → σ → Prop}
    {crashed : List (Step σ) → σ → Prop} {p : Prog α} {steps : List (Step σ)} {s s' : σ}
    (settles : E.Settles post crashed) (between : E.between s s')
    (always : p.Always E post crashed steps s) : p.Always E post crashed steps s' := by
  cases p with
  | done a => exact settles.post between always
  | crash => exact settles.crashed between always
  | ask a next => exact fun s₁ after => always s₁ (settles.trans between after)

namespace Machine

/-- What a machine becomes while all of this happens, the latest first. -/
inductive Run (S : Setting) (m₀ : Machine) : List Happening → Machine → Prop
  | start : Run S m₀ [] m₀
  | next {log : List Happening} {m m' : Machine} {e : Event} (before : Run S m₀ log m)
      (move : Move S e m m') : Run S m₀ (⟨m.world, e, m'.world⟩ :: log) m'

/-- The steps of a call since it began. -/
def stepsOf (call : Nat) : List Happening → List (Step World)
  | [] => []
  | ⟨w, .asks other _ a answer, w'⟩ :: earlier =>
    if other = call then stepsOf call earlier ++ [⟨w, a, answer, w'⟩] else stepsOf call earlier
  | ⟨_, .begins other _, _⟩ :: earlier => if other = call then [] else stepsOf call earlier
  | ⟨_, .ends .., _⟩ :: earlier | ⟨_, .vanishes .., _⟩ :: earlier | ⟨_, .outside, _⟩ :: earlier =>
    stepsOf call earlier

variable {S : Setting} {m₀ m m' : Machine} {log : List Happening} {e : Event} {call : Nat}

theorem Run.to_reach (run : Run S m₀ log m) : Reach S m₀ m := by
  induction run with
  | start => exact .start
  | next _ move ih => exact ih.next trivial move

/-- What others do is no step of a call. -/
theorem stepsOf_other (apart : ∀ op, e.caller? ≠ some (call, op)) (w w' : World)
    (log : List Happening) : stepsOf call (⟨w, e, w'⟩ :: log) = stepsOf call log := by
  cases e with
  | asks other op | begins other op =>
    refine if_neg ?_
    rintro rfl
    exact apart op rfl
  | ends | vanishes | outside => rfl

/-- A call of which others move is what it was. -/
theorem Move.calls_other (move : Move S e m m') (apart : ∀ op, e.caller? ≠ some (call, op)) :
    m'.calls call = m.calls call := by
  cases move with
  | outside => rfl
  | begins | asks | ends | vanishes =>
    refine Function.update_of_ne ?_ _ _
    rintro rfl
    exact apart _ rfl

/-- What always comes of the program of a call from its beginning comes of what is left of it, by the
steps that the call has made so far. -/
theorem Run.always_of_call {w₀ : World} {op : Operation} {E : Surroundings World}
    {post : List (Step World) → op.Result → World → Prop} {crashed : List (Step World) → World → Prop}
    (settles : E.Settles post crashed)
    (answers : ∀ w a answer w', w.Answers S.faulty call op a answer w' → E.answers w a answer w')
    (begins : ∀ {m prog}, Reach S (.idle w₀) m → S.mayCall op → op.program m.world = some prog →
      prog.Always E post crashed [] (op.enter call m.world))
    (others : ∀ {m m' e rest}, Reach S (.idle w₀) m → Move S e m m' →
      (∀ op, e.caller? ≠ some (call, op)) → m.calls call = some ⟨op, rest⟩ →
      E.between m.world m'.world)
    (run : Run S (.idle w₀) log m) {rest : Prog op.Result} (at_call : m.calls call = some ⟨op, rest⟩) :
    rest.Always E post crashed (stepsOf call log) m.world := by
  induction run generalizing rest with
  | start => cases at_call
  | @next log m m' e before move ih =>
    by_cases own : ∃ op, e.caller? = some (call, op)
    · obtain ⟨_, caller⟩ := own
      cases move with
      | begins may unused begun =>
        cases caller
        simp only [Function.update_self] at at_call
        cases at_call
        simp only [stepsOf, if_true]
        exact begins before.to_reach may begun
      | asks at_before may answered =>
        cases caller
        simp only [Function.update_self] at at_call
        cases at_call
        simp only [stepsOf, if_true]
        exact (ih at_before _ (settles.refl _)).2 _ _ (answers _ _ _ _ answered)
      | ends | vanishes =>
        cases caller
        simp only [Function.update_self, reduceCtorEq] at at_call
      | outside => cases caller
    · have apart : ∀ op, e.caller? ≠ some (call, op) := fun op caller => own ⟨op, caller⟩
      rw [move.calls_other apart] at at_call
      rw [stepsOf_other apart]
      exact (ih at_call).of_between settles (others before.to_reach move apart at_call)

/-- Follows a schedule with all that happens on its way. -/
def record : List Turn → List Happening → Machine → Option (List Happening × Machine)
  | [], log, m => some (log, m)
  | t :: rest, log, m => match m.turn t with
    | some (e, m') => record rest (⟨m.world, e, m'.world⟩ :: log) m'
    | none => none

theorem record_run {turns : List Turn} {log log' : List Happening}
    (may : ∀ call op, .begins call op ∈ turns → S.mayCall op ∧ ∀ w, S.mayStep op w) (free : m.Free S)
    (before : Run S m₀ log m) (recorded : record turns log m = some (log', m')) :
    Run S m₀ log' m' := by
  induction turns generalizing log m with
  | nil =>
    cases recorded
    exact before
  | cons t rest ih =>
    unfold record at recorded
    split at recorded
    · next e m₁ taken =>
      obtain ⟨move, free⟩ := turn_move (fun call op same => may call op (same ▸ List.mem_cons_self)) free
        taken
      exact ih (fun call op member => may call op (List.mem_cons_of_mem _ member)) free
        (before.next move) recorded
    · cases recorded

end Machine

end DeviceClaims
