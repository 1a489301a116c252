import DeviceClaims.Retry

namespace DeviceClaims

/-- An access that was answered. -/
structure Step (σ : Type) where
  before : σ
  access : Access
  answer : access.Answer
  after : σ

/-- What is around a program: what others may do between its accesses, and how these may be
answered. -/
structure Surroundings (σ : Type) where
  between : σ → σ → Prop
  answers : σ → (a : Access) → a.Answer → σ → Prop

/-- An access that may have to wait for others before it is answered. -/
inductive Access.Waits : Access → Prop
  | lock (node : String) : Waits (.lock node)

namespace RetryPolicy

/-- So many delays can follow a delay. -/
def Lasts (p : RetryPolicy) : Nat → Delay → Prop
  | 0, _ => True
  | n + 1, delay => ∃ following, p.next? delay = some following ∧ p.Lasts n following

/-- No delay between two attempts is too long to be written. -/
def Steady (p : RetryPolicy) : Prop := p.Lasts (p.budget - 1) p.backoff

variable {p : RetryPolicy} {n : Nat} {delay : Delay}

theorem Lasts.next_ne_none (lasts : p.Lasts (n + 1) delay) : p.next? delay ≠ none := by
  obtain ⟨following, found, _⟩ := lasts
  rw [found]
  nofun

/-- After a delay there are delays for one attempt less. -/
theorem Lasts.of_next (lasts : p.Lasts (n + 1) delay) {following : Delay}
    (found : p.next? delay = some following) : p.Lasts n following := by
  obtain ⟨_, found', lasts⟩ := lasts
  rw [found] at found'
  cases found'
  exact lasts

/-- A delay that stays as it is lasts for any number of attempts. -/
theorem Lasts.of_fixed (fixed : p.next? delay = some delay)
    (n : Nat) : p.Lasts n delay := by
  induction n with
  | zero => trivial
  | succ n ih => exact ⟨delay, fixed, ih⟩

/-- However many attempts there may be, the delays that are used unless others are chosen can be
written. -/
theorem steady_default (n : Nat) : ({ maxAttempts := n } : RetryPolicy).Steady := by
  have fixed : ({} : RetryPolicy).next? ({} : RetryPolicy).backoff = some ({} : RetryPolicy).backoff := by
    decide +kernel
  exact Lasts.of_fixed (p := { maxAttempts := n }) fixed _

end RetryPolicy

namespace Prog

variable {σ α β ε : Type}

/-- However its accesses are answered and whatever others do in between, a program stops with a value
that satisfies a condition, or gives up as it may; only for locks it may have to wait. -/
def Always (E : Surroundings σ) (post : List (Step σ) → α → σ → Prop)
    (crashed : List (Step σ) → σ → Prop) : Prog α → List (Step σ) → σ → Prop
  | done a, steps, s => post steps a s
  | crash, steps, s => crashed steps s
  | ask a next, steps, s => ∀ s₁, E.between s s₁ →
      (a.Waits ∨ ∃ answer s₂, E.answers s₁ a answer s₂) ∧
        ∀ answer s₂, E.answers s₁ a answer s₂ →
          Always E post crashed (next answer) (steps ++ [⟨s₁, a, answer, s₂⟩]) s₂

/-- One course that a program may take from what is shared to its value and to what is shared then. -/
inductive Course (E : Surroundings σ) : Prog α → σ → List (Step σ) → α → σ → Prop
  | done (a : α) (s : σ) : Course E (done a) s [] a s
  | ask {a : Access} {next : a.Answer → Prog α} {s s₁ s₂ s' : σ} {answer : a.Answer}
      {steps : List (Step σ)} {value : α} (between : E.between s s₁)
      (answered : E.answers s₁ a answer s₂) (rest : Course E (next answer) s₂ steps value s') :
      Course E (ask a next) s (⟨s₁, a, answer, s₂⟩ :: steps) value s'

/-- Follows the course of a program that nobody disturbs. -/
def follow (answer? : (a : Access) → σ → Option (a.Answer × σ)) :
    Prog α → σ → Option (List (Step σ) × α × σ)
  | done a, s => some ([], a, s)
  | crash, _ => none
  | ask a next, s => match answer? a s with
    | none => none
    | some (answer, s') => (follow answer? (next answer) s').map fun (steps, last) =>
      (⟨s, a, answer, s'⟩ :: steps, last)

/-- A condition on values, and another one for all failures. -/
def outcome (ok : List (Step σ) → α → σ → Prop) (failed : List (Step σ) → σ → Prop)
    (steps : List (Step σ)) : Except ε α → σ → Prop
  | .ok a, s => ok steps a s
  | .error _, s => failed steps s

namespace Always

variable {E : Surroundings σ} {post : List (Step σ) → α → σ → Prop}
  {crashed : List (Step σ) → σ → Prop} {steps : List (Step σ)} {s : σ}

theorem weaken {post' : List (Step σ) → α → σ → Prop} {p : Prog α}
    (always : p.Always E post' crashed steps s)
    (implies : ∀ steps a s, post' steps a s → post steps a s) : p.Always E post crashed steps s := by
  induction p generalizing steps s with
  | done a => exact implies _ _ _ always
  | crash => exact always
  | ask a next ih =>
    intro s₁ between
    obtain ⟨answered, rest⟩ := always s₁ between
    exact ⟨answered, fun answer s₂ answers => ih answer (rest answer s₂ answers)⟩

theorem and {post' : List (Step σ) → α → σ → Prop} {p : Prog α} (one : p.Always E post crashed steps s)
    (other : p.Always E post' crashed steps s) :
    p.Always E (fun steps a s => post steps a s ∧ post' steps a s) crashed steps s := by
  induction p generalizing steps s with
  | done a => exact ⟨one, other⟩
  | crash => exact one
  | ask a next ih =>
    intro s₁ between
    obtain ⟨answered, rest⟩ := one s₁ between
    exact ⟨answered, fun answer s₂ answers =>
      ih answer (rest answer s₂ answers) ((other s₁ between).2 answer s₂ answers)⟩

/-- An access is answered, and what is left of the program has its course. -/
theorem ask {a : Access} {next : a.Answer → Prog α}
    (answered : ∀ s₁, E.between s s₁ → a.Waits ∨ ∃ answer s₂, E.answers s₁ a answer s₂)
    (rest : ∀ s₁, E.between s s₁ → ∀ answer s₂, E.answers s₁ a answer s₂ →
      (next answer).Always E post crashed (steps ++ [⟨s₁, a, answer, s₂⟩]) s₂) :
    (Prog.ask a next).Always E post crashed steps s :=
  fun s₁ between => ⟨answered s₁ between, rest s₁ between⟩

/-- What always comes of a program comes of every course that it takes. -/
theorem post_of_course {p : Prog α} {before : List (Step σ)} {value : α} {s' : σ}
    (always : p.Always E post crashed before s) (course : Course E p s steps value s') :
    post (before ++ steps) value s' := by
  induction course generalizing before with
  | done a s =>
    rw [List.append_nil]
    exact always
  | @ask a _ _ s₁ s₂ _ answer steps _ between answered _ ih =>
    have rest := ih ((always s₁ between).2 answer s₂ answered)
    rwa [List.append_assoc] at rest

theorem bind {f : α → Prog β} {post : List (Step σ) → β → σ → Prop} {p : Prog α}
    (always : p.Always E (fun steps a s => (f a).Always E post crashed steps s) crashed steps s) :
    (p.bind f).Always E post crashed steps s := by
  induction p generalizing steps s with
  | done a => exact always
  | crash => exact always
  | ask a next ih =>
    intro s₁ between
    obtain ⟨answered, rest⟩ := always s₁ between
    exact ⟨answered, fun answer s₂ answers => ih answer (rest answer s₂ answers)⟩

theorem thenOk {f : α → Prog (Except ε β)} {post : List (Step σ) → Except ε β → σ → Prop}
    {p : Prog (Except ε α)}
    (always : p.Always E (outcome (fun steps a s => (f a).Always E post crashed steps s)
      fun steps s => ∀ e, post steps (.error e) s) crashed steps s) :
    (p.thenOk f).Always E post crashed steps s := by
  refine bind (always.weaken fun steps result s reached => ?_)
  cases result with
  | ok a => exact reached
  | error e => exact reached e

theorem resume {next : Delay → Prog α} (following : Option Delay)
    (overlong : following = none → crashed steps s)
    (woken : ∀ delay, following = some delay → (next delay).Always E post crashed steps s) :
    (Prog.resume next following).Always E post crashed steps s := by
  cases following with
  | none => exact overlong rfl
  | some delay => exact woken delay rfl

/-- Attempts may be repeated if each of them can be made after any that failed, and after a sleep. -/
theorem attempts [Retryable ε] {policy : RetryPolicy} {p : Prog (Except ε α)}
    {ok : List (Step σ) → α → σ → Prop} {ready : List (Step σ) → σ → Prop}
    (attempt : ∀ steps s, ready steps s → p.Always E (outcome ok ready) crashed steps s)
    (rests : ∀ steps s s₁ delay, ready steps s → E.between s s₁ →
      (∃ answer s₂, E.answers s₁ (.sleep delay) answer s₂) ∧ ∀ answer s₂,
        E.answers s₁ (.sleep delay) answer s₂ → ready (steps ++ [⟨s₁, .sleep delay, answer, s₂⟩]) s₂)
    (left : Nat) (delay : Delay)
    (overlong : ¬ policy.Lasts left delay → ∀ steps s, ready steps s → crashed steps s)
    (first : ready steps s) :
    (Prog.attempts policy p left delay).Always E (outcome ok ready) crashed steps s := by
  induction left generalizing steps s delay with
  | zero =>
    unfold Prog.attempts
    refine bind ((attempt steps s first).weaken fun steps result s reached => ?_)
    cases result with
    | ok a => exact reached
    | error e => dsimp only; split <;> exact reached
  | succ left ih =>
    unfold Prog.attempts
    refine bind ((attempt steps s first).weaken fun steps result s reached => ?_)
    cases result with
    | ok a => exact reached
    | error e =>
      dsimp only
      split
      · refine ask (fun s₁ between => .inr (rests _ _ s₁ delay reached between).1)
          fun s₁ between answer s₂ answers => ?_
        have again := (rests _ _ s₁ delay reached between).2 answer s₂ answers
        refine resume _ (fun absent => ?_) fun following found => ?_
        · exact overlong (fun lasts => lasts.next_ne_none absent) _ _ again
        · exact ih following (fun short => overlong fun lasts => short (lasts.of_next found)) again
      · exact reached

/-- Attempts that are ready to be made again come to success, or to the failure to succeed in time. -/
theorem retry [Retryable ε] {policy : RetryPolicy} {p : Prog (Except ε α)}
    {ok : List (Step σ) → α → σ → Prop} {ready : List (Step σ) → σ → Prop}
    (attempt : ∀ steps s, ready steps s → p.Always E (outcome ok ready) crashed steps s)
    (rests : ∀ steps s s₁ delay, ready steps s → E.between s s₁ →
      (∃ answer s₂, E.answers s₁ (.sleep delay) answer s₂) ∧ ∀ answer s₂,
        E.answers s₁ (.sleep delay) answer s₂ → ready (steps ++ [⟨s₁, .sleep delay, answer, s₂⟩]) s₂)
    (overlong : ¬ policy.Steady → ∀ steps s, ready steps s → crashed steps s)
    (first : ready steps s) : (p.retry policy).Always E (outcome ok ready) crashed steps s :=
  attempts attempt rests _ _ overlong first

end Always

theorem course_of_follow {E : Surroundings σ} {answer? : (a : Access) → σ → Option (a.Answer × σ)}
    (still : ∀ s, E.between s s)
    (answers : ∀ s a answer s', answer? a s = some (answer, s') → E.answers s a answer s')
    {p : Prog α} {s s' : σ} {steps : List (Step σ)} {value : α}
    (followed : p.follow answer? s = some (steps, value, s')) : Course E p s steps value s' := by
  induction p generalizing s steps with
  | done a =>
    cases followed
    exact .done _ _
  | crash => cases followed
  | ask a next ih =>
    unfold follow at followed
    split at followed
    · cases followed
    · next answer s₁ answered =>
      obtain ⟨⟨rest, _⟩, follows, same⟩ := Option.map_eq_some_iff.mp followed
      cases same
      exact .ask (still s) (answers s a answer s₁ answered) (ih answer follows)

end Prog

end DeviceClaims
