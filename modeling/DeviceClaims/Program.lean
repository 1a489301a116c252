import DeviceClaims.Pending
import DeviceClaims.SpecDir
import DeviceClaims.Store.Access

namespace DeviceClaims

/-- A length of time in nanoseconds. -/
abbrev Delay := Nat

/-- One access to what is shared. -/
inductive Access
  | store (a : StoreAccess)
  | pending (a : PendingAccess)
  | spec (a : SpecAccess)
  | lock (node : String)
  | unlock (node : String)
  | sleep (delay : Delay)
  deriving DecidableEq

def Access.Answer : Access → Type
  | store a => a.Answer
  | pending a => a.Answer
  | spec _ => SpecAccess.Answer
  | lock _ | unlock _ | sleep _ => Unit

/-- A computation over accesses. It stops with a value, or names one access and goes on with the answer.
What happens between two accesses of a program is up to whoever runs it. -/
inductive Prog (α : Type) : Type
  | done (value : α)
  | ask (a : Access) (next : a.Answer → Prog α)
  /-- Gives up in the middle. -/
  | crash

namespace Prog

variable {α β ε : Type}

def bind : Prog α → (α → Prog β) → Prog β
  | done a, f => f a
  | ask a next, f => ask a fun answer => (next answer).bind f
  | crash, _ => crash

instance : Monad Prog where
  pure := done
  bind := bind

def store (a : StoreAccess) : Prog a.Answer := ask (.store a) done

def pending (a : PendingAccess) : Prog a.Answer := ask (.pending a) done

def spec (a : SpecAccess) : Prog SpecAccess.Answer := ask (.spec a) done

def sleep (delay : Delay) : Prog Unit := ask (.sleep delay) done

/-- Goes on with the value of a program unless it failed. -/
def thenOk (p : Prog (Except ε α)) (f : α → Prog (Except ε β)) : Prog (Except ε β) :=
  p.bind fun
    | .ok a => f a
    | .error e => done (.error e)

/-- A program whose failures are part of larger ones. -/
def mapError {ε' : Type} (f : ε → ε') (p : Prog (Except ε α)) : Prog (Except ε' α) :=
  p.bind fun
    | .ok a => done (.ok a)
    | .error e => done (.error (f e))

/-- Runs a program with the lock of a node held. -/
def locked (node : String) (p : Prog α) : Prog α :=
  ask (.lock node) fun _ => p.bind fun a => ask (.unlock node) fun _ => done a

/-- Runs a program alone from a state that answers its accesses. There is no value after a
crash. -/
def run {σ : Type} (answer : (a : Access) → σ → a.Answer × σ) : Prog α → σ → Option α × σ
  | done a, s => (some a, s)
  | ask a next, s => let (r, s) := answer a s; run answer (next r) s
  | crash, s => (none, s)

@[simp] theorem pure_eq (a : α) : (pure a : Prog α) = done a := rfl

@[simp] theorem bind_eq (p : Prog α) (f : α → Prog β) : p >>= f = p.bind f := rfl

@[simp] theorem bind_done (p : Prog α) : p.bind done = p := by
  induction p with
  | done a => rfl
  | ask a next ih => simp only [bind]; congr 1; exact funext ih
  | crash => rfl

theorem bind_assoc {γ : Type} (p : Prog α) (f : α → Prog β) (g : β → Prog γ) :
    (p.bind f).bind g = p.bind fun a => (f a).bind g := by
  induction p with
  | done a => rfl
  | ask a next ih => simp only [bind]; congr 1; exact funext ih
  | crash => rfl

/-- A program is run up to a bind and then on from there. -/
theorem run_bind {σ : Type} (answer : (a : Access) → σ → a.Answer × σ) (p : Prog α)
    (f : α → Prog β) (s : σ) :
    (p.bind f).run answer s = match p.run answer s with
      | (some a, s) => (f a).run answer s
      | (none, s) => (none, s) := by
  induction p generalizing s with
  | done a => rfl
  | ask a next ih => exact ih _ _
  | crash => rfl

end Prog

end DeviceClaims
