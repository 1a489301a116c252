import DeviceClaims.Double.Basic
import DeviceClaims.Program

namespace DeviceClaims

namespace Delay

/-- So many nanoseconds are a second. -/
def second : Nat := 10 ^ 9

/-- A delay of milliseconds. -/
def ofMillis (n : Nat) : Delay := n * 10 ^ 6

/-- A delay in seconds: the whole seconds and the rest are rounded apart, and then their sum. -/
def toSeconds (d : Delay) : Double :=
  .add (.ofNat (d / second)) (.div (.ofNat (d % second)) (.ofNat second))

/-- The delay nearest to a number of seconds, unless its whole seconds need more than 64 bits. -/
def ofSeconds? (x : Double) : Option Delay :=
  if x.isFinite then
    let (num, den) := x.ratio
    if num / den < 2 ^ 64 then some (Double.roundDiv (num * second) den) else none
  else none

/-- A delay times a factor that is not negative. -/
def scale? (d : Delay) (factor : Double) : Option Delay := ofSeconds? (factor.mul d.toSeconds)

/-- The longest time that can be slept: thirty years of 365 days. -/
def longest : Delay := 30 * 365 * 24 * 60 * 60 * second

/-- After how many milliseconds a sleep ends, which it does at a whole one. -/
def sleptMillis (d : Delay) : Nat := (min d longest + (10 ^ 6 - 1)) / 10 ^ 6

end Delay

/-- How often an attempt is repeated and after what delays. An attempt that meets another writer's
version is made again from its beginning, until it succeeds, fails for another reason or the attempts
are used up. -/
structure RetryPolicy where
  /-- All attempts, the first one included; none counts as one. -/
  maxAttempts : Nat := 5
  /-- The delay before the second attempt. -/
  backoff : Delay := Delay.ofMillis 10
  /-- By how much every delay is longer than the last; less than one counts as one. -/
  factor : Double := .ofNat 1
  /-- No later delay is longer. -/
  maxBackoff : Delay := Delay.second
  deriving DecidableEq, Inhabited

namespace RetryPolicy

/-- The policy with another number of attempts, at least one. -/
def withMaxAttempts (p : RetryPolicy) (n : Nat) : RetryPolicy := { p with maxAttempts := max n 1 }

/-- How many attempts are made at most. -/
def budget (p : RetryPolicy) : Nat := max p.maxAttempts 1

/-- The delay that follows a delay, if it can be written. -/
def next? (p : RetryPolicy) (d : Delay) : Option Delay :=
  let one := Double.ofNat 1
  (d.scale? (if p.factor.lt one then one else p.factor)).map (min · p.maxBackoff)

end RetryPolicy

/-- Failures among which a conflict with another writer can be told. -/
class Retryable (ε : Type) where
  isConflict : ε → Bool
  /-- The failure after so many attempts that all met a conflict, the last of them this one. -/
  exhausted : Nat → ε → ε

instance : Retryable StoreError where
  isConflict := StoreError.isConflict
  exhausted attempts last := .persistence attempts last.message

namespace Prog

/-- Goes on with a delay, if it can be written. -/
def resume {α : Type} (next : Delay → Prog α) : Option Delay → Prog α
  | none => crash
  | some delay => next delay

/-- Waits, and goes on with the delay that is to follow. -/
def pause {α : Type} (policy : RetryPolicy) (delay : Delay) (next : Delay → Prog α) : Prog α :=
  ask (.sleep delay) fun _ => resume next (policy.next? delay)

variable {α ε : Type} [Retryable ε]

/-- Makes attempts while conflicts are met; so many may follow the next one. -/
def attempts (policy : RetryPolicy) (op : Prog (Except ε α)) : Nat → Delay → Prog (Except ε α)
  | left, delay => op.bind fun
    | .ok a => done (.ok a)
    | .error e =>
      if Retryable.isConflict e then match left with
        | 0 => done (.error (Retryable.exhausted policy.budget e))
        | left + 1 => pause policy delay (attempts policy op left)
      else done (.error e)

def retry (policy : RetryPolicy) (op : Prog (Except ε α)) : Prog (Except ε α) :=
  attempts policy op (policy.budget - 1) policy.backoff

end Prog

end DeviceClaims
