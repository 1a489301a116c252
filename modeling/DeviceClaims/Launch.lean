import DeviceClaims.Config

namespace DeviceClaims

/-- What every process is told. -/
structure Launch where
  /-- How many threads it works with. -/
  threads : Option String := none
  /-- Which messages it logs, whatever its own settings say. -/
  logFilter : Option String := none
  deriving DecidableEq, Inhabited

namespace Launch

/-- Whether a number of threads can be worked with. -/
def areThreads (text : String) : Bool := match readNumber (2 ^ 64) text with
  | .ok n => 0 < n
  | .error _ => false

/-- Whether a process can begin at all; else it crashes. -/
def isSound (l : Launch) : Bool := l.threads.all areThreads

end Launch

end DeviceClaims
