import DeviceClaims.SortedMap

namespace DeviceClaims

/-- The nodes that were named, and whether each one's lock is held. A lock is made when its node is
first named. -/
structure NodeLocks where
  held : SortedMap String Bool := .empty
  deriving DecidableEq, Inhabited

namespace NodeLocks

def isHeld (l : NodeLocks) (node : String) : Bool := (l.held.get? node).getD false

/-- Makes a node's lock if there is none. -/
def name (l : NodeLocks) (node : String) : NodeLocks :=
  if l.held.contains node then l else ⟨l.held.insert node false⟩

/-- Takes a node's lock if it is free, and says whether it was. -/
def tryLock (l : NodeLocks) (node : String) : Bool × NodeLocks :=
  if l.isHeld node then (false, l) else (true, ⟨l.held.insert node true⟩)

/-- Frees a node's lock, and says whether it was held. -/
def unlock (l : NodeLocks) (node : String) : Bool × NodeLocks :=
  if l.isHeld node then (true, ⟨l.held.insert node false⟩) else (false, l)

def size (l : NodeLocks) : Nat := l.held.size

end NodeLocks

end DeviceClaims
