import DeviceClaims.Program
import DeviceClaims.Store.Faulty

namespace DeviceClaims

/-- A store, a tracker and a directory of specifications. All that a program can reach when it runs
alone: nobody else holds a lock, and waiting takes no time. -/
structure Site where
  store : FaultyStore
  pending : PendingTracker := {}
  specs : FaultySpecDir := {}
  deriving Inhabited

namespace Site

def answer : (a : Access) → Site → a.Answer × Site
  | .store a, s => let (r, store) := s.store.apply a; (r, { s with store })
  | .pending a, s => let (r, pending) := s.pending.apply a; (r, { s with pending })
  | .spec a, s => let (r, specs) := s.specs.apply a; (r, { s with specs })
  | .lock _, s | .unlock _, s | .sleep _, s => ((), s)

/-- Runs a program alone. There is no value after a crash. -/
def run {α : Type} (p : Prog α) (s : Site) : Option α × Site := p.run answer s

end Site

end DeviceClaims
