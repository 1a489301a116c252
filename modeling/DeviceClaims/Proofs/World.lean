import DeviceClaims.Controller.Basic
import DeviceClaims.Node.Plugin
import DeviceClaims.Store.Memory
import Mathlib.Logic.Function.Basic

namespace DeviceClaims

/-- Where a node's plugin stands: it does not run, it waits for the next call, or a call has what the
plugin knows in hand, perhaps to prepare a claim. -/
inductive PluginPhase
  | down
  | up (state : DeviceState)
  | busy (call : Nat) (preparing : Option ClaimUid)

/-- What calls share: the store, the tracker of one controller, each plugin's specifications, who
holds the lock of a node, and what each plugin keeps between its calls. How often a record has been
written is counted beside its version, which begins anew after 2 ^ 64 writes. -/
structure World where
  store : MemoryStore := {}
  writes : ObjectKey → Nat := fun _ => 0
  pending : PendingTracker := {}
  specs : ObjectKey → SpecDir := fun _ => {}
  holder : String → Option Nat := fun _ => none
  plugins : ObjectKey → PluginPhase := fun _ => .down

namespace World

/-- The record under a key. -/
def record (w : World) (key : ObjectKey) : Option NodeRecord := w.store.records.get? key

/-- What a record says that a claim holds. -/
def allocation (w : World) (key : ObjectKey) (claim : ClaimUid) : Option (List AllocatedDevice) :=
  (w.record key).bind (·.spec.allocated.get? claim)

/-- The writes with one more of the record that has a key. -/
def countWrite (w : World) (key : ObjectKey) : ObjectKey → Nat :=
  Function.update w.writes key (w.writes key + 1)

/-- The world with a record in place of the one that has its key. -/
def put (w : World) (r : NodeRecord) : World :=
  { w with store := ⟨w.store.records.insert r.key r⟩, writes := w.countWrite r.key }

/-- What an access of the store makes of the world. -/
def access (w : World) (a : StoreAccess) : World :=
  { w with
    store := (w.store.apply a).2
    writes := match a, (w.store.apply a).1 with
      | .create r, .ok _ | .update r, .ok _ => w.countWrite r.key
      | _, _ => w.writes }

def setPlugin (w : World) (key : ObjectKey) (phase : PluginPhase) : World :=
  { w with plugins := Function.update w.plugins key phase }

def setHolder (w : World) (node : String) (holder : Option Nat) : World :=
  { w with holder := Function.update w.holder node holder }

def setSpecs (w : World) (key : ObjectKey) (dir : SpecDir) : World :=
  { w with specs := Function.update w.specs key dir }

def setPending (w : World) (t : PendingTracker) : World := { w with pending := t }

/-- The world without the locks of a call. -/
def unlockAll (w : World) (call : Nat) : World :=
  { w with holder := fun node => if w.holder node = some call then none else w.holder node }

/-- Every record is under its own key. -/
def WellKeyed (w : World) : Prop := ∀ key r, w.record key = some r → r.key = key

/-- The record of an update has been written so often that its versions do not tell its states apart
any more. -/
def Worn (w : World) (a : StoreAccess) : Prop := ∃ r, a = .update r ∧ 2 ^ 64 ≤ w.writes r.key

end World

/-- A call of the controller, of a plugin, or of the status command. -/
inductive Operation
  | filter (c : Controller) (pod : List ClaimAllocation) (nodes : List String)
  | allocate (c : Controller) (claim : ClaimUid) (node : String)
  | deallocate (c : Controller) (claim : ResourceClaim)
  | start (p : Plugin) (count : Nat)
  | prepare (p : Plugin) (claim : NodeClaim)
  | unprepare (p : Plugin) (claim : NodeClaim)
  | shutdown (p : Plugin)
  | setStatus (key : ObjectKey) (status : Readiness) (policy : RetryPolicy)

namespace Operation

/-- What a call gives back. A call that has a plugin in hand gives back what the plugin knows. -/
def Result : Operation → Type
  | filter .. => List ClaimAllocation
  | allocate .. => Except DriverError AllocationResult
  | deallocate .. => Except DriverError Unit
  | start .. => Except PluginError DeviceState
  | prepare .. => PrepareOutcome × DeviceState
  | unprepare .. => UnprepareOutcome × DeviceState
  | shutdown .. => Except PluginError Unit
  | setStatus .. => Except StoreError NodeRecord

/-- The plugin that a call takes in hand, so that no other such call runs beside it. -/
def takes : Operation → Option ObjectKey
  | start p _ | prepare p _ | unprepare p _ => some p.key
  | _ => none

def controller? : Operation → Option Controller
  | filter c .. | allocate c .. | deallocate c _ => some c
  | _ => none

/-- What a call does when it begins, unless it needs a plugin that runs and there is none. -/
def program : (op : Operation) → World → Option (Prog op.Result)
  | filter c pod nodes, _ => some (c.unsuitableNodes pod nodes)
  | allocate c claim node, _ => some (c.allocate claim node)
  | deallocate c claim, _ => some (c.deallocate claim)
  | start p count, w => match w.plugins p.key with
    | .busy .. => none
    | _ => some (p.start count)
  | prepare p claim, w => match w.plugins p.key with
    | .up s => some (p.prepare claim s)
    | _ => none
  | unprepare p claim, w => match w.plugins p.key with
    | .up s => some (p.unprepare claim s)
    | _ => none
  | shutdown p, _ => some p.shutdown
  | setStatus key status policy, _ => some ((StoreClient.setStatus key status).retry policy)

def enter (call : Nat) : Operation → World → World
  | start p _, w | unprepare p _, w => w.setPlugin p.key (.busy call none)
  | prepare p claim, w => w.setPlugin p.key (.busy call (some claim.uid))
  | _, w => w

def leave : (op : Operation) → op.Result → World → World
  | start p _, .ok s, w => w.setPlugin p.key (.up s)
  | start p _, .error _, w => w.setPlugin p.key .down
  | prepare p _, (_, s), w | unprepare p _, (_, s), w => w.setPlugin p.key (.up s)
  | filter .., _, w | allocate .., _, w | deallocate .., _, w | shutdown _, _, w
  | setStatus .., _, w => w

/-- The world once a call has come to nothing: its locks are free, and a plugin that it had in hand
does not run any more. -/
def vanish (call : Nat) (op : Operation) (w : World) : World :=
  match op.takes with
  | some key => (w.unlockAll call).setPlugin key .down
  | none => w.unlockAll call

end Operation

/-- How an access of a call may be answered. The store answers as it does in memory, but any update
may also meet a conflict without cause; keys of the tracker are listed in any order; a directory of
specifications may fail if `faulty`. An update of a record that has been written 2 ^ 64 times is left
out, since it could meet the very version that another state of the record had. -/
inductive World.Answers (faulty : Prop) (call : Nat) (op : Operation) (w : World) :
    (a : Access) → a.Answer → World → Prop
  | store (a : StoreAccess) (fresh : ¬ w.Worn a) :
      Answers faulty call op w (.store a) (w.store.apply a).1 (w.access a)
  | conflict (r : NodeRecord) (actual : UInt64) :
      Answers faulty call op w (.store (.update r))
        (Except.error (StoreError.conflict r.key r.version actual) : Except StoreError NodeRecord) w
  | pending (a : PendingAccess) :
      Answers faulty call op w (.pending a) (w.pending.apply a).1 (w.setPending (w.pending.apply a).2)
  | claims (l : List ClaimUid) (same : l.Perm w.pending.claims.keys) :
      Answers faulty call op w (.pending .claims) l w
  | pairs (l : List (ClaimUid × String)) (same : l.Perm w.pending.pairs) :
      Answers faulty call op w (.pending .pairs) l w
  | spec (a : SpecAccess) (key : ObjectKey) (own : op.takes = some key) :
      Answers faulty call op w (.spec a) ((w.specs key).apply a).1
        (w.setSpecs key ((w.specs key).apply a).2)
  | specFault (a : SpecAccess) (detail : String) (may : faulty) :
      Answers faulty call op w (.spec a) (Except.error detail : Except String Unit) w
  | lock (node : String) (isFree : w.holder node = none) :
      Answers faulty call op w (.lock node) () (w.setHolder node (some call))
  | unlock (node : String) (own : w.holder node = some call) :
      Answers faulty call op w (.unlock node) () (w.setHolder node none)
  | sleep (delay : Delay) : Answers faulty call op w (.sleep delay) () w

end DeviceClaims
