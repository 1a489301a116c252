import DeviceClaims.Controller.Service
import DeviceClaims.Node.Service
import DeviceClaims.Site
import DeviceClaims.Wire.Delivery

namespace DeviceClaims

/-- A plugin that was started. -/
structure StartedPlugin where
  state : DeviceState
  /-- Whether it was shut down, which ends its streams. -/
  stopped : Bool := false
  deriving DecidableEq, Inhabited

/-- A node with its specifications and the plugins started on it. Earlier plugins stay reachable for
those who hold on to them. -/
structure NodeHost where
  specs : FaultySpecDir := {}
  /-- The plugins in the order in which they were started; the last one is in use. -/
  plugins : List StartedPlugin := []
  /-- The plugin that serves remote callers, and the longest message that it reads. -/
  served : Option (Nat × Nat) := none
  /-- The plugin to which the stream that was opened last belongs. -/
  stream : Option Nat := none
  deriving Inhabited

namespace NodeHost

def current? (h : NodeHost) : Option Nat :=
  if h.plugins.isEmpty then none else some (h.plugins.length - 1)

/-- The plugin that answers remote callers: the serving one, or else the one in use. -/
def answering? (h : NodeHost) : Option Nat := (h.served.map (·.1)).or h.current?

/-- Whether the stream that was opened last has ended. -/
def streamEnded? (h : NodeHost) : Option Bool :=
  h.stream.map fun i => ((h.plugins[i]?).map (·.stopped)).getD true

/-- The host with the plugin at a place changed. -/
def setPlugin (h : NodeHost) (i : Nat) (p : StartedPlugin) : NodeHost :=
  { h with plugins := h.plugins.set i p }

end NodeHost

/-- A controller and nodes over one store, each used in turn by a caller who waits for every answer. -/
structure Cluster where
  store : FaultyStore
  controller : Controller
  pending : PendingTracker := {}
  nodes : SortedMap String NodeHost := .empty
  /-- The longest message that the controller reads, if it serves remote callers. -/
  served : Option Nat := none
  deriving Inhabited

namespace Cluster

/-- Runs a program of the controller. There is no value after a crash. -/
def control {α : Type} (c : Cluster) (p : Prog α) : Option α × Cluster :=
  let (a, site) := Site.run p { store := c.store, pending := c.pending }
  (a, { c with store := site.store, pending := site.pending })

/-- The host of a node, which is empty before the node is first named. -/
def host (c : Cluster) (node : String) : NodeHost := (c.nodes.get? node).getD {}

def setHost (c : Cluster) (node : String) (h : NodeHost) : Cluster :=
  { c with nodes := c.nodes.insert node h }

def onNode {α : Type} (c : Cluster) (node : String) (p : Prog α) : Option α × Cluster :=
  let h := c.host node
  let (a, site) := Site.run p { store := c.store, specs := h.specs }
  (a, { c with store := site.store }.setHost node { h with specs := site.specs })

def plugin (c : Cluster) (node : String) : Plugin := ⟨c.controller.recordKey node, c.controller.retry⟩

/-- Starts a plugin on a node. If that fails, an earlier one stays in use. -/
def start (c : Cluster) (node : String) (count : Nat) : Option (Except PluginError Unit) × Cluster :=
  match c.onNode node ((c.plugin node).start count) with
  | (none, c) => (none, c)
  | (some (.error e), c) => (some (.error e), c)
  | (some (.ok state), c) =>
    let h := c.host node
    (some (.ok ()), c.setHost node { h with plugins := h.plugins ++ [{ state }] })

/-- Runs a program of the plugin at a place of a node, which changes its state. -/
def withPlugin {α : Type} (c : Cluster) (node : String) (i : Nat)
    (f : Plugin → DeviceState → Prog (α × DeviceState)) : Option α × Cluster :=
  match (c.host node).plugins[i]? with
  | none => (none, c)
  | some p => match c.onNode node (f (c.plugin node) p.state) with
    | (none, c) => (none, c)
    | (some (a, state), c) => (some a, c.setHost node ((c.host node).setPlugin i { p with state }))

/-- Shuts down the plugin at a place of a node, which ends its streams even if the record cannot be
written. -/
def shutdown (c : Cluster) (node : String) (i : Nat) : Option (Except PluginError Unit) × Cluster :=
  let (r, c) := c.onNode node (c.plugin node).shutdown
  let h := c.host node
  match h.plugins[i]? with
  | none => (r, c)
  | some p => (r, c.setHost node (h.setPlugin i { p with stopped := true }))

/-- Answers a request that comes through a socket with a limit, or else directly. One that is too
long is not answered, which leaves `idle`. -/
def overSocket {Req Res σ : Type} (limit : Option Nat) (request : Wire.Codec Req)
    (response : Wire.Codec Res) (idle : σ) (answer : Req → Option (Except Status Res) × σ)
    (req : Req) : Option (Except Status Res) × σ :=
  match limit with
  | none => answer req
  | some limit => match Wire.checkLength limit request req with
    | .error e => (some (.error e.received), idle)
    | .ok () => let (r, s) := answer req; (r.map (Wire.deliver response), s)

def callController (c : Cluster) (m : ControllerMethod) (req : m.request.Carrier) :
    Option (Except Status m.response.Carrier) × Cluster :=
  overSocket c.served m.request.codec m.response.codec c
    (fun req => c.control (c.controller.call m req)) req

/-- Sends a request to the plugin at a place of a node. -/
def callPlugin (c : Cluster) (node : String) (i : Nat) (m : NodeMethod) (req : m.request.Carrier) :
    Option (Except Status m.response.Carrier) × Cluster :=
  overSocket ((c.host node).served.map (·.2)) m.request.codec m.response.codec c
    (fun req => c.withPlugin node i fun p s => p.call s m req) req

def edit (c : Cluster) (node : String) (e : Edit) : Except StoreError (Option UInt64) × Cluster :=
  let (r, inner) := e.perform c.store.inner (c.controller.recordKey node)
  (r, { c with store := { c.store with inner } })

end Cluster

end DeviceClaims
