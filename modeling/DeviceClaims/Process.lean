import DeviceClaims.Cluster
import DeviceClaims.Disk
import DeviceClaims.Ending
import DeviceClaims.Launch
import DeviceClaims.LogFilter

namespace DeviceClaims

/-- A process that has begun: what it serves with, or how it ended at once. Once the settings are read,
what is wrong with the filter of log messages is complained of first, unless the machine gives a filter
of its own; a filter can also be one that a process crashes over. -/
structure Beginning where
  cluster : Cluster
  /-- The node of a plugin. -/
  node : String := ""
  ended : Option Ending := none
  /-- Whether it left its socket behind. -/
  socketLeft : Bool := false
  deriving Inhabited

namespace Beginning

def failed (store : FaultyStore) (ending : Ending) : Beginning where
  cluster := { store, controller := default }
  ended := some ending

/-- Reads the parameters of the controller: a text that is given, or else that of a file. -/
def readParameters (disk : Disk) (path text : Option String) : Except String ParametersStore :=
  let text : Except FileFault (Option String) := match text, path with
    | some text, _ => .ok (some text)
    | none, some path => (disk.read path).map some
    | none, none => .ok none
  match text with
  | .error f => .error f.message
  | .ok none => .ok {}
  | .ok (some text) => (ParametersStore.parse text).mapError (·.message)

/-- Begins a process: it crashes if it cannot work or cannot log, and else begins with what is to be
complained of. -/
def launched (l : Launch) (logLevel : String) (store : FaultyStore)
    (begin : List String → Beginning) : Beginning :=
  match LogFilter.complaintsUnless? l.logFilter logLevel with
  | none => failed store .crash
  | some complaints => begin complaints

/-- Begins the controller on a disk, with the text of its parameters if that is given. It crashes
over too many workers when its socket is there already. -/
def controller (env : Environment) (l : Launch) (disk : Disk) (parameters : Option String)
    (store : FaultyStore) : Beginning :=
  if !l.isSound then failed store .crash
  else match ControllerConfig.ofEnvironment env with
  | .error e => failed store (.failure e.message)
  | .ok config => launched l config.logLevel store fun complaints =>
    match readParameters disk config.parametersPath parameters with
    | .error message => failed store ((Ending.failure message).after complaints)
    | .ok parameters =>
      let controller := config.controller parameters
      if maxWorkers < config.workers then
        { cluster := { store, controller }, ended := some .crash, socketLeft := true }
      else { cluster := { store, controller, served := some config.maxMessageSize } }

def plugin (env : Environment) (l : Launch) (store : FaultyStore) : Beginning :=
  if !l.isSound then failed store .crash
  else match PluginConfig.ofEnvironment env with
  | .error e => failed store (.failure e.message)
  | .ok config => launched l config.logLevel store fun complaints =>
    let controller : Controller :=
      { space := config.space, retry := RetryPolicy.withMaxAttempts {} config.retryAttempts }
    match Cluster.start { store, controller } config.node config.deviceCount with
    | (none, cluster) => { cluster, node := config.node, ended := some .crash }
    | (some (.error e), cluster) =>
      { cluster, node := config.node, ended := some ((Ending.failure e.message).after complaints) }
    | (some (.ok ()), cluster) =>
      let host := { cluster.host config.node with served := some (0, config.maxMessageSize) }
      { cluster := cluster.setHost config.node host, node := config.node }

/-- Ends a process: a plugin makes its node's record not ready. -/
def finish (b : Beginning) : Cluster :=
  if (b.cluster.host b.node).plugins.isEmpty then b.cluster else (b.cluster.shutdown b.node 0).2

end Beginning

end DeviceClaims
