import DeviceClaims.Controller.Basic
import DeviceClaims.Node.Emulator
import DeviceClaims.Wire.Limit

namespace DeviceClaims

/-- The variables that are set, with their values. -/
structure Environment where
  values : SortedMap String String := .empty
  deriving DecidableEq, Inhabited

/-- Why a text is no number of a limited size. -/
inductive NumberFault
  | empty
  | invalidDigit
  | tooLarge
  deriving DecidableEq

def NumberFault.message : NumberFault → String
  | empty => "cannot parse integer from empty string"
  | invalidDigit => "invalid digit found in string"
  | tooLarge => "number too large to fit in target type"

/-- Reads digits after a number; it must stay below a bound. -/
def readDigits (bound : Nat) (n : Nat) : List Char → Except NumberFault Nat
  | [] => .ok n
  | c :: rest =>
    if !Decimal.isDigit c then .error .invalidDigit
    else
      let n := 10 * n + Decimal.value c
      if n < bound then readDigits bound n rest else .error .tooLarge

/-- Reads a number below a bound: digits, after a plus sign or none. -/
def readNumber (bound : Nat) (s : String) : Except NumberFault Nat :=
  match s.toList with
  | [] => .error .empty
  | ['+'] => .error .invalidDigit
  | '+' :: ds => readDigits bound 0 ds
  | ds => readDigits bound 0 ds

/-- Why settings cannot be read. The variables are read one after the other, and the first that cannot
be read is reported. -/
inductive ConfigError
  | missing (name : String)
  | number (fault : NumberFault)
  deriving DecidableEq

def ConfigError.message : ConfigError → String
  | missing name => name ++ " must be set"
  | number fault => fault.message

namespace Environment

def get? (e : Environment) (name : String) : Option String := e.values.get? name

/-- The value of a variable, or else a default. -/
def getD (e : Environment) (name default : String) : String := (e.get? name).getD default

/-- The number below a bound that a variable gives, or else a default. -/
def number (e : Environment) (name : String) (default bound : Nat) : Except ConfigError Nat :=
  match e.get? name with
  | none => .ok default
  | some text => (readNumber bound text).mapError .number

end Environment

/-- The namespace of the records unless another is set. -/
def defaultSpace : String := "default"

/-- Where the store is kept unless another place is set. -/
def defaultStatePath : String := "/var/lib/fake-dra/nodestate.db"

/-- How many attempts a write has unless another number is set. -/
def defaultAttempts : Nat := 5

def maxWorkers : Nat := 2 ^ 61 - 1

/-- The settings of the controller. -/
structure ControllerConfig where
  space : String
  statePath : String
  parametersPath : Option String
  socketPath : String
  workers : Nat
  retryAttempts : Nat
  maxMessageSize : Nat
  logLevel : String
  deriving DecidableEq

namespace ControllerConfig

def ofEnvironment (e : Environment) : Except ConfigError ControllerConfig := do
  let workers ← e.number "FAKEDRA_WORKERS" 10 (2 ^ 64)
  let retryAttempts ← e.number "FAKEDRA_RETRY_ATTEMPTS" defaultAttempts (2 ^ 32)
  let maxMessageSize ← e.number "FAKEDRA_MAX_MESSAGE_SIZE" Wire.defaultLimit (2 ^ 64)
  return {
    space := e.getD "POD_NAMESPACE" defaultSpace
    statePath := e.getD "FAKEDRA_STATE_DB" defaultStatePath
    parametersPath := (e.get? "FAKEDRA_PARAMETERS_FILE").filter (· ≠ "")
    socketPath := e.getD "FAKEDRA_CONTROLLER_SOCKET" "/run/fake-dra/controller.sock"
    workers, retryAttempts, maxMessageSize
    logLevel := e.getD "FAKEDRA_LOG_LEVEL" "info" }

def toJson (c : ControllerConfig) : Json := .obj
  [("namespace", .str c.space), ("state_db", .str c.statePath),
    ("parameters_file", (c.parametersPath.map .str).getD .null),
    ("socket_path", .str c.socketPath), ("workers", .int c.workers),
    ("retry_attempts", .int c.retryAttempts), ("max_message_size", .int c.maxMessageSize),
    ("log_level", .str c.logLevel)]

/-- The controller with these settings and stored parameters, which are published. -/
def controller (c : ControllerConfig) (parameters : ParametersStore) : Controller :=
  Controller.publish
    { space := c.space, parameters, retry := RetryPolicy.withMaxAttempts {} c.retryAttempts }
    parameters.claimList

end ControllerConfig

/-- The settings of a node's plugin. -/
structure PluginConfig where
  node : String
  space : String
  statePath : String
  specRoot : String
  socketPath : String
  deviceCount : Nat
  retryAttempts : Nat
  maxMessageSize : Nat
  logLevel : String
  deriving DecidableEq

namespace PluginConfig

def ofEnvironment (e : Environment) : Except ConfigError PluginConfig := do
  let node ← match e.get? "NODE_NAME" with
    | none => .error (.missing "NODE_NAME")
    | some node => .ok node
  let deviceCount ← e.number "FAKEDRA_DEVICE_COUNT" Emulator.defaultDeviceCount (2 ^ 64)
  let retryAttempts ← e.number "FAKEDRA_RETRY_ATTEMPTS" defaultAttempts (2 ^ 32)
  let maxMessageSize ← e.number "FAKEDRA_MAX_MESSAGE_SIZE" Wire.defaultLimit (2 ^ 64)
  return {
    node, deviceCount, retryAttempts, maxMessageSize
    space := e.getD "POD_NAMESPACE" defaultSpace
    statePath := e.getD "FAKEDRA_STATE_DB" defaultStatePath
    specRoot := e.getD "FAKEDRA_CDI_ROOT" "/etc/cdi"
    socketPath := e.getD "FAKEDRA_PLUGIN_SOCKET"
      "/var/lib/kubelet/plugins/fake.resource.3-shake.com/plugin.sock"
    logLevel := e.getD "FAKEDRA_LOG_LEVEL" "info" }

def toJson (c : PluginConfig) : Json := .obj
  [("node_name", .str c.node), ("namespace", .str c.space), ("state_db", .str c.statePath),
    ("cdi_root", .str c.specRoot), ("socket_path", .str c.socketPath),
    ("device_count", .int c.deviceCount), ("retry_attempts", .int c.retryAttempts),
    ("max_message_size", .int c.maxMessageSize), ("log_level", .str c.logLevel)]

end PluginConfig

end DeviceClaims
