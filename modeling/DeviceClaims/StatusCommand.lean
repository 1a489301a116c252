import DeviceClaims.Config
import DeviceClaims.Ending
import DeviceClaims.Launch
import DeviceClaims.Site
import DeviceClaims.Store.Address
import DeviceClaims.Text.Terminal

namespace DeviceClaims

/-- What the command is told to do. Settings are options of the command line or, where those are not
given, environment variables. -/
structure StatusCommand where
  node : String
  space : String := defaultSpace
  status : Readiness
  statePath : String := defaultStatePath
  retryAttempts : Nat := defaultAttempts
  deriving DecidableEq

/-- What a command line asks for. -/
inductive Invocation
  | run (command : StatusCommand)
  | help
  | version
  /-- It cannot be understood. -/
  | misuse
  deriving DecidableEq

namespace StatusCommand

/-- The options as far as they are known. -/
structure Options where
  node : Option String := none
  space : Option String := none
  status : Option Readiness := none
  statePath : Option String := none
  retryAttempts : Option Nat := none
  deriving DecidableEq, Inhabited

/-- A number of attempts: digits, after a sign or none. -/
def readAttempts? (text : String) : Option Nat :=
  match text.toList with
  | '-' :: ds => match readNumber 1 (String.ofList ds) with
    | .ok n => if ds.head? = some '+' then none else some n
    | .error _ => none
  | _ => (readNumber (2 ^ 32) text).toOption

namespace Options

/-- The options with one more, unless there is no such option, it is there already or its value is
of the wrong form. -/
def set? (o : Options) (name value : String) : Option Options :=
  match name with
  | "node" => if o.node.isSome then none else some { o with node := some value }
  | "namespace" => if o.space.isSome then none else some { o with space := some value }
  | "status" => if o.status.isSome then none else
      (Readiness.ofName? value).map fun s => { o with status := some s }
  | "state-db" => if o.statePath.isSome ∨ value = "" then none else
      some { o with statePath := some value }
  | "retry-attempts" => if o.retryAttempts.isSome then none else
      (readAttempts? value).map fun n => { o with retryAttempts := some n }
  | _ => none

def variableNames : List (String × String) :=
  [("node", "NODE_NAME"), ("namespace", "POD_NAMESPACE"), ("state-db", "FAKEDRA_STATE_DB"),
    ("retry-attempts", "FAKEDRA_RETRY_ATTEMPTS")]

def has (o : Options) (name : String) : Bool :=
  match name with
  | "node" => o.node.isSome
  | "namespace" => o.space.isSome
  | "status" => o.status.isSome
  | "state-db" => o.statePath.isSome
  | _ => o.retryAttempts.isSome

/-- Takes options that are not given from variables that are set. -/
def fill? (o : Options) (env : Environment) : List (String × String) → Option Options
  | [] => some o
  | (name, var) :: rest => match env.get? var with
    | none => o.fill? env rest
    | some value => if o.has name then o.fill? env rest else do
      let o ← o.set? name value
      o.fill? env rest

/-- The command of options, if those are given that must be. -/
def command? (o : Options) : Option StatusCommand := do
  let node ← o.node
  let status ← o.status
  return {
    node, status
    space := o.space.getD defaultSpace
    statePath := o.statePath.getD defaultStatePath
    retryAttempts := o.retryAttempts.getD defaultAttempts }

end Options

/-- The name and the value of an option that are written as one argument. -/
def splitOption (arg : List Char) : String × Option String :=
  match arg.dropWhile (· ≠ '=') with
  | [] => (String.ofList arg, none)
  | _ :: value => (String.ofList (arg.takeWhile (· ≠ '=')), some (String.ofList value))

/-- Whether an argument can be the value of the option before it. -/
def isValue (arg : String) : Bool := match arg.toList with
  | ['-'] => true
  | '-' :: _ => false
  | _ => true

/-- Reads arguments from left to right. -/
def readArguments (o : Options) : List String → Except Invocation Options
  | [] => .ok o
  | arg :: rest => match arg.toList with
    | ['-', '-'] => if rest.isEmpty then .ok o else .error .misuse
    | '-' :: '-' :: option => match splitOption option with
      | ("help", none) => .error .help
      | ("version", none) => .error .version
      | (name, some value) => match o.set? name value with
        | some o => readArguments o rest
        | none => .error .misuse
      | (name, none) => match rest with
        | [] => .error .misuse
        | value :: rest =>
          if isValue value then match o.set? name value with
            | some o => readArguments o rest
            | none => .error .misuse
          else .error .misuse
    | '-' :: 'h' :: _ => .error .help
    | '-' :: 'V' :: _ => .error .version
    | _ => .error .misuse

def parse (env : Environment) (args : List String) : Invocation :=
  match readArguments {} args with
  | .error i => i
  | .ok o => match (o.fill? env Options.variableNames).bind Options.command? with
    | some c => .run c
    | none => .misuse

def perform (c : StatusCommand) : Prog (Except StoreError NodeRecord) :=
  (StoreClient.setStatus ⟨c.space, c.node⟩ c.status).retry
    (RetryPolicy.withMaxAttempts {} c.retryAttempts)

/-- What is said of a record that was written. -/
def report (r : NodeRecord) : String :=
  "NodeAllocationState " ++ r.key.text ++ " is now " ++ r.status.name ++ "\n"

def versionText : String := "set-nodestate-status 0.1.0\n"

/-- How the command is used, for a terminal. -/
def styledUsage : String :=
  Terminal.heading "Usage:" ++ " " ++ Terminal.bold "set-nodestate-status" ++ " [OPTIONS] " ++
    Terminal.bold "--node" ++ " <NODE> " ++ Terminal.bold "--status" ++ " <STATUS>\n"

def usage : String := Terminal.plain styledUsage

/-- A variable as the help shows it, with its value if it is set. -/
def shownVariable (env : Environment) (name : String) : String :=
  " [env: " ++ name ++ "=" ++ env.getD name "" ++ "]"

/-- An option with what the help says of it below, every line of it indented. -/
def helpEntry (option help : String) : String :=
  let indent := "\n          "
  option ++ indent ++ indent.intercalate (help.splitOn "\n") ++ "\n"

/-- What the help says of an option that takes a value. -/
def helpSetting (option value help : String) : String :=
  helpEntry ("      " ++ Terminal.bold option ++ " " ++ value) help

/-- What the command does and its options, for a terminal. -/
def styledHelp (env : Environment) : String :=
  "Set the status of a node's NodeAllocationState\n\n" ++ styledUsage ++ "\n" ++
    Terminal.heading "Options:" ++ "\n" ++
    helpSetting "--node" "<NODE>" ("Node whose record is updated" ++ shownVariable env "NODE_NAME") ++
    helpSetting "--namespace" "<NAMESPACE>" ("Namespace holding the record" ++
      shownVariable env "POD_NAMESPACE" ++ " [default: " ++ defaultSpace ++ "]") ++
    helpSetting "--status" "<STATUS>" "New status (Ready or NotReady)" ++
    helpSetting "--state-db" "<STATE_DB>" ("SQLite file shared with the controller and plugins" ++
      shownVariable env "FAKEDRA_STATE_DB" ++ " [default: " ++ defaultStatePath ++ "]") ++
    helpSetting "--retry-attempts" "<RETRY_ATTEMPTS>"
      ("Attempts before giving up on version conflicts" ++
        shownVariable env "FAKEDRA_RETRY_ATTEMPTS" ++
        " [default: " ++ Decimal.text defaultAttempts ++ "]") ++
    helpEntry ("  " ++ Terminal.bold "-h" ++ ", " ++ Terminal.bold "--help") "Print help" ++
    helpEntry ("  " ++ Terminal.bold "-V" ++ ", " ++ Terminal.bold "--version") "Print version"

/-- The variables that say whether texts are styled. -/
def styleVariables : List String := ["NO_COLOR", "CLICOLOR_FORCE"]

/-- Whether texts are styled even where there is no terminal. -/
def isStyled (env : Environment) : Bool :=
  env.getD "NO_COLOR" "" = "" && env.getD "CLICOLOR_FORCE" "" ≠ ""

def helpText (env : Environment) : String :=
  if isStyled env then styledHelp env else Terminal.plain (styledHelp env)

def ending : Except StoreError NodeRecord → Ending
  | .ok r => { exit := 0, output := report r }
  | .error e => .failure e.message

/-- Performs the command on the store at its address, given what stands at addresses; also what the
file at the path holds afterwards, if it is written. -/
def performOn (c : StatusCommand) (files : StoreAddress → StoreFile) :
    Ending × Option (String × Backend) :=
  let opened := do
    let a ← StoreAddress.parse c.statePath
    return (a, ← (files a).openAt c.statePath a)
  match opened with
  | .error f => (ending (.error (.database f)), none)
  | .ok (a, store) => match Site.run c.perform { store := { inner := store } } with
    | (none, _) => (.crash, none)
    | (some r, site) =>
      (ending r, if a.isTransient then none else some (a.path, site.store.inner))

/-- Performs the command on a disk on which one file holds a store; also the store afterwards. -/
def performOnDisk (c : StatusCommand) (d : Disk) (holder : String) (t : TableStore) :
    Ending × Backend :=
  match c.performOn (d.storeAt holder t) with
  | (e, some (path, after)) =>
    (e, if d.storePlace? path = d.storePlace? holder then after else .table t)
  | (e, none) => (e, .table t)

end StatusCommand

namespace Invocation

/-- How a command line that asks for nothing to be done ends. -/
def ending? (env : Environment) : Invocation → Option Ending
  | run _ => none
  | help => some { exit := 0, output := StatusCommand.helpText env }
  | version => some { exit := 0, output := StatusCommand.versionText }
  | misuse => some { exit := 2, complaint := StatusCommand.usage }

end Invocation

namespace StatusCommand

/-- What a command line does on a disk on which one file holds a store; also the store afterwards. -/
def invokeOnDisk (l : Launch) (env : Environment) (args : List String) (d : Disk) (holder : String)
    (t : TableStore) : Ending × Backend :=
  if !l.isSound then (.crash, .table t)
  else match parse env args with
    | .run c => c.performOnDisk d holder t
    | i => ((i.ending? env).getD { exit := 2 }, .table t)

end StatusCommand

end DeviceClaims
