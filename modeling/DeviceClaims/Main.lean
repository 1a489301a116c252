import DeviceClaims.StatusCommand

namespace DeviceClaims

/-- The store that the lines of a file hold; lines that hold no record are left out. -/
def storeOfText (text : String) : TableStore :=
  (text.splitOn "\n").foldl (fun s line => match NodeRecord.decode.run line with
    | .ok r => s.putRow r.key (TableStore.rowOf r)
    | .error _ => s) {}

/-- The lines of a file that holds a store. -/
def textOfStore (s : TableStore) : String :=
  String.join (s.rows.values.map fun row => row.object ++ "\n")

def tableOf : Backend → TableStore
  | .table t | .readOnly t => t
  | .memory _ => {}

def isPresent (path : String) : IO Bool := do
  try
    let _ ← IO.FS.Handle.mk path .read
    return true
  catch _ => return false

/-- What stands at an address. A file that is missing is made if it may be. -/
def inspect (a : StoreAddress) : IO StoreFile := do
  if a.isTransient then return .blocked
  if let some path := a.likeness then
    unless ← isPresent path do return .unlike
  try
    return .held (storeOfText (← IO.FS.readFile a.path))
  catch _ => try
    if a.mode = .create then
      IO.FS.writeFile a.path ""
      return .free
    else return .blocked
  catch _ => return .blocked

/-- The variables that the command reads, as far as they are set. -/
def readEnvironment : IO Environment := do
  let mut values : SortedMap String String := .empty
  for name in StatusCommand.Options.variableNames.map (·.2) ++ StatusCommand.styleVariables do
    if let some value ← IO.getEnv name then
      values := values.insert name value
  return ⟨values⟩

def finish (e : Ending) : IO UInt32 := do
  IO.print e.output
  IO.eprint e.complaint
  return e.exit

end DeviceClaims

open DeviceClaims in
def main (args : List String) : IO UInt32 := do
  let env ← readEnvironment
  let invocation := StatusCommand.parse env args
  match invocation, invocation.ending? env with
  | .run c, _ =>
    let found ← match StoreAddress.parse c.statePath with
      | .ok a => inspect a
      | .error _ => pure .blocked
    let (ending, after) := c.performOn fun _ => found
    if let some (path, s) := after then
      IO.FS.writeFile path (textOfStore (tableOf s))
    finish ending
  | _, some ending => finish ending
  | _, none => return 2
