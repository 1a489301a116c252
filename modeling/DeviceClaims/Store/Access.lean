import DeviceClaims.Api.NodeRecord
import DeviceClaims.Json.Fault

namespace DeviceClaims

/-- Why a file cannot be used as a store. -/
inductive DatabaseFault
  /-- It cannot be opened. The address is named if that is found out at once. -/
  | unopened (address : Option String)
  | readOnly
  /-- What the machine holds there cannot be read or written as a store's file is. -/
  | device
  /-- The file holds something else. -/
  | noDatabase
  | authority (name : String)
  /-- There is no such mode of a sort. -/
  | noMode (sort value : String)
  /-- A mode that allows more than an earlier one. -/
  | refusedMode (value : String)
  | noLayer (name : String)
  deriving DecidableEq

def DatabaseFault.message : DatabaseFault → String
  | unopened none => "unable to open database file"
  | unopened (some address) => "unable to open database file: " ++ address
  | readOnly => "attempt to write a readonly database"
  | device => "disk I/O error"
  | noDatabase => "file is not a database"
  | authority name => "invalid uri authority: " ++ name
  | noMode sort value => "no such " ++ sort ++ " mode: " ++ value
  | refusedMode value => "access mode not allowed: " ++ value
  | noLayer name => "no such vfs: " ++ name

/-- Why a store did not do what it was asked. A write names the version of the record that it was made
from and is refused if the store holds another. -/
inductive StoreError
  | notFound (key : ObjectKey)
  | alreadyExists (key : ObjectKey)
  | conflict (key : ObjectKey) (expected actual : UInt64)
  | persistence (attempts : Nat) (last : String)
  | serialization (fault : Json.Fault)
  | task (detail : String)
  | database (fault : DatabaseFault)
  deriving DecidableEq

namespace StoreError

def versionText (v : UInt64) : String := Decimal.text v.toNat

def message : StoreError → String
  | notFound key => "NodeAllocationState " ++ key.text ++ " not found"
  | alreadyExists key => "NodeAllocationState " ++ key.text ++ " already exists"
  | conflict key expected actual => "conflict on NodeAllocationState " ++ key.text ++
      ": expected resource version " ++ versionText expected ++ ", found " ++ versionText actual
  | persistence attempts last =>
    "persistence failed after " ++ Decimal.text attempts ++ " attempts: " ++ last
  | serialization fault => "serialization error: " ++ fault.message
  | task detail => "store task failed: " ++ detail
  | database fault => "SQLite error: " ++ fault.message

def kind : StoreError → String
  | notFound _ => "NotFound"
  | alreadyExists _ => "AlreadyExists"
  | conflict .. => "Conflict"
  | persistence .. => "Persistence"
  | serialization _ => "Serialization"
  | task _ => "Task"
  | database _ => "Sqlite"

def isNotFound : StoreError → Bool
  | notFound _ => true
  | _ => false

def isConflict : StoreError → Bool
  | conflict .. => true
  | _ => false

end StoreError

/-- One request to a store. -/
inductive StoreAccess
  | get (key : ObjectKey)
  | create (record : NodeRecord)
  | update (record : NodeRecord)
  | delete (key : ObjectKey)
  deriving DecidableEq

namespace StoreAccess

def Answer : StoreAccess → Type
  | get _ | create _ | update _ => Except StoreError NodeRecord
  | delete _ => Except StoreError Unit

/-- The key of the record that a request is about. -/
def key : StoreAccess → ObjectKey
  | get key | delete key => key
  | create record | update record => record.key

end StoreAccess

end DeviceClaims
