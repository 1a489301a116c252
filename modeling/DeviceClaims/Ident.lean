import DeviceClaims.Uuid

namespace DeviceClaims

/-- Why a text is no identifier. -/
inductive IdError
  | empty
  | missingPrefix (expected actual : String)
  | invalidUuid
  deriving DecidableEq, Repr

namespace IdError

def message : IdError → String
  | empty => "ID cannot be empty"
  | missingPrefix expected actual =>
    "ID missing prefix: expected '" ++ expected ++ "', got '" ++ actual ++ "'"
  | invalidUuid => "invalid UUID"

def kind : IdError → String
  | empty => "Empty"
  | missingPrefix .. => "MissingPrefix"
  | invalidUuid => "InvalidUuid"

def isEmpty : IdError → Bool
  | empty => true
  | _ => false

/-- Whether the text lacked its mark. -/
def isMissingPrefix : IdError → Bool
  | missingPrefix .. => true
  | _ => false

end IdError

/-- What follows a mark at the beginning of a text. A claim is written as its UUID, a device as FAKE-
and its UUID; as a published resource a device is named fake- and its UUID. -/
def stripMark? : List Char → List Char → Option (List Char)
  | [], cs => some cs
  | _ :: _, [] => none
  | m :: ms, c :: cs => if m = c then stripMark? ms cs else none

def readMarked (mark s : String) : Except IdError Uuid :=
  if s.toList = [] then .error .empty
  else match stripMark? mark.toList s.toList with
    | none => .error (.missingPrefix mark s)
    | some cs => match Uuid.read? cs with
      | none => .error .invalidUuid
      | some u => .ok u

/-- The identifier of a resource claim. -/
structure ClaimUid where
  uuid : Uuid
  deriving DecidableEq

/-- The identifier of a device. -/
structure DeviceUuid where
  uuid : Uuid
  deriving DecidableEq

namespace ClaimUid

instance : KeyOrder ClaimUid := KeyOrder.ofCode ClaimUid.uuid fun {a b} h => by
  cases a; cases b; simp_all

def parse (s : String) : Except IdError ClaimUid := (readMarked "" s).map .mk

def text (c : ClaimUid) : String := String.ofList c.uuid.write

end ClaimUid

namespace DeviceUuid

instance : KeyOrder DeviceUuid := KeyOrder.ofCode DeviceUuid.uuid fun {a b} h => by
  cases a; cases b; simp_all

def mark : String := "FAKE-"

def resourceMark : String := "fake-"

def parse (s : String) : Except IdError DeviceUuid := (readMarked mark s).map .mk

def text (d : DeviceUuid) : String := String.ofList (mark.toList ++ d.uuid.write)

def resourceName (d : DeviceUuid) : String := String.ofList (resourceMark.toList ++ d.uuid.write)

def ofResourceName (s : String) : Except IdError DeviceUuid := (readMarked resourceMark s).map .mk

end DeviceUuid

end DeviceClaims
