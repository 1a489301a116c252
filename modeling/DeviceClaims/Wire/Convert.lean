import DeviceClaims.Json.Decode
import DeviceClaims.Text.Quoted
import DeviceClaims.Wire.Status

namespace DeviceClaims

/-- Why a message does not say what it should. -/
inductive ConvertError
  | invalidUid (uid : String) (fault : IdError)
  | invalidJson (field : String) (fault : Json.Fault)
  | missingField (field : String)
  deriving DecidableEq

namespace ConvertError

def message : ConvertError → String
  | invalidUid uid fault => "invalid claim uid " ++ Quoted.write uid ++ ": " ++ fault.message
  | invalidJson field fault => "invalid " ++ field ++ ": " ++ fault.message
  | missingField field => "missing " ++ field

def kind : ConvertError → String
  | invalidUid .. => "InvalidUid"
  | invalidJson .. => "InvalidJson"
  | missingField _ => "MissingField"

def status (e : ConvertError) : Status := { code := .invalidArgument, message := e.message }

end ConvertError

def readField {α : Type} (field : String) (d : Json.Decoder α) (text : String) : Except ConvertError α :=
  (d.run text).mapError (.invalidJson field)

def readUid (text : String) : Except ConvertError ClaimUid :=
  (ClaimUid.parse text).mapError (.invalidUid text)

/-- Applies a conversion to each element; the first fault counts. -/
def convertEach {α β ε : Type} (f : α → Except ε β) : List α → Except ε (List β)
  | [] => .ok []
  | a :: rest => match f a with
    | .error e => .error e
    | .ok b => match convertEach f rest with
      | .error e => .error e
      | .ok bs => .ok (b :: bs)

end DeviceClaims
