import DeviceClaims.Json.Printer

namespace DeviceClaims.Json

def members : Json → List (String × Json)
  | obj ms => ms
  | _ => []

def items : Json → List Json
  | arr js => js
  | _ => []

/-- The first member of an object with a name. -/
def member? (j : Json) (name : String) : Option Json := j.members.lookup name

def string? : Json → Option String
  | str s => some s
  | _ => none

def double? : Json → Option Double
  | int i => some (if i < 0 then (Double.ofNat i.natAbs).neg else Double.ofNat i.toNat)
  | float x => some x
  | _ => none

/-- A string as it is, and any other value as its compact text. -/
def asText : Json → String
  | str s => s
  | j => j.text

end DeviceClaims.Json
