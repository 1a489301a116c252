import DeviceClaims.Text.Place

namespace DeviceClaims

/-- The codes of failures that remote callers see. -/
inductive StatusCode
  | unknown
  | invalidArgument
  | notFound
  | failedPrecondition
  | aborted
  | outOfRange
  | internal
  | unavailable
  deriving DecidableEq

def StatusCode.name : StatusCode → String
  | unknown => "Unknown"
  | invalidArgument => "InvalidArgument"
  | notFound => "NotFound"
  | failedPrecondition => "FailedPrecondition"
  | aborted => "Aborted"
  | outOfRange => "OutOfRange"
  | internal => "Internal"
  | unavailable => "Unavailable"

def StatusCode.number : StatusCode → Nat
  | unknown => 2
  | invalidArgument => 3
  | notFound => 5
  | failedPrecondition => 9
  | aborted => 10
  | outOfRange => 11
  | internal => 13
  | unavailable => 14

/-- A failure that a remote caller sees. -/
structure Status where
  code : StatusCode
  message : String
  /-- Where the failure lies in a text of the request. It is sent with the message. -/
  place : Option TextPlace := none
  deriving DecidableEq

end DeviceClaims
