import DeviceClaims.Retry
import DeviceClaims.Text.Quoted
import DeviceClaims.Wire.Status

namespace DeviceClaims

/-- Why the controller did not do what it was asked. -/
inductive DriverError
  | validation (detail : String)
  | unknownKind (detail : String)
  | notReady (node : String)
  | pendingNotFound (claim : ClaimUid) (node : String)
  | parametersNotFound (kind name : String)
  | noNodeSelected
  | store (cause : StoreError)
  deriving DecidableEq

namespace DriverError

def message : DriverError → String
  | validation detail => "invalid claim parameters: " ++ detail
  | unknownKind detail => "unknown parameters reference: " ++ detail
  | notReady node => "node " ++ Quoted.write node ++ " is not ready"
  | pendingNotFound claim node =>
    "no pending claim allocation " ++ claim.text ++ " on node " ++ Quoted.write node
  | parametersNotFound kind name => kind ++ " " ++ Quoted.write name ++ " not found"
  | noNodeSelected => "immediate allocation is not supported: no node selected"
  | store cause => cause.message

def kind : DriverError → String
  | validation _ => "Validation"
  | unknownKind _ => "UnknownKind"
  | notReady _ => "NotReady"
  | pendingNotFound .. => "PendingNotFound"
  | parametersNotFound .. => "ParametersNotFound"
  | noNodeSelected => "ImmediateAllocationUnsupported"
  | store cause => cause.kind

instance : Retryable DriverError where
  isConflict
    | store cause => cause.isConflict
    | _ => false
  exhausted attempts last := .store (.persistence attempts last.message)

def code : DriverError → StatusCode
  | validation _ | unknownKind _ => .invalidArgument
  | noNodeSelected => .failedPrecondition
  | notReady _ => .unavailable
  | pendingNotFound .. | parametersNotFound .. => .notFound
  | store cause =>
    if cause.isNotFound then .notFound else if cause.isConflict then .aborted else .internal

def status (e : DriverError) : Status := { code := e.code, message := e.message }

end DriverError

end DeviceClaims
