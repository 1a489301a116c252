import DeviceClaims.Retry

namespace DeviceClaims

/-- Why a plugin did not do what it was asked. -/
inductive PluginError
  | deviceNotFound (device : DeviceUuid)
  | allocationNotFound (claim : ClaimUid)
  | invalidHandle (detail : String)
  | specFile (detail : String)
  | store (cause : StoreError)
  deriving DecidableEq

namespace PluginError

def message : PluginError → String
  | deviceNotFound device => "requested Fake does not exist: " ++ device.text
  | allocationNotFound claim => "no allocation recorded for claim " ++ claim.text
  | invalidHandle detail => "invalid structured resource handle: " ++ detail
  | specFile detail => "CDI spec error: " ++ detail
  | store cause => cause.message

def kind : PluginError → String
  | deviceNotFound _ => "DeviceNotFound"
  | allocationNotFound _ => "AllocationNotFound"
  | invalidHandle _ => "InvalidHandle"
  | specFile _ => "Cdi"
  | store cause => cause.kind

instance : Retryable PluginError where
  isConflict
    | store cause => cause.isConflict
    | _ => false
  exhausted attempts last := .store (.persistence attempts last.message)

end PluginError

end DeviceClaims
