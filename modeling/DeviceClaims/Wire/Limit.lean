import DeviceClaims.Wire.Message
import DeviceClaims.Wire.Status

namespace DeviceClaims.Wire

/-- The limit unless another is set, four mebibytes. -/
def defaultLimit : Nat := 4 * 1024 * 1024

/-- Refuses a message that is longer than a limit. -/
def checkLength {M : Type} (limit : Nat) (c : Codec M) (m : M) : Except Status Unit :=
  if c.size m ≤ limit then .ok ()
  else .error {
    code := .outOfRange
    message := "Error, decoded message length too large: found " ++ Decimal.text (c.size m) ++
      " bytes, the limit is: " ++ Decimal.text limit ++ " bytes" }

end DeviceClaims.Wire
