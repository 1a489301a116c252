import DeviceClaims.Text.Percent
import DeviceClaims.Text.Utf8
import DeviceClaims.Wire.Limit

namespace DeviceClaims

namespace Status

/-- The signs beside blanks and controls that a header does not hold as they are. -/
def reserved : List UInt8 := [0x22, 0x23, 0x3c, 0x3e, 0x3f, 0x60, 0x7b, 0x7d]

/-- Whether a byte is escaped in a header. The percent sign is not, so what looks like an escape in the
message is read as one. -/
def isEscaped (b : UInt8) : Bool := b ≤ 0x20 || 0x7f ≤ b || reserved.contains b

/-- The header that holds the message and the place of the failure. -/
def header (s : Status) : List UInt8 :=
  Percent.encode isEscaped (Utf8.bytes (s.message ++ (s.place.map TextPlace.text).getD ""))

/-- The headers of a failure with the lengths of their values. -/
def headers (s : Status) : List (String × Nat) :=
  [(":status", 3), ("content-type", 16), ("grpc-status", (Decimal.ofNat s.code.number).length),
    ("grpc-message", s.header.length), ("content-length", 1), ("date", 29)]

/-- What the headers take: names and values, with 32 bytes added for each. -/
def headersSize (s : Status) : Nat :=
  (s.headers.map fun (name, value) => name.utf8ByteSize + value + 32).sum

/-- The headers of a failure must take fewer bytes than this. -/
def headerLimit : Nat := 16 * 1024

/-- The failure as its caller reads it. The place is left out. -/
def received (s : Status) : Status :=
  if s.headersSize < headerLimit then
    match Utf8.read (Percent.decode { s with place := none }.header) with
    | .ok cs => { code := s.code, message := String.ofList cs }
    | .error f =>
      { code := .unknown, message := "Error deserializing status message header: " ++ f.message }
  else { code := .internal, message := "h2 protocol error: http2 error" }

end Status

namespace Wire

def deliver {M : Type} (c : Codec M) : Except Status M → Except Status M
  | .error s => .error s.received
  | .ok m => (checkLength defaultLimit c m).map fun _ => m

end Wire

end DeviceClaims
