import DeviceClaims.Text.Hex

namespace DeviceClaims.Percent

def sign : UInt8 := 0x25

/-- The three bytes that stand for one. -/
def escape (b : UInt8) : List UInt8 := sign :: (Hex.ofByte b).map fun c => UInt8.ofNat c.toNat

/-- Writes bytes, some of them escaped. -/
def encode (escaped : UInt8 → Bool) (bs : List UInt8) : List UInt8 :=
  bs.flatMap fun b => if escaped b then escape b else [b]

def byte? (hi lo : UInt8) : Option UInt8 := do
  let h ← Hex.value? (Char.ofNat hi.toNat)
  let l ← Hex.value? (Char.ofNat lo.toNat)
  return UInt8.ofNat (16 * h + l)

/-- A percent sign that no two digits follow stands for itself. -/
def decode : List UInt8 → List UInt8
  | [] => []
  | [a] => [a]
  | [a, b] => [a, b]
  | a :: b :: c :: rest =>
    if a = sign then match byte? b c with
      | some e => e :: decode rest
      | none => a :: decode (b :: c :: rest)
    else a :: decode (b :: c :: rest)

end DeviceClaims.Percent
