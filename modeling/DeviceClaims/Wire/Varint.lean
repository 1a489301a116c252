namespace DeviceClaims.Wire.Varint

/-- Writes a number in as few bytes as it needs. The groups of seven bits come the lowest first, and
every group but the last is marked by the high bit of its byte. -/
def write (n : Nat) : List UInt8 :=
  if n < 128 then [.ofNat n] else .ofNat (n % 128 + 128) :: write (n / 128)

def size (n : Nat) : Nat := if n < 128 then 1 else size (n / 128) + 1

/-- Reads a number that so many bytes may follow; the last of them has room for one bit. -/
def readBelow : Nat → List UInt8 → Option (Nat × List UInt8)
  | _, [] => none
  | left, b :: rest =>
    if b < 128 then if left = 0 ∧ 2 ≤ b then none else some (b.toNat, rest)
    else match left with
      | 0 => none
      | left + 1 => (readBelow left rest).map fun (n, rest) => (b.toNat % 128 + 128 * n, rest)

/-- Reads a number of 64 bits, in at most ten bytes, and what follows it. -/
def read (bs : List UInt8) : Option (Nat × List UInt8) := readBelow 9 bs

end DeviceClaims.Wire.Varint
