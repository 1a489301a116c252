namespace DeviceClaims.Decimal

def digit (n : Nat) : Char := Char.ofNat (48 + n)

/-- Whether a character is one of the ten digits. -/
def isDigit (c : Char) : Bool := '0' ≤ c && c ≤ '9'

def value (c : Char) : Nat := c.toNat - 48

/-- The digits of a number, without leading zeros. -/
def ofNat (n : Nat) : List Char :=
  if n < 10 then [digit n] else ofNat (n / 10) ++ [digit (n % 10)]

/-- The digits of an integer, after a minus sign if it is negative. -/
def ofInt : Int → List Char
  | .ofNat n => ofNat n
  | .negSucc n => '-' :: ofNat (n + 1)

def toNat (ds : List Char) : Nat := ds.foldl (fun n c => 10 * n + value c) 0

def text (n : Nat) : String := String.ofList (ofNat n)

end DeviceClaims.Decimal
