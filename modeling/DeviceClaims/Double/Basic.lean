import DeviceClaims.Instances

namespace DeviceClaims

/-- A floating-point number, kept as its 64 bits: the sign, eleven bits of exponent and 52 bits of
fraction. Arithmetic is done on exact ratios and rounded once to the nearest number, a tie going to the
even one. -/
structure Double where
  bits : UInt64
  deriving DecidableEq

namespace Double

/-- Bits of infinity, and so of the exponent of what is no finite number. -/
def infinityBits : Nat := 2047 * 2 ^ 52

/-- The number with the given sign and the other 63 bits. -/
def ofParts (negative : Bool) (magnitude : Nat) : Double :=
  ⟨UInt64.ofNat ((if negative then 2 ^ 63 else 0) + magnitude)⟩

/-- Whether the sign bit is set. -/
def negative (x : Double) : Bool := 2 ^ 63 ≤ x.bits.toNat

/-- The bits other than the sign. -/
def magnitude (x : Double) : Nat := x.bits.toNat % 2 ^ 63

/-- Whether the number is neither infinite nor undefined. -/
def isFinite (x : Double) : Bool := x.magnitude < infinityBits

/-- Whether the number is zero, of either sign. -/
def isZero (x : Double) : Bool := x.magnitude = 0

/-- The whole factor `m` of a finite number `m * 2 ^ q`. -/
def mantissa (x : Double) : Nat :=
  let fraction := x.magnitude % 2 ^ 52
  if x.magnitude < 2 ^ 52 then fraction else fraction + 2 ^ 52

/-- The power `q` of two of a finite number `m * 2 ^ q`. -/
def exponent (x : Double) : Int :=
  if x.magnitude < 2 ^ 52 then -1074 else (x.magnitude / 2 ^ 52 : Nat) - 1075

/-- A quotient rounded to the nearest whole number, a tie to the even one. -/
def roundDiv (num den : Nat) : Nat :=
  let q := num / den
  let r := num % den
  if 2 * r < den then q
  else if den < 2 * r then q + 1
  else if q % 2 = 0 then q else q + 1

/-- The numerator and denominator of a ratio times a power of two. -/
def scale (num den : Nat) (q : Int) : Nat × Nat :=
  match q with
  | .ofNat k => (num * 2 ^ k, den)
  | .negSucc k => (num, den * 2 ^ (k + 1))

/-- The number nearest to a ratio of positive numbers; zero for a zero numerator. -/
def ofRatio (negative : Bool) (num den : Nat) : Double :=
  if num = 0 then ofParts negative 0
  else
    let size : Int := (Nat.log2 num : Int) - Nat.log2 den
    let fits (q : Int) : Bool :=
      let (n, d) := scale num den (-q)
      n < d * 2 ^ 53
    let q : Int := max (if fits (size - 53) then size - 53 else size - 52) (-1074)
    let (n, d) := scale num den (-q)
    ofParts negative (min ((q + 1074).toNat * 2 ^ 52 + roundDiv n d) infinityBits)

/-- The number nearest to a whole number. -/
def ofNat (n : Nat) : Double := ofRatio false n 1

/-- The numerator and denominator of a finite number's size. -/
def ratio (x : Double) : Nat × Nat := scale x.mantissa 1 x.exponent

/-- The rounded product of two finite numbers. -/
def mul (x y : Double) : Double :=
  let (n, d) := x.ratio
  let (n', d') := y.ratio
  ofRatio (x.negative ^^ y.negative) (n * n') (d * d')

/-- The rounded quotient of a finite number by one other than zero. -/
def div (x y : Double) : Double :=
  let (n, d) := x.ratio
  let (n', d') := y.ratio
  ofRatio (x.negative ^^ y.negative) (n * d') (d * n')

/-- The rounded sum of two finite numbers that are not negative. -/
def add (x y : Double) : Double :=
  let (n, d) := x.ratio
  let (n', d') := y.ratio
  ofRatio false (n * d' + n' * d) (d * d')

def neg (x : Double) : Double := ofParts (!x.negative) x.magnitude

/-- Whether a finite number is below another. -/
def lt (x y : Double) : Bool :=
  let a : Int := if x.negative then -(x.magnitude : Int) else x.magnitude
  let b : Int := if y.negative then -(y.magnitude : Int) else y.magnitude
  a < b

end Double

end DeviceClaims
