import DeviceClaims.Json.Basic
import DeviceClaims.Text.Decimal

namespace DeviceClaims.Json

/-- The parts of a written number. A number without fraction and exponent that fits 64 bits is an
integer; any other is a floating-point number, made in double arithmetic from as many leading digits as
fit 64 bits and a power of ten, and has no value if it is too large. Minus zero is a floating-point
number. -/
structure Numeral where
  negative : Bool
  whole : List Char
  fraction : Option (List Char)
  power : Option (Bool × List Char)

namespace Numeral

/-- Takes the digits at the beginning of a text. -/
def digits (cs : List Char) : List Char × List Char :=
  (cs.takeWhile Decimal.isDigit, cs.dropWhile Decimal.isDigit)

/-- Reads the part after a point, which must have a digit. -/
def readFraction? : List Char → Option (Option (List Char) × List Char)
  | '.' :: cs => match digits cs with
    | ([], _) => none
    | (ds, rest) => some (some ds, rest)
  | cs => some (none, cs)

/-- Reads the sign of an exponent: whether it is negative. -/
def readSign : List Char → Bool × List Char
  | '+' :: cs => (false, cs)
  | '-' :: cs => (true, cs)
  | cs => (false, cs)

/-- Reads an exponent, which must have a digit. -/
def readPower? : List Char → Option (Option (Bool × List Char) × List Char)
  | c :: cs =>
    if c = 'e' ∨ c = 'E' then
      let (negative, cs) := readSign cs
      match digits cs with
      | ([], _) => none
      | (ds, rest) => some (some (negative, ds), rest)
    else some (none, c :: cs)
  | [] => some (none, [])

/-- Reads the whole part: a zero that no digit follows, or digits that begin with another. -/
def readWhole? (cs : List Char) : Option (List Char × List Char) :=
  match digits cs with
  | ([], _) => none
  | ('0' :: _ :: _, _) => none
  | (ds, rest) => some (ds, rest)

/-- Reads a number at the beginning of a text. -/
def read? (cs : List Char) : Option (Numeral × List Char) :=
  let (negative, cs) := match cs with
    | '-' :: cs => (true, cs)
    | cs => (false, cs)
  match readWhole? cs with
  | none => none
  | some (whole, cs) => match readFraction? cs with
    | none => none
    | some (fraction, cs) => match readPower? cs with
      | none => none
      | some (power, cs) => some (⟨negative, whole, fraction, power⟩, cs)

/-- Appends digits to a number as long as the result fits 64 bits; also how many are left out. -/
def gather (n : Nat) : List Char → Nat × Nat
  | [] => (n, 0)
  | c :: cs =>
    if 10 * n + Decimal.value c < 2 ^ 64 then gather (10 * n + Decimal.value c) cs
    else (n, cs.length + 1)

/-- A whole number times a power of ten in double arithmetic: rounded to a double, then multiplied
or divided by powers up to the 308th. `steps` bounds the divisions by the 308th power, after two of
which nothing is left. No value if the result is too large. -/
def scaled (x : Double) (e : Int) : Nat → Option Double
  | 0 => some (Double.ofParts false 0)
  | steps + 1 =>
    if e.natAbs ≤ 308 then
      let power := Double.ofNat (10 ^ e.natAbs)
      if 0 ≤ e then
        let y := x.mul power
        if y.isFinite then some y else none
      else some (x.div power)
    else if x.isZero then some x
    else if 0 ≤ e then none
    else scaled (x.div (Double.ofNat (10 ^ 308))) (e + 308) steps

/-- The double of a sign, a whole number and a power of ten. -/
def double (negative : Bool) (n : Nat) (e : Int) : Option Double :=
  (scaled (Double.ofNat n) e 8).map fun x => if negative then x.neg else x

/-- The value of a number, if it has one. -/
def value (z : Numeral) : Option Json :=
  let (n, left) := gather 0 z.whole
  match z.fraction, z.power, left with
  | none, none, 0 =>
    if !z.negative then some (.int n)
    else if n = 0 ∨ 2 ^ 63 < n then some (.float (Double.ofNat n).neg)
    else some (.int (-n))
  | fraction, power, _ =>
    let ds := fraction.getD []
    let (n, unused) := gather n ds
    let e : Int := left - (ds.length - unused : Nat)
    match power with
    | none => (double z.negative n e).map .float
    | some (negative, ps) =>
      let p := Decimal.toNat ps
      if 2 ^ 31 ≤ p then
        if n ≠ 0 ∧ !negative then none
        else some (.float (Double.ofParts z.negative 0))
      else (double z.negative n (if negative then e - p else e + p)).map .float

end Numeral

end DeviceClaims.Json
