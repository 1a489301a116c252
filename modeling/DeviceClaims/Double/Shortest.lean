import DeviceClaims.Double.Basic
import DeviceClaims.Text.Decimal

namespace DeviceClaims.Double

/-- How many decimal digits stand before the point of a positive ratio; minus the count of zeros
after the point if it is below one. -/
def pointPosition (num den : Nat) : Int :=
  if den ≤ num then (Decimal.ofNat (num / den)).length
  else 1 - ((Decimal.ofNat ((den + num - 1) / num - 1)).length : Int)

/-- The numerator and denominator of a ratio times a power of ten. -/
def scaleTen (num den : Nat) (k : Int) : Nat × Nat :=
  match k with
  | .ofNat k => (num * 10 ^ k, den)
  | .negSucc k => (num, den * 10 ^ (k + 1))

/-- Whether the whole number `d`, in units of ten to the minus `k`, rounds to `m * 2 ^ q`. The
numbers that do lie between the middles to the neighbours, and a middle itself rounds to the even
one. Below a power of two the neighbour is twice as near. -/
def readsBack (m : Nat) (q : Int) (d : Nat) (k : Int) : Bool :=
  let (dn, dd) := scaleTen d 1 (-k)
  let near := m = 2 ^ 52 && -1074 < q
  let (ln, ld) := if near then scale (4 * m - 1) 1 (q - 2) else scale (2 * m - 1) 1 (q - 1)
  let (un, ud) := scale (2 * m + 1) 1 (q - 1)
  if m % 2 = 0 then ln * dd ≤ dn * ld && dn * ud ≤ un * dd
  else ln * dd < dn * ld && dn * ud < un * dd

/-- The digits with at most `count` places that read back, if any do: the nearer of the two
neighbours on that grid, the even one of two that are equally near. -/
def onGrid (m : Nat) (q : Int) (point : Int) (count : Nat) : Option (Nat × Int) :=
  let k := (count : Int) - point
  let (n, d) := let (n, d) := scale m 1 q; scaleTen n d k
  let lower := n / d
  let r := n % d
  let preferUpper := d < 2 * r || (d = 2 * r && lower % 2 = 1)
  let (first, second) := if preferUpper then (lower + 1, lower) else (lower, lower + 1)
  if readsBack m q first k then some (first, -k)
  else if readsBack m q second k then some (second, -k)
  else none

/-- The first of the counts of places that has digits which read back. -/
def search (m : Nat) (q : Int) (point : Int) : Nat → Nat → Nat × Int
  | count, 0 => ((onGrid m q point count).getD (m, q))
  | count, more + 1 =>
    match onGrid m q point count with
    | some found => found
    | none => search m q point (count + 1) more

/-- The fewest digits that read back as a positive finite number, as a whole number without
trailing zeros and a power of ten. -/
def shortest (x : Double) : Nat × Int :=
  let (n, d) := x.ratio
  let (digits, e) := search x.mantissa x.exponent (pointPosition n d) 1 16
  let zeros := ((Decimal.ofNat digits).reverse.takeWhile (· == '0')).length
  (digits / 10 ^ zeros, e + zeros)

/-- A finite number as text: positional with at least one digit after the point from 1e-5 up to
1e16, else with an exponent that carries its sign. -/
def write (x : Double) : List Char :=
  let body :=
    if x.isZero then ['0', '.', '0']
    else
      let (digits, e) := x.shortest
      let ds := Decimal.ofNat digits
      let point : Int := ds.length + e
      if 0 ≤ e && point ≤ 16 then ds ++ List.replicate e.toNat '0' ++ ['.', '0']
      else if 0 < point && point ≤ 16 then ds.take point.toNat ++ '.' :: ds.drop point.toNat
      else if -5 < point && point ≤ 0 then
        '0' :: '.' :: (List.replicate (-point).toNat '0' ++ ds)
      else
        let power := point - 1
        let sign := if power < 0 then '-' else '+'
        ds.take 1 ++ (if ds.length = 1 then [] else '.' :: ds.drop 1) ++
          'e' :: sign :: Decimal.ofNat power.natAbs
  if x.negative then '-' :: body else body

end DeviceClaims.Double
