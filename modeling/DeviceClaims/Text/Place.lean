import DeviceClaims.Instances
import DeviceClaims.Text.Decimal

namespace DeviceClaims

/-- A place in a text: its line, from one, and how many bytes of the line stand before it. -/
structure TextPlace where
  line : Nat
  column : Nat
  deriving DecidableEq, Repr

namespace TextPlace

def after (cs : List Char) : TextPlace where
  line := cs.count '\n' + 1
  column := ((cs.reverse.takeWhile (· ≠ '\n')).map Char.utf8Size).sum

/-- The place as it is added to a message. -/
def text (p : TextPlace) : String :=
  " at line " ++ Decimal.text p.line ++ " column " ++ Decimal.text p.column

end TextPlace

end DeviceClaims
