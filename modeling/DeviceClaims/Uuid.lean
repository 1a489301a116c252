import DeviceClaims.SortedMap
import DeviceClaims.Text.Hex

namespace DeviceClaims

/-- Sixteen bytes. They are written as lower-case digits in groups of 8-4-4-4-12 and read in four
spellings: bare digits, grouped digits, grouped digits in braces and grouped digits after urn:uuid: in
any case. -/
structure Uuid where
  bytes : List UInt8
  length_bytes : bytes.length = 16
  deriving DecidableEq

namespace Uuid

instance : KeyOrder Uuid := KeyOrder.ofCode Uuid.bytes fun {a b} h => by
  cases a; cases b; simp_all

theorem length_replicate (byte : UInt8) : (List.replicate 16 byte).length = 16 :=
  List.length_replicate

/-- The same byte sixteen times. -/
def filled (byte : UInt8) : Uuid := ⟨List.replicate 16 byte, length_replicate byte⟩

def ofBytes? (bs : List UInt8) : Option Uuid :=
  if h : bs.length = 16 then some ⟨bs, h⟩ else none

/-- Sets 32 digits in groups of 8-4-4-4-12. -/
def group (ds : List Char) : List Char :=
  ds.take 8 ++ '-' :: ((ds.drop 8).take 4 ++ '-' :: ((ds.drop 12).take 4 ++
    '-' :: ((ds.drop 16).take 4 ++ '-' :: ds.drop 20)))

/-- The digits of grouped text, if its hyphens stand where they belong. -/
def ungroup? (cs : List Char) : Option (List Char) :=
  if cs.length = 36 ∧ cs[8]? = some '-' ∧ cs[13]? = some '-' ∧ cs[18]? = some '-' ∧
      cs[23]? = some '-' then
    some (cs.take 8 ++ ((cs.drop 9).take 4 ++ ((cs.drop 14).take 4 ++
      ((cs.drop 19).take 4 ++ cs.drop 24))))
  else none

/-- The grouped part of a spelling: all of it, or what stands in braces or after urn:uuid:. -/
def body (cs : List Char) : List Char :=
  if cs.length = 38 ∧ cs.head? = some '\x7b' ∧ cs.getLast? = some '\x7d' then (cs.drop 1).take 36
  else if (cs.take 9).map Char.toLower = ['u', 'r', 'n', ':', 'u', 'u', 'i', 'd', ':'] then
    cs.drop 9
  else cs

/-- The digits of a spelling. -/
def digits? (cs : List Char) : Option (List Char) :=
  if cs.length = 32 then some cs else ungroup? (body cs)

/-- Reads any of the four spellings. -/
def read? (cs : List Char) : Option Uuid :=
  ((digits? cs).bind Hex.bytes?).bind ofBytes?

def write (u : Uuid) : List Char := group (Hex.ofBytes u.bytes)

theorem length_group {ds : List Char} (h : ds.length = 32) : (group ds).length = 36 := by
  simp [group, h]

end Uuid

end DeviceClaims
