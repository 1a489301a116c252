import DeviceClaims.Instances
import DeviceClaims.Wire.Varint

namespace DeviceClaims.Wire

/-- The content of a record. -/
inductive Payload
  | varint (n : Nat)
  | fixed64
  | bytes (bs : List UInt8)
  | group
  | fixed32
  deriving DecidableEq

/-- A record of a message. It has a number and a content, of which only the form is known without
knowing the message. Groups are passed over, but they must be closed in the right order. -/
structure Record where
  number : Nat
  payload : Payload
  deriving DecidableEq

namespace Record

/-- How deep messages and groups may be nested. -/
def maxDepth : Nat := 100

/-- The first bytes, if there are so many, and the rest. -/
def split? (n : Nat) (bs : List UInt8) : Option (List UInt8 × List UInt8) :=
  if n ≤ bs.length then some (bs.take n, bs.drop n) else none

/-- Reads the number of a record and the form of its content. -/
def readKey (bs : List UInt8) : Option ((Nat × Nat) × List UInt8) := do
  let (key, rest) ← Varint.read bs
  if key < 2 ^ 32 ∧ key / 8 ≠ 0 then some ((key / 8, key % 8), rest) else none

def readScalar (form : Nat) (bs : List UInt8) : Option (Payload × List UInt8) :=
  match form with
  | 0 => (Varint.read bs).map fun (n, rest) => (.varint n, rest)
  | 1 => (split? 8 bs).map fun (_, rest) => (.fixed64, rest)
  | 2 => do
    let (n, rest) ← Varint.read bs
    let (content, rest) ← split? n rest
    some (.bytes content, rest)
  | 5 => (split? 4 bs).map fun (_, rest) => (.fixed32, rest)
  | _ => none

/-- Reads to the end of the groups that are open, the innermost first. Each step reads a key, so
as many steps are enough as there are bytes. -/
def skipGroups (depth : Nat) : Nat → List Nat → List UInt8 → Option (List UInt8)
  | _, [], bs => some bs
  | 0, _ :: _, _ => none
  | steps + 1, inner :: outer, bs => do
    let ((number, form), rest) ← readKey bs
    if form = 4 then
      if number = inner then skipGroups depth steps outer rest else none
    else if depth ≤ outer.length + 1 then none
    else if form = 3 then skipGroups depth steps (number :: inner :: outer) rest
    else do
      let (_, rest) ← readScalar form rest
      skipGroups depth steps (inner :: outer) rest

/-- Reads one record. A number in `framed` has bytes as its content, whatever form its key gives. -/
def read (framed : Nat → Bool) (depth : Nat) (bs : List UInt8) : Option (Record × List UInt8) := do
  let ((number, form), rest) ← readKey bs
  let form := if framed number && form < 6 then 2 else form
  if form = 3 then
    let rest ← skipGroups depth rest.length [number] rest
    some (⟨number, .group⟩, rest)
  else
    let (payload, rest) ← readScalar form rest
    some (⟨number, payload⟩, rest)

/-- Reads records to the end, at most so many. -/
def readUpTo (framed : Nat → Bool) (depth : Nat) : Nat → List UInt8 → Option (List Record)
  | _, [] => some []
  | 0, _ :: _ => none
  | steps + 1, bs => do
    let (r, rest) ← read framed depth bs
    let rs ← readUpTo framed depth steps rest
    some (r :: rs)

/-- Reads all records of a message; none is shorter than a byte. -/
def readAll (framed : Nat → Bool) (depth : Nat) (bs : List UInt8) : Option (List Record) :=
  readUpTo framed depth bs.length bs

def write (number : Nat) (bs : List UInt8) : List UInt8 :=
  Varint.write (8 * number + 2) ++ Varint.write bs.length ++ bs

/-- The length of a record that holds so many bytes. -/
def size (number length : Nat) : Nat := Varint.size (8 * number + 2) + Varint.size length + length

end Record

end DeviceClaims.Wire
