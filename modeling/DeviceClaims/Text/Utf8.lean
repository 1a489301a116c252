import DeviceClaims.Text.Decimal

namespace DeviceClaims.Utf8

/-- Why bytes are no text. The first byte of a character says how many follow it and bounds the second;
what breaks off or falls outside the bounds is reported with its place. -/
structure Fault where
  /-- How many bytes stand before the character that is broken. -/
  index : Nat
  /-- How many bytes belong to it, unless the bytes end within it. -/
  length : Option Nat
  deriving DecidableEq, Repr

def Fault.message (f : Fault) : String := match f.length with
  | some n => "invalid utf-8 sequence of " ++ Decimal.text n ++ " bytes from index " ++
      Decimal.text f.index
  | none => "incomplete utf-8 byte sequence from index " ++ Decimal.text f.index

/-- A character of which some bytes were read. -/
structure Part where
  /-- The bits read so far as a number. -/
  bits : Nat
  /-- How many bytes were read. -/
  size : Nat
  /-- The bounds of the next byte. -/
  least : Nat
  greatest : Nat
  /-- How many bytes are still to come. -/
  left : Nat
  deriving DecidableEq, Repr

/-- What a byte does to a character. -/
inductive Step
  | char (c : Char)
  | more (part : Part)
  | broken
  deriving DecidableEq

def first (b : UInt8) : Step :=
  let n := b.toNat
  if n < 0x80 then .char (Char.ofNat n)
  else if n < 0xc2 then .broken
  else if n < 0xe0 then .more ⟨n - 0xc0, 1, 0x80, 0xbf, 1⟩
  else if n < 0xf0 then
    .more ⟨n - 0xe0, 1, if n = 0xe0 then 0xa0 else 0x80, if n = 0xed then 0x9f else 0xbf, 2⟩
  else if n < 0xf5 then
    .more ⟨n - 0xf0, 1, if n = 0xf0 then 0x90 else 0x80, if n = 0xf4 then 0x8f else 0xbf, 3⟩
  else .broken

def next (p : Part) (b : UInt8) : Step :=
  if p.least ≤ b.toNat ∧ b.toNat ≤ p.greatest then
    let bits := 64 * p.bits + (b.toNat - 0x80)
    if p.left ≤ 1 then .char (Char.ofNat bits)
    else .more ⟨bits, p.size + 1, 0x80, 0xbf, p.left - 1⟩
  else .broken

/-- Reads bytes after so many that were read, the last of them part of a character or none. -/
def readFrom (index : Nat) : Option Part → List UInt8 → Except Fault (List Char)
  | none, [] => .ok []
  | some p, [] => .error ⟨index - p.size, none⟩
  | none, b :: bs => match first b with
    | .char c => (readFrom (index + 1) none bs).map (c :: ·)
    | .more p => readFrom (index + 1) (some p) bs
    | .broken => .error ⟨index, some 1⟩
  | some p, b :: bs => match next p b with
    | .char c => (readFrom (index + 1) none bs).map (c :: ·)
    | .more p => readFrom (index + 1) (some p) bs
    | .broken => .error ⟨index - p.size, some p.size⟩

def read (bs : List UInt8) : Except Fault (List Char) := readFrom 0 none bs

def replacement : Char := Char.ofNat 0xfffd

/-- The characters that bytes spell after part of one, with the broken ones replaced. -/
def repairFrom : Option Part → List UInt8 → List Char
  | none, [] => []
  | some _, [] => [replacement]
  | none, b :: bs => match first b with
    | .char c => c :: repairFrom none bs
    | .more p => repairFrom (some p) bs
    | .broken => replacement :: repairFrom none bs
  | some p, b :: bs => match next p b with
    | .char c => c :: repairFrom none bs
    | .more p => repairFrom (some p) bs
    | .broken => replacement :: match first b with
      | .char c => c :: repairFrom none bs
      | .more p => repairFrom (some p) bs
      | .broken => replacement :: repairFrom none bs

/-- The text that bytes spell, with characters that are broken replaced. -/
def repair (bs : List UInt8) : String := String.ofList (repairFrom none bs)

def bytes (s : String) : List UInt8 := s.toList.flatMap String.utf8EncodeChar

end DeviceClaims.Utf8
