namespace DeviceClaims.Keystream

/-- The sixteen words of a block. -/
abbrev Words := Vector UInt32 16

/-- The eight words of a key. Blocks of 64 bytes are scrambled from a key, a block number and constants,
by the ChaCha permutation of eight rounds; the words of the key come from a generator that a 64-bit seed
starts. -/
abbrev Key := Vector UInt32 8

/-- A word turned left by some bits. -/
def rotateLeft (x : UInt32) (n : UInt32) : UInt32 := (x <<< n) ||| (x >>> (32 - n))

/-- A word turned right by some bits, which may be none. -/
def rotateRight (x : UInt32) (n : UInt32) : UInt32 := (x >>> n) ||| (x <<< (32 - n))

def quarterRound (w : Words) (a b c d : Fin 16) : Words :=
  let xa := w[a] + w[b]
  let xd := rotateLeft (w[d] ^^^ xa) 16
  let xc := w[c] + xd
  let xb := rotateLeft (w[b] ^^^ xc) 12
  let xa := xa + xb
  let xd := rotateLeft (xd ^^^ xa) 8
  let xc := xc + xd
  let xb := rotateLeft (xb ^^^ xc) 7
  (((w.set a xa).set b xb).set c xc).set d xd

/-- Mixes the columns and then the diagonals of a block. -/
def doubleRound (w : Words) : Words :=
  let w := quarterRound w 0 4 8 12
  let w := quarterRound w 1 5 9 13
  let w := quarterRound w 2 6 10 14
  let w := quarterRound w 3 7 11 15
  let w := quarterRound w 0 5 10 15
  let w := quarterRound w 1 6 11 12
  let w := quarterRound w 2 7 8 13
  quarterRound w 3 4 9 14

/-- The block that is scrambled: constants, the key, the number of the block and zeros. -/
def start (key : Key) (number : UInt64) : Words :=
  #v[0x61707865, 0x3320646e, 0x79622d32, 0x6b206574,
    key[0], key[1], key[2], key[3], key[4], key[5], key[6], key[7],
    number.toUInt32, (number >>> 32).toUInt32, 0, 0]

/-- The bytes of a word, the lowest first. -/
def wordBytes (x : UInt32) : List UInt8 :=
  [x.toUInt8, (x >>> 8).toUInt8, (x >>> 16).toUInt8, (x >>> 24).toUInt8]

def blockWords (key : Key) (number : UInt64) : Words :=
  let w := start key number
  Vector.zipWith (· + ·) (doubleRound (doubleRound (doubleRound (doubleRound w)))) w

def block (key : Key) (number : Nat) : List UInt8 :=
  (blockWords key (.ofNat number)).toList.flatMap wordBytes

def byteAt (key : Key) (i : Nat) : UInt8 := ((block key (i / 64))[i % 64]?).getD 0

/-- The first bytes of the stream, taken block by block. -/
def bytes (key : Key) (n : Nat) : List UInt8 :=
  ((List.range ((n + 63) / 64)).flatMap (block key)).take n

/-- The generator that makes keys: its next state. -/
def advance (s : UInt64) : UInt64 := s * 6364136223846793005 + 11634580027462260723

/-- The word that a state of the generator gives. -/
def keyWord (s : UInt64) : UInt32 :=
  rotateRight ((((s >>> 18) ^^^ s) >>> 27).toUInt32) ((s >>> 59).toUInt32)

/-- The key that a seed determines. -/
def keyOfSeed (seed : UInt64) : Key :=
  let s1 := advance seed
  let s2 := advance s1
  let s3 := advance s2
  let s4 := advance s3
  let s5 := advance s4
  let s6 := advance s5
  let s7 := advance s6
  let s8 := advance s7
  #v[keyWord s1, keyWord s2, keyWord s3, keyWord s4, keyWord s5, keyWord s6, keyWord s7, keyWord s8]

theorem length_block (key : Key) (number : Nat) : (block key number).length = 64 := by
  have four : ∀ ws : List UInt32, (ws.flatMap wordBytes).length = 4 * ws.length := by
    intro ws
    induction ws with
    | nil => rfl
    | cons x ws ih =>
      have word : (wordBytes x).length = 4 := rfl
      rw [List.flatMap_cons, List.length_append, ih, word, List.length_cons]
      omega
  rw [block, four, Vector.length_toList]

theorem length_blocks (key : Key) (numbers : List Nat) :
    (numbers.flatMap (block key)).length = 64 * numbers.length := by
  induction numbers with
  | nil => rfl
  | cons number numbers ih =>
    rw [List.flatMap_cons, List.length_append, ih, length_block, List.length_cons]
    omega

theorem length_bytes (key : Key) (n : Nat) : (bytes key n).length = n := by
  rw [bytes, List.length_take, length_blocks, List.length_range]
  omega

end DeviceClaims.Keystream
