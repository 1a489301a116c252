namespace DeviceClaims.Hex

def digit (n : Nat) : Char := Char.ofNat (if n < 10 then 48 + n else 87 + n)

def value? (c : Char) : Option Nat :=
  if '0' ≤ c ∧ c ≤ '9' then some (c.toNat - 48)
  else if 'a' ≤ c ∧ c ≤ 'f' then some (c.toNat - 87)
  else if 'A' ≤ c ∧ c ≤ 'F' then some (c.toNat - 55)
  else none

/-- The two digits of a byte, the high half first. -/
def ofByte (b : UInt8) : List Char := [digit (b.toNat / 16), digit (b.toNat % 16)]

def ofBytes (bs : List UInt8) : List Char := bs.flatMap ofByte

/-- The bytes spelled by an even number of digits. -/
def bytes? : List Char → Option (List UInt8)
  | [] => some []
  | [_] => none
  | hi :: lo :: rest => do
    let h ← value? hi
    let l ← value? lo
    return UInt8.ofNat (16 * h + l) :: (← bytes? rest)

/-- The digits of a number, without leading zeros. -/
def ofNat (n : Nat) : List Char :=
  if n < 16 then [digit n] else ofNat (n / 16) ++ [digit (n % 16)]

theorem value?_digit {n : Nat} (h : n < 16) : value? (digit n) = some n := by
  have : ∀ i : Fin 16, value? (digit i) = some i.val := by decide
  exact this ⟨n, h⟩

@[simp] theorem length_ofByte (b : UInt8) : (ofByte b).length = 2 := rfl

@[simp] theorem length_ofBytes (bs : List UInt8) : (ofBytes bs).length = 2 * bs.length := by
  induction bs with
  | nil => rfl
  | cons b bs ih => simp only [ofBytes, List.flatMap_cons, List.length_append, length_ofByte,
      List.length_cons] at *; omega

theorem bytes?_ofBytes (bs : List UInt8) : bytes? (ofBytes bs) = some bs := by
  induction bs with
  | nil => rfl
  | cons b bs ih =>
    have hi : b.toNat / 16 < 16 := by have := b.toNat_lt; omega
    have lo : b.toNat % 16 < 16 := by omega
    have join : UInt8.ofNat (16 * (b.toNat / 16) + b.toNat % 16) = b := by
      rw [show 16 * (b.toNat / 16) + b.toNat % 16 = b.toNat by omega, UInt8.ofNat_toNat]
    simp only [ofBytes, List.flatMap_cons, ofByte, List.cons_append, List.nil_append, bytes?] at *
    simp only [value?_digit hi, value?_digit lo, ih, join, Option.bind_eq_bind, Option.bind_some,
      Option.pure_def]

theorem length_of_bytes? {cs : List Char} {bs : List UInt8} (h : bytes? cs = some bs) :
    cs.length = 2 * bs.length := by
  induction cs using bytes?.induct generalizing bs with
  | case1 => cases h; rfl
  | case2 => simp [bytes?] at h
  | case3 hi lo rest ih =>
    simp only [bytes?, Option.bind_eq_bind, Option.bind_eq_some_iff] at h
    obtain ⟨_, _, _, _, bs', h', e⟩ := h
    cases e
    simp [ih h']; omega

end DeviceClaims.Hex
