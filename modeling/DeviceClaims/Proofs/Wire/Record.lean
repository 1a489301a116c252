import DeviceClaims.Wire.Record

namespace DeviceClaims.Wire

namespace Varint

theorem size_pos (n : Nat) : 0 < size n := by
  unfold size
  split <;> omega

theorem length_write (n : Nat) : (write n).length = size n := by
  induction n using Nat.strongRecOn with
  | ind n ih =>
    unfold write size
    split
    · rfl
    · next large => rw [List.length_cons, ih (n / 128) (by omega)]

theorem write_ne_nil (n : Nat) : write n ≠ [] := by
  have positive := size_pos n
  rw [← length_write] at positive
  exact List.ne_nil_of_length_pos positive

/-- A number is read again if there is room for it: so many groups of seven bits and one bit. -/
theorem readBelow_write {left n : Nat} (room : n < 2 ^ (7 * left + 1)) (rest : List UInt8) :
    readBelow left (write n ++ rest) = some (n, rest) := by
  have byte : ∀ {m : Nat}, m < 256 → (UInt8.ofNat m).toNat = m :=
    fun small => UInt8.toNat_ofNat_of_lt' small
  have below : ∀ {m : Nat}, m < 256 → (UInt8.ofNat m < 128 ↔ m < 128) := by
    intro m small
    rw [UInt8.lt_iff_toNat_lt, byte small]
    rfl
  induction left generalizing n with
  | zero =>
    have small : n < 2 := room
    have bit : ¬ 2 ≤ UInt8.ofNat n := by
      rw [UInt8.le_iff_toNat_le, byte (by omega)]
      exact Nat.not_le.mpr small
    rw [write, if_pos (by omega), List.singleton_append, readBelow, if_pos ((below (by omega)).mpr (by omega)),
      if_neg (fun both => bit both.2), byte (by omega)]
  | succ left ih =>
    by_cases last : n < 128
    · rw [write, if_pos last, List.singleton_append, readBelow, if_pos ((below (by omega)).mpr last),
        if_neg (fun both => nomatch both.1), byte (by omega)]
    · have inner : n / 128 < 2 ^ (7 * left + 1) := by
        refine Nat.div_lt_of_lt_mul ?_
        rwa [show 7 * (left + 1) + 1 = 7 + (7 * left + 1) by omega, Nat.pow_add] at room
      have marked : ¬ UInt8.ofNat (n % 128 + 128) < 128 := fun low => by
        have low := (below (by omega)).mp low
        omega
      rw [write, if_neg last, List.cons_append, readBelow, if_neg marked, ih inner, Option.map_some,
        byte (by omega)]
      refine congrArg (fun m => some (m, rest)) ?_
      omega

/-- A number of 64 bits is read as it was written, and what follows it is left. -/
theorem read_write {n : Nat} (fits : n < 2 ^ 64) (rest : List UInt8) :
    read (write n ++ rest) = some (n, rest) := readBelow_write fits rest

end Varint

namespace Record

/-- The numbers that fields may have. -/
def IsNumber (n : Nat) : Prop := 0 < n ∧ n < 2 ^ 29

instance (n : Nat) : Decidable (IsNumber n) := inferInstanceAs (Decidable (_ ∧ _))

theorem length_write (number : Nat) (bs : List UInt8) : (write number bs).length = size number bs.length := by
  rw [write, size, List.length_append, List.length_append, Varint.length_write, Varint.length_write]

theorem length_le_write (number : Nat) (bs : List UInt8) : bs.length ≤ (write number bs).length := by
  rw [length_write, size]
  omega

theorem write_ne_nil (number : Nat) (bs : List UInt8) : write number bs ≠ [] := by
  simp [write, Varint.write_ne_nil]

/-- The number of a record and the form of its content are read as they were written. -/
theorem readKey_write {number : Nat} (valid : IsNumber number) (rest : List UInt8) :
    readKey (Varint.write (8 * number + 2) ++ rest) = some ((number, 2), rest) := by
  obtain ⟨positive, small⟩ := valid
  have whole : (8 * number + 2) / 8 = number := by omega
  have form : (8 * number + 2) % 8 = 2 := by omega
  have room : 8 * number + 2 < 2 ^ 32 := by omega
  simp only [readKey, Varint.read_write (by omega : 8 * number + 2 < 2 ^ 64), Option.bind_eq_bind,
    Option.bind_some, whole, form]
  exact if_pos ⟨room, by omega⟩

theorem split?_append (bs rest : List UInt8) : split? bs.length (bs ++ rest) = some (bs, rest) := by
  rw [split?, if_pos (by rw [List.length_append]; omega), List.take_left, List.drop_left]

variable {framed : Nat → Bool} {depth : Nat}

/-- A record of bytes is read as such, also where its number stands for bytes whatever its form. -/
theorem read_write {number : Nat} (valid : IsNumber number) {bs : List UInt8} (fits : bs.length < 2 ^ 64)
    (rest : List UInt8) :
    read framed depth (write number bs ++ rest) = some (⟨number, .bytes bs⟩, rest) := by
  have key := readKey_write valid (Varint.write bs.length ++ (bs ++ rest))
  have form : (if framed number && 2 < 6 then 2 else 2) = 2 := ite_self 2
  simp only [read, write, List.append_assoc, key, Option.bind_eq_bind, Option.bind_some, form, readScalar,
    Varint.read_write fits, split?_append]
  rfl

/-- Many records are read in their order. -/
theorem readUpTo_write {rs : List (Nat × List UInt8)} (valid : ∀ r ∈ rs, IsNumber r.1 ∧ r.2.length < 2 ^ 64)
    {steps : Nat} (enough : rs.length ≤ steps) :
    readUpTo framed depth steps (rs.flatMap fun r => write r.1 r.2) =
      some (rs.map fun r => ⟨r.1, .bytes r.2⟩) := by
  induction rs generalizing steps with
  | nil => cases steps <;> rfl
  | cons r rs ih =>
    obtain ⟨⟨number, fits⟩, others⟩ := List.forall_mem_cons.mp valid
    obtain ⟨steps, rfl⟩ : ∃ n, steps = n + 1 := ⟨steps - 1, by rw [List.length_cons] at enough; omega⟩
    have more := ih others (Nat.le_of_succ_le_succ enough)
    have first : read framed depth (write r.1 r.2 ++ rs.flatMap fun r => write r.1 r.2) = _ :=
      read_write number fits _
    rw [List.flatMap_cons]
    cases written : write r.1 r.2 with
    | nil => exact absurd written (write_ne_nil _ _)
    | cons b bs =>
      rw [written, List.cons_append] at first
      simp only [List.cons_append, readUpTo, first, Option.bind_eq_bind, Option.bind_some, more, List.map_cons]

/-- Records are read as they were written, one after the other. -/
theorem readAll_write {rs : List (Nat × List UInt8)} (valid : ∀ r ∈ rs, IsNumber r.1 ∧ r.2.length < 2 ^ 64) :
    readAll framed depth (rs.flatMap fun r => write r.1 r.2) = some (rs.map fun r => ⟨r.1, .bytes r.2⟩) := by
  refine readUpTo_write valid ?_
  -- Every record takes at least one byte.
  induction rs with
  | nil => exact Nat.zero_le _
  | cons r rs ih =>
    have more := ih (List.forall_mem_cons.mp valid).2
    have positive : 0 < (write r.1 r.2).length := List.length_pos_iff.mpr (write_ne_nil _ _)
    rw [List.flatMap_cons, List.length_append, List.length_cons]
    omega

end Record

end DeviceClaims.Wire
