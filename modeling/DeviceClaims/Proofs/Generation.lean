import DeviceClaims.Node.DeviceState

namespace DeviceClaims

namespace Keystream

/-- A longer stream begins with a shorter one. -/
theorem take_bytes (key : Key) {n m : Nat} (fewer : n ≤ m) :
    (bytes key m).take n = bytes key n := by
  obtain ⟨more, blocks⟩ := Nat.exists_eq_add_of_le (show (n + 63) / 64 ≤ (m + 63) / 64 by omega)
  have enough : n ≤ ((List.range ((n + 63) / 64)).flatMap (block key)).length := by
    rw [length_blocks, List.length_range]
    omega
  rw [bytes, bytes, List.take_take, Nat.min_eq_left fewer, blocks, List.range_add, List.flatMap_append,
    List.take_append_of_le_length enough]

end Keystream

namespace Emulator

theorem take_cut {n m : Nat} (fewer : n ≤ m) {bs : List UInt8} (enough : bs.length = 16 * m) :
    (cut m bs).take n = cut n (bs.take (16 * n)) := by
  induction n generalizing m bs with
  | zero => rfl
  | succ n ih =>
    obtain ⟨m, rfl⟩ : ∃ k, m = k + 1 := ⟨m - 1, by omega⟩
    have first : (bs.take 16).length = 16 := by rw [List.length_take, enough]; omega
    have same : (bs.take (16 * (n + 1))).take 16 = bs.take 16 := by
      rw [List.take_take, Nat.min_eq_left (by omega)]
    have rest : (bs.take (16 * (n + 1))).drop 16 = (bs.drop 16).take (16 * n) := by
      rw [List.drop_take, Nat.mul_succ, Nat.add_sub_cancel]
    have left : (bs.drop 16).length = 16 * m := by rw [List.length_drop, enough]; omega
    rw [cut, cut, same, rest, Uuid.ofBytes?, dif_pos first, List.take_succ_cons,
      ih (Nat.le_of_succ_le_succ fewer) left]

/-- More identifiers begin with fewer ones. -/
theorem take_uuids (seed : String) {n m : Nat} (fewer : n ≤ m) :
    (uuids seed m).take n = uuids seed n := by
  rw [uuids, take_cut fewer (Keystream.length_bytes ..),
    Keystream.take_bytes _ (Nat.mul_le_mul_left 16 fewer)]
  rfl

/-- The identifiers that a text gives are still among them when more are asked for. -/
theorem uuids_subset (seed : String) {n m : Nat} (fewer : n ≤ m) : uuids seed n ⊆ uuids seed m := by
  rw [← take_uuids seed fewer]
  exact List.take_subset ..

end Emulator

end DeviceClaims
