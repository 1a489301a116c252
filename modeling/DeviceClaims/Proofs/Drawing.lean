import DeviceClaims.Proofs.Generation
import Mathlib.Data.Nat.Digits.Defs

namespace DeviceClaims

namespace Keystream

/-- The bytes of a stream from an offset on. -/
def slice (key : Key) (offset n : Nat) : List UInt8 := (List.range' offset n).map (byteAt key)

@[simp] theorem length_slice (key : Key) (offset n : Nat) : (slice key offset n).length = n := by
  rw [slice, List.length_map, List.length_range']

theorem slice_succ (key : Key) (offset n : Nat) :
    slice key offset (n + 1) = byteAt key offset :: slice key (offset + 1) n := by
  rw [slice, List.range'_succ, List.map_cons, slice]

/-- Parts of a stream that follow each other make one part. -/
theorem slice_add (key : Key) (offset n m : Nat) :
    slice key offset (n + m) = slice key offset n ++ slice key (offset + n) m := by
  rw [slice, ← List.range'_append_1, List.map_append, slice, slice]

/-- A byte of the blocks one after the other is found in its block. -/
theorem getElem?_blocks (key : Key) {number i : Nat} (within : i < 64 * number) :
    ((List.range number).flatMap (block key))[i]? = some (byteAt key i) := by
  induction number with
  | zero => cases within
  | succ number ih =>
    have before : ((List.range number).flatMap (block key)).length = 64 * number := by
      rw [length_blocks, List.length_range]
    rw [List.range_succ, List.flatMap_append, List.flatMap_singleton]
    by_cases early : i < 64 * number
    · rw [List.getElem?_append_left (by omega), ih early]
    · have inBlock : i - 64 * number < (block key number).length := by
        rw [length_block]
        omega
      rw [List.getElem?_append_right (by omega), before, byteAt, show i / 64 = number by omega,
        show i % 64 = i - 64 * number by omega, List.getElem?_eq_getElem inBlock, Option.getD_some]

/-- Taken block by block, the bytes are those at the places from the first on. -/
theorem bytes_eq_slice (key : Key) (n : Nat) : bytes key n = slice key 0 n := by
  refine List.ext_getElem ((length_bytes key n).trans (length_slice key 0 n).symm) fun i within _ => ?_
  rw [length_bytes] at within
  have taken : (bytes key n)[i]? = some (byteAt key i) := by
    rw [bytes, List.getElem?_take_of_lt within, getElem?_blocks key (by omega)]
  have placed : (slice key 0 n)[i]? = some (byteAt key i) := by
    rw [slice, List.getElem?_map, List.getElem?_range' within, Option.map_some, Nat.zero_add, Nat.one_mul]
  rw [(List.getElem?_eq_some_iff.mp taken).2, (List.getElem?_eq_some_iff.mp placed).2]

/-- How the stream of the key that is all zeros begins. -/
example : bytes (.replicate 8 0) 8 = [0x3e, 0x00, 0xef, 0x2f, 0x89, 0x5f, 0x40, 0xd6] := by
  decide +kernel

/-- A generator at work: the number of the block that comes next, the block before it, and how many bytes of
that were handed out. -/
structure Generator where
  key : Key
  counter : UInt64
  buffer : List UInt8
  place : Nat

namespace Generator

/-- A generator before its first block. -/
def start (key : Key) : Generator := ⟨key, 0, [], 64⟩

/-- Makes the next block if the one before is used up. -/
def refill (g : Generator) : Generator :=
  if g.place < 64 then g
  else { g with counter := g.counter + 1, buffer := block g.key g.counter.toNat, place := 0 }

/-- The next byte, and the generator after it. -/
def next (g : Generator) : UInt8 × Generator :=
  (g.refill.buffer.getD g.refill.place 0, { g.refill with place := g.refill.place + 1 })

/-- The next bytes, and the generator after them. -/
def fill : Nat → Generator → List UInt8 × Generator
  | 0, g => ([], g)
  | n + 1, g => (g.next.1 :: (fill n g.next.2).1, (fill n g.next.2).2)

theorem length_fill (n : Nat) (g : Generator) : (fill n g).1.length = n := by
  induction n generalizing g with
  | zero => rfl
  | succ n ih => rw [fill, List.length_cons, ih]

/-- The generator that has handed out so many bytes. -/
def after (key : Key) (offset : Nat) : Generator where
  key := key
  counter := .ofNat ((offset + 63) / 64)
  buffer := if offset = 0 then [] else block key ((offset - 1) / 64)
  place := offset + 64 - 64 * ((offset + 63) / 64)

theorem after_zero (key : Key) : after key 0 = start key := rfl

/-- Before the next byte the generator holds the block in which that byte lies, and stands right before it. -/
theorem refill_after (key : Key) (offset : Nat) : (after key offset).refill =
    ⟨key, .ofNat (offset / 64 + 1), block key (offset / 64), offset % 64⟩ := by
  by_cases full : offset % 64 = 0
  · have used : ¬ (after key offset).place < 64 := by
      simp only [after]
      omega
    have number : (offset + 63) / 64 = offset / 64 := by omega
    -- The counter and the number in a block both have 64 bits, so they start over together.
    have same : block key (UInt64.ofNat (offset / 64)).toNat = block key (offset / 64) := by
      rw [block, UInt64.ofNat_toNat, block]
    rw [refill, if_neg used]
    simp only [after, number, same, full, UInt64.ofNat_add]
    rfl
  · have left : (after key offset).place < 64 := by
      simp only [after]
      omega
    have begun : offset ≠ 0 := by
      rintro rfl
      exact full rfl
    rw [refill, if_pos left, after, if_neg begun, show (offset + 63) / 64 = offset / 64 + 1 by omega,
      show (offset - 1) / 64 = offset / 64 by omega,
      show offset + 64 - 64 * (offset / 64 + 1) = offset % 64 by omega]

/-- One byte: it is that at the offset, and the offset goes up by one. -/
theorem next_after (key : Key) (offset : Nat) :
    (after key offset).next = (byteAt key offset, after key (offset + 1)) := by
  rw [next, refill_after, byteAt, List.getD_eq_getElem?_getD, after, if_neg (Nat.succ_ne_zero offset),
    show (offset + 1 + 63) / 64 = offset / 64 + 1 by omega, Nat.add_sub_cancel,
    show offset + 1 + 64 - 64 * (offset / 64 + 1) = offset % 64 + 1 by omega]

/-- So many bytes: they are those from the offset on, over however many blocks. -/
theorem fill_after (key : Key) (offset n : Nat) :
    fill n (after key offset) = (slice key offset n, after key (offset + n)) := by
  induction n generalizing offset with
  | zero => rfl
  | succ n ih =>
    rw [fill, next_after, ih, slice_succ, show offset + 1 + n = offset + (n + 1) by omega]

end Generator

end Keystream

namespace Emulator

open Keystream

/-- The hash of a text is what 64 bits hold of the number that its characters are to the base of thirty-one,
the last of them the lowest. -/
theorem toUInt64_hash (s : String) :
    (hash s).toUInt64 = .ofNat (Nat.ofDigits 31 (s.toList.reverse.map Char.toNat)) := by
  have wraps : hash s = Int64.ofNat (s.toList.foldl (fun h c => h * 31 + c.toNat) 0) := by
    rw [hash, ← List.foldl_hom Int64.ofNat fun h c => ?_]
    · rfl
    · rw [Int64.ofNat_add, Int64.ofNat_mul]
      rfl
  have digits : Nat.ofDigits 31 (s.toList.reverse.map Char.toNat) =
      s.toList.foldl (fun h c => h * 31 + c.toNat) 0 := by
    rw [Nat.ofDigits_eq_foldr, List.foldr_map, List.foldr_reverse]
    congr 1
    funext h c
    rw [Nat.cast_id]
    omega
  rw [wraps, digits, Int64.toUInt64_ofNat']

/-- The key of the stream that a text gives. -/
def keyOf (seed : String) : Key := keyOfSeed (.ofNat (Nat.ofDigits 31 (seed.toList.reverse.map Char.toNat)))

/-- Draws identifiers one after the other, sixteen bytes for each. -/
def draw : Nat → Generator → List DeviceUuid
  | 0, _ => []
  | n + 1, g => ⟨⟨(g.fill 16).1, Generator.length_fill 16 g⟩⟩ :: draw n (g.fill 16).2

/-- Drawn one by one, the identifiers are the pieces of what is left of the stream. -/
theorem draw_after (key : Key) (offset n : Nat) :
    draw n (.after key offset) = cut n (slice key offset (16 * n)) := by
  induction n generalizing offset with
  | zero => rfl
  | succ n ih =>
    have parts : slice key offset (16 * (n + 1)) =
        slice key offset 16 ++ slice key (offset + 16) (16 * n) := by
      rw [← slice_add, show 16 * (n + 1) = 16 + 16 * n by omega]
    have first : (slice key offset (16 * (n + 1))).take 16 = slice key offset 16 := by
      rw [parts, List.take_left' (length_slice ..)]
    have rest : (slice key offset (16 * (n + 1))).drop 16 = slice key (offset + 16) (16 * n) := by
      rw [parts, List.drop_left' (length_slice ..)]
    rw [cut, first, rest, Uuid.ofBytes?, dif_pos (length_slice ..), ← ih]
    simp only [draw, Generator.fill_after]

/-- An identifier has the sixteen bytes at its place. -/
theorem bytes_draw_after (key : Key) (offset n : Nat) : (draw n (.after key offset)).map (·.uuid.bytes) =
    (List.range n).map fun i => slice key (offset + 16 * i) 16 := by
  induction n generalizing offset with
  | zero => rfl
  | succ n ih =>
    have later : ∀ i, offset + 16 * (i + 1) = offset + 16 + 16 * i := fun i => by omega
    rw [draw, List.map_cons, List.range_succ_eq_map, List.map_cons, List.map_map]
    simp only [Generator.fill_after, ih, Function.comp_def, Nat.succ_eq_add_one, later, Nat.mul_zero,
      Nat.add_zero]

/-- The identifiers that a text gives are drawn from its generator, one after the other. -/
theorem uuids_eq_draw (seed : String) (n : Nat) : uuids seed n = draw n (.start (keyOf seed)) := by
  rw [uuids, toUInt64_hash, bytes_eq_slice, ← draw_after, Generator.after_zero, keyOf]

/-- The identifiers that a text gives are drawn one after the other from the stream of its hash, and each has
the sixteen bytes at its place in it. The first of many are those that are made when fewer are asked for, so the
devices of a node and the parts of a device keep their identifiers when there come to be more of them. -/
theorem earlier_keep_their_place (seed : String) (parent : DeviceUuid) (model : String) {n m : Nat}
    (fewer : n ≤ m) :
    uuids seed n = (uuids seed m).take n ∧
    uuids seed m = draw m (.start (keyOf seed)) ∧
    ((uuids seed m).map (·.uuid.bytes) = (List.range m).map fun i => slice (keyOf seed) (16 * i) 16) ∧
    devices seed n = (devices seed m).take n ∧
      (devices seed m).map (·.uuid) = uuids seed m ∧
    parts parent model n = (parts parent model m).take n ∧
      (parts parent model m).map (·.uuid) = uuids parent.text m := by
  have start : ∀ text, uuids text n = (uuids text m).take n := fun text => (take_uuids text fewer).symm
  have bytes := bytes_draw_after (keyOf seed) 0 m
  simp only [Nat.zero_add, Generator.after_zero, ← uuids_eq_draw] at bytes
  refine ⟨start seed, uuids_eq_draw seed m, bytes, ?_, ?_, ?_, ?_⟩
  · rw [devices, devices, start, List.map_take]
  · rw [devices, List.map_map]
    exact List.map_id _
  · rw [parts, parts, start, List.map_take]
  · rw [parts, List.map_map]
    exact List.map_id _

/-- The fifth identifier lies in the second block. -/
theorem earlier_keep_their_place_next_block : 3 ≤ 5 ∧
    (uuids "node-a" 3 = (uuids "node-a" 5).take 3 ∧
    uuids "node-a" 5 = draw 5 (.start (keyOf "node-a")) ∧
    ((uuids "node-a" 5).map (·.uuid.bytes) =
      (List.range 5).map fun i => slice (keyOf "node-a") (16 * i) 16) ∧
    devices "node-a" 3 = (devices "node-a" 5).take 3 ∧
      (devices "node-a" 5).map (·.uuid) = uuids "node-a" 5 ∧
    parts ⟨.filled 0⟩ fakeModel 3 = (parts ⟨.filled 0⟩ fakeModel 5).take 3 ∧
      (parts ⟨.filled 0⟩ fakeModel 5).map (·.uuid) = uuids (DeviceUuid.mk (.filled 0)).text 5) ∧
    (uuids "node-a" 5)[4]?.map (·.text) = some "FAKE-080704d7-e602-3683-04c4-46d5c995b252" :=
  ⟨by decide, earlier_keep_their_place "node-a" ⟨.filled 0⟩ fakeModel (by decide), by decide +kernel⟩

end Emulator

end DeviceClaims
