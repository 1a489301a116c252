import DeviceClaims.Api.Device
import DeviceClaims.Keystream

namespace DeviceClaims

/-- A device as a claim uses it: a whole device, or a part of its parent. Identifiers are drawn from a
stream that a text determines, so the same node has the same devices each time, and the same device the
same parts. -/
structure DeviceInfo where
  uuid : DeviceUuid
  model : String
  parent : Option DeviceUuid := none
  deriving DecidableEq

namespace DeviceInfo

def prepared (d : DeviceInfo) : PreparedDevice := ⟨d.uuid, d.parent⟩

end DeviceInfo

namespace Emulator

/-- How many devices a node has unless it is told otherwise. -/
def defaultDeviceCount : Nat := 8

/-- How many devices can be kept: their identifiers must fit into 2^63 - 1 bytes. -/
def maxDeviceCount : Nat := (2 ^ 63 - 1) / 16

/-- The number that a text is made into: each character is added to thirty-one times what came
before. -/
def hash (s : String) : Int64 :=
  s.toList.foldl (fun h c => h * 31 + Int64.ofNat c.toNat) 0

def cut : Nat → List UInt8 → List DeviceUuid
  | 0, _ => []
  | n + 1, bs => match Uuid.ofBytes? (bs.take 16) with
    | some u => ⟨u⟩ :: cut n (bs.drop 16)
    | none => []

def uuids (seed : String) (n : Nat) : List DeviceUuid :=
  cut n (Keystream.bytes (Keystream.keyOfSeed (hash seed).toUInt64) (16 * n))

theorem length_cut {n : Nat} {bs : List UInt8} (enough : bs.length = 16 * n) : (cut n bs).length = n := by
  induction n generalizing bs with
  | zero => rfl
  | succ n ih =>
    have first : (bs.take 16).length = 16 := by rw [List.length_take, enough]; omega
    have rest : (bs.drop 16).length = 16 * n := by rw [List.length_drop, enough]; omega
    rw [cut, Uuid.ofBytes?, dif_pos first, List.length_cons, ih rest]

/-- There are as many identifiers as are asked for. -/
theorem length_uuids (seed : String) (n : Nat) : (uuids seed n).length = n :=
  length_cut (Keystream.length_bytes ..)

def devices (node : String) (n : Nat) : List AllocatableDevice :=
  (uuids node n).map (⟨·, fakeModel⟩)

def parts (parent : DeviceUuid) (model : String) (n : Nat) : List DeviceInfo :=
  (uuids parent.text n).map (⟨·, model, some parent⟩)

end Emulator

end DeviceClaims
