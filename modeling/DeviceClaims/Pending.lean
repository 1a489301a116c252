import DeviceClaims.Api.Device

namespace DeviceClaims

/-- Devices set aside, by claim and then by node. A claim may have devices set aside on several nodes at
once, as long as it is not known to which of them it will go. -/
structure PendingTracker where
  claims : SortedMap ClaimUid (SortedMap String (List AllocatedDevice)) := .empty
  deriving DecidableEq, Inhabited

namespace PendingTracker

/-- The devices set aside for a claim on a node. -/
def get? (t : PendingTracker) (claim : ClaimUid) (node : String) : Option (List AllocatedDevice) :=
  (t.claims.get? claim).bind (·.get? node)

/-- Whether devices are set aside for a claim on a node. -/
def contains (t : PendingTracker) (claim : ClaimUid) (node : String) : Bool :=
  (t.get? claim node).isSome

/-- Sets devices aside for a claim on a node, in place of those there. -/
def set (t : PendingTracker) (claim : ClaimUid) (node : String) (devices : List AllocatedDevice) :
    PendingTracker :=
  ⟨t.claims.insert claim (((t.claims.get? claim).getD .empty).insert node devices)⟩

/-- Forgets a claim on one node, and the claim with its last node. -/
def removeNode (t : PendingTracker) (claim : ClaimUid) (node : String) : PendingTracker :=
  match t.claims.get? claim with
  | none => t
  | some nodes =>
    let rest := nodes.erase node
    if rest.isEmpty then ⟨t.claims.erase claim⟩ else ⟨t.claims.insert claim rest⟩

def remove (t : PendingTracker) (claim : ClaimUid) : PendingTracker := ⟨t.claims.erase claim⟩

/-- What is set aside, in the order of claims and then of nodes. -/
def entries (t : PendingTracker) : List (ClaimUid × String × List AllocatedDevice) :=
  t.claims.entries.flatMap fun (claim, nodes) => nodes.entries.map fun e => (claim, e.1, e.2)

def size (t : PendingTracker) : Nat := t.claims.size

def isEmpty (t : PendingTracker) : Bool := t.claims.isEmpty

/-- The pairs of a claim and a node that have devices set aside. -/
def pairs (t : PendingTracker) : List (ClaimUid × String) :=
  t.claims.entries.flatMap fun e => e.2.keys.map fun node => (e.1, node)

end PendingTracker

/-- One request to a tracker. -/
inductive PendingAccess
  | get (claim : ClaimUid) (node : String)
  | set (claim : ClaimUid) (node : String) (devices : List AllocatedDevice)
  | removeNode (claim : ClaimUid) (node : String)
  | remove (claim : ClaimUid)
  | claims
  | pairs
  deriving DecidableEq

namespace PendingAccess

def Answer : PendingAccess → Type
  | get .. => Option (List AllocatedDevice)
  | claims => List ClaimUid
  | pairs => List (ClaimUid × String)
  | _ => Unit

end PendingAccess

namespace PendingTracker

def apply (t : PendingTracker) : (a : PendingAccess) → a.Answer × PendingTracker
  | .get claim node => (t.get? claim node, t)
  | .set claim node devices => ((), t.set claim node devices)
  | .removeNode claim node => ((), t.removeNode claim node)
  | .remove claim => ((), t.remove claim)
  | .claims => (t.claims.keys, t)
  | .pairs => (t.pairs, t)

theorem get?_set (t : PendingTracker) (claim other : ClaimUid) (node place : String)
    (devices : List AllocatedDevice) :
    (t.set claim node devices).get? other place =
      if claim = other ∧ node = place then some devices else t.get? other place := by
  by_cases same : claim = other
  · subst same
    have inner : (t.set claim node devices).get? claim place =
        (((t.claims.get? claim).getD .empty).insert node devices).get? place := by
      simp [get?, set]
    rw [inner, SortedMap.get?_insert]
    cases at_claim : t.claims.get? claim <;> simp [get?, at_claim]
  · simp [get?, set, SortedMap.get?_insert_ne _ same, same]

theorem get?_remove (t : PendingTracker) (claim other : ClaimUid) (node : String) :
    (t.remove claim).get? other node = if claim = other then none else t.get? other node := by
  by_cases same : claim = other <;> simp [get?, remove, SortedMap.get?_erase, same]

theorem get?_removeNode (t : PendingTracker) (claim other : ClaimUid) (node place : String) :
    (t.removeNode claim node).get? other place =
      if claim = other ∧ node = place then none else t.get? other place := by
  rw [removeNode]
  cases at_claim : t.claims.get? claim with
  | none =>
    dsimp only
    split
    · next same => simp [get?, ← same.1, at_claim]
    · rfl
  | some nodes =>
    dsimp only
    by_cases same : claim = other
    · subst same
      have rest : (nodes.erase node).get? place = if node = place then none else t.get? claim place := by
        rw [SortedMap.get?_erase]
        simp [get?, at_claim]
      simp only [true_and]
      rw [← rest]
      split
      · next empty => simp [get?, SortedMap.isEmpty_iff.mp empty]
      · simp [get?]
    · split
      · simp [get?, SortedMap.get?_erase_ne _ same, same]
      · simp [get?, SortedMap.get?_insert_ne _ same, same]

theorem remove_remove (t : PendingTracker) (claim : ClaimUid) :
    (t.remove claim).remove claim = t.remove claim := by
  simp only [remove, SortedMap.erase_erase]

theorem get?_of_not_mem {t : PendingTracker} {claim : ClaimUid} (absent : claim ∉ t.claims.keys)
    (node : String) : t.get? claim node = none := by
  cases at_claim : t.claims.get? claim with
  | none => simp [get?, at_claim]
  | some nodes => exact absurd (SortedMap.mem_keys_iff.2 ⟨nodes, at_claim⟩) absent

end PendingTracker

end DeviceClaims
