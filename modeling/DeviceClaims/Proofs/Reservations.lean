import DeviceClaims.Pending
import Mathlib.Data.Set.Card

namespace DeviceClaims

namespace PendingAccess

/-- The call settles what is set aside for a claim on a node. -/
def Settles (claim : ClaimUid) (node : String) : PendingAccess → Prop
  | set claim' node' _ => claim' = claim ∧ node' = node
  | removeNode claim' node' => claim' = claim ∧ node' = node
  | remove claim' => claim' = claim
  | _ => False

instance (claim : ClaimUid) (node : String) : DecidablePred (Settles claim node)
  | set .. => inferInstanceAs (Decidable (_ ∧ _))
  | removeNode .. => inferInstanceAs (Decidable (_ ∧ _))
  | remove .. => inferInstanceAs (Decidable (_ = _))
  | get .. => inferInstanceAs (Decidable False)
  | claims => inferInstanceAs (Decidable False)
  | pairs => inferInstanceAs (Decidable False)

/-- What a call leaves set aside where it settles it. -/
def left : PendingAccess → Option (List AllocatedDevice)
  | set _ _ devices => some devices
  | _ => none

/-- The last of the calls that settles what is set aside for a claim on a node sets these devices
aside. -/
def SetLast (calls : List PendingAccess) (claim : ClaimUid) (node : String)
    (devices : List AllocatedDevice) : Prop :=
  ∃ before after, calls = before ++ set claim node devices :: after ∧
    ∀ call ∈ after, ¬ call.Settles claim node

theorem not_setLast_nil (claim : ClaimUid) (node : String) (devices : List AllocatedDevice) :
    ¬ SetLast [] claim node devices := by
  rintro ⟨before, after, none, -⟩
  simp at none

/-- A further call counts where it settles something, and leaves the rest to the calls before it. -/
theorem setLast_append {calls : List PendingAccess} {call : PendingAccess} {claim : ClaimUid}
    {node : String} {devices : List AllocatedDevice} :
    SetLast (calls ++ [call]) claim node devices ↔
      if call.Settles claim node then call.left = some devices
      else SetLast calls claim node devices := by
  constructor
  · rintro ⟨before, after, split, unsettled⟩
    -- The further call sets the devices itself, or it comes after the one that does.
    rcases List.eq_nil_or_concat after with rfl | ⟨after, last, rfl⟩
    · obtain ⟨-, same⟩ := List.append_inj' split rfl
      cases same
      rw [if_pos ⟨rfl, rfl⟩]
      rfl
    · have longer : calls ++ [call] = (before ++ set claim node devices :: after) ++ [last] := by
        simpa using split
      obtain ⟨earlier, same⟩ := List.append_inj' longer rfl
      cases same
      rw [if_neg (unsettled call (by simp))]
      exact ⟨before, after, earlier, fun other member => unsettled other (by simp [member])⟩
  · split
    · next settled =>
      intro left
      cases call with
      | set =>
        obtain ⟨rfl, rfl⟩ := settled
        cases left
        exact ⟨calls, [], rfl, by simp⟩
      | _ => cases left
    · next unsettled =>
      rintro ⟨before, after, rfl, none⟩
      refine ⟨before, after ++ [call], by simp, fun other member => ?_⟩
      rcases List.mem_append.mp member with earlier | last
      · exact none other earlier
      · exact List.mem_singleton.mp last ▸ unsettled

end PendingAccess

namespace PendingTracker

open PendingAccess

/-- No claim is kept with no node. -/
def Tidy (t : PendingTracker) : Prop :=
  ∀ claim nodes, t.claims.get? claim = some nodes → nodes.isEmpty = false

/-- The tracker after some calls, if nothing was set aside before them. -/
def after (calls : List PendingAccess) : PendingTracker :=
  calls.foldl (fun t call => (t.apply call).2) {}

theorem after_append (calls : List PendingAccess) (call : PendingAccess) :
    after (calls ++ [call]) = ((after calls).apply call).2 := by
  rw [after, List.foldl_append]
  rfl

variable {t : PendingTracker}

theorem Tidy.set (tidy : t.Tidy) (claim : ClaimUid) (node : String) (devices : List AllocatedDevice) :
    (t.set claim node devices).Tidy := by
  intro other nodes found
  rw [PendingTracker.set, SortedMap.get?_insert] at found
  split at found
  · cases found
    refine Bool.eq_false_iff.mpr fun empty => ?_
    cases (SortedMap.get?_insert_self _ node devices).symm.trans (SortedMap.isEmpty_iff.mp empty node)
  · exact tidy other nodes found

theorem Tidy.remove (tidy : t.Tidy) (claim : ClaimUid) : (t.remove claim).Tidy := by
  intro other nodes found
  rw [PendingTracker.remove, SortedMap.get?_erase] at found
  split at found
  · cases found
  · exact tidy other nodes found

theorem Tidy.removeNode (tidy : t.Tidy) (claim : ClaimUid) (node : String) :
    (t.removeNode claim node).Tidy := by
  rw [PendingTracker.removeNode]
  split
  · exact tidy
  · dsimp only
    split
    · exact tidy.remove claim
    · next kept =>
      intro other nodes found
      rw [SortedMap.get?_insert] at found
      split at found
      · cases found
        exact Bool.eq_false_iff.mpr kept
      · exact tidy other nodes found

theorem Tidy.apply (tidy : t.Tidy) (call : PendingAccess) : (t.apply call).2.Tidy := by
  cases call with
  | set claim node devices => exact tidy.set claim node devices
  | removeNode claim node => exact tidy.removeNode claim node
  | remove claim => exact tidy.remove claim
  | get | claims | pairs => exact tidy

theorem tidy_after (calls : List PendingAccess) : (after calls).Tidy := by
  induction calls using List.reverseRecOn with
  | nil => intro claim nodes found; cases found
  | append_singleton calls call ih => exact after_append calls call ▸ ih.apply call

/-- What one call leaves set aside for a claim on a node. -/
theorem get?_apply (t : PendingTracker) (call : PendingAccess) (claim : ClaimUid) (node : String) :
    (t.apply call).2.get? claim node =
      if call.Settles claim node then call.left else t.get? claim node := by
  cases call with
  | set => exact get?_set t ..
  | removeNode => exact get?_removeNode t ..
  | remove => exact get?_remove t ..
  | get | claims | pairs => exact (if_neg id).symm

/-- Devices are set aside for a pair if and only if the last call that is about the pair set them. -/
theorem get?_after {calls : List PendingAccess} {claim : ClaimUid} {node : String}
    {devices : List AllocatedDevice} :
    (after calls).get? claim node = some devices ↔ SetLast calls claim node devices := by
  induction calls using List.reverseRecOn with
  | nil => exact iff_of_false (fun found => by cases found) (not_setLast_nil claim node devices)
  | append_singleton calls call ih =>
    rw [after_append, get?_apply, setLast_append]
    split
    · rfl
    · exact ih

theorem contains_iff {claim : ClaimUid} {node : String} :
    t.contains claim node ↔ ∃ devices, t.get? claim node = some devices :=
  Option.isSome_iff_exists

/-- The claims that are kept are those with devices set aside somewhere. -/
theorem Tidy.mem_keys_iff (tidy : t.Tidy) {claim : ClaimUid} :
    claim ∈ t.claims.keys ↔ ∃ node, t.contains claim node := by
  refine ⟨fun kept => ?_, fun ⟨node, found⟩ => ?_⟩
  · obtain ⟨nodes, at_claim⟩ := SortedMap.mem_keys_iff.mp kept
    by_contra none
    have empty : nodes.isEmpty := SortedMap.isEmpty_iff.mpr fun node => by
      simpa [contains, get?, at_claim] using not_exists.mp none node
    exact Bool.false_ne_true ((tidy claim nodes at_claim).symm.trans empty)
  · by_contra absent
    rw [contains, get?_of_not_mem absent node] at found
    cases found

/-- The size of a tidy tracker is the number of claims that have devices set aside. -/
theorem Tidy.size_eq (tidy : t.Tidy) : t.size = {claim | ∃ node, t.contains claim node}.ncard := by
  have kept : {claim | ∃ node, t.contains claim node} = (t.claims.keys.toFinset : Set ClaimUid) := by
    ext claim
    rw [List.coe_toFinset]
    exact tidy.mem_keys_iff.symm
  rw [kept, Set.ncard_coe_finset, List.toFinset_card_of_nodup (SortedMap.nodup_keys _),
    SortedMap.length_keys]
  rfl

theorem Tidy.isEmpty_iff (tidy : t.Tidy) : t.isEmpty ↔ ∀ claim node, ¬ t.contains claim node := by
  have none : t.isEmpty ↔ t.claims.keys = [] := by
    rw [isEmpty, SortedMap.isEmpty, List.isEmpty_iff, SortedMap.keys, List.map_eq_nil_iff]
  rw [none, List.eq_nil_iff_forall_not_mem]
  exact forall_congr' fun claim => (not_congr tidy.mem_keys_iff).trans not_exists

/-- A tracker that was used so is a map from pairs of a claim and a node to devices. -/
structure Flat (calls : List PendingAccess) (t : PendingTracker) : Prop where
  get : ∀ claim node devices, t.get? claim node = some devices ↔ SetLast calls claim node devices
  contains : ∀ claim node, t.contains claim node ↔ ∃ devices, SetLast calls claim node devices
  removeNode : ∀ claim node other place, (t.removeNode claim node).get? other place =
    if claim = other ∧ node = place then none else t.get? other place
  remove : ∀ claim other place, (t.remove claim).get? other place =
    if claim = other then none else t.get? other place
  size : t.size = {claim | ∃ node, t.contains claim node}.ncard
  isEmpty : t.isEmpty ↔ ∀ claim node, ¬ t.contains claim node
  tidy : t.Tidy

theorem flat_after (calls : List PendingAccess) : Flat calls (after calls) where
  get _ _ _ := get?_after
  contains _ _ := contains_iff.trans (exists_congr fun _ => get?_after)
  removeNode claim node other place := get?_removeNode _ claim other node place
  remove := get?_remove _
  size := (tidy_after calls).size_eq
  isEmpty := (tidy_after calls).isEmpty_iff
  tidy := tidy_after calls

end PendingTracker

end DeviceClaims
