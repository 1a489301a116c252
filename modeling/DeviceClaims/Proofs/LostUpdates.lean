import DeviceClaims.Proofs.Exclusion

namespace DeviceClaims

/-- A write that the store accepts takes the place of a record that has its key, and counts on from
its version. -/
theorem World.Answers.update_ok {faulty : Prop} {call : Nat} {op : Operation} {w w' : World}
    {new stored : NodeRecord}
    (answers : w.Answers faulty call op (.store (.update new))
      (Except.ok stored : Except StoreError NodeRecord) w') :
    ∃ old, w.record new.key = some old ∧ w' = w.put stored ∧ stored.key = new.key ∧
      stored.version = old.version + 1 := by
  generalize is_ok : (Except.ok stored : Except StoreError NodeRecord) = answer at answers
  cases answers with
  | conflict => cases is_ok
  | store _ _ =>
    cases at_key : w.store.records.get? new.key with
    | none => simp [MemoryStore.apply, MemoryStore.update, at_key] at is_ok
    | some old =>
      by_cases same : old.version = new.version
      · simp only [World.access, MemoryStore.apply, MemoryStore.update, at_key, same, ne_eq, not_true,
          if_false, Except.ok.injEq] at is_ok ⊢
        subst is_ok
        exact ⟨old, at_key, rfl, rfl, congrArg (· + 1) same.symm⟩
      · simp [MemoryStore.apply, MemoryStore.update, at_key, same] at is_ok

namespace Footprint

variable {S : Setting} {op : Operation} {w w' : World} {key : ObjectKey} {r : NodeRecord}

/-- A record that counts one on from the one before it was made by a change of the call. -/
theorem change_of_counted {r' : NodeRecord} (footprint : Footprint S op w w')
    (at_key : w.record key = some r) (at_key' : w'.record key = some r')
    (counted : r'.version = r.version + 1) : ∃ change, op.Makes change r ∧ r' = change.on r := by
  have rewrites := footprint.records key
  rw [at_key, at_key'] at rewrites
  cases rewrites with
  | same => exact absurd (UInt64.left_eq_add.mp counted) (by decide)
  | changed _ change _ makes => exact ⟨change, makes, rfl⟩

end Footprint

namespace Machine

variable {S : Setting} {m m' : Machine}

/-- While only calls that do not own a part of a record move, the part stays as it is. -/
theorem Steps.exists_same_of_not_owned {w₀ : World} {key : ObjectKey} {part : Part} (wellKeyed : w₀.WellKeyed)
    (reach : Reach S (.idle w₀) m)
    (steps : Steps S (fun e => ∃ call op, e.caller? = some (call, op) ∧ ¬ op.Owns key part) m m')
    {r : NodeRecord} (at_key : m.world.record key = some r) :
    ∃ r', m'.world.record key = some r' ∧ part.Same r r' := by
  induction steps with
  | start => exact ⟨r, at_key, .refl part r⟩
  | next before foreign move ih =>
    obtain ⟨call, op, caller, foreign⟩ := foreign
    obtain ⟨r₁, at_r₁, same₁⟩ := ih
    obtain ⟨r₂, at_r₂, same₂⟩ :=
      ((before.extend_reach reach).footprint_of_move wellKeyed move caller).exists_same_of_not_owns foreign
        at_r₁
    exact ⟨r₂, at_r₂, same₁.trans same₂⟩

/-- No update is lost, whatever calls run side by side. A write that the store accepts counts on from
the version of the record that it replaces and changes a single part of that record, which the call
owns. What is in a part stays there while only calls move that do not own it. Of runs in which a
record is updated that has been written 2 ^ 64 times, nothing is said (`World.Answers`). -/
theorem Reach.no_lost_update {w₀ : World} (wellKeyed : w₀.WellKeyed) (reach : Reach S (.idle w₀) m) :
    (∀ call op new stored m',
      Move S (.asks call op (.store (.update new)) (Except.ok stored : Except StoreError NodeRecord))
        m m' →
      ∃ old change, m.world.record new.key = some old ∧ m'.world = m.world.put stored ∧
        stored.key = new.key ∧ stored.version = old.version + 1 ∧
        stored = change.on old ∧ op.Makes change old ∧ op.Owns new.key change.part ∧
        ∀ part, part ≠ change.part → part.Same old stored) ∧
    ∀ key part r m', m.world.record key = some r →
      Steps S (fun e => ∃ call op, e.caller? = some (call, op) ∧ ¬ op.Owns key part) m m' →
      ∃ r', m'.world.record key = some r' ∧ part.Same r r' := by
  refine ⟨fun call op new stored m' move => ?_, fun key part r m' at_key steps =>
    Steps.exists_same_of_not_owned wellKeyed reach steps at_key⟩
  have footprint := reach.footprint_of_move wellKeyed move rfl
  cases move with
  | asks at_call may answered =>
    obtain ⟨old, at_key, rfl, key, version⟩ := answered.update_ok
    have at_key' : (m.world.put stored).record new.key = some stored := by
      rw [← key]
      exact World.record_put_self m.world stored
    obtain ⟨change, makes, rfl⟩ := footprint.change_of_counted at_key at_key' version
    have owns : op.Owns new.key change.part := by
      rw [← key, change.on_key]
      exact makes.owns_part
    exact ⟨old, change, at_key, rfl, key, version, rfl, makes, owns,
      fun part apart => change.same_on old apart⟩

end Machine

namespace Sharing

/-- The first claim is offered a device. Its allocation has read the record when the node is made not
ready, and then goes on to its write. -/
def overtaken : List Turn :=
  Turn.whole 0 (.start plugin 2) 6 ++
  Turn.whole 1 (.filter controller [request first 0] ["node"]) 5 ++
  .begins 2 (.allocate controller first "node") :: List.replicate 2 (.goesOn 2) ++
  Turn.whole 3 (.setStatus plugin.key .notReady {}) 2 ++ [.goesOn 2]

/-- The node is made ready again before the allocation reads the record once more. -/
def resumed : List Turn :=
  .goesOn 2 :: Turn.whole 4 (.setStatus plugin.key .ready {}) 2 ++ List.replicate 2 (.goesOn 2)

/-- The first claim is written into another record than the one that a refused write was made from. -/
def accepts (refused : NodeRecord) (m : Machine) : Event → Bool
  | .asks _ (.allocate ..) (.store (.update new)) (.ok stored) =>
    (m.world.record new.key).any fun old => refused.key = new.key ∧ refused.version ≠ old.version ∧
      old.spec.allocated.get? first = none ∧ stored.spec.allocated.contains first
  | _ => false

/-- An allocation meets a conflict, and its next attempt is accepted. -/
def meetsConflict (m : Machine) : Event → Bool
  | .asks _ (.allocate ..) (.store (.update refused)) (.error (.conflict ..)) =>
    (m.play resumed).any fun m => (m.turn (.goesOn 2)).any fun (e, _) => accepts refused m e
  | _ => false

end Sharing

open Sharing Machine in
/-- An allocation that a status command overtakes meets a conflict, and is accepted on the record that
the command has left: what the command wrote stays. -/
theorem Machine.Reach.no_lost_update_overtaken :
    ∃ (call : Nat) (op : Operation) (refused : NodeRecord) (e : StoreError) (m₁ m₂ m m' : Machine)
      (new old stored : NodeRecord) (change : Change),
      Reach {} (.idle {}) m₁ ∧
      Move {} (.asks call op (.store (.update refused))
        (Except.error e : Except StoreError NodeRecord)) m₁ m₂ ∧ e.isConflict = true ∧
      Reach {} m₂ m ∧ m.world.record new.key = some old ∧ refused.key = new.key ∧
      refused.version ≠ old.version ∧ m'.world = m.world.put stored ∧
      stored.version = old.version + 1 ∧ stored = change.on old ∧
      old.spec.allocated.get? first = none ∧ stored.spec.allocated.contains first = true ∧
      ∃ r, m'.world.record new.key = some r ∧ Part.status.Same old r := by
  have absent : ∀ key r, ({} : World).record key = some r → False := fun _ _ at_key => by cases at_key
  have free : (idle {}).Free {} := fun _ _ absent => by cases absent
  obtain ⟨m₁, e₁, m₂, reach₁, move₁, free, shown⟩ := play_shows_from (S := {}) free overtaken (.goesOn 2)
    (fun _ e m => meetsConflict m e) (fun _ _ _ => ⟨trivial, fun _ => trivial⟩) (by decide +kernel)
  unfold meetsConflict at shown
  split at shown
  · next call c claim node refused key expected actual =>
    obtain ⟨m, e, m', reach, move, -, shown⟩ := play_shows_from (S := {}) free resumed (.goesOn 2)
      (fun m e _ => accepts refused m e) (fun _ _ _ => ⟨trivial, fun _ => trivial⟩) shown
    unfold accepts at shown
    split at shown
    · next call' c' claim' node' new stored =>
      have reached : Reach {} (.idle {}) m := (reach₁.next trivial move₁).trans reach
      obtain ⟨accepted, kept⟩ := reached.no_lost_update fun key r at_key => (absent key r at_key).elim
      obtain ⟨old, change, at_key, put, same, version, changed, -⟩ := accepted _ _ _ _ _ move
      rw [at_key, Option.any_some] at shown
      obtain ⟨keys, versions, without, allocated⟩ := of_decide_eq_true shown
      have foreign : ¬ (Operation.allocate c' claim' node').Owns new.key .status :=
        fun owns => by cases owns.2
      exact ⟨_, _, refused, _, m₁, m₂, m, m', new, old, stored, change, reach₁, move₁, rfl, reach,
        at_key, keys, versions, put, version, changed, without, allocated,
        kept _ _ old m' at_key (Steps.start.next ⟨_, _, rfl, foreign⟩ move)⟩
    · cases shown
  · cases shown

end DeviceClaims
