import DeviceClaims.Proofs.Change
import DeviceClaims.Proofs.Course

namespace DeviceClaims

/-- Around a call other calls and outsiders may do anything that leaves the call what is its own. -/
def Surroundings.ofCall (call : Nat) (op : Operation) : Surroundings World where
  between w w' := w.Leaves call w' ∧ (w.WellKeyed → w'.WellKeyed)
  answers := World.Answers True call op

/-- Surroundings in which a call is left what is its own, and in which its accesses are answered as
those of a call are. -/
structure Surroundings.Spares (E : Surroundings World) (call : Nat) (op : Operation) (faulty : Prop) :
    Prop where
  leaves : ∀ {w w'}, E.between w w' → w.Leaves call w'
  wellKeyed : ∀ {w w'}, E.between w w' → w.WellKeyed → w'.WellKeyed
  answers : E.answers = World.Answers faulty call op

/-- The others leave a call its locks and take no version back. -/
theorem Surroundings.ofCall_spares (call : Nat) (op : Operation) : (ofCall call op).Spares call op True :=
  ⟨And.left, And.right, rfl⟩

namespace Step

/-- A step that changes neither a record nor what is set aside. -/
def Quiet (s : Step World) : Prop := s.after.store = s.before.store ∧ s.after.pending = s.before.pending

/-- A record is read. -/
def get (w : World) (key : ObjectKey) (r : NodeRecord) : Step World :=
  ⟨w, .store (.get key), (Except.ok r : Except StoreError NodeRecord), w⟩

/-- A new record is stored. -/
def make (w : World) (r : NodeRecord) : Step World :=
  ⟨w, .store (.create r), (Except.ok (r.withVersion 1) : Except StoreError NodeRecord),
    w.put (r.withVersion 1)⟩

/-- A changed record is written in place of the one that it was made from. -/
def rewrite (w : World) (change : Change) (r : NodeRecord) : Step World :=
  ⟨w, .store (.update (change.apply r)), (Except.ok (change.on r) : Except StoreError NodeRecord),
    w.put (change.on r)⟩

/-- Devices are found that are set aside for a claim on a node. -/
def look (w : World) (claim : ClaimUid) (node : String) (devices : List AllocatedDevice) :
    Step World :=
  ⟨w, .pending (.get claim node), some devices, w⟩

/-- All that is set aside for a claim is forgotten. -/
def forget (w : World) (claim : ClaimUid) : Step World :=
  ⟨w, .pending (.remove claim), (), w.setPending (w.pending.remove claim)⟩

def unlock (w : World) (node : String) : Step World :=
  ⟨w, .unlock node, (), w.setHolder node none⟩

theorem quiet_look (w : World) (claim : ClaimUid) (node : String) (devices : List AllocatedDevice) :
    (look w claim node devices).Quiet := ⟨rfl, rfl⟩

theorem quiet_unlock (w : World) (node : String) : (unlock w node).Quiet := ⟨rfl, rfl⟩

theorem quiet_get (w : World) (key : ObjectKey) (r : NodeRecord) : (get w key r).Quiet := ⟨rfl, rfl⟩

end Step

namespace Prog.Always

variable {call : Nat} {op : Operation} {α : Type} {post : List (Step World) → α → World → Prop}
  {crashed : List (Step World) → World → Prop} {steps : List (Step World)} {w : World}

section Spares

variable {E : Surroundings World} {faulty : Prop}

/-- A read is a quiet step, and finds the record or none. -/
theorem get_of_spares (spares : E.Spares call op faulty) {key : ObjectKey}
    {next : Except StoreError NodeRecord → Prog α} (wellKeyed : w.WellKeyed)
    (found : ∀ w', E.between w w' → w'.WellKeyed → ∀ r, w'.record key = some r →
      (next (.ok r)).Always E post crashed (steps ++ [.get w' key r]) w')
    (missing : ∀ w' s, E.between w w' → w'.WellKeyed → s.Quiet →
      (next (.error (.notFound key))).Always E post crashed (steps ++ [s]) w') :
    (Prog.ask (.store (.get key)) next).Always E post crashed steps w := by
  refine ask (fun v _ => .inr ?_) fun v between answer v' answers => ?_
  · rw [spares.answers]
    exact ⟨_, _, .store (.get key) nofun⟩
  rw [spares.answers] at answers
  have still := spares.wellKeyed between wellKeyed
  cases answers with
  | store _ _ =>
    simp only [MemoryStore.apply, MemoryStore.get]
    cases at_key : v.store.records.get? key with
    | some r => exact found v between still r at_key
    | none => exact missing v _ between still ⟨rfl, rfl⟩

/-- A record is stored where there is none, unless it is refused. -/
theorem create_of_spares (spares : E.Spares call op faulty) {r : NodeRecord}
    {next : Except StoreError NodeRecord → Prog α} (wellKeyed : w.WellKeyed)
    (made : ∀ w', E.between w w' → w'.WellKeyed → w'.record r.key = none →
      (next (.ok (r.withVersion 1))).Always E post crashed (steps ++ [.make w' r])
        (w'.put (r.withVersion 1)))
    (refused : ∀ w' s e, E.between w w' → w'.WellKeyed → s.Quiet →
      (next (.error e)).Always E post crashed (steps ++ [s]) w') :
    (Prog.ask (.store (.create r)) next).Always E post crashed steps w := by
  refine ask (fun v _ => .inr ?_) fun v between answer v' answers => ?_
  · rw [spares.answers]
    exact ⟨_, _, .store (.create r) nofun⟩
  rw [spares.answers] at answers
  have still := spares.wellKeyed between wellKeyed
  cases answers with
  | store _ _ =>
    cases at_key : v.store.records.get? r.key with
    | some cur =>
      simp only [World.access, MemoryStore.apply, MemoryStore.create, SortedMap.contains, at_key,
        Option.isSome_some, if_true]
      exact refused v _ _ between still ⟨rfl, rfl⟩
    | none =>
      have reached := made v between still at_key
      simp only [World.access, MemoryStore.apply, MemoryStore.create, SortedMap.contains, at_key,
        Option.isSome_none, Bool.false_eq_true, if_false]
      exact reached

/-- A record that was read is replaced by a changed one, unless it is refused. -/
theorem rewrite_of_spares (spares : E.Spares call op faulty) {r r' : NodeRecord} (change : Change)
    (made : r' = change.apply r) {next : Except StoreError NodeRecord → Prog α}
    (wellKeyed : w.WellKeyed) (saw : w.Saw r)
    (written : ∀ w', E.between w w' → w'.WellKeyed → w'.record r.key = some r →
      (next (.ok (change.on r))).Always E post crashed (steps ++ [.rewrite w' change r])
        (w'.put (change.on r)))
    (refused : ∀ w' s e, E.between w w' → w'.WellKeyed → s.Quiet →
      (next (.error e)).Always E post crashed (steps ++ [s]) w') :
    (Prog.ask (.store (.update r')) next).Always E post crashed steps w := by
  subst made
  refine ask (fun v _ => .inr ?_) fun v between answer v' answers => ?_
  · rw [spares.answers]
    exact ⟨_, _, .conflict _ 0⟩
  rw [spares.answers] at answers
  have still := spares.wellKeyed between wellKeyed
  have key : (change.apply r).key = r.key := congrArg ObjectMeta.key (change.apply_metadata r)
  have version : (change.apply r).version = r.version :=
    congrArg ObjectMeta.version (change.apply_metadata r)
  cases answers with
  | conflict _ actual => exact refused v _ _ between still ⟨rfl, rfl⟩
  | store _ fresh =>
    cases at_key : v.store.records.get? (change.apply r).key with
    | none =>
      simp only [World.access, MemoryStore.apply, MemoryStore.update, at_key]
      exact refused v _ _ between still ⟨rfl, rfl⟩
    | some cur =>
      by_cases same : cur.version = (change.apply r).version
      · have seldom : v.writes r.key < 2 ^ 64 :=
          Nat.lt_of_not_le fun often => fresh ⟨_, rfl, key ▸ often⟩
        have at_r : v.record r.key = some cur := key ▸ at_key
        have unchanged := (saw.of_leaves (spares.leaves between)).eq_of_version at_r (same.trans version) seldom
        subst unchanged
        simp only [World.access, MemoryStore.apply, MemoryStore.update, at_key, same, ne_eq, not_true,
          if_false]
        have stored : change.on cur =
            (change.apply cur).withVersion ((change.apply cur).version + 1) := by
          rw [Change.on, version]
        have reached := written v between still at_r
        simp only [Step.rewrite, stored] at reached
        exact reached
      · simp only [World.access, MemoryStore.apply, MemoryStore.update, at_key, same, ne_eq,
          not_false_eq_true, if_true]
        exact refused v _ _ between still ⟨rfl, rfl⟩

/-- What is set aside for a claim on a node is looked up. -/
theorem pendingGet_of_spares (spares : E.Spares call op faulty) {claim : ClaimUid} {node : String}
    {next : Option (List AllocatedDevice) → Prog α} (wellKeyed : w.WellKeyed)
    (found : ∀ w', E.between w w' → w'.WellKeyed → ∀ devices,
      w'.pending.get? claim node = some devices →
      (next (some devices)).Always E post crashed (steps ++ [.look w' claim node devices]) w')
    (missing : ∀ w' s, E.between w w' → w'.WellKeyed → s.Quiet →
      (next none).Always E post crashed (steps ++ [s]) w') :
    (Prog.ask (.pending (.get claim node)) next).Always E post crashed steps w := by
  refine ask (fun v _ => .inr ?_) fun v between answer v' answers => ?_
  · rw [spares.answers]
    exact ⟨_, _, .pending _⟩
  rw [spares.answers] at answers
  have still := spares.wellKeyed between wellKeyed
  cases answers with
  | pending _ =>
    simp only [PendingTracker.apply]
    cases at_node : v.pending.get? claim node with
    | some devices => exact found v between still devices at_node
    | none => exact missing v _ between still ⟨rfl, rfl⟩

/-- All that is set aside for a claim is dropped. -/
theorem pendingRemove_of_spares (spares : E.Spares call op faulty) {claim : ClaimUid} {next : Unit → Prog α}
    (wellKeyed : w.WellKeyed)
    (dropped : ∀ w', E.between w w' → w'.WellKeyed →
      (next ()).Always E post crashed (steps ++ [.forget w' claim])
        (w'.setPending (w'.pending.remove claim))) :
    (Prog.ask (.pending (.remove claim)) next).Always E post crashed steps w := by
  refine ask (fun v _ => .inr ?_) fun v between answer v' answers => ?_
  · rw [spares.answers]
    exact ⟨_, _, .pending _⟩
  rw [spares.answers] at answers
  cases answers with
  | pending _ => exact dropped v between (spares.wellKeyed between wellKeyed)

/-- The lock of a node is taken once it is free. -/
theorem lock_of_spares (spares : E.Spares call op faulty) {node : String} {next : Unit → Prog α}
    (wellKeyed : w.WellKeyed)
    (taken : ∀ w' s, E.between w w' → w'.WellKeyed → s.Quiet →
      (next ()).Always E post crashed (steps ++ [s]) (w'.setHolder node (some call))) :
    (Prog.ask (.lock node) next).Always E post crashed steps w := by
  refine ask (fun v _ => .inl (.lock node)) fun v between answer v' answers => ?_
  rw [spares.answers] at answers
  cases answers with
  | lock _ isFree => exact taken v _ between (spares.wellKeyed between wellKeyed) ⟨rfl, rfl⟩

theorem unlock_of_spares (spares : E.Spares call op faulty) {node : String} {next : Unit → Prog α}
    (own : w.holder node = some call)
    (returned : ∀ w', E.between w w' → (next ()).Always E post crashed (steps ++ [.unlock w' node])
      (w'.setHolder node none)) :
    (Prog.ask (.unlock node) next).Always E post crashed steps w := by
  refine ask (fun v between => .inr ?_) fun v between answer v' answers => ?_
  · rw [spares.answers]
    exact ⟨_, _, .unlock node ((spares.leaves between).holder node own)⟩
  rw [spares.answers] at answers
  cases answers with
  | unlock _ _ => exact returned v between

end Spares

theorem ask_get {key : ObjectKey} {next : Except StoreError NodeRecord → Prog α} (wellKeyed : w.WellKeyed)
    (found : ∀ w', w.Leaves call w' → w'.WellKeyed → ∀ r, w'.record key = some r →
      (next (.ok r)).Always (.ofCall call op) post crashed (steps ++ [.get w' key r]) w')
    (missing : ∀ w' s, w.Leaves call w' → w'.WellKeyed → s.Quiet →
      (next (.error (.notFound key))).Always (.ofCall call op) post crashed (steps ++ [s]) w') :
    (Prog.ask (.store (.get key)) next).Always (.ofCall call op) post crashed steps w :=
  get_of_spares (Surroundings.ofCall_spares call op) wellKeyed (fun w' between => found w' between.1)
    fun w' s between => missing w' s between.1

/-- Beside any other calls, an update of a record that was seen replaces that very record, or is
refused. -/
theorem ask_rewrite {r r' : NodeRecord} (change : Change) (made : r' = change.apply r)
    {next : Except StoreError NodeRecord → Prog α} (wellKeyed : w.WellKeyed) (saw : w.Saw r)
    (written : ∀ w', w.Leaves call w' → w'.WellKeyed → w'.record r.key = some r →
      (next (.ok (change.on r))).Always (.ofCall call op) post crashed
        (steps ++ [.rewrite w' change r]) (w'.put (change.on r)))
    (refused : ∀ w' s e, w.Leaves call w' → w'.WellKeyed → s.Quiet →
      (next (.error e)).Always (.ofCall call op) post crashed (steps ++ [s]) w') :
    (Prog.ask (.store (.update r')) next).Always (.ofCall call op) post crashed steps w :=
  rewrite_of_spares (Surroundings.ofCall_spares call op) change made wellKeyed saw
    (fun w' between => written w' between.1) fun w' s e between => refused w' s e between.1

theorem ask_pendingGet {claim : ClaimUid} {node : String} {next : Option (List AllocatedDevice) → Prog α}
    (wellKeyed : w.WellKeyed)
    (found : ∀ w', w.Leaves call w' → w'.WellKeyed → ∀ devices,
      w'.pending.get? claim node = some devices →
      (next (some devices)).Always (.ofCall call op) post crashed
        (steps ++ [.look w' claim node devices]) w')
    (missing : ∀ w' s, w.Leaves call w' → w'.WellKeyed → s.Quiet →
      (next none).Always (.ofCall call op) post crashed (steps ++ [s]) w') :
    (Prog.ask (.pending (.get claim node)) next).Always (.ofCall call op) post crashed steps w :=
  pendingGet_of_spares (Surroundings.ofCall_spares call op) wellKeyed (fun w' between => found w' between.1)
    fun w' s between => missing w' s between.1

theorem ask_pendingRemove {claim : ClaimUid} {next : Unit → Prog α} (wellKeyed : w.WellKeyed)
    (forgotten : ∀ w', w.Leaves call w' → w'.WellKeyed →
      (next ()).Always (.ofCall call op) post crashed (steps ++ [.forget w' claim])
        (w'.setPending (w'.pending.remove claim))) :
    (Prog.ask (.pending (.remove claim)) next).Always (.ofCall call op) post crashed steps w :=
  pendingRemove_of_spares (Surroundings.ofCall_spares call op) wellKeyed fun w' between => forgotten w' between.1

theorem ask_lock {node : String} {next : Unit → Prog α} (wellKeyed : w.WellKeyed)
    (taken : ∀ w' : World, ∀ s : Step World, w'.WellKeyed → s.Quiet →
      (next ()).Always (.ofCall call op) post crashed (steps ++ [s]) (w'.setHolder node (some call))) :
    (Prog.ask (.lock node) next).Always (.ofCall call op) post crashed steps w :=
  lock_of_spares (Surroundings.ofCall_spares call op) wellKeyed fun w' s _ => taken w' s

theorem ask_unlock {node : String} {next : Unit → Prog α} (own : w.holder node = some call)
    (freed : ∀ w', (next ()).Always (.ofCall call op) post crashed (steps ++ [.unlock w' node])
      (w'.setHolder node none)) :
    (Prog.ask (.unlock node) next).Always (.ofCall call op) post crashed steps w :=
  unlock_of_spares (Surroundings.ofCall_spares call op) own fun w' _ => freed w'

end Prog.Always

end DeviceClaims
