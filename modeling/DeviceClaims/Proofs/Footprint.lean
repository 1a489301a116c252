import DeviceClaims.Proofs.Change

namespace DeviceClaims

/-- What may become of a record in a move of a call. -/
inductive Operation.Rewrites (op : Operation) (key : ObjectKey) :
    Option NodeRecord → Option NodeRecord → Prop
  | same (r : Option NodeRecord) : Rewrites op key r r
  | created (starts : ∃ p count, op = .start p count ∧ key = p.key) :
      Rewrites op key none (some ((NodeRecord.new key.name key.space).withVersion 1))
  | changed (r : NodeRecord) (change : Change) (at_key : r.key = key) (makes : op.Makes change r) :
      Rewrites op key (some r) (some (change.on r))

/-- What a move of a call does to what calls share. -/
structure Footprint (S : Setting) (op : Operation) (w w' : World) : Prop where
  records : ∀ key, op.Rewrites key (w.record key) (w'.record key)
  may : (∀ key, w'.record key = w.record key) ∨ S.mayStep op w
  pending : op.controller? = none → w'.pending = w.pending
  own : op.takes = none → w'.specs = w.specs ∧ w'.plugins = w.plugins

namespace Footprint

variable {S : Setting} {op : Operation} {w w' : World}

/-- A move that changes no record keeps to the footprint of its call if it leaves the tracker to
controllers, and specifications and plugins to calls of plugins. -/
theorem of_record (records : ∀ key, w'.record key = w.record key)
    (pending : op.controller? = none → w'.pending = w.pending)
    (own : op.takes = none → w'.specs = w.specs ∧ w'.plugins = w.plugins) : Footprint S op w w' :=
  ⟨fun key => by rw [records key]; exact .same _, .inl records, pending, own⟩

theorem refl (w : World) : Footprint S op w w :=
  of_record (fun _ => rfl) (fun _ => rfl) fun _ => ⟨rfl, rfl⟩

theorem setHolder (node : String) (holder : Option Nat) : Footprint S op w (w.setHolder node holder) :=
  of_record (fun _ => rfl) (fun _ => rfl) fun _ => ⟨rfl, rfl⟩

theorem setPending (t : PendingTracker) (controlled : op.controller? ≠ none) :
    Footprint S op w (w.setPending t) :=
  of_record (fun _ => rfl) (fun none => absurd none controlled) fun _ => ⟨rfl, rfl⟩

theorem setSpecs {key taken : ObjectKey} (dir : SpecDir) (takes : op.takes = some taken) :
    Footprint S op w (w.setSpecs key dir) :=
  of_record (fun _ => rfl) (fun _ => rfl) fun none => by cases takes.symm.trans none

/-- To write a change that the call makes keeps to its footprint. -/
theorem put_change {r : NodeRecord} {change : Change} (at_key : w.record r.key = some r)
    (makes : op.Makes change r) (may : S.mayStep op w) : Footprint S op w (w.put (change.on r)) := by
  refine ⟨fun key => ?_, .inr may, fun _ => rfl, fun _ => ⟨rfl, rfl⟩⟩
  rw [World.record_put, change.on_key]
  split
  · next same =>
    subst same
    rw [at_key]
    exact .changed r change rfl makes
  · exact .same _

/-- What a call does not own is the same in the record after each of its moves. -/
theorem exists_same_of_not_owns {key : ObjectKey} {r : NodeRecord} {part : Part}
    (footprint : Footprint S op w w') (foreign : ¬ op.Owns key part) (at_key : w.record key = some r) :
    ∃ r', w'.record key = some r' ∧ part.Same r r' := by
  have rewrites := footprint.records key
  rw [at_key] at rewrites
  generalize w'.record key = new at rewrites
  cases rewrites with
  | same => exact ⟨r, rfl, .refl part r⟩
  | changed _ change at_r makes =>
    refine ⟨_, rfl, change.same_on r ?_⟩
    rintro rfl
    exact foreign (at_r ▸ makes.owns_part)

/-- A call that does not own a claim leaves its allocation as it is. -/
theorem allocation_of_not_owns {key : ObjectKey} {claim : ClaimUid} (footprint : Footprint S op w w')
    (foreign : ¬ op.Owns key (.claim claim)) : w'.allocation key claim = w.allocation key claim := by
  unfold World.allocation
  cases at_key : w.record key with
  | some r =>
    obtain ⟨r', at_key', same⟩ := footprint.exists_same_of_not_owns foreign at_key
    rw [at_key']
    exact same
  | none =>
    have rewrites := footprint.records key
    rw [at_key] at rewrites
    generalize w'.record key = new at rewrites
    cases rewrites <;> rfl

theorem put_new {p : Plugin} {count : Nat} (starts : op = .start p count)
    (absent : w.record p.key = none) (may : S.mayStep op w) :
    Footprint S op w (w.put ((NodeRecord.new p.key.name p.key.space).withVersion 1)) := by
  refine ⟨fun key => ?_, .inr may, fun _ => rfl, fun _ => ⟨rfl, rfl⟩⟩
  rw [World.record_put]
  split
  · next same =>
    have same : p.key = key := same
    subst same
    rw [absent]
    exact .created ⟨p, count, starts, rfl⟩
  · exact .same _

/-- A call that begins takes at most its own plugin. -/
theorem enter (call : Nat) : Footprint S op w (op.enter call w) := by
  refine of_record (op.enter_record call w) (fun _ => ?_) fun _ => ?_
  · cases op <;> rfl
  · cases op <;> first | exact ⟨rfl, rfl⟩ | simp_all [Operation.takes]

theorem leave (result : op.Result) : Footprint S op w (op.leave result w) := by
  refine of_record (Operation.leave_record result w) (fun _ => ?_) fun _ => ?_
  · cases op <;> first | rfl | cases result <;> rfl
  · cases op <;> first | exact ⟨rfl, rfl⟩ | simp_all [Operation.takes]

/-- A call that comes to nothing frees locks and loses at most its own plugin. -/
theorem vanish (call : Nat) : Footprint S op w (op.vanish call w) := by
  refine of_record (op.vanish_record call w) (fun _ => ?_) fun _ => ?_
  · cases op <;> rfl
  · cases op <;> first | exact ⟨rfl, rfl⟩ | simp_all [Operation.takes]

end Footprint

/-- The discipline that asks for nothing but the footprint. -/
def ground (S : Setting) : Discipline where
  inv _ := True
  rely _ _ _ := True
  promise _ op w w' := Footprint S op w w'
  rely_refl _ _ := trivial
  rely_trans _ _ := trivial
  promise_refl _ _ w := .refl w

variable {S : Setting} {call : Nat} {op : Operation} {α β ε : Type} {w : World}

/-- A move within the footprint of its call is all that the ground discipline asks for. -/
theorem Footprint.ground_permits {w w' : World} (footprint : Footprint S op w w') :
    (ground S).Permits call op w w' := ⟨fun _ _ => trivial, trivial, footprint⟩

/-- A program keeps to the footprint of its call from a world on. -/
abbrev Treads (S : Setting) (call : Nat) (op : Operation) (p : Prog α) (w : World) : Prop :=
  (ground S).Allowed S call op p w

namespace Treads

open Discipline Discipline.Allowed

theorem locked {node : String} {p : Prog α} (held : ∀ w', Treads S call op p w') :
    Treads S call op (.locked node p) w :=
  Meets.ask_lock fun _ _ _ => ⟨(Footprint.setHolder ..).ground_permits, bind (held _) fun a _ =>
    Meets.ask_unlock fun _ _ _ => ⟨(Footprint.setHolder ..).ground_permits, done a _⟩⟩

theorem ask_rewrite {r r' : NodeRecord} (change : Change) (made : r' = change.apply r) (saw : w.Saw r)
    (makes : op.Makes change r) {next : Except StoreError NodeRecord → Prog α}
    (written : ∀ w', w'.Saw (change.on r) → Treads S call op (next (.ok (change.on r))) w')
    (refused : ∀ e w', Treads S call op (next (.error e)) w') :
    Treads S call op (.ask (.store (.update r')) next) w :=
  Meets.ask_rewrite change made saw
    (fun v _ may at_key =>
      ⟨(Footprint.put_change at_key makes may).ground_permits, written _ (.saw_put_self v _)⟩)
    fun v _ e => refused e v

theorem get_thenOk {key : ObjectKey} {f : StoreError → ε} {next : NodeRecord → Prog (Except ε α)}
    (found : ∀ w' r, r.key = key → w'.Saw r → Treads S call op (next r) w') :
    Treads S call op (((StoreClient.get key).mapError f).thenOk next) w :=
  Meets.get_thenOk (fun v _ r _ key saw => found v r key saw) fun v _ _ => done _ v

end Treads

end DeviceClaims
