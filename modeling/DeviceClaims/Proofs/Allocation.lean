import DeviceClaims.Proofs.Course.Calls
import DeviceClaims.Proofs.Machine.Play

namespace DeviceClaims

/-- How a call ends that allocates a claim to a node: it recorded for the claim what it found set
aside, on a ready record that did not know the claim, or it changed nothing. -/
inductive Controller.Allocates (c : Controller) (claim : ClaimUid) (node : String) :
    List (Step World) → Except DriverError AllocationResult → Prop
  | recorded {earlier : List (Step World)} {r : NodeRecord} {devices : List AllocatedDevice}
      {w₁ w₂ w₃ w₄ w₅ : World} (quiet : ∀ s ∈ earlier, s.Quiet) (isReady : r.isReady)
      (unknown : r.spec.allocated.contains claim = false)
      (setAside : w₂.pending.get? claim node = some devices)
      (replaced : w₃.record (c.recordKey node) = some r)
      (forgotten : ∀ place, (w₄.pending.remove claim).get? claim place = none) :
      Allocates c claim node
        (earlier ++ [.get w₁ (c.recordKey node) r, .look w₂ claim node devices,
          .rewrite w₃ (.allocate claim devices) r, .forget w₄ claim, .unlock w₅ node])
        (.ok (.forNode node true))
  | known {earlier : List (Step World)} {r : NodeRecord} {w₁ w₂ : World}
      (quiet : ∀ s ∈ earlier, s.Quiet) (known : r.spec.allocated.contains claim) :
      Allocates c claim node (earlier ++ [.get w₁ (c.recordKey node) r, .unlock w₂ node])
        (.ok (.forNode node true))
  | refused {steps : List (Step World)} {e : DriverError} (quiet : ∀ s ∈ steps, s.Quiet) :
      Allocates c claim node steps (.error e)

/-- What an attempt comes to that records a claim or finds it recorded. -/
inductive Controller.Attempted (c : Controller) (claim : ClaimUid) (node : String) :
    List (Step World) → Bool → Prop
  | recorded {earlier : List (Step World)} {r : NodeRecord} {devices : List AllocatedDevice}
      {w₁ w₂ w₃ : World} (quiet : ∀ s ∈ earlier, s.Quiet) (isReady : r.isReady)
      (unknown : r.spec.allocated.contains claim = false)
      (setAside : w₂.pending.get? claim node = some devices)
      (replaced : w₃.record (c.recordKey node) = some r) :
      Attempted c claim node (earlier ++ [.get w₁ (c.recordKey node) r,
        .look w₂ claim node devices, .rewrite w₃ (.allocate claim devices) r]) true
  | known {earlier : List (Step World)} {r : NodeRecord} {w₁ : World}
      (quiet : ∀ s ∈ earlier, s.Quiet) (known : r.spec.allocated.contains claim) :
      Attempted c claim node (earlier ++ [.get w₁ (c.recordKey node) r]) false

/-- A call that holds a node's lock has changed nothing so far. -/
structure Idle (call : Nat) (node : String) (steps : List (Step World)) (w : World) : Prop where
  quiet : ∀ s ∈ steps, s.Quiet
  wellKeyed : w.WellKeyed
  own : w.holder node = some call

namespace Idle

variable {call : Nat} {node : String} {steps : List (Step World)} {w w' : World}

theorem append_quiet (idle : Idle call node steps w) {s : Step World} (leaves : w.Leaves call w')
    (wellKeyed : w'.WellKeyed) (quiet : s.Quiet) : Idle call node (steps ++ [s]) w' := by
  refine ⟨fun s' member => ?_, wellKeyed, leaves.holder node idle.own⟩
  rcases List.mem_append.mp member with earlier | last
  · exact idle.quiet s' earlier
  · obtain rfl := List.mem_singleton.mp last
    exact quiet

theorem append_sleep {op : Operation} (idle : Idle call node steps w)
    (between : (Surroundings.ofCall call op).between w w') (delay : Delay) :
    (∃ answer v, (Surroundings.ofCall call op).answers w' (.sleep delay) answer v) ∧
      ∀ answer v, (Surroundings.ofCall call op).answers w' (.sleep delay) answer v →
        Idle call node (steps ++ [⟨w', .sleep delay, answer, v⟩]) v := by
  refine ⟨⟨(), w', .sleep delay⟩, fun answer v answers => ?_⟩
  cases answers with
  | sleep _ => exact idle.append_quiet between.1 (between.2 idle.wellKeyed) ⟨rfl, rfl⟩

end Idle

namespace Controller

variable {c : Controller} {claim : ClaimUid} {node : String} {call : Nat} {op : Operation}
  {steps : List (Step World)} {w : World} {crashed : List (Step World) → World → Prop}

/-- An attempt writes the record once with the devices set aside, or leaves the call idle. -/
theorem allocateOnce_always (idle : Idle call node steps w) :
    (c.allocateOnce claim node).Always (.ofCall call op)
      (Prog.outcome
        (fun steps recorded w => c.Attempted claim node steps recorded ∧ w.WellKeyed ∧
          w.holder node = some call) (Idle call node)) crashed steps w := by
  refine Prog.Always.ask_get idle.wellKeyed (fun w₁ leaves wellKeyed r at_key => ?_)
    fun w₁ s leaves wellKeyed quiet => idle.append_quiet leaves wellKeyed quiet
  have saw := World.Saw.of_record wellKeyed at_key
  have key : r.key = c.recordKey node := wellKeyed _ r at_key
  have idle₁ := idle.append_quiet leaves wellKeyed (Step.quiet_get w₁ (c.recordKey node) r)
  change Prog.Always _ _ _ (ite _ _ _) _ _
  split
  · next known => exact ⟨.known idle.quiet known, wellKeyed, idle₁.own⟩
  · next unknown =>
    split
    · exact idle₁
    · next ready =>
      refine Prog.Always.ask_pendingGet wellKeyed (fun w₂ leaves wellKeyed devices setAside => ?_)
        fun w₂ s leaves wellKeyed quiet => idle₁.append_quiet leaves wellKeyed quiet
      have idle₂ := idle₁.append_quiet leaves wellKeyed (Step.quiet_look w₂ claim node devices)
      refine Prog.Always.ask_rewrite (.allocate claim devices) rfl wellKeyed (saw.of_leaves leaves)
        (fun w₃ leaves wellKeyed at_key => ?_)
        fun w₃ s e leaves wellKeyed quiet => idle₂.append_quiet leaves wellKeyed quiet
      have own := leaves.holder node idle₂.own
      refine ⟨?_, wellKeyed.put _, own⟩
      simp only [List.append_assoc, List.cons_append, List.nil_append]
      exact .recorded idle.quiet (by simpa using ready) (by simpa using unknown) setAside
        (key ▸ at_key)

/-- Whatever others do in between, a call that allocates a claim to a node writes its record once,
from a ready one that did not know the claim, and then forgets what was set aside for the claim
anywhere; or it finds the claim recorded; or it fails and has changed nothing. Of runs in which a
record is updated that has been written 2 ^ 64 times, nothing is said (`World.Answers`). -/
theorem allocate_whole_or_nothing (c : Controller) (claim : ClaimUid) (node : String) (call : Nat)
    {w : World} (wellKeyed : w.WellKeyed) :
    (c.allocate claim node).Always (.ofCall call (.allocate c claim node))
      (fun steps result _ => c.Allocates claim node steps result)
      (fun steps _ => ¬ c.retry.Steady ∧ ∀ s ∈ steps, s.Quiet) [] w := by
  unfold allocate
  split
  · exact .refused nofun
  refine Prog.Always.ask_lock wellKeyed fun w₁ s wellKeyed quiet => ?_
  have idle : Idle call node [s] (w₁.setHolder node (some call)) :=
    ⟨fun s' member => List.mem_singleton.mp member ▸ quiet, wellKeyed, Function.update_self ..⟩
  refine Prog.Always.bind (Prog.Always.thenOk ((Prog.Always.retry
    (fun _ _ => allocateOnce_always) (fun _ _ _ delay idle between => idle.append_sleep between delay)
    (fun unsteady steps w idle => ⟨unsteady, idle.quiet⟩) idle).weaken fun steps result w reached => ?_))
  cases result with
  | error e =>
    have idle : Idle call node steps w := reached
    exact fun e => Prog.Always.ask_unlock idle.own fun w' => .refused
      (idle.append_quiet (.refl call w) idle.wellKeyed (Step.quiet_unlock w' node)).quiet
  | ok recorded =>
    obtain ⟨attempted, wellKeyed, own⟩ := reached
    cases attempted with
    | known quiet known =>
      refine Prog.Always.ask_unlock own fun w' => ?_
      rw [List.append_assoc]
      exact .known quiet known
    | recorded quiet ready unknown setAside replaced =>
      refine Prog.Always.ask_pendingRemove wellKeyed fun w₄ leaves _ => ?_
      refine Prog.Always.ask_unlock (leaves.holder node own) fun w₅ => ?_
      simp only [List.append_assoc, List.cons_append, List.nil_append]
      refine .recorded quiet ready unknown setAside replaced fun place => ?_
      rw [PendingTracker.get?_remove, if_pos rfl]

end Controller

namespace Reserved

def controller : Controller := { space := "default" }

def claim : ClaimUid := ⟨⟨List.replicate 16 4, rfl⟩⟩

def devices : List AllocatedDevice := [⟨⟨⟨List.replicate 16 5, rfl⟩⟩, 2⟩]

def world : World :=
  { World.put {} { metadata := { name := "node", space := "default" }, status := .ready } with
    pending := ({} : PendingTracker).set claim "node" devices }

end Reserved

open Reserved in
/-- A node is ready and has a device set aside for a claim. -/
theorem Controller.allocate_whole_or_nothing_reserved :
    ∃ steps result w', Prog.Course (.ofCall 0 (.allocate controller claim "node"))
        (controller.allocate claim "node") world steps result w' ∧
      controller.Allocates claim "node" steps result ∧ result.isOk ∧ steps.length = 6 ∧
      w'.allocation (controller.recordKey "node") claim = some devices := by
  have wellKeyed : world.WellKeyed := World.WellKeyed.put (fun _ _ absent => by cases absent) _
  have shown : ((controller.allocate claim "node").follow
      (fun a w => w.answer? 0 (.allocate controller claim "node") a) world).any
      (fun (steps, result, w') => decide (result.isOk ∧ steps.length = 6 ∧
        w'.allocation (controller.recordKey "node") claim = some devices)) = true := by decide +kernel
  obtain ⟨⟨steps, result, w'⟩, followed, shown⟩ := (Option.any_eq_true _ _).mp shown
  have course := Prog.course_of_follow (E := .ofCall 0 (.allocate controller claim "node"))
    (fun w => ⟨.refl 0 w, id⟩) (fun _ _ _ _ => World.answers_of_answer?) followed
  exact ⟨steps, result, w', course,
    (controller.allocate_whole_or_nothing claim "node" 0 wellKeyed).post_of_course course,
    of_decide_eq_true shown⟩

end DeviceClaims
