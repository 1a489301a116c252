import DeviceClaims.Proofs.Course.Calls
import DeviceClaims.Proofs.Machine.Run
import DeviceClaims.Proofs.Readiness

namespace DeviceClaims

/-- Around a start others leave the call what is its own, and nobody else makes the record ready. -/
def Surroundings.ofStart (p : Plugin) (count call : Nat) : Surroundings World where
  between w w' := w.Leaves call w' ∧ (w.WellKeyed → w'.WellKeyed) ∧
    (w.Unready p.key → w'.Unready p.key)
  answers := World.Answers True call (.start p count)

theorem Surroundings.ofStart_spares (p : Plugin) (count call : Nat) :
    (ofStart p count call).Spares call (.start p count) True :=
  ⟨fun between => between.1, fun between => between.2.1, rfl⟩

/-- A record is found under a key, or made. -/
inductive Step.Adopts (key : ObjectKey) : NodeRecord → Step World → Prop
  | found (w : World) (r : NodeRecord) : Adopts key r (.get w key r)
  | made (w : World) :
      Adopts key ((NodeRecord.new key.name key.space).withVersion 1)
        (.make w (.new key.name key.space))

/-- What three writes make of a record that is adopted: it is not ready, then it offers the devices of
its node, and then it is ready; its versions follow each other, and all that is allocated or prepared
stays as it was. -/
structure NodeRecord.Republished (count : Nat) (adopted r₁ r₂ r₃ : NodeRecord) : Prop where
  version : r₁.version = adopted.version + 1 ∧ r₂.version = r₁.version + 1 ∧
    r₃.version = r₂.version + 1
  status : r₁.status = .notReady ∧ r₂.status = .notReady ∧ r₃.status = .ready
  allocatable : r₁.spec.allocatable = adopted.spec.allocatable ∧
    r₂.spec.allocatable = inventory adopted.key.name count ∧
    r₃.spec.allocatable = inventory adopted.key.name count
  kept : ∀ r ∈ [r₁, r₂, r₃], r.key = adopted.key ∧ r.spec.allocated = adopted.spec.allocated ∧
    r.spec.prepared = adopted.spec.prepared

/-- If any of its steps has changed something, the record is not ready. -/
def Plugin.Cautious (p : Plugin) (steps : List (Step World)) (w : World) : Prop :=
  (∃ s ∈ steps, ¬ s.Quiet) → w.Unready p.key

/-- How a start with so many devices ends: it has adopted a record and republished it, or it has
failed. -/
inductive Plugin.Starts (p : Plugin) (count : Nat) :
    List (Step World) → Except PluginError DeviceState → World → Prop
  | republished {earlier : List (Step World)} {adopts files : Step World}
      {adopted r₁ r₂ r₃ : NodeRecord} {c₁ c₂ c₃ : Change} {w₁ w₂ w₃ w : World} {s : DeviceState}
      (adopting : adopts.Adopts p.key adopted) (quiet : files.Quiet)
      (unready : r₁ = c₁.on adopted) (published : r₂ = c₂.on r₁) (ready : r₃ = c₃.on r₂)
      (republished : adopted.Republished count r₁ r₂ r₃) :
      Starts p count (earlier ++ [adopts, .rewrite w₁ c₁ adopted, files, .rewrite w₂ c₂ r₁,
        .rewrite w₃ c₃ r₂]) (.ok s) w
  | failed {steps : List (Step World)} {e : PluginError} {w : World}
      (cautious : p.Cautious steps w) : Starts p count steps (.error e) w

/-- What is true of a start between its attempts. -/
structure Plugin.Careful (p : Plugin) (steps : List (Step World)) (w : World) : Prop where
  wellKeyed : w.WellKeyed
  cautious : p.Cautious steps w

namespace Plugin

variable {p : Plugin} {count call : Nat} {steps : List (Step World)} {w w' : World}

namespace Careful

theorem append_quiet (careful : p.Careful steps w) {s : Step World}
    (between : (Surroundings.ofStart p count call).between w w') (quiet : s.Quiet) :
    p.Careful (steps ++ [s]) w' := by
  refine ⟨between.2.1 careful.wellKeyed, fun ⟨s', member, loud⟩ => ?_⟩
  rcases List.mem_append.mp member with earlier | last
  · exact between.2.2 (careful.cautious ⟨s', earlier, loud⟩)
  · exact absurd (List.mem_singleton.mp last ▸ quiet) loud

theorem of_unready (wellKeyed : w.WellKeyed) (unready : w.Unready p.key) : p.Careful steps w :=
  ⟨wellKeyed, fun _ => unready⟩

theorem append_sleep (careful : p.Careful steps w)
    (between : (Surroundings.ofStart p count call).between w w') (delay : Delay) :
    (∃ answer v, (Surroundings.ofStart p count call).answers w' (.sleep delay) answer v) ∧
      ∀ answer v, (Surroundings.ofStart p count call).answers w' (.sleep delay) answer v →
        p.Careful (steps ++ [⟨w', .sleep delay, answer, v⟩]) v := by
  refine ⟨⟨(), w', .sleep delay⟩, fun answer v answers => ?_⟩
  cases answers with
  | sleep _ => exact careful.append_quiet between ⟨rfl, rfl⟩

end Careful

/-- A write of a start that leaves the record not ready, unless it is refused. -/
theorem write_always {α : Type} {post : List (Step World) → α → World → Prop} {r r' : NodeRecord}
    (change : Change) (made : r' = change.apply r) (careful : p.Careful steps w) (saw : w.Saw r)
    (key : r.key = p.key) {next : Except StoreError NodeRecord → Prog α}
    (written : ∀ w', w'.WellKeyed → w'.record p.key = some r →
      (w'.put (change.on r)).record p.key = some (change.on r) →
      (next (.ok (change.on r))).Always (.ofStart p count call) post p.Cautious
        (steps ++ [.rewrite w' change r]) (w'.put (change.on r)))
    (refused : ∀ w' s e, p.Careful (steps ++ [s]) w' →
      (next (.error e)).Always (.ofStart p count call) post p.Cautious (steps ++ [s]) w') :
    (Prog.ask (.store (.update r')) next).Always (.ofStart p count call) post p.Cautious steps w := by
  refine Prog.Always.rewrite_of_spares (Surroundings.ofStart_spares p count call) change made careful.wellKeyed
    saw (fun w₁ between wellKeyed at_key => ?_) fun w₁ s e between _ quiet =>
    refused w₁ s e (careful.append_quiet between quiet)
  refine written w₁ wellKeyed (key ▸ at_key) ?_
  rw [← key, ← change.on_key r]
  exact World.record_put_self w₁ _

/-- A request to the directory of specifications changes nothing of the record. -/
theorem files_always {α : Type} {post : List (Step World) → α → World → Prop} {r : NodeRecord}
    {a : SpecAccess} (wellKeyed : w.WellKeyed) (saw : w.Saw r) (unready : w.Unready p.key)
    {next : Except String Unit → Prog α}
    (answered : ∀ w' s answer, s.Quiet → w'.WellKeyed → w'.Saw r → w'.Unready p.key →
      (next answer).Always (.ofStart p count call) post p.Cautious (steps ++ [s]) w') :
    (Prog.ask (.spec a) next).Always (.ofStart p count call) post p.Cautious steps w := by
  refine Prog.Always.ask (fun _ _ => .inr ⟨_, _, .spec a p.key rfl⟩) fun v between answer v' answers => ?_
  have wellKeyed := between.2.1 wellKeyed
  have saw := saw.of_leaves between.1
  have unready := between.2.2 unready
  cases answers with
  | spec _ key own => exact answered _ _ _ ⟨rfl, rfl⟩ wellKeyed saw unready
  | specFault _ detail may => exact answered _ _ _ ⟨rfl, rfl⟩ wellKeyed saw unready

/-- An attempt to publish on a record that was adopted writes it three times, one version after the
other, or leaves the start careful. -/
theorem publishOn_always {earlier : List (Step World)} {adopts : Step World} {r : NodeRecord}
    (adopting : adopts.Adopts p.key r) (careful : p.Careful (earlier ++ [adopts]) w) (saw : w.Saw r)
    (key : r.key = p.key) :
    (p.publishOn count r).Always (.ofStart p count call)
      (Prog.outcome (fun steps s w => p.Starts count steps (.ok s) w) p.Careful) p.Cautious
      (earlier ++ [adopts]) w := by
  refine write_always (.status .notReady) rfl careful saw key (fun w₁ wellKeyed _ at_key => ?_)
    fun _ _ _ careful => careful
  have unready : (w₁.put ((Change.status .notReady).on r)).Unready p.key := ⟨_, at_key, rfl⟩
  change Prog.Always _ _ _ (ite _ _ _) _ _
  split
  · exact fun _ => unready
  · refine files_always (wellKeyed.put _) (.saw_put_self w₁ _) unready
      fun w₂ files answer quiet wellKeyed saw unready => ?_
    cases answer with
    | error detail => exact .of_unready wellKeyed unready
    | ok =>
      simp only [Prog.bind]
      cases synced : (DeviceState.ofDevices (Emulator.devices p.key.name count)).sync
          ((Change.status .notReady).on r).spec with
      | error e => exact .of_unready wellKeyed unready
      | ok state =>
        obtain ⟨recorded, devices⟩ := DeviceState.sync_recorded synced
        refine write_always (.publish state.devices.values state.recorded) rfl
          (.of_unready wellKeyed unready) saw ((Change.on_key _ r).trans key)
          (fun w₃ wellKeyed _ at_key => ?_) fun _ _ _ careful => careful
        have unready : (w₃.put ((Change.publish state.devices.values state.recorded).on
            ((Change.status .notReady).on r))).Unready p.key := ⟨_, at_key, rfl⟩
        refine write_always (.status .ready) rfl (.of_unready (wellKeyed.put _) unready) (.saw_put_self w₃ _)
          ((Change.on_key _ _).trans ((Change.on_key _ r).trans key))
          (fun w₄ _ _ _ => ?_) fun _ _ _ careful => careful
        have offered : state.devices.values = inventory r.key.name count := by
          rw [devices, key, inventory]
        simp only [List.append_assoc, List.cons_append, List.nil_append]
        refine .republished adopting quiet rfl rfl rfl ⟨⟨rfl, rfl, rfl⟩, ⟨rfl, rfl, rfl⟩,
          ⟨rfl, offered, offered⟩, ?_⟩
        simp only [List.mem_cons, List.not_mem_nil, or_false, forall_eq_or_imp, forall_eq]
        exact ⟨⟨rfl, rfl, rfl⟩, ⟨rfl, rfl, recorded⟩, rfl, rfl, recorded⟩

/-- An attempt to start adopts the record or makes it, and publishes on it, or leaves
the start careful. -/
theorem startOnce_always (careful : p.Careful steps w) :
    (p.startOnce count).Always (.ofStart p count call)
      (Prog.outcome (fun steps s w => p.Starts count steps (.ok s) w) p.Careful) p.Cautious steps w := by
  have spares := Surroundings.ofStart_spares p count call
  refine Prog.Always.get_of_spares spares careful.wellKeyed (fun w₁ between wellKeyed r at_key => ?_)
    fun w₁ s between wellKeyed quiet => ?_
  · exact publishOn_always (.found w₁ r) (careful.append_quiet between (Step.quiet_get ..))
      (.of_record wellKeyed at_key) (wellKeyed _ r at_key)
  · refine Prog.Always.create_of_spares spares wellKeyed (fun w₂ _ wellKeyed _ => ?_)
      fun w₂ s₂ e after _ quiet₂ => (careful.append_quiet between quiet).append_quiet after quiet₂
    have at_key := World.record_put_self w₂ ((NodeRecord.new p.key.name p.key.space).withVersion 1)
    have unready : (w₂.put ((NodeRecord.new p.key.name p.key.space).withVersion 1)).Unready p.key :=
      ⟨_, at_key, rfl⟩
    exact publishOn_always (.made w₂) (.of_unready (wellKeyed.put _) unready) (.saw_put_self w₂ _) rfl

/-- Whatever others do meanwhile, a start ends as a start ends, and if it gives up in between, the
record is not ready once it has changed anything. -/
theorem start_always (wellKeyed : w.WellKeyed) :
    (p.start count).Always (.ofStart p count call) (p.Starts count) p.Cautious [] w := by
  have attempts : (p.start count).Always (.ofStart p count call)
      (Prog.outcome (fun steps s w => p.Starts count steps (.ok s) w) p.Careful) p.Cautious [] w :=
    Prog.Always.retry (fun _ _ careful => startOnce_always careful)
      (fun _ _ _ delay careful between => careful.append_sleep between delay)
      (fun _ _ _ careful => careful.cautious) ⟨wellKeyed, fun ⟨_, member, _⟩ => nomatch member⟩
  refine attempts.weaken fun steps result w reached => ?_
  cases result with
  | ok s => exact reached
  | error e => exact .failed reached.cautious

theorem start_settles (p : Plugin) (count call : Nat) :
    (Surroundings.ofStart p count call).Settles (p.Starts count) p.Cautious where
  refl w := ⟨.refl call w, id, id⟩
  trans first last := ⟨first.1.trans last.1, last.2.1 ∘ first.2.1, last.2.2 ∘ first.2.2⟩
  post between starts := by
    cases starts with
    | republished adopting quiet unready published ready republished =>
      exact .republished adopting quiet unready published ready republished
    | failed cautious => exact .failed fun loud => between.2.2 (cautious loud)
  crashed between cautious loud := between.2.2 (cautious loud)

end Plugin

end DeviceClaims
