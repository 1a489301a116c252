import DeviceClaims.Proofs.Course.Calls
import DeviceClaims.Proofs.Machine.Play

namespace DeviceClaims

def Surroundings.solo (call : Nat) (op : Operation) : Surroundings World where
  between := Eq
  answers := World.Answers True call op

theorem Surroundings.solo_spares (call : Nat) (op : Operation) : (solo call op).Spares call op True where
  leaves same := same ▸ .refl call _
  wellKeyed same wellKeyed := same ▸ wellKeyed
  answers := rfl

/-- A sleep ends, and nothing has changed. -/
theorem Surroundings.solo_sleep {call : Nat} {op : Operation} {w w' : World}
    (same : (solo call op).between w w') (delay : Delay) :
    (∃ answer v, (solo call op).answers w' (.sleep delay) answer v) ∧
      ∀ answer v, (solo call op).answers w' (.sleep delay) answer v → w' = w ∧ v = w := by
  cases same
  refine ⟨⟨(), w, .sleep delay⟩, fun answer v answers => ?_⟩
  cases answers with
  | sleep _ => exact ⟨rfl, rfl⟩

/-- A step that leaves the store as it is. -/
def Step.KeepsStore (s : Step World) : Prop := s.after.store = s.before.store

theorem Step.Quiet.keeps_store {s : Step World} (quiet : s.Quiet) : s.KeepsStore := quiet.1

theorem Step.keepsStore_forget (w : World) (claim : ClaimUid) : (forget w claim).KeepsStore := rfl

theorem Step.keepsStore_unlock (w : World) (node : String) : (unlock w node).KeepsStore := rfl

/-- A record is changed in just one of some steps, and no other one changes the store. -/
def Step.Once (change : Change) (r : NodeRecord) (steps : List (Step World)) : Prop :=
  ∃ earlier w later, steps = earlier ++ .rewrite w change r :: later ∧ w.record r.key = some r ∧
    ∀ s ∈ earlier ++ later, s.KeepsStore

namespace Step

variable {change : Change} {r : NodeRecord} {steps : List (Step World)} {s : Step World}

theorem still_next (still : ∀ s ∈ steps, s.KeepsStore) (keeps : s.KeepsStore) :
    ∀ s' ∈ steps ++ [s], s'.KeepsStore := by
  intro s' member
  rcases List.mem_append.mp member with earlier | last
  · exact still s' earlier
  · exact List.mem_singleton.mp last ▸ keeps

theorem Once.append_rewrite {w : World} (still : ∀ s ∈ steps, s.KeepsStore) (at_key : w.record r.key = some r) :
    Once change r (steps ++ [.rewrite w change r]) :=
  ⟨steps, w, [], rfl, at_key, by rwa [List.append_nil]⟩

/-- What was written once stays written once over steps that leave the store alone. -/
theorem Once.append_keeping (once : Once change r steps) (keeps : s.KeepsStore) :
    Once change r (steps ++ [s]) := by
  obtain ⟨earlier, w, later, rfl, at_key, still⟩ := once
  refine ⟨earlier, w, later ++ [s], by simp, at_key, ?_⟩
  rw [← List.append_assoc]
  exact still_next still keeps

end Step

/-- A call is made from its beginning to its end while no other is, by steps that lead from one world
to another. -/
inductive Operation.Runs (op : Operation) (w : World) (steps : List (Step World)) (result : op.Result) :
    World → Prop
  | intro {call : Nat} {prog : Prog op.Result} {w' : World} (begun : op.program w = some prog)
      (course : Prog.Course (.solo call op) prog (op.enter call w) steps result w') :
      Runs op w steps result (op.leave result w')

variable {S : Setting} {call : Nat} {op : Operation} {w w' : World} {steps : List (Step World)}

/-- What a program meets that nobody disturbs is what it stops with. -/
theorem Discipline.Meets.post_of_course {D : Discipline} {α : Type} {post : α → World → Prop} {p : Prog α}
    {a : α}
    (may : ∀ w, S.mayStep op w) (faulty : S.faulty) (wellKeyed : w.WellKeyed) (inv : D.inv w)
    (meets : D.Meets S call op post p w) (course : Prog.Course (.solo call op) p w steps a w') :
    post a w' := by
  induction course with
  | done a w => exact meets w (.refl wellKeyed inv)
  | ask between answered _ ih =>
    cases between
    obtain ⟨allows, rest⟩ :=
      meets _ (.refl wellKeyed inv) (may _) _ _ (answered.mono fun _ => faulty)
    exact ih allows.wellKeyed allows.inv rest

/-- A machine on which one call runs. -/
def Machine.single (w : World) (call : Nat) (c : Call) : Machine :=
  ⟨w, Function.update (fun _ => none) call (some c)⟩

namespace Machine

theorem single_calls (w : World) (call : Nat) (c : Call) : (single w call c).calls call = some c := by
  simp only [single, Function.update_self]

theorem Move.begins_single {prog : Prog op.Result} (may : S.mayCall op) (begun : op.program w = some prog) :
    Move S (.begins call op) (.idle w) (.single (op.enter call w) call ⟨op, prog⟩) :=
  .begins may rfl begun

theorem Move.asks_single {a : Access} {next : a.Answer → Prog op.Result} {answer : a.Answer}
    (may : S.mayStep op w) (answered : w.Answers S.faulty call op a answer w') :
    Move S (.asks call op a answer) (.single w call ⟨op, .ask a next⟩)
      (.single w' call ⟨op, next answer⟩) := by
  have move := Move.asks (single_calls w call ⟨op, .ask a next⟩) may answered
  rwa [single, Function.update_idem] at move

theorem Move.ends_single (result : op.Result) :
    Move S (.ends call op) (.single w call ⟨op, .done result⟩) (.idle (op.leave result w)) := by
  have move := Move.ends (S := S) (single_calls w call ⟨op, .done result⟩)
  rwa [single, Function.update_idem, Function.update_eq_self] at move

/-- The moves of a call follow its course. -/
theorem Reach.append_course {m₀ : Machine} {p : Prog op.Result} {result : op.Result}
    (before : Reach S m₀ (.single w call ⟨op, p⟩)) (may : ∀ w, S.mayStep op w) (faulty : S.faulty)
    (course : Prog.Course (.solo call op) p w steps result w') :
    Reach S m₀ (.single w' call ⟨op, .done result⟩) := by
  induction course with
  | done _ _ => exact before
  | ask between answered _ ih =>
    cases between
    exact ih (before.next trivial (.asks_single (may _) (answered.mono fun _ => faulty)))

end Machine

/-- A machine on which nothing runs makes a call. -/
theorem Operation.Runs.reach_idle {result : op.Result} (runs : op.Runs w steps result w')
    (may : S.mayCall op) (always : ∀ w, S.mayStep op w) (faulty : S.faulty) :
    Machine.Reach S (.idle w) (.idle w') := by
  cases runs with
  | @intro call prog _ begun course =>
    have first : Machine.Reach S (.idle w) (.single (op.enter call w) call ⟨op, prog⟩) :=
      .next .start trivial (.begins_single may begun)
    exact (first.append_course always faulty course).next trivial (.ends_single result)

/-- A call that is made with every answer as the world gives it. -/
def Operation.made (op : Operation) (w : World) : Option (List (Step World) × op.Result × World) :=
  (op.program w).bind fun prog =>
    (prog.follow (fun a w => w.answer? 0 op a) (op.enter 0 w)).map fun (steps, result, w') =>
      (steps, result, op.leave result w')

theorem Operation.Runs.of_made {result : op.Result} (made : op.made w = some (steps, result, w')) :
    op.Runs w steps result w' := by
  obtain ⟨prog, begun, rest⟩ := Option.bind_eq_some_iff.mp made
  obtain ⟨⟨_, _, last⟩, followed, same⟩ := Option.map_eq_some_iff.mp rest
  cases same
  exact .intro begun (Prog.course_of_follow (fun _ => rfl) (fun _ _ _ _ => World.answers_of_answer?)
    followed)

end DeviceClaims
