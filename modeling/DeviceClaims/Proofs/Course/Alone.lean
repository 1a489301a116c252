import DeviceClaims.Proofs.Course
import DeviceClaims.Site

namespace DeviceClaims

/-- How an access may be answered where nobody else is. -/
inductive Site.Answers (s : Site) : (a : Access) → a.Answer → Site → Prop
  | given (a : Access) : Answers s a (Site.answer a s).1 (Site.answer a s).2
  | claims (l : List ClaimUid) (same : l.Perm s.pending.claims.keys) :
      Answers s (.pending .claims) l s
  | pairs (l : List (ClaimUid × String)) (same : l.Perm s.pending.pairs) :
      Answers s (.pending .pairs) l s

def Surroundings.alone : Surroundings Site where
  between := Eq
  answers := Site.Answers

namespace Prog

variable {α β : Type}

/-- Alone, a program always stops with a value that satisfies a condition. -/
def Alone (post : α → Site → Prop) (p : Prog α) (s : Site) : Prop :=
  ∀ steps, p.Always .alone (fun _ => post) (fun _ _ => False) steps s

namespace Alone

variable {post : α → Site → Prop} {s : Site}

theorem done {a : α} (reached : post a s) : (Prog.done a).Alone post s := fun _ => reached

theorem weaken {post' : α → Site → Prop} {p : Prog α} (alone : p.Alone post' s)
    (implies : ∀ a s, post' a s → post a s) : p.Alone post s :=
  fun steps => (alone steps).weaken fun _ => implies

theorem and {post' : α → Site → Prop} {p : Prog α} (one : p.Alone post s) (other : p.Alone post' s) :
    p.Alone (fun a s => post a s ∧ post' a s) s := fun steps => (one steps).and (other steps)

theorem bind {f : α → Prog β} {post : β → Site → Prop} {p : Prog α}
    (alone : p.Alone (fun a s => (f a).Alone post s) s) : (p.bind f).Alone post s :=
  fun steps => .bind ((alone steps).weaken fun steps _ _ reached => reached steps)

theorem ask {a : Access} {next : a.Answer → Prog α}
    (answered : ∀ answer s', s.Answers a answer s' → (next answer).Alone post s') :
    (Prog.ask a next).Alone post s := by
  intro steps
  refine .ask (fun s₁ _ => .inr ⟨_, _, .given a⟩) fun s₁ same answer s' answers => ?_
  cases same
  exact answered answer s' answers _

theorem ask_get {key : ObjectKey} {next : Except StoreError NodeRecord → Prog α}
    (read : (next (s.store.get key).1).Alone post { s with store := (s.store.get key).2 }) :
    (Prog.ask (.store (.get key)) next).Alone post s := by
  refine ask fun answer s' answers => ?_
  cases answers with
  | given _ => exact read

theorem ask_pendingGet {claim : ClaimUid} {node : String}
    {next : Option (List AllocatedDevice) → Prog α}
    (read : (next (s.pending.get? claim node)).Alone post s) :
    (Prog.ask (.pending (.get claim node)) next).Alone post s := by
  refine ask fun answer s' answers => ?_
  cases answers with
  | given _ => exact read

theorem ask_pendingSet {claim : ClaimUid} {node : String} {devices : List AllocatedDevice}
    {next : Unit → Prog α}
    (changed : (next ()).Alone post { s with pending := s.pending.set claim node devices }) :
    (Prog.ask (.pending (.set claim node devices)) next).Alone post s := by
  refine ask fun answer s' answers => ?_
  cases answers with
  | given _ => exact changed

theorem ask_pendingRemove {claim : ClaimUid} {next : Unit → Prog α}
    (changed : (next ()).Alone post { s with pending := s.pending.remove claim }) :
    (Prog.ask (.pending (.remove claim)) next).Alone post s := by
  refine ask fun answer s' answers => ?_
  cases answers with
  | given _ => exact changed

/-- The tracker may list its claims in any order. -/
theorem ask_pendingClaims {next : List ClaimUid → Prog α}
    (read : ∀ l : List ClaimUid, l.Perm s.pending.claims.keys → (next l).Alone post s) :
    (Prog.ask (.pending .claims) next).Alone post s := by
  refine ask fun answer s' answers => ?_
  cases answers with
  | given _ => exact read _ (.refl _)
  | claims _ same => exact read _ same

theorem locked {node : String} {p : Prog α} (inside : p.Alone post s) :
    (Prog.locked node p).Alone post s := by
  refine ask fun _ s' answers => ?_
  cases answers with
  | given _ =>
    refine bind (inside.weaken fun a s₁ reached => ask fun _ s₂ answers => ?_)
    cases answers with
    | given _ => exact done reached

/-- What is followed with the answers of the site is a course of the program alone. -/
theorem course_alone {p : Prog α} {steps : List (Step Site)} {a : α} {s' : Site}
    (followed : p.follow (fun a s => some (Site.answer a s)) s = some (steps, a, s')) :
    Course .alone p s steps a s' := by
  refine course_of_follow (fun _ => rfl) (fun s a answer s' answered => ?_) followed
  have given := Site.Answers.given (s := s) a
  rwa [Option.some.inj answered] at given

/-- What a program always comes to it comes to when every answer is that of the site. -/
theorem course_and_post {p : Prog α} (alone : p.Alone post s) {steps : List (Step Site)} {a : α} {s' : Site}
    (followed : p.follow (fun a s => some (Site.answer a s)) s = some (steps, a, s')) :
    Course .alone p s steps a s' ∧ post a s' :=
  ⟨course_alone followed, (alone []).post_of_course (course_alone followed)⟩

end Alone

end Prog

end DeviceClaims
