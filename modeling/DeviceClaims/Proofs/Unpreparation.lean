import DeviceClaims.Proofs.Machine.Calls
import DeviceClaims.Proofs.Preparation
import DeviceClaims.Proofs.Remnants.Calls

namespace DeviceClaims

/-- The calls of one plugin as in `Setting.ofPlugin`, but they may come to nothing, and directories may
fail. -/
def Setting.ofFaulty (key : ObjectKey) : Setting :=
  { Setting.ofPlugin key with mayVanish := True, faulty := True }

/-- In which no start finds a stray specification of a claim. -/
def Setting.ofTidy (key : ObjectKey) (claim : ClaimUid) : Setting :=
  (Setting.ofFaulty key).when fun op w => ∀ p count, op = .start p count → ¬ w.Stray key claim

/-- To reallocate changes nothing that is a plugin's own. -/
theorem World.Reallocates.keeps_rest {key : ObjectKey} {w w' : World} (reallocates : w.Reallocates key w') :
    w'.plugins = w.plugins ∧ w'.specs = w.specs ∧ w'.published key = w.published key := by
  have published := reallocates.published_eq
  obtain ⟨_, _, _, _, _, rfl⟩ := reallocates
  exact ⟨rfl, rfl, published⟩

theorem Setting.ofFaulty_fits (key : ObjectKey) (claim : ClaimUid) :
    Remnant.Fits ⟨key, claim, False⟩ (.ofFaulty key) where
  own _ taken may takes := may taken takes
  covered tidy := tidy.elim
  outside _ _ reallocates := reallocates.keeps_rest

theorem Setting.ofTidy_fits (key : ObjectKey) (claim : ClaimUid) :
    Remnant.Fits ⟨key, claim, True⟩ (.ofTidy key claim) where
  own _ taken may takes := may taken takes
  covered _ p count _ step := step.2 p count rfl
  outside _ _ reallocates := reallocates.keeps_rest

namespace Machine.Reach

variable {w₀ : World} {m : Machine} {call : Nat} {p : Plugin} {claim : NodeClaim}
  {outcome : UnprepareOutcome} {s : DeviceState}

/-- A plugin that has given up a claim knows of all that is left, and the claim is not prepared. -/
theorem agrees_of_unprepared {R : Remnant} {S : Setting} (fits : R.Fits S) (wellKeyed : w₀.WellKeyed)
    (down : w₀.plugins R.key = .down) (reach : Reach S (.idle w₀) m)
    (at_call : m.calls call = some ⟨.unprepare p claim, .done (outcome, s)⟩)
    (succeeded : outcome.failure = none) : R.Agrees s m.world ∧ ¬ s.isPrepared claim.uid := by
  have governs := Remnant.discipline_governs fits
  have sound : R.Sound w₀ := fun s up => by cases down.symm.trans up
  have initial : R.discipline.Keeps S (fun op => op.takes = some R.key) (.idle w₀) :=
    .idle wellKeyed sound
  have knows : ∀ {m m' e}, Reach S (.idle w₀) m → Move S e m m' → ∀ call op,
      e.caller? = some (call, op) →
      S.mayCall op ∧ (DeviceClaims.ground S).Allows call op m.world m'.world :=
    fun before move call op caller => before.mayCall_and_allows wellKeyed move call op caller
  have takes : (Operation.unprepare p claim).takes = some R.key :=
    congrArg some (fits.own _ _ (reach.mayCall_of_call call _ at_call) rfl)
  have meets : R.discipline.Meets S call (.unprepare p claim) (R.Yields (.unprepare p claim))
      (.done (outcome, s)) m.world :=
    governs.meets_of_call initial knows
      (fun call op w prog _ takes _ sound begun => Remnant.meets_program fits takes sound begun) reach
      at_call takes
  obtain ⟨agrees, gone⟩ := meets _ ((governs.keeps_reach initial knows reach).later_refl call)
  exact ⟨agrees, gone succeeded⟩

/-- What is left of a claim once it is given up. However often directories of specifications failed,
updates met conflicts, calls came to nothing and the plugin was started anew, a call to give up a
claim that succeeds leaves it neither in the plugin nor in the record. It leaves a specification of
the claim only if the plugin was started at some time when there was one that the record did not list.
Of runs in which a record is updated that has been written 2 ^ 64 times, nothing is said
(`World.Answers`). -/
theorem unprepared_left {key : ObjectKey} (wellKeyed : w₀.WellKeyed) (down : w₀.plugins key = .down)
    (reach : Reach (.ofFaulty key) (.idle w₀) m)
    (at_call : m.calls call = some ⟨.unprepare p claim, .done (outcome, s)⟩)
    (succeeded : outcome.failure = none) :
    s.isPrepared claim.uid = false ∧ ¬ m.world.Lists key claim.uid ∧
      (m.world.HasSpec key claim.uid → ∃ m₁ other p' count rest,
        Reach (.ofFaulty key) (.idle w₀) m₁ ∧ Reach (.ofFaulty key) m₁ m ∧
        m₁.calls other = some ⟨.start p' count, rest⟩ ∧ m₁.world.Stray key claim.uid) := by
  obtain ⟨agrees, gone⟩ := reach.agrees_of_unprepared (Setting.ofFaulty_fits key claim.uid) wellKeyed down at_call
    succeeded
  refine ⟨by simpa using gone, mt agrees.listed gone, fun found => ?_⟩
  -- If no start had found a stray specification, the run would be one in which none does.
  by_contra never
  have tidy : Reach (.ofTidy key claim.uid) (.idle w₀) m := by
    refine Steps.when_of_calls reach fun m₁ other op rest first last at_other => ?_
    rintro p' count rfl stray
    exact never ⟨m₁, other, p', count, rest, first, last, at_other, stray⟩
  obtain ⟨agrees, gone⟩ := tidy.agrees_of_unprepared (Setting.ofTidy_fits key claim.uid) wellKeyed down at_call
    succeeded
  exact gone (agrees.filed trivial found)

end Machine.Reach

namespace Sharing

/-- The first claim is prepared and is about to be given up; only its specification is still there. -/
def halfGone : List Turn :=
  offered ++ [.ends 2] ++ Turn.whole 3 (.prepare plugin (use first)) 4 ++
  .begins 4 (.unprepare plugin (use first)) :: List.replicate 3 (.goesOn 4)

/-- The plugin is started anew, and the claim is given up again; the last call is not over yet. -/
def goneAgain : List Turn :=
  [.ends 4] ++ Turn.whole 5 (.start plugin 2) 5 ++
  [.begins 6 (.unprepare plugin (use first)), .goesOn 6]

/-- What a call to give up a claim comes to, once it is about to be over. -/
def unprepares? (m : Machine) (call : Nat) : Option (NodeClaim × UnprepareOutcome) :=
  match m.calls call with
  | some ⟨.unprepare _ claim, .done (outcome, _)⟩ => some (claim, outcome)
  | _ => none

theorem at_unprepares? {m : Machine} {call : Nat} {claim : NodeClaim} {outcome : UnprepareOutcome}
    (found : unprepares? m call = some (claim, outcome)) :
    ∃ p s, m.calls call = some ⟨.unprepare p claim, .done (outcome, s)⟩ := by
  unfold unprepares? at found
  split at found
  · next p claim' outcome' s at_call =>
    cases found
    exact ⟨p, s, at_call⟩
  · cases found

/-- The specification cannot be deleted when the claim is given up first. -/
theorem exists_left_behind : ∃ m p outcome s, Machine.Reach (.ofFaulty plugin.key) (.idle {}) m ∧
    m.calls 6 = some ⟨.unprepare p (use first), .done (outcome, s)⟩ ∧ outcome.failure = none ∧
    m.world.HasSpec plugin.key first := by
  have shown : ((Machine.play halfGone (.idle {})).any fun m₁ =>
      (m₁.fail 4 FaultySpecDir.planned).any fun m₂ => (Machine.play goneAgain m₂).any fun m =>
        (unprepares? m 6).any fun (claim, outcome) => claim = use first ∧ outcome.failure = none ∧
          (m.world.specs plugin.key).claims.contains first) = true := by decide +kernel
  obtain ⟨m₁, played, shown⟩ := (Option.any_eq_true ..).mp shown
  obtain ⟨m₂, failed, shown⟩ := (Option.any_eq_true ..).mp shown
  obtain ⟨m, played', shown⟩ := (Option.any_eq_true ..).mp shown
  obtain ⟨⟨claim, outcome⟩, at_six, shown⟩ := (Option.any_eq_true ..).mp shown
  obtain ⟨rfl, succeeded, found⟩ := of_decide_eq_true shown
  obtain ⟨p, s, at_call⟩ := at_unprepares? at_six
  obtain ⟨reach, free⟩ := Machine.play_reach (S := .ofFaulty plugin.key) (by
    simp [halfGone, offered, Turn.whole, or_imp, forall_and, Setting.ofFaulty, Setting.ofPlugin,
      Operation.takes]) (fun _ _ absent => by cases absent) .start played
  obtain ⟨reach, free⟩ := Machine.fail_reach trivial free reach failed
  have reach := (Machine.play_reach (by
    simp [goneAgain, Turn.whole, or_imp, forall_and, Setting.ofFaulty, Setting.ofPlugin,
      Operation.takes]) free reach played').1
  exact ⟨m, p, outcome, s, reach, at_call, succeeded, found⟩

end Sharing

open Sharing in
/-- A directory fails when a claim is given up, and a start finds the specification that it left. -/
theorem Machine.Reach.unprepared_left_stray :
    ∃ m p outcome s m₁ other p' count rest, Reach (.ofFaulty plugin.key) (.idle {}) m ∧
      m.calls 6 = some ⟨.unprepare p (use first), .done (outcome, s)⟩ ∧ outcome.failure = none ∧
      DeviceState.isPrepared s first = false ∧ ¬ m.world.Lists plugin.key first ∧
      Reach (.ofFaulty plugin.key) (.idle {}) m₁ ∧ Reach (.ofFaulty plugin.key) m₁ m ∧
      m₁.calls other = some ⟨.start p' count, rest⟩ ∧ m₁.world.Stray plugin.key first := by
  obtain ⟨m, p, outcome, s, reach, at_call, succeeded, found⟩ := exists_left_behind
  have wellKeyed : ({} : World).WellKeyed := fun _ _ at_key => by cases at_key
  obtain ⟨gone, unlisted, started⟩ := reach.unprepared_left wellKeyed rfl at_call succeeded
  obtain ⟨m₁, other, p', count, rest, first, last, at_other, stray⟩ := started found
  exact ⟨m, p, outcome, s, m₁, other, p', count, rest, reach, at_call, succeeded, gone, unlisted,
    first, last, at_other, stray⟩

open Sharing in
/-- A call to give up a claim may succeed and leave its specification: the plugin that is started anew
has forgotten a claim that could not be given up. -/
theorem Machine.Reach.unprepared_leaves_spec :
    ¬ ∀ m call p claim outcome s, Reach (.ofFaulty plugin.key) (.idle {}) m →
      m.calls call = some ⟨.unprepare p claim, .done (outcome, s)⟩ → outcome.failure = none →
      DeviceState.isPrepared s claim.uid = false ∧ ¬ m.world.Lists plugin.key claim.uid ∧
        ¬ m.world.HasSpec plugin.key claim.uid := by
  intro nothing
  obtain ⟨m, p, outcome, s, reach, at_call, succeeded, found⟩ := exists_left_behind
  exact (nothing m 6 p (use first) outcome s reach at_call succeeded).2.2 found

end DeviceClaims
