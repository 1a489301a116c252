import DeviceClaims.Proofs.Naming
import DeviceClaims.Proofs.Preparation
import DeviceClaims.Proofs.Upkeep.Calls
import DeviceClaims.Proofs.Upkeep.Conditions

namespace DeviceClaims

/-- The calls of one plugin as in `Setting.ofPlugin`, but they may come to nothing. -/
def Setting.ofRestarts (key : ObjectKey) : Setting := { Setting.ofPlugin key with mayVanish := True }

theorem Setting.ofRestarts_fits (key : ObjectKey) :
    Custody.Fits ⟨key, False, False⟩ (.ofRestarts key) :=
  { Setting.ofPlugin_fits key with
    plain := nofun
    apart := nofun
    lasting := nofun
    outside := (Setting.ofPlugin_fits key).outside }

theorem Setting.ofRestarts_outside {key : ObjectKey} {w w' : World}
    (others : (Setting.ofRestarts key).outside w w') :
    w'.plugins = w.plugins ∧ w'.published key = w.published key := by
  obtain ⟨_, plugins, _, published⟩ := (Setting.ofRestarts_fits key).outside w w' others
  exact ⟨plugins, published⟩

/-- In which a claim is not given up. -/
def Setting.ofUnreleased (key : ObjectKey) (claim : ClaimUid) : Setting :=
  (Setting.ofRestarts key).among fun op => ∀ p given, op = .unprepare p given → given.uid ≠ claim

/-- In which no start has more devices than so many. -/
def Setting.ofStarts (key : ObjectKey) (count : Nat) : Setting :=
  (Setting.ofRestarts key).among fun op => ∀ p n, op = .start p n → n ≤ count

theorem Setting.ofUnreleased_fits (key : ObjectKey) (claim : ClaimUid) (ds : List PreparedDevice) :
    (Upkeep.prepared key claim ds).Fits (.ofUnreleased key claim) where
  released p given may := may.2 p given rfl
  started _ _ _ := trivial
  outside _ _ others := ofRestarts_outside others

theorem Setting.ofStarts_fits (key : ObjectKey) (count : Nat) :
    (Upkeep.drawn key count).Fits (.ofStarts key count) where
  released _ _ _ := trivial
  started p n may := may.2 p n rfl
  outside _ _ others := ofRestarts_outside others

/-- A call that names devices as a claim's if it is one that prepares the claim. -/
def Call.NamesAgain (claim : ClaimUid) (names : List String) (c : Call) : Prop :=
  ∀ p again rest, c = ⟨.prepare p again, rest⟩ → again.uid = claim → p.NamesAgain names rest

section

variable {key : ObjectKey} {claim : ClaimUid} {ds : List PreparedDevice} {w w' : World}
  {op : Operation}

/-- A call that begins while a claim is prepared names it again if it prepares it. -/
theorem Call.namesAgain_program (kept : (Upkeep.prepared key claim ds).Kept w)
    (own : ∀ taken, op.takes = some taken → taken = key) {prog : Prog op.Result}
    (begun : op.program w = some prog) :
    NamesAgain claim (DeviceSpec.claimNames (ds.map (·.uuid))) ⟨op, prog⟩ := by
  intro p again rest at_call same
  cases at_call
  have at_key : p.key = key := own p.key rfl
  simp only [Operation.program] at begun
  split at begun <;> cases begun
  next s up =>
    have knows : s.recorded.get? claim = some ds := kept.up s (at_key ▸ up)
    refine Plugin.namesAgain_prepare ?_
    rw [s.claimNames?_recorded, same, knows]
    rfl

theorem Call.NamesAgain.of_answer {names : List String} {a : Access} {next : a.Answer → Prog op.Result}
    {answer : a.Answer} {faulty : Prop} {call : Nat}
    (again : NamesAgain claim names ⟨op, .ask a next⟩) (kept : (Upkeep.prepared key claim ds).Kept w)
    (own : ∀ taken, op.takes = some taken → taken = key)
    (answers : w.Answers faulty call op a answer w') : NamesAgain claim names ⟨op, next answer⟩ := by
  intro p given rest at_call same
  cases at_call
  have at_key : p.key = key := own p.key rfl
  obtain ⟨_, shown, _⟩ := kept.shows
  obtain ⟨r, found, _⟩ := Option.map_eq_some_iff.mp shown
  exact (again p given _ rfl same).of_answer (at_key ▸ found) answers

end

/-- Two calls that have a plugin in hand are one. -/
theorem Operation.InHand.call_eq {call other : Nat} {op op' : Operation} {w : World} {key : ObjectKey}
    (inHand : op.InHand call w) (inHand' : op'.InHand other w) (takes : op.takes = some key)
    (takes' : op'.takes = some key) : other = call := by
  obtain ⟨_, busy⟩ := inHand key takes
  obtain ⟨_, busy'⟩ := inHand' key takes'
  cases busy.symm.trans busy'
  rfl

namespace Machine.Reach

variable {key : ObjectKey} {w₀ : World} {m₁ m : Machine} {call : Nat} {p : Plugin} {claim : NodeClaim}
  {names : List String} {s : DeviceState}

/-- Between calls the plugin knows what its record says, however often it was started anew. -/
theorem keeps_custody (wellKeyed : w₀.WellKeyed) (down : w₀.plugins key = .down)
    (reach : Reach (.ofRestarts key) (.idle w₀) m) :
    (Custody.discipline ⟨key, False, False⟩).Keeps (.ofRestarts key)
      (fun op => op.takes = some key) m := by
  have sound : Custody.Sound ⟨key, False, False⟩ w₀ :=
    ⟨fun s up => (by cases down.symm.trans up), nofun, nofun⟩
  exact (Custody.discipline_governs (Setting.ofRestarts_fits key)).keeps_reach (.idle wellKeyed sound)
    (fun before move call op caller => before.mayCall_and_allows wellKeyed move call op caller) reach

/-- Once a claim is prepared and named, the record says of what devices. -/
theorem exists_recorded (wellKeyed : w₀.WellKeyed) (down : w₀.plugins key = .down)
    (reach : Reach (.ofRestarts key) (.idle w₀) m) (taken : p.key = key)
    (at_call : m.calls call = some ⟨.prepare p claim, .done ({ names }, s)⟩) :
    ∃ ds, DeviceSpec.claimNames (ds.map (·.uuid)) = names ∧ s.recorded.get? claim.uid = some ds ∧
      m.world.published key = some s.recorded := by
  have keeps := reach.keeps_custody wellKeyed down
  have takes : (Operation.prepare p claim).takes = some key := congrArg some taken
  have inHand := keeps.inHand call _ at_call
  have permits := keeps.meets call _ at_call takes _ (keeps.later_refl call) inHand
  have sound : Custody.Sound ⟨key, False, False⟩ (m.world.setPlugin p.key (.up s)) := permits.inv
  obtain ⟨published, _⟩ := sound.up s (taken ▸ Function.update_self ..)
  have named : s.claimNames? claim.uid = some names :=
    Steps.yields_of_programs Operation.program_names reach at_call rfl
  rw [s.claimNames?_recorded, Option.map_eq_some_iff] at named
  obtain ⟨ds, found, same⟩ := named
  exact ⟨ds, same, found, published⟩

/-- From then on the claim is kept prepared, in a setting in which it is not given up. -/
theorem keeps_prepared (wellKeyed : w₀.WellKeyed) (down : w₀.plugins key = .down)
    (reach : Reach (.ofRestarts key) (.idle w₀) m) (taken : p.key = key)
    (at_call : m.calls call = some ⟨.prepare p claim, .done ({ names }, s)⟩)
    {ds : List PreparedDevice} (found : s.recorded.get? claim.uid = some ds)
    (published : m.world.published key = some s.recorded) (S : Setting) :
    (Upkeep.prepared key claim.uid ds).discipline.Keeps S (fun op => op.takes = some key) m := by
  have keeps := reach.keeps_custody wellKeyed down
  have takes : (Operation.prepare p claim).takes = some key := congrArg some taken
  have inHand := keeps.inHand call _ at_call
  refine ⟨keeps.wellKeyed, ⟨fun s' up => ?_, ⟨s.recorded, published, found⟩⟩, keeps.inHand,
    fun other c at_other sorted => ?_⟩
  · obtain ⟨_, busy⟩ := inHand key takes
    cases busy.symm.trans up
  · -- No other call has the plugin in hand, and this one is about to leave it with the claim prepared.
    obtain rfl := inHand.call_eq (keeps.inHand other c at_other) takes sorted
    cases at_call.symm.trans at_other
    intro w later _
    have kept : (Upkeep.prepared key claim.uid ds).Kept w := later.inv
    have yields : (Upkeep.prepared key claim.uid ds).Yields (.prepare p claim) ({ names }, s) := found
    exact (kept.leave takes yields).permits_of_kept

/-- What is prepared for a claim stays as it is while the claim is not given up. -/
theorem keeps_later (wellKeyed : w₀.WellKeyed) (reach : Reach (.ofRestarts key) (.idle w₀) m₁)
    {uid : ClaimUid} {ds : List PreparedDevice}
    (initial : (Upkeep.prepared key uid ds).discipline.Keeps (.ofUnreleased key uid)
      (fun op => op.takes = some key) m₁) (later : Reach (.ofUnreleased key uid) m₁ m) :
    (Upkeep.prepared key uid ds).discipline.Keeps (.ofUnreleased key uid)
      (fun op => op.takes = some key) m := by
  refine (Upkeep.discipline_governs (.ofRestarts key) (Upkeep.prepared_closed key uid ds)
    (Setting.ofUnreleased_fits key uid ds)).keeps_reach initial (fun before move call op caller => ?_) later
  have whole := (before.of_within (Setting.among_within ..)).extend_reach reach
  obtain ⟨may, allows⟩ := whole.mayCall_and_allows wellKeyed
    (move.of_within (Setting.among_within ..)) call op caller
  exact ⟨may, allows⟩

/-- While a claim is kept prepared, it is named again and again. -/
theorem calls_name_again (wellKeyed : w₀.WellKeyed) (down : w₀.plugins key = .down)
    (reach : Reach (.ofRestarts key) (.idle w₀) m₁)
    (at_call : m₁.calls call = some ⟨.prepare p claim, .done ({ names }, s)⟩)
    (later : Reach (.ofUnreleased key claim.uid) m₁ m) :
    ∀ other c, m.calls other = some c → c.NamesAgain claim.uid names := by
  have taken : p.key = key := reach.mayCall_of_call call _ at_call p.key rfl
  obtain ⟨ds, rfl, found, published⟩ := reach.exists_recorded wellKeyed down taken at_call
  have initial := reach.keeps_prepared wellKeyed down taken at_call found published
    (.ofUnreleased key claim.uid)
  have kept : ∀ {m}, Reach (.ofUnreleased key claim.uid) m₁ m →
      (Upkeep.prepared key claim.uid ds).Kept m.world :=
    fun later => (keeps_later wellKeyed reach initial later).inv
  refine later.forall_calls (P := fun _ c _ => c.NamesAgain claim.uid _)
    (fun other c at_other p' again rest at_c same => ?_)
    (fun before may _ begun => Call.namesAgain_program (kept before) may.1 begun)
    (fun before at_other _ answered again => again.of_answer (kept before) ?_ answered)
    fun _ _ _ _ again => again
  · -- The only call that has the plugin in hand at first is the one that is about to be over.
    subst at_c
    have own : p'.key = key := reach.mayCall_of_call other _ at_other p'.key rfl
    have inHand := initial.inHand call _ at_call
    obtain rfl := inHand.call_eq (initial.inHand other _ at_other) (congrArg some taken)
      (congrArg some own)
    cases at_call.symm.trans at_other
    exact .inr ⟨s, rfl⟩
  · exact ((before.of_within (Setting.among_within ..)).extend_reach reach).mayCall_of_call _ _ at_other

/-- A start with as many devices as ever before fails for none that is to be restored. -/
theorem start_finds_devices {count : Nat} {source : DeviceUuid} (wellKeyed : w₀.WellKeyed)
    (absent : w₀.record key = none) (down : w₀.plugins key = .down)
    (reach : Reach (.ofStarts key count) (.idle w₀) m) :
    m.calls call ≠ some ⟨.start p count, .done (.error (.deviceNotFound source))⟩ := by
  intro at_call
  have kept : (Upkeep.drawn key count).Kept w₀ := by
    refine ⟨fun s up => (by cases down.symm.trans up), fun known same => ?_⟩
    have none : w₀.published key = none := congrArg (Option.map _) absent
    cases none.symm.trans same
  have governs := Upkeep.discipline_governs (.ofStarts key count) (Upkeep.drawn_closed key count)
    (Setting.ofStarts_fits key count)
  have initial : (Upkeep.drawn key count).discipline.Keeps (.ofStarts key count)
      (fun op => op.takes = some key) (.idle w₀) := .idle wellKeyed kept
  have knows : ∀ {m m' e}, Reach (.ofStarts key count) (.idle w₀) m →
      Move (.ofStarts key count) e m m' → ∀ call op, e.caller? = some (call, op) →
      (∀ taken, op.takes = some taken → taken = key) ∧
        (DeviceClaims.ground (.ofStarts key count)).Allows call op m.world m'.world := by
    intro m m' e before move call op caller
    obtain ⟨may, allows⟩ := before.mayCall_and_allows wellKeyed move call op caller
    exact ⟨may.1, allows⟩
  have takes : (Operation.start p count).takes = some key :=
    congrArg some ((reach.mayCall_of_call call _ at_call).1 p.key rfl)
  have meets := governs.meets_of_call initial knows
    (fun call op w prog may takes _ kept begun => Upkeep.meets_program (Upkeep.drawn_closed key count)
      (Setting.ofStarts_fits key count) may takes kept begun _) reach at_call takes
  exact meets _ ((governs.keeps_reach initial knows reach).later_refl call) rfl source rfl

end Machine.Reach

/-- What is prepared stays so. Once the plugin has prepared a claim and named its devices, every call
to prepare the claim again, until it is given up, only reads the record and gives back the same names,
whatever is prepared or given up for other claims, allocated or taken back meanwhile, and however
often the plugin is started anew. And a start with as many devices as any before finds all devices
that are to be restored. Of runs in which a record is updated that has been written 2 ^ 64 times,
nothing is said (`World.Answers`). -/
theorem Machine.Reach.stays_prepared {key : ObjectKey} {w₀ : World} (wellKeyed : w₀.WellKeyed)
    (absent : w₀.record key = none) (down : w₀.plugins key = .down) :
    (∀ m₁ m call p claim names s, Reach (.ofRestarts key) (.idle w₀) m₁ →
      m₁.calls call = some ⟨.prepare p claim, .done ({ names }, s)⟩ →
      Reach (.ofUnreleased key claim.uid) m₁ m → ∀ other p' again rest, again.uid = claim.uid →
      m.calls other = some ⟨.prepare p' again, rest⟩ → p'.NamesAgain names rest) ∧
    ∀ count m, Reach (.ofStarts key count) (.idle w₀) m → ∀ call p source,
      m.calls call ≠ some ⟨.start p count, .done (.error (.deviceNotFound source))⟩ :=
  ⟨fun _ _ _ _ _ _ _ reach at_call later other p' again rest same at_other =>
    reach.calls_name_again wellKeyed down at_call later other _ at_other p' again rest rfl same,
    fun _ _ reach _ _ _ => reach.start_finds_devices wellKeyed absent down⟩

namespace Sharing

/-- The first claim is prepared; the call is not over yet. -/
def preparedOnce : List Turn :=
  offered ++ .ends 2 :: .begins 3 (.prepare plugin (use first)) :: List.replicate 4 (.goesOn 3)

/-- The plugin is started anew, and the call that does it is not over yet. -/
def startedAnew : List Turn :=
  .ends 3 :: .begins 4 (.start plugin 2) :: List.replicate 5 (.goesOn 4)

/-- Then the claim is prepared again. -/
def preparedAgain : List Turn :=
  startedAnew ++ [.ends 4, .begins 5 (.prepare plugin (use first)), .goesOn 5]

/-- What a call to prepare a claim comes to, once it is about to be over. -/
def prepares? (m : Machine) (call : Nat) : Option (NodeClaim × PrepareOutcome) :=
  match m.calls call with
  | some ⟨.prepare _ claim, .done (outcome, _)⟩ => some (claim, outcome)
  | _ => none

theorem at_prepares? {m : Machine} {call : Nat} {claim : NodeClaim} {outcome : PrepareOutcome}
    (found : prepares? m call = some (claim, outcome)) :
    ∃ p s, m.calls call = some ⟨.prepare p claim, .done (outcome, s)⟩ := by
  unfold prepares? at found
  split at found
  · next p claim' outcome' s at_call =>
    cases found
    exact ⟨p, s, at_call⟩
  · cases found

end Sharing

open Sharing in
/-- A claim is prepared, the plugin is started anew, and the claim is prepared again. -/
theorem Machine.Reach.stays_prepared_sharing :
    ∃ m₁ m p p' claim names s s', Reach (.ofRestarts plugin.key) (.idle {}) m₁ ∧
      m₁.calls 3 = some ⟨.prepare p claim, .done ({ names }, s)⟩ ∧ names.length = 2 ∧
      Reach (.ofUnreleased plugin.key claim.uid) m₁ m ∧
      m.calls 5 = some ⟨.prepare p' claim, .done ({ names }, s')⟩ := by
  have shown : ((play preparedOnce (.idle {})).any fun m₁ =>
      ((prepares? m₁ 3).any fun (claim, outcome) =>
        claim = use first ∧ outcome.failure = none ∧ outcome.names.length = 2) &&
      (play preparedAgain m₁).any fun m =>
        (prepares? m 5).any fun (claim, _) => claim = use first) = true := by decide +kernel
  obtain ⟨m₁, played, shown⟩ := (Option.any_eq_true ..).mp shown
  obtain ⟨shown₁, shown⟩ := Bool.and_eq_true_iff.mp shown
  obtain ⟨m, played', shown₂⟩ := (Option.any_eq_true ..).mp shown
  obtain ⟨⟨claim, outcome⟩, at_three, shown₁⟩ := (Option.any_eq_true ..).mp shown₁
  obtain ⟨⟨again, outcome'⟩, at_five, shown₂⟩ := (Option.any_eq_true ..).mp shown₂
  obtain ⟨rfl, unfailing, two⟩ := of_decide_eq_true shown₁
  obtain rfl := of_decide_eq_true shown₂
  obtain ⟨p, s, at_call⟩ := at_prepares? at_three
  obtain ⟨p', s', at_other⟩ := at_prepares? at_five
  obtain ⟨names, failure⟩ := outcome
  cases unfailing
  have reach := (play_reach (S := .ofRestarts plugin.key) (by
    simp [preparedOnce, offered, Turn.whole, or_imp, forall_and, Setting.ofRestarts, Setting.ofPlugin,
      Operation.takes]) (fun _ _ absent => by cases absent) .start played).1
  have later := (play_reach (S := .ofUnreleased plugin.key first) (by
    simp [preparedAgain, startedAnew, or_imp, forall_and, Setting.ofUnreleased, Setting.among,
      Setting.ofRestarts, Setting.ofPlugin, Operation.takes]) (fun _ _ _ _ => trivial) .start played').1
  have wellKeyed : ({} : World).WellKeyed := fun _ _ at_key => by cases at_key
  have again := (stays_prepared wellKeyed rfl rfl).1 m₁ m 3 p (use first) names s reach at_call later 5
    p' (use first) _ rfl at_other
  obtain ⟨_, same, _⟩ | ⟨s'', same⟩ := again
  · cases same
  · cases same
    exact ⟨m₁, m, p, p', _, names, s, s', reach, at_call, two, later, at_other⟩

end DeviceClaims
