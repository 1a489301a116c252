import DeviceClaims.Proofs.Machine.Calls
import DeviceClaims.Proofs.Prepared

namespace DeviceClaims

/-- What is left of a call that names devices that are prepared already: it reads the record, and if
it can, it gives these names back. -/
def Plugin.NamesAgain (p : Plugin) (names : List String) (rest : Prog (PrepareOutcome × DeviceState)) :
    Prop :=
  (∃ next, rest = .ask (.store (.get p.key)) next ∧ ∀ r, ∃ s, next (.ok r) = .done ({ names }, s)) ∨
    ∃ s, rest = .done ({ names }, s)

/-- A claim that is prepared is named as soon as the record is read. -/
theorem Plugin.namesAgain_prepare {p : Plugin} {claim : NodeClaim} {s : DeviceState}
    {names : List String} (named : s.claimNames? claim.uid = some names) :
    p.NamesAgain names (p.prepare claim s) := by
  refine .inl ⟨_, rfl, fun r => ⟨s, ?_⟩⟩
  simp only [Prog.bind, named]

/-- As long as there is a record, it can be read. -/
theorem Plugin.NamesAgain.of_answer {p : Plugin} {names : List String} {a : Access}
    {next : a.Answer → Prog (PrepareOutcome × DeviceState)} {answer : a.Answer} {faulty : Prop}
    {call : Nat} {op : Operation} {w w' : World} {r : NodeRecord}
    (again : p.NamesAgain names (.ask a next)) (at_key : w.record p.key = some r)
    (answers : w.Answers faulty call op a answer w') : p.NamesAgain names (next answer) := by
  obtain ⟨_, same, named⟩ | ⟨_, same⟩ := again
  · cases same
    cases answers with
    | store _ _ =>
      rw [World.record] at at_key
      simp only [MemoryStore.apply, MemoryStore.get, at_key]
      exact .inr (named r)
  · cases same

/-- The names that are given back are those of the devices that are prepared then. -/
def DeviceState.Named {ε : Type} (claim : ClaimUid) (result : Except ε (List String) × DeviceState) :
    Prop :=
  ∀ names, result.1 = .ok names → result.2.claimNames? claim = some names

theorem DeviceState.prepare_named (s : DeviceState) (claim : ClaimUid) (devices : List AllocatedDevice) :
    (s.prepare claim devices).Yields (Named claim) := by
  unfold prepare
  split
  · next names named =>
    rintro _ ⟨⟩
    exact named
  · split
    · exact fun _ no => by cases no
    · next ds _ =>
      intro answer
      cases answer with
      | error detail => exact fun _ no => by cases no
      | ok =>
        rintro _ ⟨⟩
        exact congrArg (Option.map names) (SortedMap.get?_insert_self s.prepared claim ds)

theorem Plugin.prepareClaim_named (p : Plugin) (claim : NodeClaim) (s : DeviceState) :
    (p.prepareClaim claim s).Yields (DeviceState.Named claim.uid) := by
  intro answer
  cases answer with
  | error e => exact fun _ no => by cases no
  | ok record =>
    simp only [Prog.bind]
    split
    · next names named =>
      rintro _ ⟨⟩
      exact named
    · refine Prog.Yields.bind (.of_forall (fun result => ?_) _)
      cases result with
      | error e => exact fun _ no => by cases no
      | ok devices =>
        refine Prog.Yields.bind ((s.prepare_named claim.uid devices).weaken fun result named => ?_)
        rcases result with ⟨e | names, s'⟩
        · exact fun _ no => by cases no
        · refine Prog.Yields.bind (.of_forall (fun result => ?_) _)
          cases result with
          | ok => exact named
          | error e => exact Prog.Yields.bind (.of_forall (fun _ _ no => by cases no) _)

/-- A successful preparation names the devices that the plugin then has prepared for the claim. -/
theorem Plugin.prepare_named (p : Plugin) (claim : NodeClaim) (s : DeviceState) :
    (p.prepare claim s).Yields fun result =>
      result.1.failure = none → result.2.claimNames? claim.uid = some result.1.names := by
  refine Prog.Yields.bind ((p.prepareClaim_named claim s).weaken fun result named => ?_)
  rcases result with ⟨e | names, s'⟩
  · exact fun no => by cases no
  · exact fun _ => named names rfl

/-- A call that prepares a claim without a failure names the devices that are prepared for it then. -/
def Operation.Names : (op : Operation) → op.Result → Prop
  | .prepare _ claim, result =>
    result.1.failure = none → result.2.claimNames? claim.uid = some result.1.names
  | .filter .., _ | .allocate .., _ | .deallocate .., _ | .start .., _ | .unprepare .., _
  | .shutdown _, _ | .setStatus .., _ => True

/-- The program of every call names what it should in the end. -/
theorem Operation.program_names (op : Operation) (w : World) (prog : Prog op.Result)
    (begun : op.program w = some prog) : prog.Yields op.Names := by
  cases op with
  | prepare p claim =>
    simp only [program] at begun
    split at begun <;> cases begun
    exact p.prepare_named claim _
  | _ => exact .of_forall (fun _ => trivial) prog

end DeviceClaims
