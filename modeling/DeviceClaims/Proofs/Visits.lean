import DeviceClaims.Pending.Visit
import DeviceClaims.Proofs.Course.Alone
import DeviceClaims.Proofs.Reservations

namespace DeviceClaims

/-- Devices that are set aside for a claim on a node are taken away. -/
def Access.Removes (claim : ClaimUid) (node : String) : Access → Prop
  | .pending a => a.Settles claim node ∧ a.left = none
  | _ => False

theorem Site.Answers.contains_of_stays {site site' : Site} {a : Access} {answer : a.Answer} {claim : ClaimUid}
    {node : String} (answers : site.Answers a answer site') (stays : ¬ a.Removes claim node)
    (present : site.pending.contains claim node) : site'.pending.contains claim node := by
  cases answers with
  | claims | pairs => exact present
  | given a =>
    cases a with
    | pending a =>
      change ((site.pending.apply a).2.get? claim node).isSome = true
      rw [PendingTracker.get?_apply]
      split
      · next settles => exact Option.isSome_iff_ne_none.mpr fun gone => stays ⟨settles, gone⟩
      · exact present
    | store | spec | lock | unlock | sleep => exact present

namespace PendingTracker

variable {t : PendingTracker} {claim : ClaimUid} {node : String}

/-- The pairs of a tracker are those of a claim and a node that have devices set aside. -/
theorem mem_pairs_iff : (claim, node) ∈ t.pairs ↔ t.contains claim node := by
  rw [contains_iff, pairs, List.mem_flatMap]
  constructor
  · rintro ⟨⟨claim', nodes⟩, entry, member⟩
    obtain ⟨node', listed, same⟩ := List.mem_map.mp member
    cases same
    obtain ⟨devices, found⟩ := SortedMap.mem_keys_iff.mp listed
    exact ⟨devices, by rw [get?, SortedMap.mem_entries_iff.mp entry, Option.bind_some, found]⟩
  · rintro ⟨devices, found⟩
    obtain ⟨nodes, at_claim, at_node⟩ := Option.bind_eq_some_iff.mp found
    exact ⟨(claim, nodes), SortedMap.mem_entries_iff.mpr at_claim,
      List.mem_map_of_mem (SortedMap.mem_keys_iff.mpr ⟨devices, at_node⟩)⟩

theorem nodup_pairs (t : PendingTracker) : t.pairs.Nodup := by
  refine List.nodup_flatMap.mpr ⟨fun e _ => ?_, t.claims.sorted.imp fun {e e'} apart => ?_⟩
  · exact (SortedMap.nodup_keys e.2).map fun _ _ same => (Prod.mk.inj same).2
  · rintro ⟨claim, node⟩ member member'
    obtain ⟨_, _, same⟩ := List.mem_map.mp member
    obtain ⟨_, _, same'⟩ := List.mem_map.mp member'
    exact KeyOrder.ne_of_lt apart ((Prod.mk.inj same).1.trans (Prod.mk.inj same').1.symm)

theorem mem_keys_of_contains (present : t.contains claim node) : claim ∈ t.claims.keys := by
  by_contra absent
  rw [contains, get?_of_not_mem absent] at present
  cases present

end PendingTracker

namespace Prog

variable {α : Type}

/-- A program asks nothing but the tracker. -/
inductive OnTracker : Prog α → Prop
  | done (a : α) : OnTracker (.done a)
  | ask (a : PendingAccess) {next : a.Answer → Prog α} (rest : ∀ answer, OnTracker (next answer)) :
      OnTracker (.ask (.pending a) next)

/-- Alone, a program on the tracker stops, and it has taken a course of its own. -/
theorem OnTracker.always_course {p : Prog α} (on : p.OnTracker) (earlier : List (Step Site)) (site : Site) :
    p.Always .alone (fun all a site' => ∃ steps, all = earlier ++ steps ∧
      Course .alone p site steps a site') (fun _ _ => False) earlier site := by
  induction on generalizing earlier site with
  | done a => exact ⟨[], (List.append_nil _).symm, .done a site⟩
  | ask a _ ih =>
    refine .ask (fun _ _ => .inr ⟨_, _, .given _⟩) fun site₁ same answer site₂ answers => ?_
    cases same
    refine (ih answer _ site₂).weaken fun all value site' reached => ?_
    obtain ⟨steps, rfl, course⟩ := reached
    exact ⟨_, List.append_assoc .., .ask rfl answers course⟩

theorem Always.pendingGet_alone {claim : ClaimUid} {node : String}
    {next : Option (List AllocatedDevice) → Prog α} {post : List (Step Site) → α → Site → Prop}
    {crashed : List (Step Site) → Site → Prop} {earlier : List (Step Site)} {site : Site}
    (read : (next (site.pending.get? claim node)).Always .alone post crashed
      (earlier ++ [⟨site, .pending (.get claim node), site.pending.get? claim node, site⟩]) site) :
    (Prog.ask (.pending (.get claim node)) next).Always .alone post crashed earlier site := by
  refine .ask (fun _ _ => .inr ⟨_, _, .given _⟩) fun site₁ same answer site₂ answers => ?_
  cases same
  cases answers with
  | given _ => exact read

theorem Course.contains_of_stays {p : Prog α} {site site' : Site} {steps : List (Step Site)} {value : α}
    {claim : ClaimUid} {node : String} (course : Course .alone p site steps value site')
    (stays : ∀ step ∈ steps, ¬ step.access.Removes claim node)
    (present : site.pending.contains claim node) : site'.pending.contains claim node := by
  induction course with
  | done => exact present
  | ask between answered _ ih =>
    cases between
    exact ih (fun step later => stays step (List.mem_cons_of_mem _ later))
      (answered.contains_of_stays (stays _ List.mem_cons_self) present)

end Prog

namespace PendingClient

variable {σ : Type}

/-- The turn of a pair in a walk: what is passed to the visitor if it is called, what the visitor had
gathered before and has gathered then, and what it did. -/
structure Turn (σ : Type) where
  claim : ClaimUid
  node : String
  passed : Option (List AllocatedDevice)
  told : σ
  before : Site
  steps : List (Step Site)
  gathered : σ
  after : Site

namespace Turn

def pair (t : Turn σ) : ClaimUid × String := (t.claim, t.node)

/-- The access with which a turn begins. -/
def look (t : Turn σ) : Step Site := ⟨t.before, .pending (.get t.claim t.node), t.passed, t.before⟩

/-- The visitor is called just with the devices that are set aside at the moment. -/
structure Taken (visit : Visitor σ) (t : Turn σ) : Prop where
  fresh : t.passed = t.before.pending.get? t.claim t.node
  called : ∀ devices, t.passed = some devices →
    Prog.Course .alone (visit t.told t.claim t.node devices) t.before t.steps t.gathered t.after
  skipped : t.passed = none → t.steps = [] ∧ t.gathered = t.told ∧ t.after = t.before

/-- The turns in which the visitor is called. -/
def visits (turns : List (Turn σ)) : List (Turn σ) := turns.filter (·.passed.isSome)

theorem Taken.contains_of_stays {visit : Visitor σ} {t : Turn σ} (taken : t.Taken visit) {claim : ClaimUid}
    {node : String} (stays : ∀ step ∈ t.steps, ¬ step.access.Removes claim node)
    (present : t.before.pending.contains claim node) : t.after.pending.contains claim node := by
  cases passed : t.passed with
  | some devices => exact (taken.called devices passed).contains_of_stays stays present
  | none => rwa [(taken.skipped passed).2.2]

end Turn

/-- Turns that follow one another. -/
inductive Turns (visit : Visitor σ) : σ → Site → List (Turn σ) → σ → Site → Prop
  | nil (s : σ) (site : Site) : Turns visit s site [] s site
  | cons (t : Turn σ) {turns : List (Turn σ)} {s' : σ} {site' : Site} (taken : t.Taken visit)
      (rest : Turns visit t.gathered t.after turns s' site') :
      Turns visit t.told t.before (t :: turns) s' site'

namespace Turns

variable {visit : Visitor σ} {s s' : σ} {site site' : Site} {turns : List (Turn σ)}

theorem forall_taken (all : Turns visit s site turns s' site') : ∀ t ∈ turns, t.Taken visit := by
  induction all with
  | nil => nofun
  | cons t taken _ ih => exact List.forall_mem_cons.mpr ⟨taken, ih⟩

theorem until_turn {earlier later : List (Turn σ)} {t : Turn σ}
    (all : Turns visit s site (earlier ++ t :: later) s' site') :
    Turns visit s site earlier t.told t.before := by
  induction earlier generalizing s site with
  | nil =>
    cases all
    exact .nil ..
  | cons e earlier ih =>
    cases all with
    | cons _ taken rest => exact .cons e taken (ih rest)

/-- What no turn takes away stays set aside over the walk. -/
theorem contains_of_stays {claim : ClaimUid} {node : String} (all : Turns visit s site turns s' site')
    (stays : ∀ t ∈ turns, ∀ step ∈ t.steps, ¬ step.access.Removes claim node)
    (present : site.pending.contains claim node) : site'.pending.contains claim node := by
  induction all with
  | nil => exact present
  | cons t taken _ ih =>
    obtain ⟨first, rest⟩ := List.forall_mem_cons.mp stays
    exact ih rest (taken.contains_of_stays first present)

end Turns

/-- A walk over pairs gives each of them its turn, in their order. -/
theorem visitPairs_turns {visit : Visitor σ}
    (on : ∀ s claim node devices, (visit s claim node devices).OnTracker)
    (pairs : List (ClaimUid × String)) (s : σ) (site : Site) (earlier : List (Step Site)) :
    (visitPairs visit pairs s).Always .alone (fun all s' site' => ∃ turns : List (Turn σ),
      all = earlier ++ turns.flatMap (fun t => t.look :: t.steps) ∧ turns.map Turn.pair = pairs ∧
        Turns visit s site turns s' site') (fun _ _ => False) earlier site := by
  induction pairs generalizing s site earlier with
  | nil => exact ⟨[], (List.append_nil _).symm, rfl, .nil s site⟩
  | cons pair rest ih =>
    obtain ⟨claim, node⟩ := pair
    refine .pendingGet_alone ?_
    cases found : site.pending.get? claim node with
    | none =>
      refine (ih s site _).weaken fun all s' site' reached => ?_
      obtain ⟨turns, rfl, rfl, follow⟩ := reached
      let t : Turn σ := ⟨claim, node, none, s, site, [], s, site⟩
      have taken : t.Taken visit := ⟨found.symm, nofun, fun _ => ⟨rfl, rfl, rfl⟩⟩
      exact ⟨t :: turns, List.append_assoc .., rfl, .cons t taken follow⟩
    | some devices =>
      change ((visit s claim node devices).bind (visitPairs visit rest)).Always _ _ _ _ _
      refine .bind (((on s claim node devices).always_course _ site).weaken fun all s₁ site₁ reached => ?_)
      obtain ⟨steps, rfl, course⟩ := reached
      refine (ih s₁ site₁ _).weaken fun all s' site' reached => ?_
      obtain ⟨turns, rfl, rfl, follow⟩ := reached
      let t : Turn σ := ⟨claim, node, some devices, s, site, steps, s₁, site₁⟩
      have taken : t.Taken visit := ⟨found.symm, by rintro _ ⟨⟩; exact course, nofun⟩
      refine ⟨t :: turns, ?_, rfl, .cons t taken follow⟩
      simp only [List.flatMap_cons, List.append_assoc, List.cons_append, List.nil_append]
      rfl

/-- What a walk is over: what is set aside on one node, or anywhere. -/
inductive Scope
  | node (node : String)
  | all

namespace Scope

/-- The keys that a walk goes by: all claims with the node, or all pairs. -/
def keys (t : PendingTracker) : Scope → List (ClaimUid × String)
  | node place => t.claims.keys.map (·, place)
  | all => t.pairs

def Covers (place : String) : Scope → Prop
  | node place' => place = place'
  | all => True

def walk (visit : Visitor σ) (s : σ) : Scope → Prog σ
  | node place => visitNode place visit s
  | all => visitAll visit s

theorem nodup_keys (t : PendingTracker) (scope : Scope) : (scope.keys t).Nodup := by
  cases scope with
  | node => exact (SortedMap.nodup_keys _).map fun _ _ same => (Prod.mk.inj same).1
  | all => exact t.nodup_pairs

/-- A walk goes by every key that is there at first and within its scope. -/
theorem mem_keys {t : PendingTracker} {scope : Scope} {claim : ClaimUid} {place : String}
    (covers : scope.Covers place) (present : t.contains claim place) : (claim, place) ∈ scope.keys t := by
  cases scope with
  | node =>
    cases covers
    exact List.mem_map_of_mem (PendingTracker.mem_keys_of_contains present)
  | all => exact PendingTracker.mem_pairs_iff.mpr present

/-- However the tracker lists its keys, a walk goes by them. -/
theorem walk_always {visit : Visitor σ} {scope : Scope} {s : σ} {site : Site}
    {post : List (Step Site) → σ → Site → Prop}
    (goes : ∀ listing : Step Site, listing.before = site → listing.after = site →
      ∀ keys : List (ClaimUid × String), keys.Perm (scope.keys site.pending) →
        (visitPairs visit keys s).Always .alone post (fun _ _ => False) [listing] site) :
    (scope.walk visit s).Always .alone post (fun _ _ => False) [] site := by
  cases scope with
  | node place =>
    refine .ask (fun _ _ => .inr ⟨_, _, .given _⟩) fun site₁ same answer site₂ answers => ?_
    cases same
    cases answers with
    | given _ => exact goes _ rfl rfl _ (.refl _)
    | claims l same => exact goes _ rfl rfl _ (same.map _)
  | all =>
    refine .ask (fun _ _ => .inr ⟨_, _, .given _⟩) fun site₁ same answer site₂ answers => ?_
    cases same
    cases answers with
    | given _ => exact goes _ rfl rfl _ (.refl _)
    | pairs l same => exact goes _ rfl rfl _ same

end Scope

/-- What a walk comes to by some steps: after the keys were listed, every key that there was has one turn,
and the visitor is called at those turns at which something is set aside. -/
structure Walk (visit : Visitor σ) (scope : Scope) (s : σ) (site : Site) (steps : List (Step Site))
    (turns : List (Turn σ)) (s' : σ) (site' : Site) : Prop where
  follow : Turns visit s site turns s' site'
  steps : ∃ listing : Step Site, listing.before = site ∧ listing.after = site ∧
    steps = listing :: turns.flatMap fun t => t.look :: t.steps
  order : (turns.map Turn.pair).Perm (scope.keys site.pending)
  few : (Turn.visits turns).length ≤ (scope.keys site.pending).length
  once : ((Turn.visits turns).map Turn.pair).Nodup
  fresh : ∀ t ∈ turns, t.passed = t.before.pending.get? t.claim t.node
  known : ∀ t ∈ Turn.visits turns, t.pair ∈ scope.keys site.pending
  kept : ∀ claim node, scope.Covers node → site.pending.contains claim node →
    ∃ earlier t later, turns = earlier ++ t :: later ∧ t.pair = (claim, node) ∧
      ((∀ e ∈ earlier, ∀ step ∈ e.steps, ¬ step.access.Removes claim node) →
        ((Turn.visits turns).map Turn.pair).count (claim, node) = 1)

/-- A visitor may change the tracker as it likes: whatever is set aside and in whatever order the tracker
lists its keys, a walk comes to an end. It calls the visitor at most as often as there were keys and for
none of them twice, each time with the devices that are set aside then, for no key that there was not at
first, and for every key that the visitor has not taken away before its turn. -/
theorem Scope.walk_calls {visit : Visitor σ}
    (on : ∀ s claim node devices, (visit s claim node devices).OnTracker) (scope : Scope) (s : σ)
    (site : Site) :
    (scope.walk visit s).Always .alone (fun steps s' site' => ∃ turns,
      Walk visit scope s site steps turns s' site') (fun _ _ => False) [] site := by
  refine walk_always fun listing starts ends keys perm => ?_
  refine (visitPairs_turns on keys s site [listing]).weaken fun steps s' site' reached => ?_
  obtain ⟨turns, rfl, rfl, follow⟩ := reached
  have once : (turns.map Turn.pair).Nodup := perm.nodup_iff.mpr (scope.nodup_keys _)
  have among : (Turn.visits turns).Sublist turns := List.filter_sublist
  have once' : ((Turn.visits turns).map Turn.pair).Nodup := once.sublist (among.map _)
  refine ⟨turns, follow, ⟨listing, starts, ends, rfl⟩, perm, ?_, once', fun t member =>
    (follow.forall_taken t member).fresh, fun t member => ?_, fun claim node covers present => ?_⟩
  · rw [← perm.length_eq, List.length_map]
    exact among.length_le
  · exact perm.subset (List.mem_map_of_mem (among.subset member))
  · obtain ⟨t, member, same⟩ := List.mem_map.mp (perm.symm.subset (scope.mem_keys covers present))
    obtain ⟨earlier, later, split⟩ := List.append_of_mem member
    refine ⟨earlier, t, later, split, same, fun stays => ?_⟩
    subst split
    -- The entry is still there when its turn comes, so that the visitor is called.
    have still := follow.until_turn.contains_of_stays stays present
    obtain ⟨rfl, rfl⟩ := Prod.mk.inj same
    have passed : t.passed.isSome := (follow.forall_taken t member).fresh ▸ still
    exact List.count_eq_one_of_mem once'
      (List.mem_map_of_mem (List.mem_filter.mpr ⟨member, passed⟩))

namespace Errand

def claim (n : UInt8) : ClaimUid := ⟨.filled n⟩

def site : Site where
  store := { inner := .memory {} }
  pending := (PendingTracker.set {} (claim 1) "node" []).set (claim 2) "node" []

def visit : Visitor (List ClaimUid) := fun seen visited node devices =>
  (remove (claim 2)).bind fun _ => (set (claim 3) node devices).bind fun _ => .done (seen ++ [visited])

theorem visit_onTracker (seen : List ClaimUid) (visited : ClaimUid) (node : String)
    (devices : List AllocatedDevice) : (visit seen visited node devices).OnTracker :=
  .ask (.remove (claim 2)) fun _ => .ask (.set (claim 3) node devices) fun _ => .done _

end Errand

open Errand in
/-- A visitor forgets the second of two claims and sets devices aside for a third one. -/
theorem Scope.walk_calls_errand :
    (∀ seen visited node devices, (visit seen visited node devices).OnTracker) ∧
      ∃ steps turns site', Prog.Course .alone ((Scope.node "node").walk visit []) site steps [claim 1] site' ∧
        Walk visit (.node "node") [] site steps turns [claim 1] site' ∧
        site'.pending.contains (claim 3) "node" := by
  have shown : (((Scope.node "node").walk visit []).follow (fun a s => some (Site.answer a s)) site).any
      (fun (_, seen, site') =>
        decide (seen = [claim 1]) && site'.pending.contains (claim 3) "node") = true := by
    decide +kernel
  obtain ⟨⟨steps, seen, site'⟩, followed, shown⟩ := (Option.any_eq_true _ _).mp shown
  obtain ⟨only, added⟩ := Bool.and_eq_true_iff.mp shown
  obtain rfl := of_decide_eq_true only
  have course := Prog.Alone.course_alone followed
  obtain ⟨turns, walk⟩ := (Scope.walk_calls visit_onTracker (.node "node") [] site).post_of_course course
  exact ⟨visit_onTracker, steps, turns, site', course, walk, added⟩

end PendingClient

end DeviceClaims
