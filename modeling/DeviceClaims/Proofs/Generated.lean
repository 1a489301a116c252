import DeviceClaims.Controller.Basic
import DeviceClaims.Controller.Parameters
import DeviceClaims.Proofs.Structured
import Mathlib.Data.List.Dedup
import Mathlib.Data.List.Induction

namespace DeviceClaims

/-- In a map whose values carry their keys, just the value at a key has it. -/
theorem SortedMap.filter_values {κ α : Type} [KeyOrder κ] [DecidableEq κ] {m : SortedMap κ α} {code : α → κ}
    (keyed : ∀ k v, m.get? k = some v → code v = k) (k : κ) :
    m.values.filter (code · = k) = (m.get? k).toList := by
  obtain ⟨entries, sorted⟩ := m
  replace keyed : ∀ e ∈ entries, code e.2 = e.1 := fun e member => keyed _ _ (mem_entries_iff.mp member)
  show (entries.map (·.2)).filter (code · = k) = (lookup k entries).toList
  induction entries with
  | nil => rfl
  | cons e rest ih =>
    obtain ⟨above, sorted⟩ := List.pairwise_cons.mp sorted
    have later := ih sorted fun e member => keyed e (List.mem_cons_of_mem _ member)
    have here := keyed e List.mem_cons_self
    rw [List.map_cons, lookup, List.filter_cons]
    by_cases same : e.1 = k
    · have gone : lookup k rest = none := lookup_eq_none fun e' member => same ▸ above e' member
      rw [if_pos (decide_eq_true (here.trans same)), later, gone, if_pos same]
      rfl
    · rw [if_neg (by simpa [here] using same), later, if_neg same]

namespace KeyOrder

/-- Values by their keys, and those with the same key as they come. -/
def sortBy {κ α : Type} [KeyOrder κ] (code : α → κ) (l : List α) : List α :=
  l.mergeSort fun a b => decide (¬ code b < code a)

/-- Values in the strict order of their keys are what sorting makes of them in whatever order they come. -/
theorem sortBy_of_perm {κ α : Type} [KeyOrder κ] (code : α → κ) {l l' : List α}
    (strict : l.Pairwise fun a b => code a < code b) (perm : l'.Perm l) : sortBy code l' = l := by
  have trans : ∀ a b c : α, decide (¬ code b < code a) = true → decide (¬ code c < code b) = true →
      decide (¬ code c < code a) = true := by
    intro a b c ab bc
    simp only [decide_eq_true_eq] at ab bc ⊢
    intro ca
    rcases lt_or_eq_or_gt (code b) (code c) with less | same | more
    · exact ab (lt_trans less ca)
    · exact ab (same ▸ ca)
    · exact bc more
  have total : ∀ a b : α, (decide (¬ code b < code a) || decide (¬ code a < code b)) = true := by
    intro a b
    by_cases less : code b < code a
    · simp [not_lt_of_lt less]
    · simp [less]
  have sorted := List.pairwise_mergeSort trans total l'
  have same : (l'.mergeSort fun a b => decide (¬ code b < code a)).Perm l := (List.mergeSort_perm _ _).trans perm
  refine List.Perm.eq_of_pairwise ?_ sorted (strict.imp fun less => decide_eq_true (not_lt_of_lt less)) same
  intro a b at_a at_b ab ba
  have equal : code a = code b := by
    rcases lt_or_eq_or_gt (code a) (code b) with less | same | more
    · exact absurd less (of_decide_eq_true ba)
    · exact same
    · exact absurd more (of_decide_eq_true ab)
  have apart : (l.map code).Nodup := List.pairwise_map.mpr (strict.imp ne_of_lt)
  exact List.inj_on_of_nodup_map apart (same.mem_iff.mp at_a) at_b equal

end KeyOrder

namespace ClaimParametersObject

/-- The objects among some that have a key. -/
def withKey (ps : List ClaimParametersObject) (key : ObjectKey) : List ClaimParametersObject :=
  ps.filter (·.metadata.key = key)

/-- The structured parameters of an object at a version. -/
def structuredAt (p : ClaimParametersObject) (version : UInt64) : StructuredParameters :=
  { p.structured with metadata := { p.structured.metadata with version := version } }

/-- An object with the key of the one before it leaves the name and the namespace of what was made. -/
theorem structuredAt_of_before {p before : ClaimParametersObject} (same : before.metadata.key = p.metadata.key)
    (version : UInt64) :
    { p.structured with
      metadata := { (before.structuredAt version).metadata with version := version + 1 } } =
    p.structuredAt (version + 1) := by
  have name : before.metadata.name = p.metadata.name := congrArg ObjectKey.name same
  have space : before.metadata.space = p.metadata.space := congrArg ObjectKey.space same
  have kept : { (before.structuredAt version).metadata with version := version + 1 } =
      (p.structuredAt (version + 1)).metadata := by
    show ObjectMeta.mk ("resource-claim-parameters-" ++ before.metadata.name) before.metadata.space _ = _
    rw [name, space]
    rfl
  rw [kept]
  rfl

theorem withKey_concat (ps : List ClaimParametersObject) (p : ClaimParametersObject) (key : ObjectKey) :
    withKey (ps ++ [p]) key = if p.metadata.key = key then withKey ps key ++ [p] else withKey ps key := by
  by_cases same : p.metadata.key = key <;> simp [withKey, same]

theorem key_of_getLast?_withKey {ps : List ClaimParametersObject} {key : ObjectKey} {p : ClaimParametersObject}
    (last : (withKey ps key).getLast? = some p) : p.metadata.key = key :=
  of_decide_eq_true (List.mem_filter.mp (List.mem_of_getLast? last)).2

end ClaimParametersObject

open ClaimParametersObject (withKey)

/-- Structured parameters that are made of an object and have been written so many times. -/
structure StructuredParameters.MadeOf (o : StructuredParameters) (p : ClaimParametersObject) (times : Nat) :
    Prop where
  name : o.metadata.name = "resource-claim-parameters-" ++ p.metadata.name
  space : o.metadata.space = p.metadata.space
  version : o.metadata.version = .ofNat times
  source : o.generatedFrom = ⟨driverName, ClaimParameters.kind, p.metadata.name⟩
  shared : o.shareable = true
  /-- One driver is asked for as many devices as the object counts, at least one, and all by its selector. -/
  requests : ∃ vendor : FreeForm, o.driverRequests = [⟨driverName, vendor,
    List.replicate (max p.spec.count.toNat 1) p.spec.selectorExpression⟩] ∧
    ClaimParameters.decodeSpec.ofValue vendor.json = .ok p.spec

/-- What is made of an object under a version is made of it so many times. -/
theorem ClaimParametersObject.madeOf_structuredAt (p : ClaimParametersObject) (times : Nat) :
    (p.structuredAt (.ofNat times)).MadeOf p times :=
  ⟨rfl, rfl, rfl, rfl, rfl, _, rfl, p.spec.ofValue_vendorForm⟩

namespace Registry

/-- Makes structured parameters of objects, one after the other. -/
def putAll (r : Registry) (ps : List ClaimParametersObject) : Registry := ps.foldl (fun r p => (r.put p).2) r

/-- What is listed of entries that come in some order. -/
def listing (entries : List (ObjectKey × StructuredParameters)) (space : Option String) :
    List StructuredParameters :=
  KeyOrder.sortBy (·.metadata.key) ((entries.filter fun e => space.all (e.1.space = ·)).map (·.2))

/-- The registry has, for every key among the objects, what is made of the last of them that has it, and
nothing else. -/
structure Follows (r : Registry) (ps : List ClaimParametersObject) (times : ObjectKey → Nat) : Prop where
  found : ∀ key p, (withKey ps key).getLast? = some p →
    ∃ o, r.get? key.space ⟨driverName, ClaimParameters.kind, key.name⟩ = some o ∧ o.MadeOf p (times key)
  absent : ∀ space (source : GeneratedFrom), withKey ps ⟨space, source.name⟩ = [] ∨
    source.apiGroup ≠ driverName ∨ source.kind ≠ ClaimParameters.kind → r.get? space source = none
  mem_list : ∀ o, o ∈ r.list none ↔ ∃ space source, r.get? space source = some o
  ascending : (r.list none).Pairwise fun a b => a.metadata.key < b.metadata.key
  restricted : ∀ space, r.list (some space) = (r.list none).filter (·.metadata.space = space)
  /-- A listing does not depend on the order in which the entries are gone through. -/
  unordered : ∀ entries space, entries.Perm r.objects.entries → listing entries space = r.list space
  size : r.size = (ps.map (·.metadata.key)).dedup.length

/-- A put changes what is stored under its own key only. -/
theorem get?_put (r : Registry) (p : ClaimParametersObject) (key : ObjectKey) :
    (r.put p).2.objects.get? key =
      if p.metadata.key = key then some (r.put p).1 else r.objects.get? key := by
  rw [put, SortedMap.get?_insert]
  split <;> rfl

/-- Each object counts until one with its key comes. -/
theorem get?_putAll (ps : List ClaimParametersObject) (key : ObjectKey) :
    (putAll {} ps).objects.get? key =
      (withKey ps key).getLast?.map (·.structuredAt (.ofNat (withKey ps key).length)) := by
  induction ps using List.reverseRecOn with
  | nil => rfl
  | append_singleton ps p ih =>
    rw [putAll, List.foldl_append, List.foldl_cons, List.foldl_nil, get?_put, ClaimParametersObject.withKey_concat]
    by_cases same : p.metadata.key = key
    · subst same
      rw [if_pos rfl, if_pos rfl, List.getLast?_concat, List.length_append, List.length_singleton,
        Option.map_some, put]
      have known := ih
      rw [putAll] at known
      cases last : (withKey ps p.metadata.key).getLast? with
      | none =>
        rw [last, Option.map_none] at known
        rw [known, List.getLast?_eq_none_iff.mp last]
        rfl
      | some before =>
        rw [last, Option.map_some] at known
        rw [known, UInt64.ofNat_add]
        exact congrArg some (ClaimParametersObject.structuredAt_of_before
          (ClaimParametersObject.key_of_getLast?_withKey last) _)
    · rw [if_neg same, if_neg same]
      exact ih

theorem list_none (r : Registry) : r.list none = r.objects.entries.map (·.2) := by
  rw [list, List.filter_eq_self.mpr]
  exact fun _ _ => rfl

section

variable {r : Registry} {ps : List ClaimParametersObject} {times : ObjectKey → Nat}
  (kept : ∀ key, r.objects.get? key = (withKey ps key).getLast?.map (·.structuredAt (.ofNat (times key))))

include kept

/-- What is stored under a key names the key's namespace, and its name after the common beginning. -/
theorem metadata_of_get? {key : ObjectKey} {o : StructuredParameters} (stored : r.objects.get? key = some o) :
    o.metadata.space = key.space ∧ o.metadata.name = "resource-claim-parameters-" ++ key.name := by
  rw [kept] at stored
  obtain ⟨p, last, rfl⟩ := Option.map_eq_some_iff.mp stored
  have same := ClaimParametersObject.key_of_getLast?_withKey last
  exact ⟨congrArg ObjectKey.space same, congrArg (fun key : ObjectKey => _ ++ key.name) same⟩

theorem ascending_of_kept : (r.list none).Pairwise fun a b => a.metadata.key < b.metadata.key := by
  rw [list_none, List.pairwise_map]
  refine r.objects.sorted.imp_of_mem fun {a b} at_a at_b less => ?_
  obtain ⟨space, name⟩ := metadata_of_get? kept (SortedMap.mem_entries_iff.mp at_a)
  obtain ⟨space', name'⟩ := metadata_of_get? kept (SortedMap.mem_entries_iff.mp at_b)
  show [a.2.metadata.space, a.2.metadata.name] < [b.2.metadata.space, b.2.metadata.name]
  rw [space, space', name, name']
  refine List.cons_lt_cons_iff.mpr ((List.cons_lt_cons_iff.mp less).imp_right (And.imp_right fun tail => ?_))
  refine List.cons_lt_cons_iff.mpr ((List.cons_lt_cons_iff.mp tail).imp (fun below => ?_) fun no => ?_)
  · rw [String.lt_iff, String.toList_append, String.toList_append]
    exact List.append_left_lt (String.lt_iff.mp below)
  · exact absurd no.2 (List.lt_irrefl _)

theorem list_some (space : String) :
    r.list (some space) = (r.list none).filter (·.metadata.space = space) := by
  rw [list_none, list, List.filter_map]
  congr 1
  refine List.filter_congr fun e member => ?_
  obtain ⟨same, -⟩ := metadata_of_get? kept (SortedMap.mem_entries_iff.mp member)
  rw [Function.comp_apply, same]
  rfl

/-- There is something under a key if and only if an object with the key was put. -/
theorem mem_keys_iff (key : ObjectKey) : key ∈ r.objects.keys ↔ ∃ p ∈ ps, p.metadata.key = key := by
  rw [SortedMap.mem_keys_iff, kept]
  constructor
  · rintro ⟨o, made⟩
    obtain ⟨p, last, -⟩ := Option.map_eq_some_iff.mp made
    have member := List.mem_filter.mp (List.mem_of_getLast? last)
    exact ⟨p, member.1, of_decide_eq_true member.2⟩
  · rintro ⟨p, member, same⟩
    have among : p ∈ withKey ps key := List.mem_filter.mpr ⟨member, decide_eq_true same⟩
    rw [List.getLast?_eq_some_getLast (List.ne_nil_of_mem among)]
    exact ⟨_, rfl⟩

/-- A registry that keeps the latest of each key follows what was put. -/
theorem follows_of_kept : r.Follows ps times := by
  refine ⟨?found, ?absent, ?mem_list, ascending_of_kept kept, list_some kept, ?unordered, ?size⟩
  case found =>
    intro key p last
    refine ⟨p.structuredAt (.ofNat (times key)), ?_, p.madeOf_structuredAt _⟩
    rw [get?, if_pos ⟨rfl, rfl⟩, kept, last]
    rfl
  case absent =>
    intro space source missing
    rw [get?]
    split
    · next ours =>
      have none := missing.resolve_right fun other => other.elim (absurd ours.1) (absurd ours.2)
      rw [kept, none]
      rfl
    · rfl
  case mem_list =>
    intro o
    rw [list_none, ← SortedMap.values, SortedMap.mem_values_iff]
    constructor
    · rintro ⟨key, stored⟩
      exact ⟨key.space, ⟨driverName, ClaimParameters.kind, key.name⟩, (if_pos ⟨rfl, rfl⟩).trans stored⟩
    · rintro ⟨space, source, stored⟩
      rw [get?] at stored
      split at stored
      · exact ⟨_, stored⟩
      · cases stored
  case unordered =>
    intro entries space perm
    refine KeyOrder.sortBy_of_perm _ ?_ ((perm.filter _).map _)
    cases space with
    | none => exact ascending_of_kept kept
    | some space => exact list_some kept space ▸ (ascending_of_kept kept).filter _
  case size =>
    have same : ∀ key, key ∈ r.objects.keys ↔ key ∈ (ps.map (·.metadata.key)).dedup := by
      intro key
      rw [mem_keys_iff kept, List.mem_dedup, List.mem_map]
    rw [← ((List.perm_ext_iff_of_nodup r.objects.nodup_keys (List.nodup_dedup _)).mpr same).length_eq,
      SortedMap.length_keys]
    rfl

end

end Registry

namespace ParametersStore

open ClaimParametersObject

/-- Of the claims' parameters in a file the last with a key is stored. -/
theorem get?_ofFile (f : ParametersFile) (key : ObjectKey) :
    (ofFile f).claims.get? key = (withKey f.claims key).getLast? := by
  have none : ∀ l : List ClassParametersObject, (l.foldl putClass {}).claims = ({} : ParametersStore).claims := by
    intro l
    induction l using List.reverseRecOn with
    | nil => rfl
    | append_singleton l p ih =>
      rw [List.foldl_append]
      exact ih
  rw [ofFile]
  induction f.claims using List.reverseRecOn with
  | nil => rw [List.foldl_nil, none]; rfl
  | append_singleton ps p ih =>
    rw [List.foldl_append, List.foldl_cons, List.foldl_nil, putClaim, SortedMap.get?_insert, withKey_concat]
    by_cases same : p.metadata.key = key
    · rw [if_pos same, if_pos same, List.getLast?_concat]
    · rw [if_neg same, if_neg same, ih]

/-- Just that object is listed for a key. -/
theorem withKey_claimList (f : ParametersFile) (key : ObjectKey) :
    withKey (ofFile f).claimList key = (withKey f.claims key).getLast?.toList := by
  rw [← get?_ofFile]
  refine SortedMap.filter_values (fun key p stored => ?_) key
  rw [get?_ofFile] at stored
  exact key_of_getLast?_withKey stored

end ParametersStore

/-- A registry follows what it is given: for every key its version counts the objects that were given for it.
What a file lists is published once for every key. -/
theorem Registry.follows_given (ps : List ClaimParametersObject) (c : Controller) (f : ParametersFile) :
    (putAll {} ps).Follows ps (fun key => (withKey ps key).length) ∧
      (({ c with registry := {} } : Controller).publish (ParametersStore.ofFile f).claimList).registry.Follows
        f.claims (fun _ => 1) := by
  refine ⟨follows_of_kept (get?_putAll ps), follows_of_kept fun key => ?_⟩
  show (putAll {} _).objects.get? key = _
  rw [get?_putAll, ParametersStore.withKey_claimList]
  cases (withKey f.claims key).getLast? <;> rfl

end DeviceClaims
