import DeviceClaims.Double.Basic
import DeviceClaims.SortedMap

namespace DeviceClaims

/-- A JSON value. Members of an object keep the order in which they are written. -/
inductive Json
  | null
  | bool (b : Bool)
  | int (i : Int)
  | float (x : Double)
  | str (s : String)
  | arr (items : List Json)
  | obj (members : List (String × Json))
  deriving Inhabited

namespace Json

mutual

def same : Json → Json → Bool
  | null, null => true
  | bool a, bool b => a = b
  | int a, int b => a = b
  | float a, float b => a = b
  | str a, str b => a = b
  | arr as, arr bs => sameItems as bs
  | obj as, obj bs => sameMembers as bs
  | _, _ => false

def sameItems : List Json → List Json → Bool
  | [], [] => true
  | a :: as, b :: bs => same a b && sameItems as bs
  | _, _ => false

def sameMembers : List (String × Json) → List (String × Json) → Bool
  | [], [] => true
  | (k, a) :: as, (l, b) :: bs => k = l && same a b && sameMembers as bs
  | _, _ => false

end

mutual

theorem same_iff : ∀ a b : Json, same a b = true ↔ a = b
  | null, b => by cases b <;> simp [same]
  | bool _, b => by cases b <;> simp [same]
  | int _, b => by cases b <;> simp [same]
  | float _, b => by cases b <;> simp [same]
  | str _, b => by cases b <;> simp [same]
  | arr as, b => by
    cases b with
    | arr bs => simpa [same] using sameItems_iff as bs
    | _ => simp [same]
  | obj as, b => by
    cases b with
    | obj bs => simpa [same] using sameMembers_iff as bs
    | _ => simp [same]

theorem sameItems_iff : ∀ as bs : List Json, sameItems as bs = true ↔ as = bs
  | [], bs => by cases bs <;> simp [sameItems]
  | a :: as, bs => by
    cases bs with
    | nil => simp [sameItems]
    | cons b bs => simp [sameItems, same_iff a b, sameItems_iff as bs]

theorem sameMembers_iff : ∀ as bs : List (String × Json), sameMembers as bs = true ↔ as = bs
  | [], bs => by cases bs <;> simp [sameMembers]
  | (k, a) :: as, bs => by
    cases bs with
    | nil => simp [sameMembers]
    | cons b bs =>
      obtain ⟨l, b⟩ := b
      simp [sameMembers, same_iff a b, sameMembers_iff as bs, and_assoc]

end

instance : DecidableEq Json := fun a b => decidable_of_iff _ (same_iff a b)

/-- Whether an integer fits 64 bits, with a sign if it is negative. -/
def fitsWord (i : Int) : Bool := -(2 ^ 63) ≤ i && i < 2 ^ 64

def ascending : List (String × Json) → Bool
  | [] => true
  | [_] => true
  | a :: b :: rest => a.1 < b.1 && ascending (b :: rest)

mutual

/-- Whether a value is in normal form. -/
def isNormal : Json → Bool
  | int i => fitsWord i
  | float x => x.isFinite
  | arr items => areNormal items
  | obj members => ascending members && haveNormal members
  | _ => true

/-- Whether all values are in normal form. -/
def areNormal : List Json → Bool
  | [] => true
  | j :: rest => isNormal j && areNormal rest

/-- Whether all members have values in normal form. -/
def haveNormal : List (String × Json) → Bool
  | [] => true
  | (_, j) :: rest => isNormal j && haveNormal rest

end

mutual

/-- Whether no number with a fraction or exponent occurs in a value. -/
def floatFree : Json → Bool
  | float _ => false
  | arr items => areFloatFree items
  | obj members => haveFloatFree members
  | _ => true

/-- Whether no number with a fraction or exponent occurs in the values. -/
def areFloatFree : List Json → Bool
  | [] => true
  | j :: rest => floatFree j && areFloatFree rest

/-- Whether no number with a fraction or exponent occurs in the members. -/
def haveFloatFree : List (String × Json) → Bool
  | [] => true
  | (_, j) :: rest => floatFree j && haveFloatFree rest

end

mutual

/-- How deeply arrays and objects are nested in a value. -/
def height : Json → Nat
  | arr items => heightItems items + 1
  | obj members => heightMembers members + 1
  | _ => 0

/-- The greatest nesting among values. -/
def heightItems : List Json → Nat
  | [] => 0
  | j :: rest => max (height j) (heightItems rest)

/-- The greatest nesting among the values of members. -/
def heightMembers : List (String × Json) → Nat
  | [] => 0
  | (_, j) :: rest => max (height j) (heightMembers rest)

end

theorem ascending_iff (ms : List (String × Json)) :
    ascending ms = true ↔ ms.Pairwise (fun a b => a.1 < b.1) := by
  induction ms with
  | nil => simp [ascending]
  | cons a rest ih =>
    cases rest with
    | nil => simp [ascending]
    | cons b rest =>
      simp only [ascending, Bool.and_eq_true, decide_eq_true_eq, ih, List.pairwise_cons,
        List.mem_cons, forall_eq_or_imp]
      refine ⟨fun ⟨ab, above, sorted⟩ => ⟨⟨ab, fun e he => String.lt_trans ab (above e he)⟩,
        above, sorted⟩, fun ⟨⟨ab, _⟩, above, sorted⟩ => ⟨ab, above, sorted⟩⟩

theorem haveNormal_iff (ms : List (String × Json)) :
    haveNormal ms = true ↔ ∀ m ∈ ms, m.2.isNormal = true := by
  induction ms with
  | nil => simp [haveNormal]
  | cons m rest ih => simp [haveNormal, ih]

end Json

/-- A value of free form, in normal form. Its integers fit 64 bits, its other numbers are finite and its
objects list their keys in strictly ascending order. -/
structure FreeForm where
  json : Json
  normal : json.isNormal = true
  deriving DecidableEq

namespace FreeForm

/-- The value that says nothing. -/
def null : FreeForm := ⟨.null, rfl⟩

instance : Inhabited FreeForm := ⟨null⟩

end FreeForm

end DeviceClaims
