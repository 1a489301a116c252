import DeviceClaims.Api.Parameters

namespace DeviceClaims

open Json

namespace ClaimParameters

/-- The parameters as a value in no form of a record's own, with its names in order. -/
def vendorForm (p : ClaimParameters) : FreeForm where
  json := ofFields [("count", some (ofU32 p.count)), ("selector", p.selector.map FakeSelector.toJson),
    ("split", unlessZero p.split)]
  normal := by
    have fits : ∀ n : UInt32, fitsWord (n.toNat : Int) = true := fun n => by
      have := n.toNat_lt
      simp only [fitsWord, Bool.and_eq_true, decide_eq_true_eq]
      omega
    obtain ⟨count, split, selector⟩ := p
    rcases selector with _ | ⟨_ | model⟩ <;> by_cases h : split = 0 <;>
      simp only [ofFields, ofU32, FakeSelector.toJson, unlessZero, h, ↓reduceIte, Option.map_none,
        Option.map_some, Option.some.injEq, List.filterMap_cons_some, List.filterMap_cons_none,
        List.filterMap_nil, isNormal, haveNormal, ascending, fits, String.reduceLT, decide_true,
        Bool.and_self]

/-- How many devices structured parameters ask for: at least one. -/
def requested (p : ClaimParameters) : Nat := max p.count.toNat 1

/-- The selector that every request carries. -/
def selectorExpression (p : ClaimParameters) : String := (p.selector.getD {}).expression

end ClaimParameters

namespace ClaimParametersObject

/-- The reference to an object from what is made of it. -/
def reference (p : ClaimParametersObject) : GeneratedFrom :=
  ⟨driverName, ClaimParameters.kind, p.metadata.name⟩

def structured (p : ClaimParametersObject) : StructuredParameters where
  metadata := { name := "resource-claim-parameters-" ++ p.metadata.name, space := p.metadata.space }
  generatedFrom := p.reference
  driverRequests := [⟨driverName, p.spec.vendorForm,
    List.replicate p.spec.requested p.spec.selectorExpression⟩]
  shareable := true

end ClaimParametersObject

/-- Structured parameters by the namespace and name of what they were made of. -/
structure Registry where
  objects : SortedMap ObjectKey StructuredParameters := .empty
  deriving DecidableEq, Inhabited

namespace Registry

/-- Makes structured parameters anew. Those there before leave their name and their version, which
is raised by one. -/
def put (r : Registry) (p : ClaimParametersObject) : StructuredParameters × Registry :=
  let made := p.structured
  let stored := match r.objects.get? p.metadata.key with
    | some before =>
      { made with metadata := { before.metadata with version := before.metadata.version + 1 } }
    | none => { made with metadata := { made.metadata with version := 1 } }
  (stored, ⟨r.objects.insert p.metadata.key stored⟩)

/-- The structured parameters made of an object in a namespace. -/
def get? (r : Registry) (space : String) (source : GeneratedFrom) : Option StructuredParameters :=
  if source.apiGroup = driverName ∧ source.kind = ClaimParameters.kind then
    r.objects.get? ⟨space, source.name⟩
  else none

/-- All structured parameters, or those of one namespace, by namespace and name. -/
def list (r : Registry) (space : Option String) : List StructuredParameters :=
  (r.objects.entries.filter fun e => space.all (e.1.space = ·)).map (·.2)

def size (r : Registry) : Nat := r.objects.size

def isEmpty (r : Registry) : Bool := r.objects.isEmpty

end Registry

end DeviceClaims
