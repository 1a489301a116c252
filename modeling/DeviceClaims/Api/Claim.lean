import DeviceClaims.Api.Parameters

namespace DeviceClaims

open Json

/-- A reference to parameters. -/
structure ParametersRef where
  apiGroup : String := ""
  kind : String
  name : String
  deriving DecidableEq, Inhabited

namespace ParametersRef

def toJson (p : ParametersRef) : Json := ofFields
  [("apiGroup", some (.str p.apiGroup)), ("kind", some (.str p.kind)),
    ("name", some (.str p.name))]

def decode : Decoder ParametersRef :=
  .record "ParametersRef" ["apiGroup", "kind", "name"] fun r =>
    .mk <$> r.fieldOr 0 "apiGroup" .str "" <*> r.field 1 "kind" .str <*> r.field 2 "name" .str

end ParametersRef

/-- A class of devices. -/
structure ResourceClass where
  name : String
  parametersRef : Option ParametersRef := none
  deriving DecidableEq, Inhabited

namespace ResourceClass

def toJson (c : ResourceClass) : Json := ofFields
  [("name", some (.str c.name)), ("parametersRef", c.parametersRef.map ParametersRef.toJson)]

def decode : Decoder ResourceClass :=
  .record "ResourceClass" ["name", "parametersRef"] fun r =>
    .mk <$> r.field 0 "name" .str <*> r.fieldOr 1 "parametersRef" (.option ParametersRef.decode) none

end ResourceClass

/-- How a field of a node is compared. -/
inductive SelectorOperator
  | isIn
  | isNotIn
  | isPresent
  | isAbsent
  deriving DecidableEq, Inhabited

namespace SelectorOperator

def name : SelectorOperator → String
  | isIn => "In"
  | isNotIn => "NotIn"
  | isPresent => "Exists"
  | isAbsent => "DoesNotExist"

def toJson (o : SelectorOperator) : Json := .str o.name

def decode : Decoder SelectorOperator := .enumeration
  [("In", isIn), ("NotIn", isNotIn), ("Exists", isPresent), ("DoesNotExist", isAbsent)]

end SelectorOperator

/-- A condition on a field of a node. -/
structure NodeRequirement where
  key : String
  operator : SelectorOperator
  values : List String := []
  deriving DecidableEq, Inhabited

namespace NodeRequirement

def toJson (q : NodeRequirement) : Json := ofFields
  [("key", some (.str q.key)), ("operator", some q.operator.toJson),
    ("values", some (ofStrings q.values))]

def decode : Decoder NodeRequirement :=
  .record "NodeSelectorRequirement" ["key", "operator", "values"] fun r =>
    .mk <$> r.field 0 "key" .str <*> r.field 1 "operator" SelectorOperator.decode
      <*> r.fieldOr 2 "values" (.list .str) []

end NodeRequirement

/-- Conditions that hold together. -/
structure NodeTerm where
  matchFields : List NodeRequirement := []
  deriving DecidableEq, Inhabited

namespace NodeTerm

def toJson (t : NodeTerm) : Json := ofFields
  [("matchFields", some (.arr (t.matchFields.map NodeRequirement.toJson)))]

def decode : Decoder NodeTerm :=
  .record "NodeSelectorTerm" ["matchFields"] fun r =>
    .mk <$> r.fieldOr 0 "matchFields" (.list NodeRequirement.decode) []

end NodeTerm

/-- Nodes on which a claim can be used. -/
structure NodeSelector where
  terms : List NodeTerm := []
  deriving DecidableEq, Inhabited

namespace NodeSelector

def toJson (s : NodeSelector) : Json := ofFields
  [("nodeSelectorTerms", some (.arr (s.terms.map NodeTerm.toJson)))]

def decode : Decoder NodeSelector :=
  .record "NodeSelector" ["nodeSelectorTerms"] fun r =>
    .mk <$> r.fieldOr 0 "nodeSelectorTerms" (.list NodeTerm.decode) []

end NodeSelector

/-- Where a claim was allocated, and whether pods may share it. -/
structure AllocationResult where
  availableOnNodes : Option NodeSelector := none
  shareable : Bool := false
  deriving DecidableEq, Inhabited

namespace AllocationResult

def forNode (node : String) (shareable : Bool) : AllocationResult where
  availableOnNodes := some ⟨[⟨[⟨"metadata.name", .isIn, [node]⟩]⟩]⟩
  shareable := shareable

/-- The node of an allocation: the first value of the first condition of the first term. -/
def selectedNode (a : AllocationResult) : Option String := do
  let selector ← a.availableOnNodes
  let term ← selector.terms.head?
  let requirement ← term.matchFields.head?
  requirement.values.head?

def toJson (a : AllocationResult) : Json := ofFields
  [("availableOnNodes", a.availableOnNodes.map NodeSelector.toJson),
    ("shareable", some (.bool a.shareable))]

def decode : Decoder AllocationResult :=
  .record "AllocationResult" ["availableOnNodes", "shareable"] fun r =>
    .mk <$> r.fieldOr 0 "availableOnNodes" (.option NodeSelector.decode) none
      <*> r.fieldOr 1 "shareable" .bool false

end AllocationResult

/-- A claim for devices. -/
structure ResourceClaim where
  uid : ClaimUid
  name : String
  space : String := ""
  parametersRef : Option ParametersRef := none
  allocation : Option AllocationResult := none
  deriving DecidableEq

namespace ResourceClaim

def toJson (c : ResourceClaim) : Json := ofFields
  [("uid", some (.str c.uid.text)), ("name", some (.str c.name)),
    ("namespace", some (.str c.space)),
    ("parametersRef", c.parametersRef.map ParametersRef.toJson),
    ("allocation", c.allocation.map AllocationResult.toJson)]

def decode : Decoder ResourceClaim :=
  .record "ResourceClaim" ["uid", "name", "namespace", "parametersRef", "allocation"] fun r =>
    .mk <$> r.field 0 "uid" (.ident ClaimUid.parse) <*> r.field 1 "name" .str
      <*> r.fieldOr 2 "namespace" .str ""
      <*> r.fieldOr 3 "parametersRef" (.option ParametersRef.decode) none
      <*> r.fieldOr 4 "allocation" (.option AllocationResult.decode) none

end ResourceClaim

/-- A pod that uses claims. -/
structure Pod where
  name : String
  space : String := ""
  deriving DecidableEq, Inhabited

namespace Pod

def toJson (p : Pod) : Json := ofFields
  [("name", some (.str p.name)), ("namespace", some (.str p.space))]

def decode : Decoder Pod :=
  .record "Pod" ["name", "namespace"] fun r =>
    .mk <$> r.field 0 "name" .str <*> r.fieldOr 1 "namespace" .str ""

end Pod

/-- A claim of a pod with the parameters found for it and the nodes that cannot hold it. -/
structure ClaimAllocation where
  claim : ResourceClaim
  resourceClass : ResourceClass
  claimParameters : ClaimParameters
  classParameters : ClassParameters
  unsuitableNodes : List String := []
  deriving DecidableEq

namespace ClaimAllocation

def toJson (a : ClaimAllocation) : Json := ofFields
  [("claim", some a.claim.toJson), ("class", some a.resourceClass.toJson),
    ("claimParameters", some a.claimParameters.toJson),
    ("classParameters", some a.classParameters.toJson),
    ("unsuitableNodes", some (ofStrings a.unsuitableNodes))]

def decode : Decoder ClaimAllocation :=
  .record "ClaimAllocation"
    ["claim", "class", "claimParameters", "classParameters", "unsuitableNodes"] fun r =>
    .mk <$> r.field 0 "claim" ResourceClaim.decode <*> r.field 1 "class" ResourceClass.decode
      <*> r.field 2 "claimParameters" ClaimParameters.decode
      <*> r.field 3 "classParameters" ClassParameters.decode
      <*> r.fieldOr 4 "unsuitableNodes" (.list .str) []

end ClaimAllocation

end DeviceClaims
