import DeviceClaims.Program

namespace DeviceClaims.PendingClient

/-- The devices set aside for a claim on a node. -/
def get (claim : ClaimUid) (node : String) : Prog (Option (List AllocatedDevice)) :=
  .pending (.get claim node)

/-- Sets devices aside for a claim on a node. -/
def set (claim : ClaimUid) (node : String) (devices : List AllocatedDevice) : Prog Unit :=
  .pending (.set claim node devices)

def removeNode (claim : ClaimUid) (node : String) : Prog Unit := .pending (.removeNode claim node)

def remove (claim : ClaimUid) : Prog Unit := .pending (.remove claim)

def claims : Prog (List ClaimUid) := .pending .claims

/-- The pairs of a claim and a node that have devices set aside. -/
def pairs : Prog (List (ClaimUid × String)) := .pending .pairs

variable {σ : Type}

/-- What a walk does with an entry: from what it gathered before to what it has gathered then. -/
abbrev Visitor (σ : Type) := σ → ClaimUid → String → List AllocatedDevice → Prog σ

/-- Visits those of the pairs that have devices set aside when their turn comes. -/
def visitPairs (visit : Visitor σ) : List (ClaimUid × String) → σ → Prog σ
  | [], s => .done s
  | (claim, node) :: rest, s => (get claim node).bind fun
    | none => visitPairs visit rest s
    | some devices => (visit s claim node devices).bind (visitPairs visit rest)

def visitNode (node : String) (visit : Visitor σ) (s : σ) : Prog σ :=
  claims.bind fun cs => visitPairs visit (cs.map (·, node)) s

def visitAll (visit : Visitor σ) (s : σ) : Prog σ :=
  pairs.bind fun ps => visitPairs visit ps s

end DeviceClaims.PendingClient
