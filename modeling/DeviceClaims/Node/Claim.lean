import DeviceClaims.Wire.Convert
import DeviceClaims.Wire.Message

namespace DeviceClaims

/-- A claim that is to be used on a node. -/
structure NodeClaim where
  space : String
  uid : ClaimUid
  name : String
  handles : List StructuredHandle
  deriving DecidableEq

/-- What came of preparing a claim: names for the container runtime, or a failure. -/
structure PrepareOutcome where
  names : List String := []
  failure : Option String := none
  deriving DecidableEq, Inhabited

/-- What came of giving up a claim: a failure if there was one. -/
structure UnprepareOutcome where
  failure : Option String := none
  deriving DecidableEq, Inhabited

namespace StructuredHandle

def toMessage (h : StructuredHandle) : Wire.Handle where
  vendorParameters := (h.vendorParameters.map (·.json.text)).getD ""
  nodeName := h.nodeName
  results := h.results.map some

/-- The handle of a message: first its parameters are read and then its results. -/
def ofMessage (m : Wire.Handle) : Except ConvertError StructuredHandle := do
  let vendorParameters ← if m.vendorParameters = "" then .ok none
    else some <$> readField "vendor_claim_parameters" .freeForm m.vendorParameters
  let results ← convertEach (fun r => match r with
    | some name => .ok name
    | none => .error (.missingField "named_resources")) m.results
  return { vendorParameters, nodeName := m.nodeName, results }

end StructuredHandle

namespace NodeClaim

def toMessage (c : NodeClaim) : Wire.Claim :=
  ⟨c.space, c.uid.text, c.name, c.handles.map StructuredHandle.toMessage⟩

/-- The claim of a message: first its handles are read and then its identifier. -/
def ofMessage (m : Wire.Claim) : Except ConvertError NodeClaim := do
  let handles ← convertEach StructuredHandle.ofMessage m.handles
  let uid ← readUid m.uid
  return ⟨m.space, uid, m.name, handles⟩

def ofMessages (ms : List Wire.Claim) : Except ConvertError (List NodeClaim) :=
  convertEach ofMessage ms

end NodeClaim

/-- A failure that an empty text stands for. -/
def failureOf (text : String) : Option String := if text = "" then none else some text

/-- The text that stands for a failure. -/
def failureText (failure : Option String) : String := failure.getD ""

namespace PrepareOutcome

def toMessage (m : SortedMap ClaimUid PrepareOutcome) : SortedMap String Wire.PrepareAnswer :=
  .ofList (m.entries.map fun e => (e.1.text, ⟨e.2.names, failureText e.2.failure⟩))

def ofMessage (m : SortedMap String Wire.PrepareAnswer) :
    Except ConvertError (SortedMap ClaimUid PrepareOutcome) :=
  (convertEach (fun e => (readUid e.1).map fun uid =>
    (uid, ⟨e.2.devices, failureOf e.2.failure⟩)) m.entries).map .ofList

end PrepareOutcome

namespace UnprepareOutcome

def toMessage (m : SortedMap ClaimUid UnprepareOutcome) : SortedMap String String :=
  .ofList (m.entries.map fun e => (e.1.text, failureText e.2.failure))

def ofMessage (m : SortedMap String String) :
    Except ConvertError (SortedMap ClaimUid UnprepareOutcome) :=
  (convertEach (fun e => (readUid e.1).map fun uid => (uid, ⟨failureOf e.2⟩)) m.entries).map .ofList

end UnprepareOutcome

namespace ResourceModel

def toMessage (m : ResourceModel) : Option ResourceModel := some m

/-- The resources of a message, none if they are missing. -/
def ofMessage (m : Option ResourceModel) : ResourceModel := m.getD {}

end ResourceModel

end DeviceClaims
