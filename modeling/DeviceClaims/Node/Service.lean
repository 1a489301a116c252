import DeviceClaims.Node.Plugin

namespace DeviceClaims

/-- What a node's plugin can be asked. -/
inductive NodeMethod
  | watch
  | prepare
  | unprepare
  deriving DecidableEq

namespace NodeMethod

open Wire (MessageType)

def ofName? : String → Option NodeMethod
  | "NodeListAndWatchResources" => some watch
  | "NodePrepareResources" => some prepare
  | "NodeUnprepareResources" => some unprepare
  | _ => none

def request : NodeMethod → MessageType
  | watch => .watchRequest
  | prepare => .prepareRequest
  | unprepare => .unprepareRequest

/-- The messages that a method answers with; those that report resources are a stream, of which
this is the first. -/
def response : NodeMethod → MessageType
  | watch => .inventory
  | prepare => .prepareResponse
  | unprepare => .unprepareResponse

end NodeMethod

namespace Plugin

def call (p : Plugin) (s : DeviceState) : (m : NodeMethod) → m.request.Carrier →
    Prog (Except Status m.response.Carrier × DeviceState)
  | .watch, () => .done (.ok [s.resourceModel.toMessage], s)
  | .prepare, claims => match NodeClaim.ofMessages claims with
    | .error e => .done (.error e.status, s)
    | .ok cs => (p.prepareAll cs s).bind fun (outcomes, s) =>
      .done (.ok (PrepareOutcome.toMessage outcomes), s)
  | .unprepare, claims => match NodeClaim.ofMessages claims with
    | .error e => .done (.error e.status, s)
    | .ok cs => (p.unprepareAll cs s).bind fun (outcomes, s) =>
      .done (.ok (UnprepareOutcome.toMessage outcomes), s)

end Plugin

end DeviceClaims
