import Counterparty.Library.Session
import Counterparty.Arena.Service

/-! The Router: one service call, for a trust snapshot after a canary through the Probe. -/
namespace Counterparty.Arena

open Json Session

/-! What SharedOS hands to a driver, and what it takes from it. -/

inductive Address
  | human (userId : JsString)
  | agent (agentId : JsString)
  | group (conversationId : JsString)
  | service (serviceId : JsString)
deriving DecidableEq

def Address.json : Address → JsJson
  | .human userId => .obj [(js "kind", jsText "human"), (js "userId", .str userId)]
  | .agent agentId => .obj [(js "kind", jsText "agent"), (js "agentId", .str agentId)]
  | .group conversationId =>
    .obj [(js "kind", jsText "group"), (js "conversationId", .str conversationId)]
  | .service serviceId => .obj [(js "kind", jsText "service"), (js "serviceId", .str serviceId)]

theorem Address.json_injective : Function.Injective Address.json := by
  intro a b h
  cases a <;> cases b <;>
    simp only [Address.json, jsText, Json.obj.injEq, List.cons.injEq, Prod.mk.injEq, Json.str.injEq,
      true_and, and_true] at h
  case human.human => rw [h]
  case agent.agent => rw [h]
  case group.group => rw [h]
  case service.service => rw [h]
  all_goals exact absurd h.1 (by decide)

def COUNTERPARTY_ROUTER : Address := .agent (js "counterparty-router")

def COUNTERPARTY_PROBE : Address := .agent (js "counterparty-probe")

/-- A turn as it is opened: the payload of its message, the names of the visible tools. -/
structure AgentTurnRequest where
  actor : Address
  traceId : JsString
  payload : Option JsJson
  tools : List JsString

structure ToolCall where
  id : JsString
  tool : JsString
  arguments : JsObject
  traceId : JsString
  requestedAt : JsString

structure ToolResult where
  status : JsString
  output : Option JsJson

inductive AgentTurnInput
  | toolResult (result : ToolResult)
  | other (type : JsString)

/-- What the runtime gives whenever it is asked: a random id, and the time. -/
structure Stamp where
  uuid : JsString
  isoTime : JsString
  now : ℤ

abbrev Fed := Stamp × AgentTurnInput

def asObject : Option JsJson → Option JsObject
  | some (.obj object) => some object
  | _ => none

def stringOf : Option JsJson → Option JsString
  | some (.str s) => some s
  | _ => none

theorem asObject_eq_some {j : Option JsJson} {object : JsObject} (h : asObject j = some object) :
    j = some (.obj object) := by
  unfold asObject at h
  split at h
  · cases h
    rfl
  · cases h

theorem stringOf_eq_some {j : Option JsJson} {t : JsString} (h : stringOf j = some t) :
    j = some (.str t) := by
  unfold stringOf at h
  split at h
  · cases h
    rfl
  · cases h

def AgentTurnRequest.body (request : AgentTurnRequest) : Option JsObject := asObject request.payload

def AgentTurnRequest.available (request : AgentTurnRequest) (tool : String) : Bool :=
  request.tools.contains (js tool)

def callDecision (request : AgentTurnRequest) (stamp : Stamp) (tool : JsString)
    (arguments : JsObject) : ToolCall :=
  { id := stamp.uuid
    tool := tool
    arguments := arguments
    traceId := request.traceId
    requestedAt := stamp.isoTime }

/-! The services. -/

/-- What a property access on `SERVICE_TO_TOOL` can find: the name of a tool, or what every object
inherits. -/
inductive ServiceTool
  | named (tool : JsString)
  | inherited (value : Price)

def SERVICE_TO_TOOL : List (JsString × ServiceTool) :=
  [(js "trust_snapshot", .named (js "counterparty.trust_snapshot")),
    (js "verify_delivery", .named (js "counterparty.verify_delivery")),
    (js "best_execution", .named (js "counterparty.best_execution"))]

/-- `SERVICE_TO_TOOL[service]`; `service in SERVICE_TO_TOOL` when there is one. -/
def serviceTool (service : JsString) : Option ServiceTool :=
  (SERVICE_TO_TOOL ++ objectPrototype.map (Prod.map id ServiceTool.inherited)).lookup service

/-- `${toolName}` -/
def ServiceTool.text : ServiceTool → JsString
  | .named tool => tool
  | .inherited value => value.text

/-- `tool.name === toolName`, which no inherited value is. -/
def ServiceTool.names : ServiceTool → JsString → Bool
  | .named tool, name => name == tool
  | .inherited _, _ => false

/-! Numbers. -/

def isInteger : JsNumber → Bool
  | .finite _ mag => mag.1.den == 1
  | .infinity _ | .nan => false

/-- `0 <= x` -/
def isNonNegative : JsNumber → Bool
  | .finite neg mag => !neg || mag.1 == 0
  | .infinity neg => !neg
  | .nan => false

/-- `Math.min(x, 300_000)` -/
def capped : JsNumber → JsNumber
  | .finite neg mag =>
    if neg || mag.1 ≤ 300000 then .finite neg mag else FloatFormat.binary64.ofRat 300000
  | .infinity neg => if neg then .infinity neg else FloatFormat.binary64.ofRat 300000
  | .nan => .nan

/-! The session. -/

inductive Ending
  | complete (output : Option JsJson)
  | escalate (reason : JsString) (requestedTool : ServiceTool)

inductive RouterPhase
  | start
  | awaitProbe
  | awaitRecord
  | awaitService

structure RouterState where
  phase : RouterPhase
  freshProbe : Option JsObject

def inconclusive (reason : String) : JsObject :=
  [(js "state", jsText "INCONCLUSIVE"), (js "reason", jsText reason)]

def inconclusiveStatus (reason : String) (status : JsString) : JsObject :=
  inconclusive reason ++ [(js "tool_status", .str status)]

def complete (output : JsObject) : Decision ToolCall Ending := .stop (.complete (some (.obj output)))

section Router

variable (request : AgentTurnRequest) (probeId nonce : JsString)

def serviceName : Option JsString :=
  (stringOf (request.body.bind (property "service"))).filter fun service =>
    (serviceTool service).isSome

def toolName : Option ServiceTool := (serviceName request).bind serviceTool

def serviceInput : Option JsObject := asObject (request.body.bind (property "input"))

def toolAvailable : Bool :=
  (toolName request).any fun toolName => request.tools.any toolName.names

def serviceId : Option JsString := stringOf ((serviceInput request).bind (property "service_id"))

def isTrustSnapshot : Bool := serviceName request == some (js "trust_snapshot")

def canActivelyProbe : Bool :=
  isTrustSnapshot request &&
    (serviceId request).any (fun serviceId => 0 < serviceId.length && serviceId.length ≤ 200) &&
    request.available "messages.request" && request.available "counterparty.record_probe"

def probeArguments (serviceId : JsString) : JsObject :=
  [(js "recipient", COUNTERPARTY_PROBE.json),
    (js "payload", .obj
      [(js "operation", jsText "trust_canary"), (js "target", (Address.service serviceId).json),
        (js "probe_id", .str probeId), (js "nonce", .str nonce)])]

def recordArguments (serviceId : JsString) (output : JsObject) (latency : JsNumber) : JsObject :=
  [(js "probe_id", .str probeId), (js "provider_id", .str serviceId), (js "nonce", .str nonce),
    (js "output", .obj output), (js "latency_ms", .num (capped latency))]

/-- `toolName ?? "counterparty.invalid"` -/
def calledTool : JsString := ((toolName request).map ServiceTool.text).getD (js "counterparty.invalid")

def serviceCall (stamp : Stamp) (freshProbe : Option JsObject) :
    Decision ToolCall Ending × RouterState :=
  (.call (callDecision request stamp (calledTool request) ((serviceInput request).getD [])),
    ⟨.awaitService, freshProbe⟩)

def routerStart (s : RouterState) (stamp : Stamp) : Decision ToolCall Ending × RouterState :=
  match toolName request, serviceInput request with
  | some toolName, some _ =>
    if ¬toolAvailable request then
      if request.available "sharedos.escalate" then
        (.stop (.escalate (js "Counterparty requires separately granted authority for " ++
          toolName.text ++ js ".") toolName), s)
      else
        (complete (inconclusive "Required service capability is not available in this turn."), s)
    else
      match canActivelyProbe request, serviceId request with
      | true, some serviceId =>
        (.call (callDecision request stamp (js "messages.request")
          (probeArguments probeId nonce serviceId)), ⟨.awaitProbe, s.freshProbe⟩)
      | _, _ =>
        serviceCall request stamp (if isTrustSnapshot request then
          some (inconclusive
            "Active canary was not authorized for this turn; historical evidence only.")
          else s.freshProbe)
  | _, _ =>
    (complete (inconclusive
      "Malformed Counterparty service request. Expected {service,input}."), s)

/-- The output and the latency of an observation that matches the canary. -/
def validObservation (observed : JsObject) (serviceId : JsString) : Option (JsObject × JsNumber) :=
  match asObject (property "output" observed), property "latency_ms" observed with
  | some output, some (.num latency) =>
    if stringOf (property "state" observed) = some (js "OBSERVED") ∧
        stringOf (property "probe_id" observed) = some probeId ∧
        stringOf (property "provider_id" observed) = some serviceId ∧
        stringOf (property "nonce" observed) = some nonce ∧ isInteger latency ∧
        isNonNegative latency then
      some (output, latency)
    else none
  | _, _ => none

def afterProbe (s : RouterState) (stamp : Stamp) (result : ToolResult) :
    Decision ToolCall Ending × RouterState :=
  if result.status = js "succeeded" then
    match (serviceId request).bind fun serviceId =>
        ((asObject result.output).bind fun observed =>
          validObservation probeId nonce observed serviceId).map fun valid => (serviceId, valid) with
    | some (serviceId, output, latency) =>
      (.call (callDecision request stamp (js "counterparty.record_probe")
        (recordArguments probeId nonce serviceId output latency)), ⟨.awaitRecord, s.freshProbe⟩)
    | none =>
      serviceCall request stamp
        (some (inconclusive "Probe reply did not match the host-generated canary envelope."))
  else
    serviceCall request stamp
      (some (inconclusiveStatus "Bounded Probe turn did not return an observation." result.status))

def afterRecord (stamp : Stamp) (result : ToolResult) : Decision ToolCall Ending × RouterState :=
  if result.status = js "succeeded" then
    serviceCall request stamp
      (some ((asObject result.output).getD [(js "state", jsText "INCONCLUSIVE")]))
  else
    serviceCall request stamp
      (some (inconclusiveStatus "Observed canary could not be persisted." result.status))

def afterService (s : RouterState) (result : ToolResult) : Decision ToolCall Ending × RouterState :=
  if result.status ≠ js "succeeded" then
    (complete (inconclusiveStatus "Counterparty service execution did not succeed." result.status), s)
  else
    match isTrustSnapshot request, asObject result.output with
    | true, some output =>
      (complete (put (js "fresh_probe")
        (.obj (s.freshProbe.getD [(js "state", jsText "INCONCLUSIVE")])) output), s)
    | _, _ => (.stop (.complete result.output), s)

/-- The session that `CounterpartyRouterDriver.open` returns. -/
def routerNext (s : RouterState) (fed : Fed) : Decision ToolCall Ending × RouterState :=
  match s.phase, fed.2 with
  | .start, _ => routerStart request probeId nonce s fed.1
  | _, .other _ => (complete (inconclusive "No tool result was returned."), s)
  | .awaitProbe, .toolResult result => afterProbe request probeId nonce s fed.1 result
  | .awaitRecord, .toolResult result => afterRecord request fed.1 result
  | .awaitService, .toolResult result => afterService request s result

end Router

def RouterState.opened : RouterState := ⟨.start, none⟩

end Counterparty.Arena
