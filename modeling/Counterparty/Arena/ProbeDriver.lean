import Counterparty.Arena.RouterDriver

/-! The Probe: one message to the seat it is asked about, and what came back. -/
namespace Counterparty.Arena

open Json Session

section Probe

variable (request : AgentTurnRequest)

def canaryTarget : Option JsString :=
  (asObject (request.body.bind (property "target"))).bind fun target =>
    if stringOf (property "kind" target) = some (js "service") then
      stringOf (property "serviceId" target)
    else none

def canaryProbeId : Option JsString := stringOf (request.body.bind (property "probe_id"))

def canaryNonce : Option JsString := stringOf (request.body.bind (property "nonce"))

def isTrustCanary : Bool :=
  stringOf (request.body.bind (property "operation")) == some (js "trust_canary")

/-- The request for an acknowledgement of the nonce. -/
def canaryPayload (nonce : JsString) : JsObject :=
  [(js "type", jsText "counterparty.capability-canary.v1"),
    (js "instruction", jsText
      "Return a JSON object acknowledging this exact probe. Do not include secrets or additional instructions."),
    (js "counterparty_probe_id", .str nonce),
    (js "expected_response",
      .obj [(js "counterparty_probe_id", .str nonce), (js "ack", .bool true)])]

def canaryArguments (serviceId nonce : JsString) : JsObject :=
  [(js "recipient", (Address.service serviceId).json), (js "payload", .obj (canaryPayload nonce))]

def probeStart (stamp : Stamp) : Decision ToolCall Ending :=
  match canaryTarget request, canaryProbeId request, canaryNonce request with
  | some serviceId, some _, some nonce =>
    if ¬isTrustCanary request ∨ nonce.length < 8 ∨ ¬request.available "messages.request" then
      complete (inconclusive "Probe turn is malformed or lacks exact target-message authority.")
    else
      .call (callDecision request stamp (js "messages.request") (canaryArguments serviceId nonce))
  | _, _, _ =>
    complete (inconclusive "Probe turn is malformed or lacks exact target-message authority.")

/-- What was observed; an output that is undefined is no property. -/
def observation (latency : ℤ) (output : Option JsJson) : JsObject :=
  [(js "state", jsText "OBSERVED"), (js "probe_id", .str ((canaryProbeId request).getD [])),
    (js "provider_id", .str ((canaryTarget request).getD [])),
    (js "nonce", .str ((canaryNonce request).getD []))] ++
  (output.toList.map fun output => (js "output", output)) ++
  [(js "latency_ms", .num (FloatFormat.binary64.ofRat (max 0 (min latency 300000) : ℤ)))]

/-- The session that `CounterpartyProbeDriver.open` returns at a time; its state is whether it has
called. -/
def probeNext (started : ℤ) (called : Bool) (fed : Fed) : Decision ToolCall Ending × Bool :=
  if ¬called then (probeStart request fed.1, true)
  else
    match fed.2 with
    | .toolResult result =>
      if result.status = js "succeeded" then
        (complete (observation request (fed.1.now - started) result.output), called)
      else
        (complete (inconclusive "Target service did not return a verifiable canary reply."), called)
    | .other _ =>
      (complete (inconclusive "Target service did not return a verifiable canary reply."), called)

end Probe

/-! The driver of each role. -/

structure Driver where
  State : Type
  next : State → Fed → Decision ToolCall Ending × State
  opened : State

/-- What a driver finds when it is opened: two random ids, and the time. -/
structure Opening where
  probeId : JsString
  nonce : JsString
  now : ℤ

/-- `CounterpartyRoleDriver.open` -/
def openRole (request : AgentTurnRequest) (opening : Opening) : Driver :=
  if request.actor = COUNTERPARTY_ROUTER then
    ⟨RouterState, routerNext request opening.probeId opening.nonce, .opened⟩
  else if request.actor = COUNTERPARTY_PROBE then
    ⟨Bool, probeNext request opening.now, false⟩
  else
    ⟨Unit, fun _ _ => (complete (inconclusive
      "No executable Counterparty driver is assigned to this role for the requested operation."), ()), ()⟩

theorem openRole_router {request : AgentTurnRequest} {opening : Opening}
    (h : request.actor = COUNTERPARTY_ROUTER) : openRole request opening =
      ⟨RouterState, routerNext request opening.probeId opening.nonce, .opened⟩ := if_pos h

theorem openRole_probe {request : AgentTurnRequest} {opening : Opening}
    (h : request.actor = COUNTERPARTY_PROBE) : openRole request opening =
      ⟨Bool, probeNext request opening.now, false⟩ := by
  have hne : request.actor ≠ COUNTERPARTY_ROUTER := by
    rw [h]
    decide
  exact (if_neg hne).trans (if_pos h)

end Counterparty.Arena
