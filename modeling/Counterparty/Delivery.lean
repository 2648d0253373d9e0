import Counterparty.Endpoint
import Counterparty.StorageSpec
import Counterparty.Verification

/-! Verifying a delivery and recording a canary: the probes, the verdict, and what is stored. -/
namespace Counterparty

open Json

/-- Where an endpoint raises: in a probe, at the dump of what was asked for, in the store, or at the
dump of its answer, when the store has already recorded. -/
inductive EndpointError
  | probe (e : PyError)
  | dump
  | store (e : StoreError)
  | answer
deriving DecidableEq

structure IndependentCheck where
  probe : String
  state : EvidenceState
  score : Option ℚ := none
  reason : String
  evidence : PyDict := []

structure DeliveryVerificationRequest where
  deliveryId : String
  providerId : String
  task : String
  taskType : String := "general"
  output : PyJson
  expectedSchema : Option PyDict := none
  assertions : List Assertion := []
  citedUrls : List HttpUrl := []
  independentChecks : List IndependentCheck := []

def IndependentCheck.result (c : IndependentCheck) : ProbeResult :=
  ⟨c.probe, c.state, c.score, c.reason, c.evidence⟩

/-- The four probes that both endpoints begin with. -/
def contractProbes (J : JsonSchema) (output : PyJson) (schema : Option PyDict)
    (assertions : List Assertion) : Except PyError (List ProbeResult) := do
  let asserted ← assertionsProbe output assertions
  let contradiction ← contradictionProbe output
  return [schemaProbe J output schema, asserted, injectionProbe output, contradiction]

/-- The probes of a delivery. Citation syntax is not evidence: without an independent citation check
the citations stay undecided. -/
def deliveryProbes (J : JsonSchema) (req : DeliveryVerificationRequest) :
    Except PyError (List ProbeResult) := do
  let probes ← contractProbes J req.output req.expectedSchema req.assertions
  let probes := probes ++ req.independentChecks.map IndependentCheck.result
  if req.citedUrls ≠ [] ∧ ∀ check ∈ req.independentChecks, check.probe ≠ "citations" then
    return probes ++ [citationsProbe req.citedUrls]
  else return probes

def probeStates (probes : List ProbeResult) : PyJson :=
  .obj (ofEntries (probes.map fun p => (PyStr.ofString p.probe, pyText p.state.value)))

/-- `model_dump(mode="json")`, where it does not raise. -/
def Assertion.dump (a : Assertion) : PyJson :=
  .obj (dict [("path", pyText a.path), ("op", pyText a.op.text), ("value", a.value)])

def IndependentCheck.dump (H : Host) (c : IndependentCheck) : PyJson :=
  .obj (dict
    [("probe", pyText c.probe), ("state", pyText c.state.value),
      ("score", (c.score.map (pyFloat H)).getD .null), ("reason", pyText c.reason),
      ("evidence", .obj c.evidence)])

/-- `model_dump(mode="json")` of the assertions and the independent checks does not raise. -/
def DeliveryVerificationRequest.Dumps (H : Host) (req : DeliveryVerificationRequest) : Prop :=
  (∀ a ∈ req.assertions, H.dumps a.value) ∧
    ∀ check ∈ req.independentChecks, ∀ f ∈ check.evidence, H.dumps f.2

instance (H : Host) : DecidablePred (DeliveryVerificationRequest.Dumps H) :=
  fun _ => inferInstanceAs (Decidable (_ ∧ _))

/-- `model_dump(mode="json")` of a probe's result does not raise. -/
def ProbeResult.Dumps (H : Host) (p : ProbeResult) : Prop := ∀ f ∈ p.evidence, H.dumps f.2

instance (H : Host) : DecidablePred (ProbeResult.Dumps H) := fun p => List.decidableBAll _ p.evidence

def DeliveryVerificationRequest.evidenceHash (H : Host) (req : DeliveryVerificationRequest) :
    String :=
  H.sha256 (dumps true (.obj (dict
    [("delivery_id", pyText req.deliveryId), ("provider_id", pyText req.providerId),
      ("task", pyText req.task), ("output", req.output),
      ("expected_schema", (req.expectedSchema.map Json.obj).getD .null),
      ("assertions", .arr (req.assertions.map Assertion.dump)),
      ("cited_urls", .arr (req.citedUrls.map fun u => pyText u.url)),
      ("independent_checks", .arr (req.independentChecks.map (IndependentCheck.dump H)))])))

/-- Decisive reputation requires both the original JSON Schema and deterministic assertions. -/
def DeliveryVerificationRequest.reputationEligible (req : DeliveryVerificationRequest) : Bool :=
  req.expectedSchema.isSome && !req.assertions.isEmpty

def DeliveryVerificationRequest.verification (H : Host) (latencyMs : ℕ)
    (req : DeliveryVerificationRequest) (probes : List ProbeResult) : Verification :=
  let (state, score, confidence) := aggregate probes
  { deliveryId := req.deliveryId
    serviceId := req.providerId
    taskType := req.taskType
    outcome := state.value
    evidenceHash := req.evidenceHash H
    latencyMs := some latencyMs
    auditPayload := dict
      [("delivery_id", pyText req.deliveryId), ("provider_id", pyText req.providerId),
        ("task_type", pyText req.taskType), ("state", pyText state.value),
        ("score", pyFloat H score), ("confidence", pyFloat H confidence),
        ("evidence_hash", pyText (req.evidenceHash H)), ("probe_states", probeStates probes),
        ("reputation_eligible", .bool req.reputationEligible)]
    reputationEligible := req.reputationEligible }

structure DeliveryResponse where
  providerId : String
  state : EvidenceState
  score : ℚ
  confidence : ℚ
  probes : List ProbeResult
  reputationUpdated : Bool
  replaySuppressed : Bool
  evidenceHash : String
  auditReceipt : String

def DeliveryVerificationRequest.response (H : Host) (req : DeliveryVerificationRequest)
    (probes : List ProbeResult) (event : AuditEvent) (updated : Bool) : DeliveryResponse :=
  let (state, score, confidence) := aggregate probes
  { providerId := req.providerId
    state := state
    score := score
    confidence := confidence
    probes := probes
    reputationUpdated := updated
    replaySuppressed := (state = .pass ∨ state = .fail) ∧ ¬updated
    evidenceHash := req.evidenceHash H
    auditReceipt := event.hash }

def verifyDelivery (H : Host) (J : JsonSchema) (latencyMs : ℕ) (req : DeliveryVerificationRequest) :
    Endpoint (Except EndpointError DeliveryResponse) :=
  match deliveryProbes J req with
  | .error e => return .error (.probe e)
  | .ok probes =>
    if ¬req.Dumps H then return .error .dump
    else do
      match ← Endpoint.recordVerification (req.verification H latencyMs probes) with
      | .error e => return .error (.store e)
      | .ok (event, updated) =>
        if ∀ p ∈ probes, p.Dumps H then return .ok (req.response H probes event updated)
        else return .error .answer

/-! Canaries. -/

structure ProbeObservationRequest where
  probeId : String
  providerId : String
  nonce : String
  output : PyJson
  latencyMs : ℕ

/-- The canary contract is server-owned. -/
def ProbeObservationRequest.expectedSchema (req : ProbeObservationRequest) : PyDict :=
  dict
    [("type", pyText "object"),
      ("properties", .obj (dict
        [("counterparty_probe_id", .obj (dict [("const", pyText req.nonce)])),
          ("ack", .obj (dict [("const", .bool true)]))])),
      ("required", .arr [pyText "counterparty_probe_id", pyText "ack"])]

def ProbeObservationRequest.assertions (req : ProbeObservationRequest) : List Assertion :=
  [⟨"/counterparty_probe_id", .eq, pyText req.nonce⟩, ⟨"/ack", .eq, .bool true⟩]

def canaryProbes (J : JsonSchema) (req : ProbeObservationRequest) :
    Except PyError (List ProbeResult) :=
  contractProbes J req.output (some req.expectedSchema) req.assertions

/-- With a server-owned contract a reply is always decidable; an undecided one fails closed. -/
def closedState (state : EvidenceState) : EvidenceState :=
  if state = .inconclusive then .fail else state

def ProbeObservationRequest.evidenceHash (H : Host) (req : ProbeObservationRequest) : String :=
  H.sha256 (dumps true (.obj (dict
    [("probe_id", pyText req.probeId), ("provider_id", pyText req.providerId),
      ("nonce", pyText req.nonce), ("output", req.output)])))

def ProbeObservationRequest.canary (H : Host) (req : ProbeObservationRequest)
    (probes : List ProbeResult) : ProtocolCanary :=
  let (state, score, confidence) := aggregate probes
  { probeId := req.probeId
    serviceId := req.providerId
    outcome := (closedState state).value
    evidenceHash := req.evidenceHash H
    latencyMs := req.latencyMs
    auditPayload := dict
      [("probe_id", pyText req.probeId), ("provider_id", pyText req.providerId),
        ("state", pyText (closedState state).value), ("score", pyFloat H score),
        ("confidence", pyFloat H confidence), ("evidence_hash", pyText (req.evidenceHash H)),
        ("probe_states", probeStates probes)] }

structure ProbeResponse where
  providerId : String
  probeId : String
  state : EvidenceState
  score : ℚ
  confidence : ℚ
  probes : List ProbeResult
  protocolReputationUpdated : Bool
  replaySuppressed : Bool
  evidenceHash : String
  auditReceipt : String

def ProbeObservationRequest.response (H : Host) (req : ProbeObservationRequest)
    (probes : List ProbeResult) (event : AuditEvent) (updated : Bool) : ProbeResponse :=
  let (state, score, confidence) := aggregate probes
  { providerId := req.providerId
    probeId := req.probeId
    state := closedState state
    score := score
    confidence := confidence
    probes := probes
    protocolReputationUpdated := updated
    replaySuppressed := !updated
    evidenceHash := req.evidenceHash H
    auditReceipt := event.hash }

def probeObservation (H : Host) (J : JsonSchema) (req : ProbeObservationRequest) :
    Endpoint (Except EndpointError ProbeResponse) :=
  match canaryProbes J req with
  | .error e => return .error (.probe e)
  | .ok probes => do
    match ← Endpoint.recordProtocolObservation (req.canary H probes) with
    | .error e => return .error (.store e)
    | .ok (event, updated) =>
      if ∀ p ∈ probes, p.Dumps H then return .ok (req.response H probes event updated)
      else return .error .answer

end Counterparty
