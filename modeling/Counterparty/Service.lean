import Counterparty.AuditChain
import Counterparty.Delivery
import Counterparty.Routing

/-! The four writing endpoints served to any number of clients, and the audit chain they leave. -/
namespace Counterparty

open Json Interleave

inductive ServiceRequest
  | trustSnapshot (req : TrustSnapshotRequest)
  | probeObservation (req : ProbeObservationRequest)
  | verifyDelivery (latencyMs : ℕ) (req : DeliveryVerificationRequest)
  | bestExecution (req : BestExecutionRequest)

inductive ServiceResponse
  | snapshot (response : TrustSnapshotResponse)
  | probe (response : ProbeResponse)
  | delivery (response : DeliveryResponse)
  | execution (response : BestExecutionResponse)

def ServiceResponse.auditReceipt : ServiceResponse → String
  | .snapshot response => response.auditReceipt
  | .probe response => response.auditReceipt
  | .delivery response => response.auditReceipt
  | .execution response => response.auditReceipt

abbrev Served := Except EndpointError ServiceResponse

noncomputable def serve (H : Host) (J : JsonSchema) : ServiceRequest → Endpoint Served
  | .trustSnapshot req => do
    let response ← trustSnapshot H req
    return (response.mapError .store).map .snapshot
  | .probeObservation req => do
    let response ← probeObservation H J req
    return response.map .probe
  | .verifyDelivery latencyMs req => do
    let response ← verifyDelivery H J latencyMs req
    return response.map .delivery
  | .bestExecution req => do
    let response ← bestExecution H req
    return (response.mapError .store).map .execution

/-! What the verifying endpoints answer once the store has returned. -/

def DeliveryVerificationRequest.served (H : Host) (req : DeliveryVerificationRequest)
    (probes : List ProbeResult) : Except StoreError (AuditEvent × Bool) → Served
  | .error e => .error (.store e)
  | .ok (event, updated) =>
    if ∀ p ∈ probes, p.Dumps H then .ok (.delivery (req.response H probes event updated))
    else .error .answer

def ProbeObservationRequest.served (H : Host) (req : ProbeObservationRequest)
    (probes : List ProbeResult) : Except StoreError (AuditEvent × Bool) → Served
  | .error e => .error (.store e)
  | .ok (event, updated) =>
    if ∀ p ∈ probes, p.Dumps H then .ok (.probe (req.response H probes event updated))
    else .error .answer

theorem served_delivery_cases (H : Host) (req : DeliveryVerificationRequest)
    (probes : List ProbeResult) (r : Except StoreError (AuditEvent × Bool)) :
    (∃ e, req.served H probes r = .error e) ∨ ∃ event updated, r = .ok (event, updated) ∧
      req.served H probes r = .ok (.delivery (req.response H probes event updated)) := by
  rcases r with e | ⟨event, updated⟩
  · exact .inl ⟨_, rfl⟩
  · unfold DeliveryVerificationRequest.served
    split_ifs with hdumps
    · exact .inr ⟨event, updated, rfl, rfl⟩
    · exact .inl ⟨_, rfl⟩

theorem served_probe_cases (H : Host) (req : ProbeObservationRequest) (probes : List ProbeResult)
    (r : Except StoreError (AuditEvent × Bool)) :
    (∃ e, req.served H probes r = .error e) ∨ ∃ event updated, r = .ok (event, updated) ∧
      req.served H probes r = .ok (.probe (req.response H probes event updated)) := by
  rcases r with e | ⟨event, updated⟩
  · exact .inl ⟨_, rfl⟩
  · unfold ProbeObservationRequest.served
    split_ifs with hdumps
    · exact .inr ⟨event, updated, rfl, rfl⟩
    · exact .inl ⟨_, rfl⟩

/-- The endpoint raises at once, or makes one call and answers. -/
theorem serve_verifyDelivery (H : Host) (J : JsonSchema) (latencyMs : ℕ)
    (req : DeliveryVerificationRequest) :
    (∃ e, serve H J (.verifyDelivery latencyMs req) = pure (.error e)) ∨
      ∃ probes, deliveryProbes J req = .ok probes ∧
        serve H J (.verifyDelivery latencyMs req) =
          (Prog.perform (.recordVerification (req.verification H latencyMs probes)) >>=
            fun r => pure (req.served H probes r)) := by
  rw [serve, verifyDelivery]
  cases deliveryProbes J req with
  | error e => exact .inl ⟨_, rfl⟩
  | ok probes =>
    by_cases hreq : req.Dumps H
    · refine .inr ⟨probes, rfl, ?_⟩
      simp only [if_neg (not_not.2 hreq)]
      refine congrArg (Prog.call (StoreOp.recordVerification _)) (funext fun r => ?_)
      rcases r with e | ⟨event, updated⟩
      · rfl
      · dsimp only [DeliveryVerificationRequest.served]
        split_ifs <;> rfl
    · exact .inl ⟨.dump, by simp only [if_pos hreq]; rfl⟩

theorem serve_probeObservation (H : Host) (J : JsonSchema) (req : ProbeObservationRequest) :
    (∃ e, serve H J (.probeObservation req) = pure (.error e)) ∨
      ∃ probes, canaryProbes J req = .ok probes ∧
        serve H J (.probeObservation req) =
          (Prog.perform (.recordProtocolObservation (req.canary H probes)) >>=
            fun r => pure (req.served H probes r)) := by
  rw [serve, probeObservation]
  cases canaryProbes J req with
  | error e => exact .inl ⟨_, rfl⟩
  | ok probes =>
    refine .inr ⟨probes, rfl, ?_⟩
    refine congrArg (Prog.call (StoreOp.recordProtocolObservation _)) (funext fun r => ?_)
    rcases r with e | ⟨event, updated⟩
    · rfl
    · dsimp only [ProbeObservationRequest.served]
      split_ifs <;> rfl

/-- The operations that the endpoints perform. -/
inductive StoreOp.Issued (H : Host) : StoreOp → Prop
  | reputation (s taskType : String) : Issued H (.reputation s taskType)
  | protocolReputation (s : String) : Issued H (.protocolReputation s)
  | snapshot (req : TrustSnapshotRequest) (rep protocolRep : BayesianReputation) :
      Issued H (.appendAudit "trust_snapshot" (snapshotPayload H req rep protocolRep))
  | execution (req : BestExecutionRequest) (execution : Execution) :
      Issued H (.appendAudit "best_execution" (executionPayload H req execution))
  | verification (latencyMs : ℕ) (req : DeliveryVerificationRequest) (probes : List ProbeResult) :
      Issued H (.recordVerification (req.verification H latencyMs probes))
  | canary (req : ProbeObservationRequest) (probes : List ProbeResult) :
      Issued H (.recordProtocolObservation (req.canary H probes))

theorem performs_scoreCandidates (H : Host) (mode : Mode) (taskType : String)
    (candidates : List CandidateRequest) :
    (scoreCandidates mode taskType candidates).Performs (StoreOp.Issued H) := by
  induction candidates with
  | nil => trivial
  | cons candidate rest ih =>
    apply Prog.Performs.perform_bind (.reputation _ _)
    intro delivery
    apply Prog.Performs.perform_bind (.protocolReputation _)
    intro protocol
    by_cases hvalid : (candidateScore mode candidate delivery protocol).Valid
    · simp only [if_pos hvalid]
      exact ih.bind fun _ => trivial
    · simp only [if_neg hvalid]
      trivial

theorem performs_serve (H : Host) (J : JsonSchema) (req : ServiceRequest) :
    (serve H J req).Performs (StoreOp.Issued H) := by
  cases req with
  | trustSnapshot req =>
    apply Prog.Performs.bind (p := trustSnapshot H req)
    · apply Prog.Performs.perform_bind (.reputation _ _)
      intro delivery
      apply Prog.Performs.perform_bind (.protocolReputation _)
      intro protocol
      apply Prog.Performs.perform_bind (.snapshot req delivery.1 protocol.1)
      exact fun _ => trivial
    · exact fun _ => trivial
  | probeObservation req =>
    rcases serve_probeObservation H J req with ⟨e, hserve⟩ | ⟨probes, -, hserve⟩
    · rw [hserve]
      trivial
    · rw [hserve]
      exact ⟨.canary req probes, fun _ => trivial⟩
  | verifyDelivery latencyMs req =>
    rcases serve_verifyDelivery H J latencyMs req with ⟨e, hserve⟩ | ⟨probes, -, hserve⟩
    · rw [hserve]
      trivial
    · rw [hserve]
      exact ⟨.verification latencyMs req probes, fun _ => trivial⟩
  | bestExecution req =>
    rw [serve, bestExecution]
    apply Prog.Performs.bind
    · apply (performs_scoreCandidates H req.mode req.taskType req.candidates).bind
      rintro (e | scores)
      · trivial
      · apply Prog.Performs.perform_bind (.execution req _)
        exact fun _ => trivial
    · exact fun _ => trivial

/-- An operation of the store as one step, under whatever faults it meets. -/
def StoreOp.Exec (H : Host) (op : StoreOp) (st : Store) (r : op.Ret) (st' : Store) : Prop :=
  ∃ faults, op.exec H faults st = (r, st')

/-- The operation changes the store, when it returns. -/
def StoreOp.Writes : StoreOp → Prop
  | .reputation _ _ | .protocolReputation _ => False
  | .appendAudit _ _ | .recordVerification _ | .recordProtocolObservation _ => True

def StoreOp.Raises : (op : StoreOp) → op.Ret → Prop
  | .reputation _ _, _ | .protocolReputation _, _ => False
  | .appendAudit _ _, r => ∃ e, r = .error e
  | .recordVerification _, r | .recordProtocolObservation _, r => ∃ e, r = .error e

/-- All that an operation can do to the store, by its answer. -/
inductive StoreOp.Effect (H : Host) (st st' : Store) : (op : StoreOp) → op.Ret → Prop
  | kept {op : StoreOp} {r : op.Ret} (hquiet : op.Writes → op.Raises r) (hdb : st'.db = st.db)
      (hdraws : st.draws ≤ st'.draws) : Effect H st st' op r
  | logged {eventType : String} {payload : PyDict} {event : AuditEvent}
      (h : Logged H eventType payload st st' event) :
      Effect H st st' (.appendAudit eventType payload) (.ok event)
  | verified {v : Verification} {event : AuditEvent} {updated : Bool}
      (h : Verified H v st st' event updated) :
      Effect H st st' (.recordVerification v) (.ok (event, updated))
  | canaried {p : ProtocolCanary} {event : AuditEvent} {updated : Bool}
      (h : Canaried H p st st' event updated) :
      Effect H st st' (.recordProtocolObservation p) (.ok (event, updated))

theorem StoreOp.Exec.effect {H : Host} {op : StoreOp} {st st' : Store} {r : op.Ret}
    (h : op.Exec H st r st') : Effect H st st' op r := by
  obtain ⟨faults, h⟩ := h
  cases op with
  | reputation s t =>
    cases h
    exact .kept False.elim rfl le_rfl
  | protocolReputation s =>
    cases h
    exact .kept False.elim rfl le_rfl
  | appendAudit eventType payload =>
    cases r with
    | error e =>
      obtain ⟨hdb, hdraws⟩ := appendAudit_error h
      exact .kept (fun _ => ⟨e, rfl⟩) hdb hdraws
    | ok event => exact .logged (appendAudit_ok h)
  | recordVerification v =>
    cases r with
    | error e =>
      obtain ⟨hdb, hdraws⟩ := recordVerification_error h
      exact .kept (fun _ => ⟨e, rfl⟩) hdb hdraws
    | ok answer => exact .verified (recordVerification_ok h)
  | recordProtocolObservation p =>
    cases r with
    | error e =>
      obtain ⟨hdb, hdraws⟩ := recordProtocolObservation_error h
      exact .kept (fun _ => ⟨e, rfl⟩) hdb hdraws
    | ok answer => exact .canaried (recordProtocolObservation_ok h).2

/-- Runs of any number of requests on an empty store, each operation a transaction of its own. -/
abbrev Serving (H : Host) (J : JsonSchema) :=
  Run (StoreOp.Exec H) (serve H J) Store.empty

/-- The event that an answer is given a receipt for. -/
inductive AuditedAs (H : Host) : ServiceRequest → ServiceResponse → String → PyDict → Prop
  | snapshot (req : TrustSnapshotRequest) (response : TrustSnapshotResponse) :
      AuditedAs H (.trustSnapshot req) (.snapshot response) "trust_snapshot"
        (snapshotPayload H req response.evidence.1 response.protocolEvidence.1)
  | probe (req : ProbeObservationRequest) (response : ProbeResponse) :
      AuditedAs H (.probeObservation req) (.probe response) "protocol_probe"
        ((req.canary H response.probes).payload response.protocolReputationUpdated)
  | delivery (latencyMs : ℕ) (req : DeliveryVerificationRequest) (response : DeliveryResponse) :
      AuditedAs H (.verifyDelivery latencyMs req) (.delivery response) "verify_delivery"
        ((req.verification H latencyMs response.probes).payload response.reputationUpdated)
  | execution (req : BestExecutionRequest) (response : BestExecutionResponse) :
      AuditedAs H (.bestExecution req) (.execution response) "best_execution"
        (executionPayload H req response.execution)

/-! The payloads can be written and read back. -/

variable {H : Host} {J : JsonSchema} {st st' : Store}

theorem plain_text (s : String) : Plain (pyText s) := .str (scalar_ofString s)

theorem plain_int (z : ℤ) : Plain (pyInt z) := .num trivial

theorem plain_float (H : Host) (q : ℚ) : Plain (pyFloat H q) := .num trivial

theorem plain_dict {entries : List (String × PyJson)} (hkeys : (entries.map Prod.fst).Nodup)
    (h : ∀ e ∈ entries, Plain e.2) : Plain (.obj (dict entries)) :=
  readable_dict scalar_ofString hkeys h

theorem plain_put {k : String} {v : PyJson} {fields : PyDict} (h : Plain (.obj fields))
    (hv : Plain v) : Plain (.obj (put (PyStr.ofString k) v fields)) := by
  cases h with
  | obj hkeys hstr hfields =>
    refine .obj (nodup_put hkeys) ?_ ?_
    · intro f hf
      rcases mem_of_mem_put hf with rfl | hf
      · exact scalar_ofString k
      · exact hstr f hf
    · intro f hf
      rcases mem_of_mem_put hf with rfl | hf
      · exact hv
      · exact hfields f hf

theorem plain_probeStates (probes : List ProbeResult) : Plain (probeStates probes) := by
  refine .obj (nodup_ofEntries _) ?_ ?_
  · intro f hf
    obtain ⟨p, -, rfl⟩ := List.mem_map.1 (mem_of_mem_ofEntries hf)
    exact scalar_ofString p.probe
  · intro f hf
    obtain ⟨p, -, rfl⟩ := List.mem_map.1 (mem_of_mem_ofEntries hf)
    exact plain_text _

theorem plain_map {α : Type} {f : α → PyJson} (h : ∀ a, Plain (f a)) (items : List α) :
    Plain (.arr (items.map f)) := by
  refine .arr ?_
  intro x hx
  obtain ⟨a, -, rfl⟩ := List.mem_map.1 hx
  exact h a

theorem plain_snapshotPayload (req : TrustSnapshotRequest) (rep protocolRep : BayesianReputation) :
    Plain (.obj (snapshotPayload H req rep protocolRep)) := by
  apply plain_dict
  · simp only [List.map_cons, List.map_nil]
    decide
  · simp [plain_text, plain_int, plain_float]

theorem plain_verification (latencyMs : ℕ) (req : DeliveryVerificationRequest)
    (probes : List ProbeResult) (updated : Bool) :
    Plain (.obj ((req.verification H latencyMs probes).payload updated)) := by
  refine plain_put (plain_put (plain_dict ?_ ?_) (.bool _)) (.bool _)
  · simp only [List.map_cons, List.map_nil]
    decide
  · simp [plain_text, plain_float, plain_probeStates, Readable.bool]

theorem plain_canary (req : ProbeObservationRequest) (probes : List ProbeResult) (updated : Bool) :
    Plain (.obj ((req.canary H probes).payload updated)) := by
  refine plain_put (plain_put (plain_dict ?_ ?_) (.bool _)) (.bool _)
  · simp only [List.map_cons, List.map_nil]
    decide
  · simp [plain_text, plain_float, plain_probeStates]

theorem plain_scoreRow (x : CandidateScore × ℚ) : Plain (scoreRow H x) := by
  apply plain_dict
  · simp only [List.map_cons, List.map_nil]
    decide
  · simp [plain_text, plain_int, plain_float]

theorem plain_result (execution : Execution) : Plain (.obj (execution.result H)) := by
  cases execution with
  | unaffordable =>
    apply plain_dict
    · simp only [List.map_cons, List.map_nil]
      decide
    · simp [plain_text, Readable.arr]
  | rejected ranked =>
    apply plain_dict
    · simp only [List.map_cons, List.map_nil]
      decide
    · simp [plain_text, plain_map plain_scoreRow]
  | unready ranked targets =>
    apply plain_dict
    · simp only [List.map_cons, List.map_nil]
      decide
    · have hnext : Plain (.obj (dict
          [("service", pyText "trust_snapshot"), ("price_credits", pyInt 4),
            ("reason", pyText
              "Trust Snapshot actively canary-tests an unknown seller under a bounded SharedOS Probe grant."),
            ("targets", .arr (targets.map pyText))])) := by
        apply plain_dict
        · simp only [List.map_cons, List.map_nil]
          decide
        · simp [plain_text, plain_int, plain_map plain_text]
      simp [plain_text, plain_map plain_scoreRow, hnext]
  | recommended winner ranked =>
    apply plain_dict
    · simp only [List.map_cons, List.map_nil]
      decide
    · have hnext : Plain (.obj (dict
          [("service", pyText "verify_delivery"), ("price_credits", pyInt 7),
            ("reason", pyText
              "After purchase, verify the actual delivery to upgrade provisional protocol evidence into task-specific reputation.")])) := by
        apply plain_dict
        · simp only [List.map_cons, List.map_nil]
          decide
        · simp [plain_text, plain_int]
      simp [plain_text, plain_float, plain_map plain_scoreRow, hnext]

theorem plain_executionPayload (req : BestExecutionRequest) (execution : Execution) :
    Plain (.obj (executionPayload H req execution)) := by
  apply plain_dict
  · simp only [List.map_cons, List.map_nil]
    decide
  · simp [plain_text, plain_result]

/-! What each operation does to the chain. -/

/-- The chain still holds, and only grew at its end. -/
def ChainGrows (H : Host) (st st' : Store) : Prop :=
  Chained H st'.db ∧ st.db.auditEvents.rows <+: st'.db.auditEvents.rows

theorem ChainGrows.of_eq (hc : Chained H st.db) (h : st'.db = st.db) : ChainGrows H st st' := by
  unfold ChainGrows
  rw [h]
  exact ⟨hc, List.prefix_rfl⟩

theorem ChainGrows.of_appended {n : ℕ} {eventType : String} {payload : PyDict} {event : AuditEvent}
    (hc : Chained H st.db) (h : Appended H n eventType payload st.db st'.db event)
    (hpayload : Plain (.obj payload)) : ChainGrows H st st' := by
  refine ⟨hc.append h hpayload, ?_⟩
  rw [h.rows_eq]
  exact List.prefix_append _ _

/-- Every payload that the operation may write can be read back. -/
def StoreOp.WritesPlain : StoreOp → Prop
  | .reputation _ _ | .protocolReputation _ => True
  | .appendAudit _ payload => Plain (.obj payload)
  | .recordVerification v => ∀ updated, Plain (.obj (v.payload updated))
  | .recordProtocolObservation p => ∀ updated, Plain (.obj (p.payload updated))

theorem StoreOp.Exec.chainGrows {op : StoreOp} {r : op.Ret} (hplain : op.WritesPlain)
    (hc : Chained H st.db) (h : op.Exec H st r st') : ChainGrows H st st' := by
  cases h.effect with
  | kept _ hdb _ => exact .of_eq hc hdb
  | logged hl => exact .of_appended hc hl.appended hplain
  | verified hv => exact .of_appended hc hv.appended (hplain _)
  | canaried hp => exact .of_appended hc hp.appended (hplain _)

/-! The contract of the audit log. -/

/-- The answer, if any, comes with the receipt of an event on record that describes it. -/
def Receipted (H : Host) (req : ServiceRequest) (served : Served)
    (m : Moment ServiceRequest StoreOp.Ret Served Store) : Prop :=
  ∀ response, served = .ok response → ∃ event eventType payload,
    AuditedAs H req response eventType payload ∧ OnRecord m.now.db eventType payload event ∧
      response.auditReceipt = event.hash

def auditContract (H : Host) : Contract ServiceRequest StoreOp.Ret Served Store (StoreOp.Exec H) where
  le st st' := st.db.auditEvents.rows <+: st'.db.auditEvents.rows
  refl _ := List.prefix_rfl
  trans := List.IsPrefix.trans
  Inv m := Chained H m.now.db
  inv_event h _ := h
  Allowed _ op _ := op.WritesPlain
  allowed_mono h _ _ := h
  step := StoreOp.Exec.chainGrows
  post := Receipted H
  post_mono h _ hle response hresponse := by
    obtain ⟨event, eventType, payload, haudited, hrecord, hreceipt⟩ := h response hresponse
    exact ⟨event, eventType, payload, haudited,
      ⟨hrecord.eventType_eq, hrecord.payload_eq, hrecord.plain, hle.subset hrecord.row_mem⟩, hreceipt⟩

section Keeps

variable {α : Type} {req : ServiceRequest} {m : Moment ServiceRequest StoreOp.Ret Served Store}
  {Q : α → Moment ServiceRequest StoreOp.Ret Served Store → Prop}

theorem keeps_perform (op : StoreOp) {next : op.Ret → Endpoint α} (hplain : op.WritesPlain)
    (h : ∀ st r past st', op.Exec H st r st' → (auditContract H).Keeps req Q (next r) ⟨past, st'⟩) :
    (auditContract H).Keeps req Q (Prog.perform op >>= next) m :=
  ⟨hplain, fun _ r st' _ _ _ hexec => h _ r _ st' hexec⟩

theorem receipted_error (e : EndpointError) : Receipted H req (.error e) m := by
  rintro response ⟨⟩

theorem receipted_ok {response : ServiceResponse} {event : AuditEvent} {eventType : String}
    {payload : PyDict} (haudited : AuditedAs H req response eventType payload)
    (hrecord : OnRecord m.now.db eventType payload event)
    (hreceipt : response.auditReceipt = event.hash) : Receipted H req (.ok response) m := by
  rintro _ ⟨⟩
  exact ⟨event, eventType, payload, haudited, hrecord, hreceipt⟩

theorem keeps_trustSnapshot (req : TrustSnapshotRequest) :
    (auditContract H).Keeps (.trustSnapshot req) (Receipted H (.trustSnapshot req))
      (serve H J (.trustSnapshot req)) m := by
  apply keeps_perform (.reputation req.serviceId req.taskType) trivial
  intro _ rep _ _ _
  apply keeps_perform (.protocolReputation req.serviceId) trivial
  intro _ protocolRep _ _ _
  have hplain := plain_snapshotPayload (H := H) req rep.1 protocolRep.1
  apply keeps_perform (.appendAudit _ _) hplain
  rintro st₁ result past st₂ ⟨faults, hexec⟩
  cases result with
  | error e => exact receipted_error _
  | ok event =>
    exact receipted_ok (.snapshot req _) ((appendAudit_ok hexec).appended.onRecord hplain) rfl

theorem keeps_probeObservation (req : ProbeObservationRequest) :
    (auditContract H).Keeps (.probeObservation req) (Receipted H (.probeObservation req))
      (serve H J (.probeObservation req)) m := by
  rcases serve_probeObservation H J req with ⟨e, hserve⟩ | ⟨probes, -, hserve⟩
  · rw [hserve]
    exact receipted_error _
  · rw [hserve]
    have hplain := plain_canary (H := H) req probes
    apply keeps_perform (.recordProtocolObservation _) hplain
    rintro st₁ result past st₂ ⟨faults, hexec⟩
    rcases served_probe_cases H req probes result with ⟨e, hserved⟩ | ⟨event, updated, rfl, hserved⟩
    · rw [hserved]
      exact receipted_error _
    · rw [hserved]
      exact receipted_ok (.probe req _)
        ((recordProtocolObservation_ok hexec).2.appended.onRecord (hplain updated)) rfl

theorem keeps_verifyDelivery (latencyMs : ℕ) (req : DeliveryVerificationRequest) :
    (auditContract H).Keeps (.verifyDelivery latencyMs req)
      (Receipted H (.verifyDelivery latencyMs req)) (serve H J (.verifyDelivery latencyMs req)) m := by
  rcases serve_verifyDelivery H J latencyMs req with ⟨e, hserve⟩ | ⟨probes, -, hserve⟩
  · rw [hserve]
    exact receipted_error _
  · rw [hserve]
    have hplain := plain_verification (H := H) latencyMs req probes
    apply keeps_perform (.recordVerification _) hplain
    rintro st₁ result past st₂ ⟨faults, hexec⟩
    rcases served_delivery_cases H req probes result with ⟨e, hserved⟩ | ⟨event, updated, rfl, hserved⟩
    · rw [hserved]
      exact receipted_error _
    · rw [hserved]
      exact receipted_ok (.delivery latencyMs req _)
        ((recordVerification_ok hexec).appended.onRecord (hplain updated)) rfl

/-- Scoring only reads. -/
theorem keeps_scoreCandidates (mode : Mode) (taskType : String) (candidates : List CandidateRequest)
    (m : Moment ServiceRequest StoreOp.Ret Served Store) :
    (auditContract H).Keeps req (fun _ _ => True) (scoreCandidates mode taskType candidates) m := by
  induction candidates generalizing m with
  | nil => trivial
  | cons candidate rest ih =>
    apply keeps_perform (.reputation candidate.serviceId taskType) trivial
    intro _ delivery _ _ _
    apply keeps_perform (.protocolReputation candidate.serviceId) trivial
    intro _ protocol past st' _
    by_cases hvalid : (candidateScore mode candidate delivery protocol).Valid
    · simp only [if_pos hvalid]
      exact (ih ⟨past, st'⟩).bind fun _ _ _ => trivial
    · simp only [if_neg hvalid]
      trivial

theorem keeps_bestExecution (req : BestExecutionRequest) :
    (auditContract H).Keeps (.bestExecution req) (Receipted H (.bestExecution req))
      (serve H J (.bestExecution req)) m := by
  rw [serve, bestExecution]
  refine Contract.Keeps.bind (Contract.Keeps.bind
    (keeps_scoreCandidates req.mode req.taskType req.candidates m) ?_)
    (Q := fun result m => ∀ response, result = .ok response →
      Receipted H (.bestExecution req) (.ok (.execution response)) m) ?_
  · rintro (e | scores) m₁ -
    · rintro response ⟨⟩
    · have hplain := plain_executionPayload (H := H) req
        (chooseExecution req.mode (rank scores req.budgetCredits req.mode))
      apply keeps_perform (.appendAudit _ _) hplain
      rintro st₁ result past st₂ ⟨faults, hexec⟩ response hresponse
      obtain ⟨event, rfl, rfl⟩ := Except.map_eq_ok hresponse
      exact receipted_ok (.execution req _) ((appendAudit_ok hexec).appended.onRecord hplain) rfl
  · rintro (e | response) m₁ h
    · exact receipted_error _
    · exact h response rfl

theorem keeps_serve (req : ServiceRequest) :
    (auditContract H).Keeps req (Receipted H req) (serve H J req) m := by
  cases req with
  | trustSnapshot req => exact keeps_trustSnapshot req
  | probeObservation req => exact keeps_probeObservation req
  | verifyDelivery latencyMs req => exact keeps_verifyDelivery latencyMs req
  | bestExecution req => exact keeps_bestExecution req

end Keeps

theorem good_of_serving {history : List (Event ServiceRequest StoreOp.Ret Served)}
    {c : Config ServiceRequest StoreOp.Ret Served Store} (h : Serving H J history c) :
    (auditContract H).Good history c := by
  have hempty : (auditContract H).Inv ⟨[], .empty⟩ := (trivial : Chained H Store.empty.db)
  exact Contract.good_of_run hempty (fun req _ _ => keeps_serve req) h

/-- In every state of every run the audit chain verifies, its numbers are 1 to the count, the head
is its last record, and each receipt handed out still resolves to the event it was given for. -/
theorem audit_always_verifies (H : Host) (J : JsonSchema)
    (history : List (Event ServiceRequest StoreOp.Ret Served))
    (c : Config ServiceRequest StoreOp.Ret Served Store) (h : Serving H J history c) :
    verifyAudit H c.store.db = .ok true ∧
      c.store.db.auditRows.map AuditRow.seq =
        (List.range c.store.db.auditRows.length).map (fun i : ℕ => 1 + (i : ℤ)) ∧
      auditHead c.store.db = ⟨c.store.db.auditRows.length,
        (c.store.db.auditRows.getLast?.map AuditRow.hash).getD zeroHash⟩ ∧
      ∀ req response, .returned req (.ok response) ∈ history →
        ∃ (event : AuditEvent) (eventType : String) (payload : PyDict),
          AuditedAs H req response eventType payload ∧ event.eventType = eventType ∧
            event.payload = .obj payload ∧
            getAuditEvent c.store.db response.auditReceipt =
              .ok (some { event with payload := event.payload.sortKeys }) := by
  obtain ⟨hchain, -, hanswers⟩ := good_of_serving h
  have hrows := Chained.auditRows hchain
  refine ⟨Chained.verifyAudit hchain, ?_, ?_, ?_⟩
  · rw [Chained.seq_eq hchain, hrows]
  · rw [Chained.auditHead hchain, hrows]
  · intro req response hmem
    obtain ⟨event, eventType, payload, haudited, hrecord, hreceipt⟩ :=
      hanswers _ _ hmem response rfl
    refine ⟨event, eventType, payload, haudited, hrecord.eventType_eq, hrecord.payload_eq, ?_⟩
    rw [hreceipt]
    exact hrecord.getAuditEvent

/-- A snapshot served on an empty store; its receipt resolves. -/
theorem audit_verifies_snapshot : ∃ history c response event,
    Serving (.sample zeroHash) .sample history c ∧
      .returned (.trustSnapshot ⟨"seller", "general"⟩) (.ok response) ∈ history ∧
      verifyAudit (.sample zeroHash) c.store.db = .ok true ∧
      getAuditEvent c.store.db response.auditReceipt = .ok (some event) := by
  let H : Host := .sample zeroHash
  let answer : (op : StoreOp) → Store → op.Ret × Store := fun op st => op.exec H (fun _ => false) st
  have hanswer : ∀ op st, StoreOp.Exec H op st (answer op st).1 (answer op st).2 :=
    fun op st => ⟨_, rfl⟩
  obtain ⟨event, st', happend⟩ := (commits_empty H).appendAudit "trust_snapshot"
    (snapshotPayload H ⟨"seller", "general"⟩ (reputation Store.empty.db "seller" "general").1
      (protocolReputation Store.empty.db "seller").1)
  obtain ⟨response, hresponse⟩ := trustSnapshot_returns happend
  have hserved : (serve H .sample (.trustSnapshot ⟨"seller", "general"⟩)).eval answer .empty =
      (.ok (.snapshot response), st') := by
    change Endpoint.run H (fun _ => false) _ _ = _
    rw [serve, Endpoint.run_bind, hresponse]
    rfl
  obtain ⟨n, calls, hcalls⟩ := Prog.exists_advance answer
    (serve H .sample (.trustSnapshot ⟨"seller", "general"⟩)) .empty
  rw [hserved] at hcalls
  have hrun := Run.serve_alone hanswer (.init : Serving H .sample [] _) hcalls
  obtain ⟨hverify, -, -, hreceipts⟩ := audit_always_verifies H .sample _ _ hrun
  obtain ⟨event, -, -, -, -, -, hevent⟩ :=
    hreceipts (.trustSnapshot ⟨"seller", "general"⟩) (.snapshot response) (by simp)
  exact ⟨_, _, .snapshot response, _, hrun, by simp, hverify, hevent⟩

end Counterparty
