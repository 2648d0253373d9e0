import Counterparty.Delivery
import Counterparty.VerificationSpec

/-! When the two verifying endpoints raise, what they answer, and what they let into reputation. -/
namespace Counterparty

open Json

variable {H : Host} {J : JsonSchema} {faults : Faults} {st st' : Store} {latencyMs : ℕ}
  {req : DeliveryVerificationRequest} {probes : List ProbeResult}

/-! The probes of a request. -/

/-- The inputs on which a probe of the verifier raises. -/
def ProbesRaise (output : PyJson) (assertions : List Assertion) : Prop :=
  (∃ a ∈ assertions, PathRaises output a.path) ∨ UnhashableReason output

/-- Some of the four probes decides against the output. -/
def ContractFails (J : JsonSchema) (output : PyJson) (schema : Option PyDict)
    (assertions : List Assertion) : Prop :=
  (UsableSchema J schema ∧ ¬SchemaHolds J output schema) ∨ (∃ a ∈ assertions, ¬a.Holds output) ∨
    Marked output ∨ SelfContradictory output

/-- All of the four probes decide for the output. -/
def ContractHolds (J : JsonSchema) (output : PyJson) (schema : Option PyDict)
    (assertions : List Assertion) : Prop :=
  SchemaHolds J output schema ∧ (assertions ≠ [] ∧ ∀ a ∈ assertions, a.Holds output) ∧
    ¬Marked output ∧ ¬SelfContradictory output

theorem contractProbes_cases (J : JsonSchema) (output : PyJson) (schema : Option PyDict)
    (assertions : List Assertion) :
    ((∃ e, contractProbes J output schema assertions = .error e) ∧
        ProbesRaise output assertions) ∨
      ∃ probes, contractProbes J output schema assertions = .ok probes ∧
        ¬ProbesRaise output assertions ∧
        ((∃ p ∈ probes, p.state = .fail) ↔ ContractFails J output schema assertions) ∧
        ((∀ p ∈ probes, p.state = .pass) ↔ ContractHolds J output schema assertions) := by
  have hassertions := @assertionsProbe_error_iff output assertions
  have hcontradiction := @contradictionProbe_error_iff output
  cases ha : assertionsProbe output assertions with
  | error e =>
    refine .inl ⟨⟨e, ?_⟩, .inl (hassertions.1 ⟨e, ha⟩)⟩
    rw [contractProbes, ha]
    rfl
  | ok p =>
    cases hc : contradictionProbe output with
    | error e =>
      refine .inl ⟨⟨e, ?_⟩, .inr (hcontradiction.1 ⟨e, hc⟩)⟩
      rw [contractProbes, ha, hc]
      rfl
    | ok q =>
      refine .inr ⟨[schemaProbe J output schema, p, injectionProbe output, q], ?_, ?_, ?_, ?_⟩
      · rw [contractProbes, ha, hc]
        rfl
      · rintro (h | h)
        · obtain ⟨e, he⟩ := hassertions.2 h
          rw [ha] at he
          cases he
        · obtain ⟨e, he⟩ := hcontradiction.2 h
          rw [hc] at he
          cases he
      · simp [ContractFails, schemaProbe_fail_iff, injectionProbe_fail_iff,
          (assertionsProbe_state ha).2.1, (contradictionProbe_state hc).1]
      · simp [ContractHolds, schemaProbe_pass_iff, injectionProbe_pass_iff,
          (assertionsProbe_state ha).2.2, (contradictionProbe_state hc).2]

theorem deliveryProbes_cases (J : JsonSchema) (req : DeliveryVerificationRequest) :
    ((∃ e, deliveryProbes J req = .error e) ∧ ProbesRaise req.output req.assertions) ∨
      ∃ probes, deliveryProbes J req = .ok probes ∧ ¬ProbesRaise req.output req.assertions ∧
        ((∃ p ∈ probes, p.state = .fail) ↔
          ContractFails J req.output req.expectedSchema req.assertions ∨
            ∃ check ∈ req.independentChecks, check.state = .fail) ∧
        ((∀ p ∈ probes, p.state = .pass) ↔
          ContractHolds J req.output req.expectedSchema req.assertions ∧
            (∀ check ∈ req.independentChecks, check.state = .pass) ∧
            (req.citedUrls ≠ [] → ∃ check ∈ req.independentChecks, check.probe = "citations")) := by
  rcases contractProbes_cases J req.output req.expectedSchema req.assertions with
    ⟨⟨e, he⟩, hraise⟩ | ⟨base, hbase, hraise, hfail, hpass⟩
  · refine .inl ⟨⟨e, ?_⟩, hraise⟩
    rw [deliveryProbes, he]
    rfl
  · have hcitations : (citationsProbe req.citedUrls).state = .inconclusive := by
      unfold citationsProbe
      split_ifs <;> rfl
    have hany : (∃ p ∈ base ++ req.independentChecks.map IndependentCheck.result, p.state = .fail) ↔
        ContractFails J req.output req.expectedSchema req.assertions ∨
          ∃ check ∈ req.independentChecks, check.state = .fail := by
      simp only [List.mem_append, or_and_right, exists_or, hfail, List.mem_map,
        exists_exists_and_eq_and, IndependentCheck.result]
    have hall : (∀ p ∈ base ++ req.independentChecks.map IndependentCheck.result, p.state = .pass) ↔
        ContractHolds J req.output req.expectedSchema req.assertions ∧
          ∀ check ∈ req.independentChecks, check.state = .pass := by
      simp only [List.forall_mem_append, hpass, List.forall_mem_map, IndependentCheck.result]
    by_cases hcited : req.citedUrls ≠ [] ∧ ∀ check ∈ req.independentChecks, check.probe ≠ "citations"
    · refine .inr ⟨(base ++ req.independentChecks.map IndependentCheck.result) ++
        [citationsProbe req.citedUrls], ?_, hraise, ?_, ?_⟩
      · rw [deliveryProbes, hbase]
        exact if_pos hcited
      · rw [← hany]
        constructor
        · rintro ⟨p, hp, hs⟩
          rcases List.mem_append.1 hp with hp | hp
          · exact ⟨p, hp, hs⟩
          · rw [List.mem_singleton.1 hp, hcitations] at hs
            cases hs
        · rintro ⟨p, hp, hs⟩
          exact ⟨p, List.mem_append_left _ hp, hs⟩
      · rw [List.forall_mem_append]
        simp only [List.forall_mem_singleton, hcitations, reduceCtorEq, and_false, false_iff]
        rintro ⟨-, -, hindependent⟩
        obtain ⟨check, hcheck, hname⟩ := hindependent hcited.1
        exact hcited.2 check hcheck hname
    · refine .inr ⟨base ++ req.independentChecks.map IndependentCheck.result, ?_, hraise, hany, ?_⟩
      · rw [deliveryProbes, hbase]
        exact if_neg hcited
      · rw [hall]
        push Not at hcited
        exact ⟨fun h => ⟨h.1, h.2, hcited⟩, fun h => ⟨h.1, h.2.1⟩⟩

/-! Dumps. -/

/-- The first ten of the assertions that do not hold are dumped with what was found. -/
def Reports (H : Host) (output : PyJson) (assertions : List Assertion) : Prop :=
  H.dumps (.arr ((shortfall output assertions).take 10))

theorem ProbeResult.dumps_empty {p : ProbeResult} (h : p.evidence = []) : p.Dumps H := by
  intro f hf
  rw [h] at hf
  cases hf

theorem ProbeResult.dumps_single {p : ProbeResult} {name : String} {j : PyJson}
    (h : p.evidence = dict [(name, j)]) : p.Dumps H ↔ H.dumps j := by
  simp [ProbeResult.Dumps, h, dict]

theorem dumps_texts (H : Host) {α : Type} (items : List α) (text : α → PyStr) :
    H.dumps (.arr (items.map fun x => .str (text x))) :=
  H.dumps_shallow _ (by simp [within])

theorem schemaProbe_dumps (H : Host) (J : JsonSchema) (output : PyJson) (schema : Option PyDict) :
    (schemaProbe J output schema).Dumps H := by
  unfold schemaProbe
  split
  · exact ProbeResult.dumps_empty rfl
  · exact ProbeResult.dumps_empty rfl
  · split
    · exact (ProbeResult.dumps_single rfl).2 (H.dumps_shallow _ rfl)
    · dsimp only
      split_ifs
      · -- the violations are texts under two keys
        refine (ProbeResult.dumps_single rfl).2 (H.dumps_shallow _ ?_)
        simp only [within, List.all_eq_true]
        intro violation hviolation
        obtain ⟨e, -, rfl⟩ := List.mem_map.1 (List.mem_of_mem_take (List.map_take ▸ hviolation))
        simp [within, SchemaViolation.sample, dict, scalar_ofString]
      · exact ProbeResult.dumps_empty rfl

theorem injectionProbe_dumps (H : Host) (output : PyJson) : (injectionProbe output).Dumps H := by
  unfold injectionProbe
  split_ifs
  · exact (ProbeResult.dumps_single rfl).2 (dumps_texts H _ PyStr.ofString)
  · exact ProbeResult.dumps_empty rfl

theorem contradictionProbe_dumps {output : PyJson} {p : ProbeResult}
    (h : contradictionProbe output = .ok p) : p.Dumps H := by
  cases output with
  | obj fields =>
    rw [contradictionProbe] at h
    split_ifs at h
    · cases h
      exact ProbeResult.dumps_empty rfl
    · cases hb : inNoneOrEmpty (field fields "reason") with
      | error e =>
        rw [hb] at h
        cases h
      | ok b =>
        rw [hb] at h
        cases b <;>
          · cases h
            exact ProbeResult.dumps_empty rfl
    · cases h
      exact ProbeResult.dumps_empty rfl
  | null | bool | num | str | arr =>
    cases h
    exact ProbeResult.dumps_empty rfl

theorem citationsProbe_dumps (H : Host) (urls : List HttpUrl) : (citationsProbe urls).Dumps H := by
  unfold citationsProbe
  split_ifs
  · exact ProbeResult.dumps_empty rfl
  · simp only [ProbeResult.Dumps, dict, List.map_cons, List.map_nil, List.forall_mem_cons]
    exact ⟨H.dumps_shallow _ rfl, dumps_texts H _ PyStr.ofString, List.forall_mem_nil _⟩

theorem assertionsProbe_dumps {output : PyJson} {assertions : List Assertion} {p : ProbeResult}
    (h : assertionsProbe output assertions = .ok p) : p.Dumps H ↔ Reports H output assertions := by
  rcases assertionsProbe_evidence h with ⟨hempty, hnone⟩ | hfailures
  · refine iff_of_true (ProbeResult.dumps_empty hempty) ?_
    rw [Reports, hnone]
    exact H.dumps_shallow _ rfl
  · exact ProbeResult.dumps_single hfailures

theorem contractProbes_dumps {output : PyJson} {schema : Option PyDict} {assertions : List Assertion}
    (h : contractProbes J output schema assertions = .ok probes) :
    (∀ p ∈ probes, p.Dumps H) ↔ Reports H output assertions := by
  rw [contractProbes] at h
  cases ha : assertionsProbe output assertions with
  | error e =>
    rw [ha] at h
    cases h
  | ok p =>
    cases hc : contradictionProbe output with
    | error e =>
      rw [ha, hc] at h
      cases h
    | ok q =>
      rw [ha, hc] at h
      obtain rfl := Except.ok.inj h
      simp only [List.forall_mem_cons, schemaProbe_dumps, injectionProbe_dumps,
        contradictionProbe_dumps hc, assertionsProbe_dumps ha, List.not_mem_nil, false_implies,
        implies_true, and_true, true_and]

/-- When the request is dumped, the answer is as far as the failed assertions are. -/
theorem deliveryProbes_dumps (h : deliveryProbes J req = .ok probes) (hreq : req.Dumps H) :
    (∀ p ∈ probes, p.Dumps H) ↔ Reports H req.output req.assertions := by
  rw [deliveryProbes] at h
  cases hbase : contractProbes J req.output req.expectedSchema req.assertions with
  | error e =>
    rw [hbase] at h
    cases h
  | ok base =>
    have hindependent : ∀ p ∈ req.independentChecks.map IndependentCheck.result, p.Dumps H :=
      List.forall_mem_map.2 hreq.2
    rw [← contractProbes_dumps hbase]
    simp only [hbase, bind, Except.bind] at h
    split_ifs at h
    all_goals
      obtain rfl := Except.ok.inj h
      simp only [List.forall_mem_append, List.forall_mem_singleton, citationsProbe_dumps, and_true]
      exact and_iff_left hindependent

/-! Runs. -/

/-- Whether the store has recorded the call, whether it was answered or not. -/
def LeavesRecord {α : Type} : Except EndpointError α → Prop
  | .ok _ => True
  | .error e => e = .answer

theorem verifyDelivery_cases (H : Host) (J : JsonSchema) (faults : Faults) (st : Store)
    (latencyMs : ℕ) (req : DeliveryVerificationRequest)
    {result : Except EndpointError DeliveryResponse}
    (h : (verifyDelivery H J latencyMs req).run H faults st = (result, st')) :
    (¬LeavesRecord result ∧ st'.db = st.db) ∨
      ∃ probes event updated, deliveryProbes J req = .ok probes ∧ req.Dumps H ∧
        recordVerification H faults (req.verification H latencyMs probes) st =
          (.ok (event, updated), st') ∧
        result = if ∀ p ∈ probes, p.Dumps H then .ok (req.response H probes event updated)
          else .error .answer := by
  unfold verifyDelivery at h
  cases hp : deliveryProbes J req with
  | error e =>
    rw [hp] at h
    cases h
    exact .inl ⟨fun h => (by cases h), rfl⟩
  | ok probes =>
    simp only [hp] at h
    by_cases hreq : req.Dumps H
    · rw [if_neg (not_not.2 hreq)] at h
      cases hr : recordVerification H faults (req.verification H latencyMs probes) st with
      | mk recorded st₁ =>
        rw [Endpoint.run_recordVerification, hr] at h
        cases recorded with
        | error e =>
          cases h
          exact .inl ⟨fun h => (by cases h), (recordVerification_error hr).1⟩
        | ok r =>
          refine .inr ⟨probes, r.1, r.2, rfl, hreq, ?_⟩
          split_ifs at h with hanswer
          · cases h
            exact ⟨hr, (if_pos hanswer).symm⟩
          · cases h
            exact ⟨hr, (if_neg hanswer).symm⟩
    · rw [if_pos hreq] at h
      cases h
      exact .inl ⟨fun h => (by cases h), rfl⟩

theorem verifyDelivery_ok {response : DeliveryResponse}
    (h : (verifyDelivery H J latencyMs req).run H faults st = (.ok response, st')) :
    ∃ probes event, deliveryProbes J req = .ok probes ∧
      recordVerification H faults (req.verification H latencyMs probes) st =
        (.ok (event, response.reputationUpdated), st') ∧
      response.state = aggregateState probes ∧
      response.replaySuppressed =
        decide ((response.state = .pass ∨ response.state = .fail) ∧ ¬response.reputationUpdated) ∧
      response.auditReceipt = event.hash := by
  rcases verifyDelivery_cases H J faults st latencyMs req h with
    ⟨hlost, -⟩ | ⟨probes, event, updated, hp, -, hr, hresult⟩
  · exact absurd trivial hlost
  · split_ifs at hresult
    obtain rfl := Except.ok.inj hresult
    exact ⟨probes, event, hp, hr, rfl, rfl, rfl⟩

/-- What was asked for, and the answer, were dumped. -/
theorem verifyDelivery_dumps {response : DeliveryResponse}
    (h : (verifyDelivery H J latencyMs req).run H faults st = (.ok response, st')) :
    req.Dumps H ∧ Reports H req.output req.assertions := by
  rcases verifyDelivery_cases H J faults st latencyMs req h with
    ⟨hlost, -⟩ | ⟨probes, event, updated, hp, hreq, -, hresult⟩
  · exact absurd trivial hlost
  · split_ifs at hresult with hanswer
    exact ⟨hreq, (deliveryProbes_dumps hp hreq).1 hanswer⟩

theorem verifyDelivery_returns {event : AuditEvent} {updated : Bool}
    (hp : deliveryProbes J req = .ok probes) (hreq : req.Dumps H)
    (hreports : Reports H req.output req.assertions)
    (hr : recordVerification H faults (req.verification H latencyMs probes) st =
      (.ok (event, updated), st')) :
    ∃ response, (verifyDelivery H J latencyMs req).run H faults st = (.ok response, st') ∧
      response.auditReceipt = event.hash := by
  have hanswer := (deliveryProbes_dumps hp hreq).2 hreports
  refine ⟨req.response H probes event updated, ?_, rfl⟩
  unfold verifyDelivery
  simp only [hp, if_neg (not_not.2 hreq), Endpoint.run_recordVerification, hr, if_pos hanswer,
    Endpoint.run_pure]

variable {canary : ProbeObservationRequest}

theorem probeObservation_cases (H : Host) (J : JsonSchema) (faults : Faults) (st : Store)
    (canary : ProbeObservationRequest) {result : Except EndpointError ProbeResponse}
    (h : (probeObservation H J canary).run H faults st = (result, st')) :
    (¬LeavesRecord result ∧ st'.db = st.db) ∨
      ∃ probes event updated, canaryProbes J canary = .ok probes ∧
        recordProtocolObservation H faults (canary.canary H probes) st =
          (.ok (event, updated), st') ∧
        result = if ∀ p ∈ probes, p.Dumps H then .ok (canary.response H probes event updated)
          else .error .answer := by
  unfold probeObservation at h
  cases hp : canaryProbes J canary with
  | error e =>
    rw [hp] at h
    cases h
    exact .inl ⟨fun h => (by cases h), rfl⟩
  | ok probes =>
    simp only [hp] at h
    cases hr : recordProtocolObservation H faults (canary.canary H probes) st with
    | mk recorded st₁ =>
      rw [Endpoint.run_recordProtocolObservation, hr] at h
      cases recorded with
      | error e =>
        cases h
        exact .inl ⟨fun h => (by cases h), (recordProtocolObservation_error hr).1⟩
      | ok r =>
        refine .inr ⟨probes, r.1, r.2, rfl, ?_⟩
        split_ifs at h with hanswer
        · cases h
          exact ⟨hr, (if_pos hanswer).symm⟩
        · cases h
          exact ⟨hr, (if_neg hanswer).symm⟩

theorem probeObservation_ok {response : ProbeResponse}
    (h : (probeObservation H J canary).run H faults st = (.ok response, st')) :
    ∃ probes event, canaryProbes J canary = .ok probes ∧
      recordProtocolObservation H faults (canary.canary H probes) st =
        (.ok (event, response.protocolReputationUpdated), st') ∧
      response.state = closedState (aggregateState probes) ∧
      response.auditReceipt = event.hash := by
  rcases probeObservation_cases H J faults st canary h with
    ⟨hlost, -⟩ | ⟨probes, event, updated, hp, hr, hresult⟩
  · exact absurd trivial hlost
  · split_ifs at hresult
    obtain rfl := Except.ok.inj hresult
    exact ⟨probes, event, hp, hr, rfl, rfl⟩

theorem probeObservation_dumps {response : ProbeResponse}
    (h : (probeObservation H J canary).run H faults st = (.ok response, st')) :
    Reports H canary.output canary.assertions := by
  rcases probeObservation_cases H J faults st canary h with
    ⟨hlost, -⟩ | ⟨probes, event, updated, hp, -, hresult⟩
  · exact absurd trivial hlost
  · split_ifs at hresult with hanswer
    exact (contractProbes_dumps hp).1 hanswer

theorem probeObservation_returns {event : AuditEvent} {updated : Bool}
    (hp : canaryProbes J canary = .ok probes) (hreports : Reports H canary.output canary.assertions)
    (hr : recordProtocolObservation H faults (canary.canary H probes) st =
      (.ok (event, updated), st')) :
    ∃ response, (probeObservation H J canary).run H faults st = (.ok response, st') ∧
      response.auditReceipt = event.hash := by
  have hanswer := (contractProbes_dumps hp).2 hreports
  refine ⟨canary.response H probes event updated, ?_, rfl⟩
  unfold probeObservation
  simp only [hp, Endpoint.run_recordProtocolObservation, hr, if_pos hanswer, Endpoint.run_pure]

/-! Raising. -/

theorem outcome_value (state : EvidenceState) :
    decisive state.value ∨ state.value = "INCONCLUSIVE" := by
  cases state <;> decide

theorem outcome_closedState (state : EvidenceState) : decisive (closedState state).value := by
  cases state <;> decide

theorem probesRaise_canary :
    ProbesRaise canary.output canary.assertions ↔ UnhashableReason canary.output := by
  have hquiet : ∀ a ∈ canary.assertions, ¬PathRaises canary.output a.path := by
    simp only [ProbeObservationRequest.assertions, List.forall_mem_cons, List.not_mem_nil,
      false_implies, implies_true, and_true]
    exact ⟨not_pathRaises (by decide), not_pathRaises (by decide)⟩
  refine ⟨fun h => h.resolve_left ?_, .inr⟩
  rintro ⟨a, ha, hraise⟩
  exact hquiet a ha hraise

/-- One audit event was appended, the one the receipt names. -/
def AppendsOne (st st' : Store) (receipt : String) : Prop :=
  ∃ event : AuditEvent, st'.db.auditEvents.rows = st.db.auditEvents.rows ++ [event.row] ∧
    receipt = event.hash

theorem isInteger_natCast {n : ℕ} (h : n < 2 ^ 63) : isInteger n := by
  unfold isInteger
  omega

theorem latency_verification (h : latencyMs < 2 ^ 63) :
    ∀ latency ∈ (req.verification H latencyMs probes).latencyMs, isInteger latency := by
  intro latency hlatency
  obtain rfl := Option.some.inj hlatency
  exact isInteger_natCast h

/-- What `latency_ms` of a canary goes up to is an integer of SQLite. -/
theorem isInteger_canary (h : canary.latencyMs ≤ 300000) : isInteger canary.latencyMs :=
  isInteger_natCast (by omega)

/-- Nothing in the request keeps the endpoint from its answer. -/
structure DeliveryVerificationRequest.Answerable (H : Host) (req : DeliveryVerificationRequest) :
    Prop where
  quiet : ¬ProbesRaise req.output req.assertions
  dumps : req.Dumps H
  reports : Reports H req.output req.assertions

structure ProbeObservationRequest.Answerable (H : Host) (canary : ProbeObservationRequest) :
    Prop where
  quiet : ¬UnhashableReason canary.output
  reports : Reports H canary.output canary.assertions

theorem verifyDelivery_answerable {response : DeliveryResponse}
    (h : (verifyDelivery H J latencyMs req).run H faults st = (.ok response, st')) :
    req.Answerable H := by
  obtain ⟨probes, event, hp, -⟩ := verifyDelivery_ok h
  obtain ⟨hreq, hreports⟩ := verifyDelivery_dumps h
  rcases deliveryProbes_cases J req with ⟨⟨e, he⟩, -⟩ | ⟨-, -, hquiet, -⟩
  · rw [hp] at he
    cases he
  · exact ⟨hquiet, hreq, hreports⟩

theorem probeObservation_answerable {response : ProbeResponse}
    (h : (probeObservation H J canary).run H faults st = (.ok response, st')) :
    canary.Answerable H := by
  obtain ⟨probes, event, hp, -⟩ := probeObservation_ok h
  rcases contractProbes_cases J canary.output (some canary.expectedSchema) canary.assertions with
    ⟨⟨e, he⟩, -⟩ | ⟨-, -, hquiet, -⟩
  · rw [canaryProbes, he] at hp
    cases hp
  · exact ⟨fun hraise => hquiet (probesRaise_canary.2 hraise), probeObservation_dumps h⟩

theorem DeliveryVerificationRequest.Answerable.returns (h : req.Answerable H)
    (hcommits : Commits H faults st) (J : JsonSchema) (hlatency : latencyMs < 2 ^ 63) :
    ∃ response st', (verifyDelivery H J latencyMs req).run H faults st = (.ok response, st') ∧
      AppendsOne st st' response.auditReceipt := by
  rcases deliveryProbes_cases J req with ⟨-, hraise⟩ | ⟨probes, hp, -⟩
  · exact absurd hraise h.quiet
  · obtain ⟨event, updated, st', hr⟩ := hcommits.verification
      (v := req.verification H latencyMs probes) (outcome_value _) (latency_verification hlatency)
    obtain ⟨response, hrun, hreceipt⟩ := verifyDelivery_returns hp h.dumps h.reports hr
    exact ⟨response, st', hrun, event, (recordVerification_ok hr).appended.rows_eq, hreceipt⟩

theorem ProbeObservationRequest.Answerable.returns (h : canary.Answerable H)
    (hcommits : Commits H faults st) (J : JsonSchema) (hlatency : canary.latencyMs ≤ 300000) :
    ∃ response st', (probeObservation H J canary).run H faults st = (.ok response, st') ∧
      AppendsOne st st' response.auditReceipt := by
  rcases contractProbes_cases J canary.output (some canary.expectedSchema) canary.assertions with
    ⟨-, hraise⟩ | ⟨probes, hp, -⟩
  · exact absurd (probesRaise_canary.1 hraise) h.quiet
  · obtain ⟨event, updated, st', hr⟩ := hcommits.canary (p := canary.canary H probes)
      (outcome_closedState _) (isInteger_canary hlatency)
    obtain ⟨response, hrun, hreceipt⟩ := probeObservation_returns hp h.reports hr
    exact ⟨response, st', hrun, event, (recordProtocolObservation_ok hr).2.appended.rows_eq,
      hreceipt⟩

/-- The verifier's probes return, and its endpoints answer and append one audit event, on exactly
the inputs that hide neither odd digits on the way to a list nor an unhashable reason, and that can
be dumped. -/
theorem verifier_returns_iff (hcommits : Commits H faults st) (J : JsonSchema) :
    (∀ output, (injectionProbe output).state = .pass ∨ (injectionProbe output).state = .fail) ∧
    (∀ output assertions, (∃ p, assertionsProbe output assertions = .ok p) ↔
      ¬∃ a ∈ assertions, PathRaises output a.path) ∧
    (∀ output, (∃ p, contradictionProbe output = .ok p) ↔ ¬UnhashableReason output) ∧
    (∀ latencyMs req, latencyMs < 2 ^ 63 →
      ((∃ response st', (verifyDelivery H J latencyMs req).run H faults st = (.ok response, st') ∧
        AppendsOne st st' response.auditReceipt) ↔
      (¬∃ a ∈ req.assertions, PathRaises req.output a.path) ∧ ¬UnhashableReason req.output ∧
        req.Dumps H ∧ Reports H req.output req.assertions)) ∧
    (∀ canary : ProbeObservationRequest, canary.latencyMs ≤ 300000 →
      ((∃ response st', (probeObservation H J canary).run H faults st = (.ok response, st') ∧
        AppendsOne st st' response.auditReceipt) ↔
      ¬UnhashableReason canary.output ∧ Reports H canary.output canary.assertions)) := by
  refine ⟨?_, ?_, ?_, ?_, ?_⟩
  · intro output
    rw [injectionProbe_pass_iff, injectionProbe_fail_iff]
    exact (em (Marked output)).symm
  · intro output assertions
    rcases assertionsProbe_cases output assertions with ⟨⟨e, he⟩, hr⟩ | ⟨p, hp, hr, -⟩
    · simp [he, hr]
    · simp [hp, hr]
  · intro output
    rcases contradictionProbe_cases output with ⟨he, hu⟩ | ⟨p, hp, hu, -⟩
    · simp [he, hu]
    · simp [hp, hu]
  · intro latencyMs req hlatency
    rw [← and_assoc, ← not_or]
    constructor
    · rintro ⟨response, st', hrun, -⟩
      obtain ⟨hquiet, hreq, hreports⟩ := verifyDelivery_answerable hrun
      exact ⟨hquiet, hreq, hreports⟩
    · rintro ⟨hquiet, hreq, hreports⟩
      exact DeliveryVerificationRequest.Answerable.returns ⟨hquiet, hreq, hreports⟩ hcommits J hlatency
  · intro canary hlatency
    constructor
    · rintro ⟨response, st', hrun, -⟩
      obtain ⟨hquiet, hreports⟩ := probeObservation_answerable hrun
      exact ⟨hquiet, hreports⟩
    · rintro ⟨hquiet, hreports⟩
      exact ProbeObservationRequest.Answerable.returns ⟨hquiet, hreports⟩ hcommits J hlatency

/-- An extreme negative verdict whose reason is a list. -/
def unhashable : PyJson :=
  .obj (dict [("verdict", pyText "FAIL"), ("confidence", pyInt 1), ("reason", .arr [])])

/-- An assertion about the item of a list numbered by a superscript two. -/
def oddIndex : Assertion := ⟨"/items/²", .exists, .null⟩

def itemized : PyJson := .obj (dict [("items", .arr [])])

theorem unhashableReason_unhashable : UnhashableReason unhashable :=
  ⟨_, rfl, ⟨by decide +kernel, by decide +kernel⟩, .inl ⟨[], rfl⟩⟩

theorem verifier_crashes :
    contradictionProbe unhashable = .error .typeError ∧
      assertionsProbe itemized [oddIndex] = .error .valueError := by
  refine ⟨?_, rfl⟩
  rcases contradictionProbe_cases unhashable with ⟨h, -⟩ | ⟨p, -, hquiet, -⟩
  · exact h
  · exact absurd unhashableReason_unhashable hquiet

def acknowledged : DeliveryVerificationRequest :=
  { deliveryId := "delivery"
    providerId := "seller"
    task := "task"
    output := .obj (dict [("ack", .bool true)])
    expectedSchema := some (dict [("type", pyText "object")])
    assertions := [⟨"/ack", .eq, .bool true⟩] }

theorem not_pathRaises_acknowledged :
    ¬∃ a ∈ acknowledged.assertions, PathRaises acknowledged.output a.path := by
  rintro ⟨a, ha, hraise⟩
  rw [List.mem_singleton.1 ha] at hraise
  exact not_pathRaises (by decide) hraise

theorem not_unhashableReason_acknowledged : ¬UnhashableReason acknowledged.output := by
  rintro ⟨fields, hfields, ⟨hword, -⟩, -⟩
  obtain rfl := Json.obj.inj hfields
  revert hword
  decide

theorem answerable_acknowledged (H : Host) : acknowledged.Answerable H := by
  have hnone : shortfall acknowledged.output acknowledged.assertions = [] := by decide +kernel
  refine ⟨?_, ⟨?_, fun check hcheck => absurd hcheck List.not_mem_nil⟩, ?_⟩
  · exact fun hraise => hraise.elim not_pathRaises_acknowledged not_unhashableReason_acknowledged
  · intro a ha
    rw [List.mem_singleton.1 ha]
    exact H.dumps_shallow _ rfl
  · rw [Reports, hnone]
    exact H.dumps_shallow _ rfl

/-- A reply that echoes the nonce. -/
def echoedReply : ProbeObservationRequest :=
  { probeId := "probe"
    providerId := "seller"
    nonce := "nonce-one"
    output := .obj (dict [("counterparty_probe_id", pyText "nonce-one"), ("ack", .bool true)])
    latencyMs := 0 }

theorem answerable_echoedReply (H : Host) : echoedReply.Answerable H := by
  have hnone : shortfall echoedReply.output echoedReply.assertions = [] := by decide +kernel
  refine ⟨?_, ?_⟩
  · rintro ⟨fields, hfields, ⟨hword, -⟩, -⟩
    obtain rfl := Json.obj.inj hfields
    revert hword
    decide
  · rw [Reports, hnone]
    exact H.dumps_shallow _ rfl

theorem verifier_returns_acknowledged :
    ∃ response st', (verifyDelivery (.sample zeroHash) .sample 0 acknowledged).run (.sample zeroHash)
      (fun _ => false) .empty = (.ok response, st') ∧
      AppendsOne .empty st' response.auditReceipt := by
  obtain ⟨-, hreq, hreports⟩ := answerable_acknowledged (.sample zeroHash)
  exact ((verifier_returns_iff (commits_empty (.sample zeroHash)) .sample).2.2.2.1 0 acknowledged
    (by decide)).2 ⟨not_pathRaises_acknowledged, not_unhashableReason_acknowledged, hreq, hreports⟩

/-! Verdicts. -/

/-- The verdict of a delivery: PASS when everything that was asked for is there and holds, FAIL when
some probe or independent check fails, INCONCLUSIVE otherwise. -/
theorem delivery_verdict {response : DeliveryResponse}
    (h : (verifyDelivery H J latencyMs req).run H faults st = (.ok response, st')) :
    (response.state = .pass ↔
      SchemaHolds J req.output req.expectedSchema ∧
        (req.assertions ≠ [] ∧ ∀ a ∈ req.assertions, a.Holds req.output) ∧
        ¬Marked req.output ∧ ¬SelfContradictory req.output ∧
        (∀ check ∈ req.independentChecks, check.state = .pass) ∧
        (req.citedUrls ≠ [] → ∃ check ∈ req.independentChecks, check.probe = "citations")) ∧
    (response.state = .fail ↔
      (UsableSchema J req.expectedSchema ∧ ¬SchemaHolds J req.output req.expectedSchema) ∨
        (∃ a ∈ req.assertions, ¬a.Holds req.output) ∨ Marked req.output ∨
        SelfContradictory req.output ∨ ∃ check ∈ req.independentChecks, check.state = .fail) ∧
    (response.state = .inconclusive ↔ response.state ≠ .pass ∧ response.state ≠ .fail) := by
  obtain ⟨probes, event, hp, -, hstate, -, -⟩ := verifyDelivery_ok h
  rcases deliveryProbes_cases J req with ⟨⟨e, he⟩, -⟩ | ⟨probes', hp', -, hfail, hpass⟩
  · rw [hp] at he
    cases he
  · obtain rfl := Except.ok.inj (hp.symm.trans hp')
    refine ⟨?_, ?_, ?_⟩
    · rw [hstate, aggregateState_pass_iff, hpass]
      simp only [ContractHolds, and_assoc]
    · rw [hstate, aggregateState_fail_iff, hfail]
      simp only [ContractFails, or_assoc]
    · cases response.state <;> simp

theorem delivery_verdict_acknowledged :
    ∃ response st', (verifyDelivery (.sample zeroHash) .sample 0 acknowledged).run (.sample zeroHash)
      (fun _ => false) .empty = (.ok response, st') ∧ response.state = .pass := by
  obtain ⟨response, st', hrun, -⟩ := (answerable_acknowledged (.sample zeroHash)).returns
    (commits_empty (.sample zeroHash)) .sample (by decide : 0 < 2 ^ 63)
  refine ⟨response, st', hrun, (delivery_verdict hrun).1.2 ⟨?_, ?_, ?_, ?_, ?_, ?_⟩⟩
  · exact ⟨_, rfl, by simp [dict], trivial, rfl⟩
  · refine ⟨by simp [acknowledged], fun a ha => ?_⟩
    rw [List.mem_singleton.1 ha]
    exact ⟨.bool true, rfl, rfl⟩
  · unfold Marked
    decide +kernel
  · rintro ⟨fields, hfields, ⟨hword, -⟩ | ⟨⟨hword, -⟩, -⟩⟩
    all_goals
      obtain rfl := Json.obj.inj hfields
      revert hword
      decide
  · exact fun check hcheck => absurd hcheck List.not_mem_nil
  · exact fun hcited => absurd rfl hcited

/-! Reputation. -/

/-- No observation on record has the delivery's id or its evidence, or the id drawn for its row. -/
def NewDelivery (H : Host) (st : Store) (req : DeliveryVerificationRequest) : Prop :=
  ∀ r ∈ st.db.observations.rows, r.id ≠ H.uuid4 st.draws ∧ r.deliveryId ≠ req.deliveryId ∧
    ¬(r.serviceId = req.providerId ∧ r.evidenceHash = req.evidenceHash H)

theorem newDelivery_iff (latencyMs : ℕ) (probes : List ProbeResult) :
    NewDelivery H st req ↔ ∀ r ∈ st.db.observations.rows,
      ¬Observation.Clash r ((req.verification H latencyMs probes).row H st.draws) := by
  simp only [NewDelivery, Observation.Clash, not_or]
  rfl

theorem counts_iff : (req.verification H latencyMs probes).Counts ↔
    req.expectedSchema ≠ none ∧ req.assertions ≠ [] ∧ aggregateState probes ≠ .inconclusive := by
  have houtcome : decisive (aggregateState probes).value ↔ aggregateState probes ≠ .inconclusive := by
    cases aggregateState probes <;> decide
  have heligible : req.reputationEligible = true ↔ req.expectedSchema ≠ none ∧ req.assertions ≠ [] := by
    simp [DeliveryVerificationRequest.reputationEligible, Option.isSome_iff_ne_none]
  rw [← and_assoc, ← heligible, ← houtcome]
  exact Iff.rfl

/-- A row is inserted exactly for an eligible and decided delivery that is new. -/
theorem inserted_iff {event : AuditEvent} {updated : Bool}
    (hr : recordVerification H faults (req.verification H latencyMs probes) st =
      (.ok (event, updated), st')) :
    st'.db.observations.rows ≠ st.db.observations.rows ↔
      (req.verification H latencyMs probes).Counts ∧ NewDelivery H st req := by
  have hv := recordVerification_ok hr
  rw [newDelivery_iff latencyMs probes]
  by_cases hc : (req.verification H latencyMs probes).Counts
  · have hattempt := hv.attempt hc
    cases updated with
    | true =>
      obtain ⟨hrows, hnew⟩ := hattempt.written rfl
      simp only [hrows, hc, true_and]
      exact ⟨fun _ => hnew, fun _ => by simp⟩
    | false =>
      obtain ⟨hrows, r, hr, hclash⟩ := hattempt.suppressed rfl
      simp only [hrows, ne_eq, not_true_eq_false, false_iff]
      exact fun h => h.2 r hr hclash
  · simp [(hv.skipped hc).2, hc]

/-- A call moves reputation only on a decisive contract: a row it inserts had both its schema probe
and its assertions probe decided. -/
def MovesOnDecisiveContract (J : JsonSchema) (req : DeliveryVerificationRequest) (st st' : Store) :
    Prop :=
  st'.db.observations.rows ≠ st.db.observations.rows →
    (schemaProbe J req.output req.expectedSchema).state ≠ .inconclusive ∧
      ∀ p, assertionsProbe req.output req.assertions = .ok p → p.state ≠ .inconclusive

/-- A new delivery under a schema that is empty or invalid, failed by something other than it. -/
def UnusableSchemaFails (H : Host) (J : JsonSchema) (st : Store)
    (req : DeliveryVerificationRequest) : Prop :=
  req.expectedSchema ≠ none ∧ ¬UsableSchema J req.expectedSchema ∧ req.assertions ≠ [] ∧
    ((∃ a ∈ req.assertions, ¬a.Holds req.output) ∨ Marked req.output ∨
      SelfContradictory req.output ∨ ∃ check ∈ req.independentChecks, check.state = .fail) ∧
    NewDelivery H st req

/-- A call that leaves no record moves nothing. One that does moves reputation only on a decisive
contract, unless it fails a new delivery under an unusable schema. -/
theorem reputation_moves_iff :
    (∀ result, (verifyDelivery H J latencyMs req).run H faults st = (result, st') →
      ¬LeavesRecord result → MovesOnDecisiveContract J req st st') ∧
    ∀ result, (verifyDelivery H J latencyMs req).run H faults st = (result, st') →
      LeavesRecord result →
      (MovesOnDecisiveContract J req st st' ↔ ¬UnusableSchemaFails H J st req) := by
  constructor
  · intro result h hlost hmoved
    rcases verifyDelivery_cases H J faults st latencyMs req h with
      ⟨-, hdb⟩ | ⟨probes, event, updated, -, -, -, hresult⟩
    · exact absurd (by rw [hdb]) hmoved
    · rw [hresult] at hlost
      split_ifs at hlost
      · exact absurd trivial hlost
      · exact absurd rfl hlost
  · intro result h hleaves
    rcases verifyDelivery_cases H J faults st latencyMs req h with
      ⟨hlost, -⟩ | ⟨probes, event, updated, hp, -, hr, -⟩
    · exact absurd hleaves hlost
    rcases deliveryProbes_cases J req with ⟨⟨e, he⟩, -⟩ | ⟨probes', hp', hquiet, hfail, hpass⟩
    · rw [hp] at he
      cases he
    obtain rfl := Except.ok.inj (hp.symm.trans hp')
    rw [← aggregateState_fail_iff, ContractFails] at hfail
    rw [← aggregateState_pass_iff, ContractHolds] at hpass
    have hmoved := inserted_iff hr
    rw [counts_iff] at hmoved
    by_cases husable : UsableSchema J req.expectedSchema
    · -- a usable schema is decided, and what counts was asserted
      refine iff_of_true ?_ fun hdefect => hdefect.2.1 husable
      intro hrows
      refine ⟨fun h => schemaProbe_inconclusive_iff.1 h husable, ?_⟩
      intro p hasserted hinconclusive
      exact (hmoved.1 hrows).1.2.1 ((assertionsProbe_state hasserted).1.1 hinconclusive)
    · -- nothing passes under an unusable schema, so what counts has failed
      have hdecided : aggregateState probes ≠ .inconclusive ↔ aggregateState probes = .fail := by
        have hnot : aggregateState probes ≠ .pass := fun h => husable (hpass.1 h).1.1.usable
        cases hs : aggregateState probes with
        | pass => exact absurd hs hnot
        | fail => simp
        | inconclusive => simp
      simp only [husable, false_and, false_or, or_assoc] at hfail
      constructor
      · rintro hprop ⟨hschema, -, hne, hfails, hnew⟩
        refine (hprop (hmoved.2 ⟨⟨hschema, hne, ?_⟩, hnew⟩)).1
          (schemaProbe_inconclusive_iff.2 husable)
        rw [hdecided, hfail]
        exact hfails
      · intro hdefect hrows
        obtain ⟨⟨hschema, hne, hstate⟩, hnew⟩ := hmoved.1 hrows
        rw [hdecided, hfail] at hstate
        exact absurd ⟨hschema, husable, hne, hstate, hnew⟩ hdefect

/-- An empty schema and an assertion that does not hold. -/
def unspecified : DeliveryVerificationRequest :=
  { deliveryId := "delivery"
    providerId := "seller"
    task := "task"
    output := .obj []
    expectedSchema := some []
    assertions := [⟨"/ack", .exists, .null⟩] }

theorem unspecified_moves :
    ¬MovesOnDecisiveContract .sample unspecified .empty
      ((verifyDelivery (.sample zeroHash) .sample 0 unspecified).run (.sample zeroHash)
        (fun _ => false) .empty).2 := by
  intro h
  exact (h (by decide +kernel)).1 rfl

end Counterparty
