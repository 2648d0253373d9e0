import Counterparty.Availability
import Counterparty.SnapshotReads

/-! Where evidence comes from: every tally that an answer goes by is made of deliveries and canaries
that were verified and counted before, each of them once. -/
namespace Counterparty

open Json Interleave

variable {H : Host} {J : JsonSchema} {st st' : Store}

abbrev ServiceEvent := Event ServiceRequest StoreOp.Ret Served

abbrev ServiceMoment := Moment ServiceRequest StoreOp.Ret Served Store

variable {past past' : List ServiceEvent}

/-! What a row is held for. -/

/-- The delivery was verified with the state, and counted. -/
def DeliveryCounted (H : Host) (J : JsonSchema) (past : List ServiceEvent)
    (req : DeliveryVerificationRequest) (state : EvidenceState) : Prop :=
  ∃ latencyMs probes event, deliveryProbes J req = .ok probes ∧ aggregateState probes = state ∧
    (req.verification H latencyMs probes).Counts ∧
    .called (.verifyDelivery latencyMs req)
      (.recordVerification (req.verification H latencyMs probes)) (.ok (event, true)) ∈ past

/-- The canary was decided with the state, and counted. -/
def CanaryCounted (H : Host) (J : JsonSchema) (past : List ServiceEvent)
    (req : ProbeObservationRequest) (state : EvidenceState) : Prop :=
  ∃ probes event, canaryProbes J req = .ok probes ∧ closedState (aggregateState probes) = state ∧
    .called (.probeObservation req) (.recordProtocolObservation (req.canary H probes))
      (.ok (event, true)) ∈ past

theorem DeliveryCounted.mono {req : DeliveryVerificationRequest} {state : EvidenceState}
    (h : DeliveryCounted H J past req state) (hpast : past <+: past') :
    DeliveryCounted H J past' req state := by
  obtain ⟨latencyMs, probes, event, hprobes, hstate, hcounts, hmem⟩ := h
  exact ⟨latencyMs, probes, event, hprobes, hstate, hcounts, hpast.subset hmem⟩

theorem CanaryCounted.mono {req : ProbeObservationRequest} {state : EvidenceState}
    (h : CanaryCounted H J past req state) (hpast : past <+: past') :
    CanaryCounted H J past' req state := by
  obtain ⟨probes, event, hprobes, hstate, hmem⟩ := h
  exact ⟨probes, event, hprobes, hstate, hpast.subset hmem⟩

/-- The row is what the delivery left. -/
structure Observation.HeldFor (H : Host) (J : JsonSchema) (past : List ServiceEvent) (r : Observation)
    (d : DeliveryVerificationRequest × EvidenceState) : Prop where
  counted : DeliveryCounted H J past d.1 d.2
  deliveryId_eq : r.deliveryId = d.1.deliveryId
  serviceId_eq : r.serviceId = d.1.providerId
  taskType_eq : r.taskType = d.1.taskType
  evidenceHash_eq : r.evidenceHash = d.1.evidenceHash H
  outcome_eq : r.outcome = d.2.value

structure ProtocolObservation.HeldFor (H : Host) (J : JsonSchema) (past : List ServiceEvent)
    (r : ProtocolObservation) (d : ProbeObservationRequest × EvidenceState) : Prop where
  counted : CanaryCounted H J past d.1 d.2
  probeId_eq : r.probeId = d.1.probeId
  serviceId_eq : r.serviceId = d.1.providerId
  evidenceHash_eq : r.evidenceHash = d.1.evidenceHash H
  outcome_eq : r.outcome = d.2.value

/-- Every row of evidence is held for something. -/
structure Justified (H : Host) (J : JsonSchema) (past : List ServiceEvent) (db : Db) : Prop where
  deliveries : ∀ r ∈ db.observations.rows, ∃ d, r.HeldFor H J past d
  canaries : ∀ r ∈ db.protocolObservations.rows, ∃ d, r.HeldFor H J past d

theorem Justified.mono {db : Db} (h : Justified H J past db) (hpast : past <+: past') :
    Justified H J past' db := by
  constructor
  · intro r hr
    obtain ⟨d, hd⟩ := h.deliveries r hr
    exact ⟨d, { hd with counted := hd.counted.mono hpast }⟩
  · intro r hr
    obtain ⟨d, hd⟩ := h.canaries r hr
    exact ⟨d, { hd with counted := hd.counted.mono hpast }⟩

/-! Runs keep it. -/

/-- Evidence is only recorded for what the probes of its request came to. -/
def StoreOp.AskedBy (H : Host) (J : JsonSchema) (req : ServiceRequest) : StoreOp → Prop
  | .recordVerification v => ∃ latencyMs delivery probes, req = .verifyDelivery latencyMs delivery ∧
      deliveryProbes J delivery = .ok probes ∧ v = delivery.verification H latencyMs probes
  | .recordProtocolObservation p => ∃ canary probes, req = .probeObservation canary ∧
      canaryProbes J canary = .ok probes ∧ p = canary.canary H probes
  | _ => True

/-- No evidence is taken back. -/
def Store.Before (st st' : Store) : Prop :=
  st.db.observations.rows <+: st'.db.observations.rows ∧
    st.db.protocolObservations.rows <+: st'.db.protocolObservations.rows

theorem Store.Before.refl (st : Store) : st.Before st := ⟨List.prefix_rfl, List.prefix_rfl⟩

theorem Store.Before.trans {st'' : Store} (h : st.Before st') (h' : st'.Before st'') :
    st.Before st'' := ⟨h.1.trans h'.1, h.2.trans h'.2⟩

theorem Justified.before (h : Justified H J past st'.db) (hbefore : st.Before st') :
    Justified H J past st.db :=
  ⟨fun r hr => h.deliveries r (hbefore.1.subset hr), fun r hr => h.canaries r (hbefore.2.subset hr)⟩

theorem StoreOp.Exec.before {op : StoreOp} {r : op.Ret} (h : op.Exec H st r st') : st.Before st' := by
  rcases h.tallies with ⟨hobservations, hcanaries⟩ | ⟨hobservations, hcanaries⟩
  · exact ⟨hobservations, hcanaries ▸ List.prefix_rfl⟩
  · exact ⟨hobservations ▸ List.prefix_rfl, hcanaries⟩

theorem Attempt.mem_rows {R : Type} {Clash : R → R → Prop} {table table' : Table Clash} {r r' : R}
    {updated : Bool} (h : Attempt table table' r updated) (hr' : r' ∈ table'.rows) :
    r' ∈ table.rows ∨ updated = true ∧ r' = r := by
  cases updated with
  | false =>
    rw [(h.suppressed rfl).1] at hr'
    exact .inl hr'
  | true =>
    rw [(h.written rfl).1] at hr'
    rcases List.mem_append.1 hr' with hr' | hr'
    · exact .inl hr'
    · exact .inr ⟨rfl, List.mem_singleton.1 hr'⟩

/-- One operation leaves every row of evidence held for something. -/
theorem Justified.exec {req : ServiceRequest} {op : StoreOp} {r : op.Ret}
    (h : Justified H J past st.db) (hasked : op.AskedBy H J req) (hexec : op.Exec H st r st') :
    Justified H J (past ++ [.called req op r]) st'.db := by
  have hkept := h.mono (List.prefix_append past [.called req op r])
  cases hexec.effect with
  | kept hquiet hdb hdraws => rwa [hdb]
  | logged hlogged =>
    constructor
    · rw [hlogged.observations_eq]
      exact hkept.deliveries
    · rw [hlogged.protocol_eq]
      exact hkept.canaries
  | @verified v event updated hverified =>
    constructor
    · intro row hrow
      by_cases hcounts : v.Counts
      · rcases (hverified.attempt hcounts).mem_rows hrow with hrow | ⟨rfl, rfl⟩
        · exact hkept.deliveries row hrow
        · obtain ⟨latencyMs, delivery, probes, rfl, hprobes, rfl⟩ := hasked
          exact ⟨(delivery, aggregateState probes),
            ⟨latencyMs, probes, event, hprobes, rfl, hcounts, by simp⟩, rfl, rfl, rfl, rfl, rfl⟩
      · rw [(hverified.skipped hcounts).2] at hrow
        exact hkept.deliveries row hrow
    · rw [hverified.protocol_eq]
      exact hkept.canaries
  | @canaried p event updated hcanaried =>
    constructor
    · rw [hcanaried.observations_eq]
      exact hkept.deliveries
    · intro row hrow
      rcases hcanaried.attempt.mem_rows hrow with hrow | ⟨rfl, rfl⟩
      · exact hkept.canaries row hrow
      · obtain ⟨canary, probes, rfl, hprobes, rfl⟩ := hasked
        exact ⟨(canary, closedState (aggregateState probes)),
          ⟨probes, event, hprobes, rfl, by simp⟩, rfl, rfl, rfl, rfl⟩

/-! What a tally is made of. -/

/-- Everything that was asked of the delivery is there and holds. -/
def Passes (J : JsonSchema) (req : DeliveryVerificationRequest) : Prop :=
  ContractHolds J req.output req.expectedSchema req.assertions ∧
    (∀ check ∈ req.independentChecks, check.state = .pass) ∧
    (req.citedUrls ≠ [] → ∃ check ∈ req.independentChecks, check.probe = "citations")

/-- A schema and assertions were given, and the delivery passes or fails as it counts. -/
def Deserved (J : JsonSchema) (req : DeliveryVerificationRequest) (state : EvidenceState) : Prop :=
  req.expectedSchema ≠ none ∧ req.assertions ≠ [] ∧
    (state = .pass ∧ Passes J req ∨ state = .fail ∧ Fails J req)

theorem DeliveryCounted.deserved {req : DeliveryVerificationRequest} {state : EvidenceState}
    (h : DeliveryCounted H J past req state) : Deserved J req state := by
  obtain ⟨latencyMs, probes, event, hprobes, rfl, hcounts, -⟩ := h
  obtain ⟨hschema, hassertions, hdecided⟩ := counts_iff.1 hcounts
  refine ⟨hschema, hassertions, ?_⟩
  rcases deliveryProbes_cases J req with ⟨⟨e, he⟩, -⟩ | ⟨probes', hprobes', -, hfail, hpass⟩
  · rw [hprobes] at he
    cases he
  · obtain rfl := Except.ok.inj (hprobes.symm.trans hprobes')
    cases hstate : aggregateState probes with
    | pass => exact .inl ⟨rfl, hpass.1 (aggregateState_pass_iff.1 hstate)⟩
    | fail => exact .inr ⟨rfl, hfail.1 (aggregateState_fail_iff.1 hstate)⟩
    | inconclusive => exact absurd hstate hdecided

/-- The reply satisfies the contract of the canary. -/
def ProbeObservationRequest.Passes (J : JsonSchema) (req : ProbeObservationRequest) : Prop :=
  ContractHolds J req.output (some req.expectedSchema) req.assertions

def ProbeObservationRequest.Deserved (J : JsonSchema) (req : ProbeObservationRequest)
    (state : EvidenceState) : Prop :=
  state = .pass ∧ req.Passes J ∨ state = .fail ∧ ¬req.Passes J

theorem CanaryCounted.deserved {req : ProbeObservationRequest} {state : EvidenceState}
    (h : CanaryCounted H J past req state) : req.Deserved J state := by
  obtain ⟨probes, event, hprobes, rfl, -⟩ := h
  rcases contractProbes_cases J req.output (some req.expectedSchema) req.assertions with
    ⟨⟨e, he⟩, -⟩ | ⟨probes', hprobes', -, -, hpass⟩
  · rw [canaryProbes, he] at hprobes
    cases hprobes
  · obtain rfl := Except.ok.inj (hprobes.symm.trans hprobes')
    have hiff := aggregateState_pass_iff.trans hpass
    cases hstate : aggregateState probes with
    | pass => exact .inl ⟨rfl, hiff.1 hstate⟩
    | fail =>
      refine .inr ⟨rfl, fun h => ?_⟩
      rw [hiff.2 h] at hstate
      cases hstate
    | inconclusive =>
      refine .inr ⟨rfl, fun h => ?_⟩
      rw [hiff.2 h] at hstate
      cases hstate

/-- The tally counts deliveries of the seller, for the type of task or of a general one, no two with one
id or the same evidence, each verified before with the state that it counts for and deserves. -/
def DeliveriesEarned (H : Host) (J : JsonSchema) (past : List ServiceEvent) (s taskType : String)
    (rep : BayesianReputation) : Prop :=
  ∃ earned : List (DeliveryVerificationRequest × EvidenceState),
    earned.countP (fun d => d.2 = .pass) = rep.successes ∧
    earned.countP (fun d => d.2 = .fail) = rep.failures ∧
    earned.Pairwise (fun d d' => d.1.deliveryId ≠ d'.1.deliveryId ∧
      d.1.evidenceHash H ≠ d'.1.evidenceHash H) ∧
    ∀ d ∈ earned, DeliveryCounted H J past d.1 d.2 ∧ Deserved J d.1 d.2 ∧ d.1.providerId = s ∧
      (d.1.taskType = taskType ∨ d.1.taskType = "general")

/-- The tally counts canaries of the seller, no two with one id or the same evidence. -/
def CanariesEarned (H : Host) (J : JsonSchema) (past : List ServiceEvent) (s : String)
    (rep : BayesianReputation) : Prop :=
  ∃ earned : List (ProbeObservationRequest × EvidenceState),
    earned.countP (fun d => d.2 = .pass) = rep.successes ∧
    earned.countP (fun d => d.2 = .fail) = rep.failures ∧
    earned.Pairwise (fun d d' => d.1.probeId ≠ d'.1.probeId ∧
      d.1.evidenceHash H ≠ d'.1.evidenceHash H) ∧
    ∀ d ∈ earned, CanaryCounted H J past d.1 d.2 ∧ d.1.Deserved J d.2 ∧ d.1.providerId = s

theorem value_eq_iff (state : EvidenceState) :
    (state.value = "PASS" ↔ state = .pass) ∧ (state.value = "FAIL" ↔ state = .fail) := by
  cases state <;> decide

/-- Rows are counted as the states that they were recorded with. -/
theorem countP_states {Row Req : Type} {P : Row → Req × EvidenceState → Prop} {rows : List Row}
    {earned : List (Req × EvidenceState)} {outcome : Row → String} (h : List.Forall₂ P rows earned)
    (houtcome : ∀ r d, P r d → outcome r = d.2.value) :
    earned.countP (fun d => d.2 = .pass) = rows.countP (fun r => outcome r = "PASS") ∧
      earned.countP (fun d => d.2 = .fail) = rows.countP (fun r => outcome r = "FAIL") := by
  constructor
  · refine (Table.countP_justified h fun r d hd => ?_).symm
    rw [decide_eq_decide, houtcome r d hd]
    exact (value_eq_iff d.2).1
  · refine (Table.countP_justified h fun r d hd => ?_).symm
    rw [decide_eq_decide, houtcome r d hd]
    exact (value_eq_iff d.2).2

theorem Observation.CountsFor.taskType_eq {s taskType : String} {r : Observation}
    (h : r.CountsFor s taskType) : r.taskType = taskType ∨ r.taskType = "general" := by
  obtain ⟨-, htask⟩ := h
  split_ifs at htask
  · exact .inr htask
  · exact htask

/-- What is recorded of a seller's deliveries is earned. -/
theorem Justified.deliveriesEarned (h : Justified H J past st.db) (s taskType : String) :
    DeliveriesEarned H J past s taskType (reputation st.db s taskType).1 := by
  have hheld : ∀ r ∈ st.db.observations.rows.filter fun r => r.CountsFor s taskType,
      ∃ d, r.HeldFor H J past d ∧ r.CountsFor s taskType := by
    intro r hr
    obtain ⟨hr, hcounts⟩ := List.mem_filter.1 hr
    obtain ⟨d, hd⟩ := h.deliveries r hr
    exact ⟨d, hd, of_decide_eq_true hcounts⟩
  obtain ⟨earned, hearned, happart⟩ := Table.exists_justified
    (fun d d' => d.1.deliveryId ≠ d'.1.deliveryId ∧ d.1.evidenceHash H ≠ d'.1.evidenceHash H) hheld
    (st.db.observations.apart.filter fun r => r.CountsFor s taskType) (by
      rintro r r' d d' hclash ⟨hd, hs, -⟩ ⟨hd', hs', -⟩
      refine ⟨fun hid => hclash (.inr (.inl ?_)), fun hhash => hclash (.inr (.inr ⟨?_, ?_⟩))⟩
      · rw [hd.deliveryId_eq, hd'.deliveryId_eq, hid]
      · rw [hs, hs']
      · rw [hd.evidenceHash_eq, hd'.evidenceHash_eq, hhash])
  obtain ⟨hpassed, hfailed⟩ := countP_states hearned fun _ _ h => h.1.outcome_eq
  refine ⟨earned, hpassed, hfailed, happart, ?_⟩
  intro d hd
  obtain ⟨r, -, hr, hcounts⟩ := Table.exists_of_mem_justified hearned hd
  refine ⟨hr.counted, hr.counted.deserved, hr.serviceId_eq.symm.trans hcounts.1, ?_⟩
  rw [← hr.taskType_eq]
  exact hcounts.taskType_eq

/-- What is recorded of a seller's canaries is earned. -/
theorem Justified.canariesEarned (h : Justified H J past st.db) (s : String) :
    CanariesEarned H J past s (protocolReputation st.db s).1 := by
  have hheld : ∀ r ∈ st.db.protocolObservations.rows.filter fun r => r.serviceId = s,
      ∃ d, r.HeldFor H J past d ∧ r.serviceId = s := by
    intro r hr
    obtain ⟨hr, hseller⟩ := List.mem_filter.1 hr
    obtain ⟨d, hd⟩ := h.canaries r hr
    exact ⟨d, hd, of_decide_eq_true hseller⟩
  obtain ⟨earned, hearned, happart⟩ := Table.exists_justified
    (fun d d' => d.1.probeId ≠ d'.1.probeId ∧ d.1.evidenceHash H ≠ d'.1.evidenceHash H) hheld
    (st.db.protocolObservations.apart.filter fun r => r.serviceId = s) (by
      rintro r r' d d' hclash ⟨hd, hs⟩ ⟨hd', hs'⟩
      refine ⟨fun hid => hclash (.inr (.inl ?_)), fun hhash => hclash (.inr (.inr ⟨?_, ?_⟩))⟩
      · rw [hd.probeId_eq, hd'.probeId_eq, hid]
      · rw [hs, hs']
      · rw [hd.evidenceHash_eq, hd'.evidenceHash_eq, hhash])
  obtain ⟨hpassed, hfailed⟩ := countP_states hearned fun _ _ h => h.1.outcome_eq
  refine ⟨earned, hpassed, hfailed, happart, ?_⟩
  intro d hd
  obtain ⟨r, -, hr, hseller⟩ := Table.exists_of_mem_justified hearned hd
  exact ⟨hr.counted, hr.counted.deserved, hr.serviceId_eq.symm.trans hseller⟩

/-! What answers go by. -/

/-- The tallies of an answer were read from states that the run went through, each on its own. -/
structure Read (now : Store) (s taskType : String) (delivery protocol : BayesianReputation × Option ℤ) :
    Prop where
  delivery_eq : ∃ st : Store, st.Before now ∧ delivery = reputation st.db s taskType
  protocol_eq : ∃ st : Store, st.Before now ∧ protocol = protocolReputation st.db s

theorem Read.mono {now now' : Store} {s taskType : String}
    {delivery protocol : BayesianReputation × Option ℤ} (h : Read now s taskType delivery protocol)
    (hbefore : now.Before now') : Read now' s taskType delivery protocol := by
  obtain ⟨⟨st, hst, hdelivery⟩, ⟨st', hst', hprotocol⟩⟩ := h
  exact ⟨⟨st, hst.trans hbefore, hdelivery⟩, ⟨st', hst'.trans hbefore, hprotocol⟩⟩

/-- A snapshot goes by the tallies it reports, and a canary by its probes. -/
def GoesBy (J : JsonSchema) (now : Store) : ServiceRequest → ServiceResponse → Prop
  | .trustSnapshot req, .snapshot response =>
    Read now req.serviceId req.taskType response.evidence response.protocolEvidence ∧
      response.verdict = (snapshotVerdict response.evidence.1 response.protocolEvidence.1).1 ∧
      response.evidenceTier = snapshotTier response.evidence.1 response.protocolEvidence.1
  | .probeObservation req, .probe response => ∃ probes, canaryProbes J req = .ok probes ∧
      response.state = closedState (aggregateState probes)
  | _, _ => True

theorem GoesBy.mono {now now' : Store} {req : ServiceRequest} {response : ServiceResponse}
    (h : GoesBy J now req response) (hbefore : now.Before now') : GoesBy J now' req response := by
  unfold GoesBy at h ⊢
  split
  · exact ⟨h.1.mono hbefore, h.2⟩
  · exact h
  · trivial

/-- What every request keeps about the evidence. -/
def provenanceContract (H : Host) (J : JsonSchema) :
    Contract ServiceRequest StoreOp.Ret Served Store (StoreOp.Exec H) where
  le := Store.Before
  refl := Store.Before.refl
  trans := Store.Before.trans
  Inv m := Justified H J m.past m.now.db
  inv_event h _ := h.mono (List.prefix_append _ _)
  Allowed req op _ := op.AskedBy H J req
  allowed_mono h _ _ := h
  step hasked h hexec := ⟨h.exec hasked hexec, hexec.before⟩
  post req served m := ∀ response, served = .ok response → GoesBy J m.now req response
  post_mono h _ hbefore response hresponse := (h response hresponse).mono hbefore

section Keeps

variable {α : Type} {req : ServiceRequest} {m : ServiceMoment} {Q : α → ServiceMoment → Prop}

theorem earns_perform (op : StoreOp) {next : op.Ret → Endpoint α} (hasked : op.AskedBy H J req)
    (h : ∀ (m₁ : ServiceMoment) r st', m.now.Before m₁.now → op.Exec H m₁.now r st' →
      (provenanceContract H J).Keeps req Q (next r) ⟨m₁.past ++ [.called req op r], st'⟩) :
    (provenanceContract H J).Keeps req Q (Prog.perform op >>= next) m :=
  ⟨hasked, fun m₁ r st' _ hbefore _ hexec => h m₁ r st' hbefore hexec⟩

theorem earns_trustSnapshot (snapshot : TrustSnapshotRequest) :
    (provenanceContract H J).Keeps (.trustSnapshot snapshot)
      ((provenanceContract H J).post (.trustSnapshot snapshot)) (serve H J (.trustSnapshot snapshot)) m := by
  apply earns_perform (.reputation snapshot.serviceId snapshot.taskType) trivial
  rintro m₁ delivery st₁ - ⟨faults₁, hdelivery⟩
  apply earns_perform (.protocolReputation snapshot.serviceId) trivial
  rintro m₂ protocol st₂ hbefore₂ ⟨faults₂, hprotocol⟩
  apply earns_perform (.appendAudit _ _) trivial
  rintro m₃ result st₃ hbefore₃ happend
  cases hdelivery
  cases hprotocol
  rintro response hresponse
  cases result with
  | error e => cases hresponse
  | ok event =>
    cases hresponse
    have hbefore : m₂.now.Before st₃ := hbefore₃.trans happend.before
    exact ⟨⟨⟨m₁.now, hbefore₂.trans hbefore, rfl⟩, ⟨m₂.now, hbefore, rfl⟩⟩, rfl, rfl⟩

theorem earns_probeObservation (canary : ProbeObservationRequest) :
    (provenanceContract H J).Keeps (.probeObservation canary)
      ((provenanceContract H J).post (.probeObservation canary)) (serve H J (.probeObservation canary)) m := by
  rcases serve_probeObservation H J canary with ⟨e, hserve⟩ | ⟨probes, hprobes, hserve⟩
  · rw [hserve]
    rintro response hresponse
    cases hresponse
  · rw [hserve]
    apply earns_perform (.recordProtocolObservation _) ⟨canary, probes, rfl, hprobes, rfl⟩
    rintro m₁ r st' - - response hresponse
    rcases served_probe_cases H canary probes r with ⟨e, hserved⟩ | ⟨event, updated, -, hserved⟩
    · rw [hserved] at hresponse
      cases hresponse
    · rw [hserved] at hresponse
      cases hresponse
      exact ⟨probes, hprobes, rfl⟩

theorem earns_verifyDelivery (latencyMs : ℕ) (delivery : DeliveryVerificationRequest) :
    (provenanceContract H J).Keeps (.verifyDelivery latencyMs delivery)
      ((provenanceContract H J).post (.verifyDelivery latencyMs delivery))
      (serve H J (.verifyDelivery latencyMs delivery)) m := by
  rcases serve_verifyDelivery H J latencyMs delivery with ⟨e, hserve⟩ | ⟨probes, hprobes, hserve⟩
  · rw [hserve]
    exact fun response hresponse => trivial
  · rw [hserve]
    apply earns_perform (.recordVerification _) ⟨latencyMs, delivery, probes, rfl, hprobes, rfl⟩
    exact fun m₁ r st' hbefore hexec response hresponse => trivial

/-- Scoring only reads. -/
theorem earns_scoreCandidates (mode : Mode) (taskType : String) (candidates : List CandidateRequest)
    (m : ServiceMoment) : (provenanceContract H J).Keeps req (fun _ _ => True)
      (scoreCandidates mode taskType candidates) m := by
  induction candidates generalizing m with
  | nil => trivial
  | cons candidate rest ih =>
    apply earns_perform (.reputation candidate.serviceId taskType) trivial
    intro m₁ delivery st₁ _ _
    apply earns_perform (.protocolReputation candidate.serviceId) trivial
    intro m₂ protocol st₂ _ _
    by_cases hvalid : (candidateScore mode candidate delivery protocol).Valid
    · simp only [if_pos hvalid]
      exact (ih _).bind fun _ _ _ => trivial
    · simp only [if_neg hvalid]
      trivial

theorem earns_bestExecution (execution : BestExecutionRequest) :
    (provenanceContract H J).Keeps (.bestExecution execution)
      ((provenanceContract H J).post (.bestExecution execution))
      (serve H J (.bestExecution execution)) m := by
  rw [serve, bestExecution]
  refine Contract.Keeps.bind (Contract.Keeps.bind
    (earns_scoreCandidates execution.mode execution.taskType execution.candidates m) ?_)
    (Q := fun _ _ => True) ?_
  · rintro (e | scores) m₁ -
    · trivial
    · apply earns_perform (.appendAudit _ _) trivial
      exact fun _ _ _ _ _ => trivial
  · exact fun _ _ _ _ _ => trivial

theorem earns_serve (req : ServiceRequest) :
    (provenanceContract H J).Keeps req ((provenanceContract H J).post req) (serve H J req) m := by
  cases req with
  | trustSnapshot req => exact earns_trustSnapshot req
  | probeObservation req => exact earns_probeObservation req
  | verifyDelivery latencyMs req => exact earns_verifyDelivery latencyMs req
  | bestExecution req => exact earns_bestExecution req

end Keeps

/-! Thresholds. -/

namespace BayesianReputation

open Rounding

/-- How far the estimate is from one half, before rounding. -/
theorem shrink_mean (s f : ℕ) : BetaEstimate.shrink (confidence ⟨s, f⟩) (mean ⟨s, f⟩) =
    1 / 2 + confidence ⟨s, f⟩ * (s - f) / (2 * (s + f + 4)) := by
  have hpos : (2 : ℚ) + s + (2 + f) ≠ 0 := by positivity
  have hpos' : (s : ℚ) + f + 4 ≠ 0 := by positivity
  simp only [BetaEstimate.shrink, mean, BetaEstimate.mean, alphaPrior, betaPrior]
  field_simp
  ring

theorem confidence_mul_le (s f : ℕ) : confidence ⟨s, f⟩ * (s + f + 8) ≤ s + f := by
  have hpos : (0 : ℚ) < s + f + 8 := by positivity
  have h : confidence ⟨s, f⟩ ≤ (s + f) / (s + f + 8) := by
    simp only [confidence, observations]
    push_cast
    exact min_le_right _ _
  rwa [le_div_iff₀ hpos] at h

/-- A score that earns BUY. -/
theorem bounds_of_score100 {s f : ℕ} (h : 75 ≤ score100 ⟨s, f⟩) : 15 ≤ s ∧ 3 * f + 12 ≤ s := by
  have hnear := (score100_near ⟨s, f⟩).2
  rw [shrink_mean] at hnear
  set c := confidence ⟨s, f⟩ with hc
  have hc0 : 0 ≤ c := confidence_nonneg _
  have hcap : c ≤ 0.99 := confidence_le _
  have hvolume : c * (s + f + 8) ≤ s + f := confidence_mul_le s f
  have hpos : (0 : ℚ) < 2 * (s + f + 4) := by positivity
  have hgain : 0.24995 ≤ c * (s - f) / (2 * (s + f + 4)) := by linarith
  rw [le_div_iff₀ hpos] at hgain
  have hmore : 3 * f + 12 ≤ s := by
    by_contra hless
    have hlead : (s : ℚ) ≤ 3 * f + 11 := by exact_mod_cast (by omega : s ≤ 3 * f + 11)
    have hn0 : (0 : ℚ) ≤ s + f := by positivity
    -- few observations leave too little confidence, many leave too little lead
    rcases le_total ((s : ℚ) + f) 1000 with hn | hn
    · have hhalf : c * (s + f + 8) * (s - f) ≤ (s + f) * ((s + f + 11) / 2) := by
        calc c * (s + f + 8) * (s - f) ≤ c * (s + f + 8) * ((s + f + 11) / 2) := by
              apply mul_le_mul_of_nonneg_left _ (by positivity)
              linarith
          _ ≤ (s + f) * ((s + f + 11) / 2) := mul_le_mul_of_nonneg_right hvolume (by positivity)
      have hscaled := mul_le_mul_of_nonneg_right hgain (by positivity : (0 : ℚ) ≤ s + f + 8)
      nlinarith
    · have hhalf : c * (s - f) ≤ 0.99 * ((s + f + 11) / 2) := by
        calc c * (s - f) ≤ c * ((s + f + 11) / 2) := by
              apply mul_le_mul_of_nonneg_left _ hc0
              linarith
          _ ≤ 0.99 * ((s + f + 11) / 2) := mul_le_mul_of_nonneg_right hcap (by positivity)
      linarith
  refine ⟨?_, hmore⟩
  by_contra hfew
  have hf : f = 0 := by omega
  subst hf
  have hs : s ≤ 14 := by omega
  have hmono := score100_success_mono s 0 (14 - s)
  rw [show s + (14 - s) = 14 by omega] at hmono
  have hlast : score100 ⟨14, 0⟩ < 75 := by decide +kernel
  linarith

/-- Enough passes earn BUY, whatever the failures. -/
theorem buy_of_successes {s f : ℕ} (h : 4 * f + 15 ≤ s) :
    75 ≤ score100 ⟨s, f⟩ ∧ 0.5 ≤ confidence ⟨s, f⟩ := by
  constructor
  · obtain ⟨k, rfl⟩ := Nat.exists_eq_add_of_le h
    refine le_trans ?_ (score100_success_mono (4 * f + 15) f k)
    have hgain : 0.25 ≤ confidence ⟨4 * f + 15, f⟩ * ((4 * f + 15 : ℕ) - f) /
        (2 * ((4 * f + 15 : ℕ) + f + 4)) := by
      have hf : (0 : ℚ) ≤ f := by positivity
      rw [le_div_iff₀ (by positivity)]
      simp only [confidence, observations]
      push_cast
      rcases le_total (0.99 : ℚ) ((4 * f + 15 + f) / (4 * f + 15 + f + 8)) with hcap | hcap
      · rw [min_eq_left hcap]
        linarith
      · rw [min_eq_right hcap, div_mul_eq_mul_div, le_div_iff₀ (by positivity)]
        nlinarith
    have hround : ((7500 : ℤ) : ℚ) ≤
        BetaEstimate.shrink (confidence ⟨4 * f + 15, f⟩) (mean ⟨4 * f + 15, f⟩) * 100 * 10 ^ 2 := by
      rw [shrink_mean]
      push_cast at hgain ⊢
      linarith
    exact le_trans (by norm_num) (le_roundDigits 2 hround)
  · have hn : (15 : ℚ) ≤ (s : ℚ) + f := by exact_mod_cast (by omega : 15 ≤ s + f)
    simp only [confidence, observations]
    push_cast
    rw [le_min_iff, le_div_iff₀ (by linarith)]
    constructor
    · norm_num
    · linarith

end BayesianReputation

section Runs

variable {history : List ServiceEvent} {c : Config ServiceRequest StoreOp.Ret Served Store}

theorem provenance_of_serving (h : Serving H J history c) : (provenanceContract H J).Good history c := by
  have hempty : (provenanceContract H J).Inv ⟨[], .empty⟩ :=
    ⟨fun r hr => absurd hr List.not_mem_nil, fun r hr => absurd hr List.not_mem_nil⟩
  exact Contract.good_of_run hempty (fun req _ _ => earns_serve req) h

/-- Tallies that an answer went by are earned in the run. -/
theorem Read.earned {s taskType : String} {delivery protocol : BayesianReputation × Option ℤ}
    (hread : Read c.store s taskType delivery protocol) (h : Serving H J history c) :
    DeliveriesEarned H J history s taskType delivery.1 ∧ CanariesEarned H J history s protocol.1 := by
  have hjustified : Justified H J history c.store.db := (provenance_of_serving h).inv
  obtain ⟨⟨st, hst, rfl⟩, ⟨st', hst', rfl⟩⟩ := hread
  exact ⟨(hjustified.before hst).deliveriesEarned s taskType, (hjustified.before hst').canariesEarned s⟩

/-! One delivery, and what comes after it. -/

theorem passes_acknowledged : Passes .sample acknowledged := by
  refine ⟨⟨⟨_, rfl, by simp [dict], trivial, rfl⟩, ⟨by simp [acknowledged], ?_⟩, ?_, ?_⟩, ?_, ?_⟩
  · intro a ha
    rw [List.mem_singleton.1 ha]
    exact ⟨.bool true, rfl, rfl⟩
  · unfold Marked
    decide +kernel
  · rintro ⟨fields, hfields, ⟨hword, -⟩ | ⟨⟨hword, -⟩, -⟩⟩
    all_goals
      obtain rfl := Json.obj.inj hfields
      revert hword
      decide
  · exact fun check hcheck => absurd hcheck List.not_mem_nil
  · exact fun hcited => absurd rfl hcited

/-- The delivery is counted. -/
theorem reputation_acknowledged {response : ServiceResponse}
    (h : (serve H .sample (.verifyDelivery 0 acknowledged)).run H faults .empty = (.ok response, st)) :
    0 < (reputation st.db "seller" "general").1.observations := by
  rw [serve, Endpoint.run_bind] at h
  cases hrun : (verifyDelivery H .sample 0 acknowledged).run H faults .empty with
  | mk result st' =>
    rw [hrun] at h
    cases result with
    | error e => cases h
    | ok delivered =>
      cases h
      obtain ⟨probes, event, hprobes, hrecorded, -⟩ := verifyDelivery_ok hrun
      have hstate : aggregateState probes = .pass := by
        rcases deliveryProbes_cases .sample acknowledged with ⟨⟨e, he⟩, -⟩ | ⟨probes', hprobes', -, -, hpass⟩
        · rw [hprobes] at he
          cases he
        · obtain rfl := Except.ok.inj (hprobes.symm.trans hprobes')
          exact aggregateState_pass_iff.2 (hpass.2 passes_acknowledged)
      have hcounts : (acknowledged.verification H 0 probes).Counts :=
        counts_iff.2 ⟨by simp [acknowledged], by simp [acknowledged], by simp [hstate]⟩
      have hattempt := (recordVerification_ok hrecorded).attempt hcounts
      cases hupdated : delivered.reputationUpdated with
      | false =>
        obtain ⟨-, r, hr, -⟩ := hattempt.suppressed hupdated
        cases hr
      | true =>
        have hpassed : ((acknowledged.verification H 0 probes).row H Store.empty.draws).outcome = "PASS" :=
          congrArg EvidenceState.value hstate
        have hcounted : ((acknowledged.verification H 0 probes).row H Store.empty.draws).CountsFor
            "seller" "general" := ⟨rfl, rfl⟩
        have hrows := (hattempt.written hupdated).1
        generalize (acknowledged.verification H 0 probes).row H Store.empty.draws = row at *
        have hone : st'.db.observations.rows = [row] := hrows
        simp [reputation, hone, BayesianReputation.observations, hpassed, hcounted]

theorem exists_seller_snapshot : ∃ history c response,
    Serving AnyPayload.injectiveHost .sample history c ∧
      .returned (.trustSnapshot sellerSnapshot) (.ok (.snapshot response)) ∈ history := by
  obtain ⟨history, st, -, hrun, -, -⟩ := exists_acknowledged
  have hcommits : Commits AnyPayload.injectiveHost (fun _ => false) st :=
    (reachable_of_serving hrun).commits AnyPayload.injective_sha256 fun _ => rfl
  obtain ⟨response, st', hsnapshot⟩ := trustSnapshot_commits hcommits sellerSnapshot
  have hserved : (serve AnyPayload.injectiveHost .sample (.trustSnapshot sellerSnapshot)).run
      AnyPayload.injectiveHost (fun _ => false) st = (.ok (.snapshot response), st') := by
    rw [serve, Endpoint.run_bind, hsnapshot]
    rfl
  obtain ⟨events, hlonger, hreturned⟩ := exists_served hrun hserved
  exact ⟨_, _, response, hlonger, List.mem_append_right _ hreturned⟩

/-- Whatever a snapshot reports of a seller is earned: its tallies count deliveries and canaries that
were verified in the run before, each once and each for the state it deserves. -/
theorem snapshot_earned (hrun : Serving H J history c) {req : TrustSnapshotRequest}
    {response : TrustSnapshotResponse}
    (hanswer : .returned (.trustSnapshot req) (.ok (.snapshot response)) ∈ history) :
    DeliveriesEarned H J history req.serviceId req.taskType response.evidence.1 ∧
      CanariesEarned H J history req.serviceId response.protocolEvidence.1 := by
  obtain ⟨hread, -⟩ := (provenance_of_serving hrun).answers _ _ hanswer _ rfl
  exact hread.earned hrun

theorem snapshot_earned_acknowledged : ∃ history c response,
    Serving AnyPayload.injectiveHost .sample history c ∧
      .returned (.trustSnapshot sellerSnapshot) (.ok (.snapshot response)) ∈ history ∧
      DeliveriesEarned AnyPayload.injectiveHost .sample history "seller" "general"
        response.evidence.1 := by
  obtain ⟨history, c, response, hrun, hanswer⟩ := exists_seller_snapshot
  exact ⟨history, c, response, hrun, hanswer, (snapshot_earned hrun hanswer).1⟩

/-- A snapshot goes by the whole of what is on record of the seller, and that is earned. BUY takes at
least fifteen passing deliveries and twelve more than three for each that failed; four for each and
fifteen more always do. A small first purchase takes a passing canary, and no more canaries that failed
than passed. -/
theorem advice_earned (hrun : Serving H J history c) {req : TrustSnapshotRequest}
    {response : TrustSnapshotResponse}
    (hanswer : .returned (.trustSnapshot req) (.ok (.snapshot response)) ∈ history) :
    Read c.store req.serviceId req.taskType response.evidence response.protocolEvidence ∧
    DeliveriesEarned H J history req.serviceId req.taskType response.evidence.1 ∧
    CanariesEarned H J history req.serviceId response.protocolEvidence.1 ∧
    (response.verdict = .buy → 15 ≤ response.evidence.1.successes ∧
      3 * response.evidence.1.failures + 12 ≤ response.evidence.1.successes) ∧
    (4 * response.evidence.1.failures + 15 ≤ response.evidence.1.successes → response.verdict = .buy) ∧
    (response.verdict = .trySmall → response.evidence.1.observations = 0 ∧
      1 ≤ response.protocolEvidence.1.successes ∧
      response.protocolEvidence.1.failures ≤ response.protocolEvidence.1.successes) := by
  obtain ⟨hread, hverdict, -⟩ := (provenance_of_serving hrun).answers _ _ hanswer _ rfl
  obtain ⟨hdeliveries, hcanaries⟩ := hread.earned hrun
  refine ⟨hread, hdeliveries, hcanaries, ?_⟩
  rw [hverdict]
  generalize response.evidence.1 = rep at *
  generalize response.protocolEvidence.1 = protocolRep at *
  have hobservations : rep.observations = rep.successes + rep.failures := rfl
  have hprobes : protocolRep.observations = protocolRep.successes + protocolRep.failures := rfl
  refine ⟨?_, ?_, ?_⟩
  · intro hbuy
    apply BayesianReputation.bounds_of_score100
    unfold snapshotVerdict at hbuy
    split_ifs at hbuy with h₁ h₂ h₃ h₄ h₅
    exact h₄.1
  · intro hmany
    obtain ⟨hscore, hconfidence⟩ := BayesianReputation.buy_of_successes hmany
    rw [snapshotVerdict, if_neg (by omega), if_pos ⟨hscore, hconfidence⟩]
  · intro htry
    unfold snapshotVerdict at htry
    split_ifs at htry with h₁ h₂ h₃ h₄ h₅
    omega

/-- The canary is counted, as the only evidence. -/
theorem tallies_echoedReply {response : ProbeResponse}
    (h : (probeObservation H .sample echoedReply).run H faults .empty = (.ok response, st)) :
    (reputation st.db "seller" "general").1 = ⟨0, 0⟩ ∧ (protocolReputation st.db "seller").1 = ⟨1, 0⟩ := by
  obtain ⟨probes, event, hprobes, hrecorded, -⟩ := probeObservation_ok h
  obtain ⟨-, hcanaried⟩ := recordProtocolObservation_ok hrecorded
  have hpass : closedState (aggregateState probes) = .pass := by
    have hdecided : (canaryProbes .sample echoedReply).map (fun probes =>
        closedState (aggregateState probes)) = .ok .pass := by decide +kernel
    rw [hprobes] at hdecided
    exact Except.ok.inj hdecided
  have hpassed : ((echoedReply.canary H probes).row H Store.empty.draws).outcome = "PASS" :=
    congrArg EvidenceState.value hpass
  have hseller : ((echoedReply.canary H probes).row H Store.empty.draws).serviceId = "seller" := rfl
  constructor
  · simp [reputation, hcanaried.observations_eq, Store.empty, Table.empty]
  · cases hupdated : response.protocolReputationUpdated with
    | false =>
      obtain ⟨-, r, hr, -⟩ := hcanaried.attempt.suppressed hupdated
      cases hr
    | true =>
      have hrows := (hcanaried.attempt.written hupdated).1
      generalize (echoedReply.canary H probes).row H Store.empty.draws = row at *
      have hone : st.db.protocolObservations.rows = [row] := hrows
      simp [protocolReputation, hone, hpassed, hseller]

/-- A snapshot of a seller that has passed one canary, and has no delivery on record. -/
theorem exists_canary_snapshot : ∃ history c response,
    Serving AnyPayload.injectiveHost .sample history c ∧
      .returned (.trustSnapshot sellerSnapshot) (.ok (.snapshot response)) ∈ history ∧
      response.verdict = .trySmall := by
  obtain ⟨probed, st, hprobed, -⟩ := (answerable_echoedReply AnyPayload.injectiveHost).returns
    (commits_empty AnyPayload.injectiveHost) .sample (by decide)
  have hserved : (serve AnyPayload.injectiveHost .sample (.probeObservation echoedReply)).run
      AnyPayload.injectiveHost (fun _ => false) .empty = (.ok (.probe probed), st) := by
    rw [serve, Endpoint.run_bind, hprobed]
    rfl
  obtain ⟨events, hrun, -⟩ := exists_served .init hserved
  have hcommits : Commits AnyPayload.injectiveHost (fun _ => false) st :=
    (reachable_of_serving hrun).commits AnyPayload.injective_sha256 fun _ => rfl
  obtain ⟨response, st', hsnapshot⟩ := trustSnapshot_commits hcommits sellerSnapshot
  have hserved' : (serve AnyPayload.injectiveHost .sample (.trustSnapshot sellerSnapshot)).run
      AnyPayload.injectiveHost (fun _ => false) st = (.ok (.snapshot response), st') := by
    rw [serve, Endpoint.run_bind, hsnapshot]
    rfl
  obtain ⟨events', hlonger, hreturned⟩ := exists_served hrun hserved'
  refine ⟨_, _, response, hlonger, List.mem_append_right _ hreturned, ?_⟩
  obtain ⟨hdeliveries, hcanaries⟩ := tallies_echoedReply hprobed
  rw [trustSnapshot_verdict hsnapshot, Db.verdict]
  change (snapshotVerdict (reputation st.db "seller" "general").1
    (protocolReputation st.db "seller").1).1 = _
  rw [hdeliveries, hcanaries]
  rfl

/-- The seller is worth a small purchase, for a canary that it passed. -/
theorem advice_earned_canary : ∃ history c response,
    Serving AnyPayload.injectiveHost .sample history c ∧
      .returned (.trustSnapshot sellerSnapshot) (.ok (.snapshot response)) ∈ history ∧
      response.verdict = .trySmall ∧ 1 ≤ response.protocolEvidence.1.successes ∧
      response.protocolEvidence.1.failures ≤ response.protocolEvidence.1.successes := by
  obtain ⟨history, c, response, hrun, hanswer, htry⟩ := exists_canary_snapshot
  obtain ⟨-, -, -, -, -, hsmall⟩ := advice_earned hrun hanswer
  exact ⟨history, c, response, hrun, hanswer, htry, (hsmall htry).2⟩

end Runs

end Counterparty
