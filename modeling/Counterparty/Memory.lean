import Counterparty.Library.Counter
import Counterparty.Provenance

/-! What the service remembers: evidence that a client was told of is in every tally read later. -/
namespace Counterparty

open Interleave

variable {H : Host} {J : JsonSchema} {st st' : Store}

/-! What is counted. -/

theorem EvidenceState.value_inj {state o : EvidenceState} : state.value = o.value ↔ state = o := by
  cases state <;> cases o <;> decide

theorem Observation.countsFor_iff {s taskType : String} {r : Observation} :
    r.CountsFor s taskType ↔ r.serviceId = s ∧ (r.taskType = taskType ∨ r.taskType = "general") := by
  unfold Observation.CountsFor
  by_cases htask : taskType = "general" <;> simp [htask]

/-- A delivery of the seller, for the type of task or a general one. -/
def Concerns (s taskType providerId taskType' : String) : Prop :=
  providerId = s ∧ (taskType' = taskType ∨ taskType' = "general")

instance (s taskType providerId taskType' : String) : Decidable (Concerns s taskType providerId taskType') :=
  inferInstanceAs (Decidable (_ ∧ _))

section Deliveries

variable (s taskType : String) (o : EvidenceState)

/-- The rows that a tally of the seller's deliveries counts with the outcome. -/
def Db.deliveries (db : Db) : ℕ :=
  (db.observations.rows.filter fun r => r.CountsFor s taskType).countP fun r => r.outcome = o.value

/-- A call that adds such a row. -/
def StoreOp.countsDelivery : (op : StoreOp) → op.Ret → Bool
  | .recordVerification v, .ok (_, true) => Concerns s taskType v.serviceId v.taskType ∧ v.outcome = o.value
  | _, _ => false

/-- An answer that says so. -/
def Served.tellsDelivery : ServiceRequest → Served → Bool
  | .verifyDelivery _ req, .ok (.delivery response) =>
    response.reputationUpdated ∧ Concerns s taskType req.providerId req.taskType ∧ response.state = o
  | _, _ => false

end Deliveries

section Canaries

variable (s : String) (o : EvidenceState)

def Db.canaries (db : Db) : ℕ :=
  (db.protocolObservations.rows.filter fun r => r.serviceId = s).countP fun r => r.outcome = o.value

def StoreOp.countsCanary : (op : StoreOp) → op.Ret → Bool
  | .recordProtocolObservation p, .ok (_, true) => p.serviceId = s ∧ p.outcome = o.value
  | _, _ => false

def Served.tellsCanary : ServiceRequest → Served → Bool
  | .probeObservation req, .ok (.probe response) =>
    response.protocolReputationUpdated ∧ req.providerId = s ∧ response.state = o
  | _, _ => false

end Canaries

/-! One operation. -/

theorem countP_filter_singleton {R : Type} (p q : R → Bool) (r : R) :
    ([r].filter p).countP q = (p r && q r).toNat := by
  cases hp : p r <;> cases hq : q r <;> simp [hp, hq]

theorem Attempt.rows_eq {R : Type} {Clash : R → R → Prop} {table table' : Table Clash} {r : R}
    {updated : Bool} (h : Attempt table table' r updated) :
    table'.rows = table.rows ++ if updated then [r] else [] := by
  cases updated with
  | false => simp [(h.suppressed rfl).1]
  | true => exact (h.written rfl).1

/-- The row that a call writes. -/
def StoreOp.delivered (H : Host) (n : ℕ) : (op : StoreOp) → op.Ret → List Observation
  | .recordVerification v, .ok (_, updated) => if updated then [v.row H n] else []
  | _, _ => []

def StoreOp.canaried (H : Host) (n : ℕ) : (op : StoreOp) → op.Ret → List ProtocolObservation
  | .recordProtocolObservation p, .ok (_, updated) => if updated then [p.row H n] else []
  | _, _ => []

theorem observations_exec {op : StoreOp} {r : op.Ret} (h : op.Exec H st r st') :
    st'.db.observations.rows = st.db.observations.rows ++ op.delivered H st.draws r := by
  cases h.effect with
  | kept hquiet hdb hdraws =>
    have hnone : op.delivered H st.draws r = [] := by
      cases op with
      | recordVerification v =>
        obtain ⟨e, rfl⟩ := hquiet trivial
        rfl
      | _ => rfl
    rw [hdb, hnone, List.append_nil]
  | logged hlogged =>
    rw [hlogged.observations_eq]
    exact (List.append_nil _).symm
  | canaried hcanaried =>
    rw [hcanaried.observations_eq]
    exact (List.append_nil _).symm
  | @verified v event updated hverified =>
    by_cases hcounts : v.Counts
    · exact (hverified.attempt hcounts).rows_eq
    · obtain ⟨rfl, hsame⟩ := hverified.skipped hcounts
      rw [hsame]
      exact (List.append_nil _).symm

theorem protocolObservations_exec {op : StoreOp} {r : op.Ret} (h : op.Exec H st r st') :
    st'.db.protocolObservations.rows =
      st.db.protocolObservations.rows ++ op.canaried H st.draws r := by
  cases h.effect with
  | kept hquiet hdb hdraws =>
    have hnone : op.canaried H st.draws r = [] := by
      cases op with
      | recordProtocolObservation p =>
        obtain ⟨e, rfl⟩ := hquiet trivial
        rfl
      | _ => rfl
    rw [hdb, hnone, List.append_nil]
  | logged hlogged =>
    rw [hlogged.protocol_eq]
    exact (List.append_nil _).symm
  | verified hverified =>
    rw [hverified.protocol_eq]
    exact (List.append_nil _).symm
  | canaried hcanaried => exact hcanaried.attempt.rows_eq

theorem Verification.row_countsFor {s taskType : String} {v : Verification} {n : ℕ} :
    (v.row H n).CountsFor s taskType ↔ Concerns s taskType v.serviceId v.taskType :=
  Observation.countsFor_iff

theorem deliveries_exec {s taskType : String} {o : EvidenceState} {op : StoreOp} {r : op.Ret}
    (h : op.Exec H st r st') : st'.db.deliveries s taskType o =
      st.db.deliveries s taskType o + (op.countsDelivery s taskType o r).toNat := by
  rw [Db.deliveries, observations_exec h, List.filter_append, List.countP_append]
  congr 1
  cases op with
  | recordVerification v =>
    rcases r with e | ⟨event, _ | _⟩
    · rfl
    · rfl
    · have hrow : (v.row H st.draws).outcome = v.outcome := rfl
      simp [StoreOp.delivered, StoreOp.countsDelivery, countP_filter_singleton,
        Verification.row_countsFor, hrow]
  | _ => rfl

theorem canaries_exec {s : String} {o : EvidenceState} {op : StoreOp} {r : op.Ret}
    (h : op.Exec H st r st') : st'.db.canaries s o =
      st.db.canaries s o + (op.countsCanary s o r).toNat := by
  rw [Db.canaries, protocolObservations_exec h, List.filter_append, List.countP_append]
  congr 1
  cases op with
  | recordProtocolObservation p =>
    rcases r with e | ⟨event, _ | _⟩
    · rfl
    · rfl
    · have hrow : (p.row H st.draws).serviceId = p.serviceId ∧ (p.row H st.draws).outcome = p.outcome :=
        ⟨rfl, rfl⟩
      simp only [StoreOp.canaried, StoreOp.countsCanary, if_true, countP_filter_singleton, hrow]
      simp
  | _ => rfl

/-! The counters. -/

section Counters

variable (H : Host) (J : JsonSchema)

theorem affords_deliveries (s taskType : String) (o : EvidenceState) (req : ServiceRequest) :
    (Tariff.counting (StoreOp.countsDelivery s taskType o)).Affords (fun _ _ => True) req
      (fun b served => (Served.tellsDelivery s taskType o req served).toNat ≤ b)
      (serve H J req) 0 := by
  cases req with
  | verifyDelivery latencyMs req =>
    rcases serve_verifyDelivery H J latencyMs req with ⟨e, hserve⟩ | ⟨probes, -, hserve⟩
    · rw [hserve]
      exact Nat.zero_le _
    · rw [hserve]
      have htold : ∀ (event : AuditEvent) (response : DeliveryResponse),
          response.state = aggregateState probes →
          (Served.tellsDelivery s taskType o (.verifyDelivery latencyMs req)
            (.ok (.delivery response))).toNat ≤
          0 + (StoreOp.countsDelivery s taskType o (.recordVerification (req.verification H latencyMs probes))
            (.ok (event, response.reputationUpdated))).toNat - 0 := by
        intro event response hstate
        have hvalue : (aggregate probes).1.value = o.value ↔ aggregateState probes = o :=
          EvidenceState.value_inj
        cases hupdated : response.reputationUpdated with
        | false => simp [Served.tellsDelivery, hupdated]
        | true =>
          simp [Served.tellsDelivery, StoreOp.countsDelivery, hupdated, hstate,
            DeliveryVerificationRequest.verification, hvalue]
      intro r _
      refine ⟨Nat.zero_le _, ?_⟩
      change (Served.tellsDelivery s taskType o (.verifyDelivery latencyMs req)
        (req.served H probes r)).toNat ≤ _
      rcases served_delivery_cases H req probes r with ⟨e, hserved⟩ | ⟨event, updated, rfl, hserved⟩
      · rw [hserved]
        exact Nat.zero_le _
      · rw [hserved]
        exact htold event _ rfl
  | trustSnapshot req => exact Tariff.affords_counting (fun _ _ => Nat.zero_le _) _ _
  | probeObservation req => exact Tariff.affords_counting (fun _ _ => Nat.zero_le _) _ _
  | bestExecution req => exact Tariff.affords_counting (fun _ _ => Nat.zero_le _) _ _

theorem affords_canaries (s : String) (o : EvidenceState) (req : ServiceRequest) :
    (Tariff.counting (StoreOp.countsCanary s o)).Affords (fun _ _ => True) req
      (fun b served => (Served.tellsCanary s o req served).toNat ≤ b)
      (serve H J req) 0 := by
  cases req with
  | probeObservation req =>
    rcases serve_probeObservation H J req with ⟨e, hserve⟩ | ⟨probes, -, hserve⟩
    · rw [hserve]
      exact Nat.zero_le _
    · rw [hserve]
      have htold : ∀ (event : AuditEvent) (response : ProbeResponse),
          response.state = closedState (aggregateState probes) →
          (Served.tellsCanary s o (.probeObservation req) (.ok (.probe response))).toNat ≤
          0 + (StoreOp.countsCanary s o (.recordProtocolObservation (req.canary H probes))
            (.ok (event, response.protocolReputationUpdated))).toNat - 0 := by
        intro event response hstate
        have hvalue : (closedState (aggregate probes).1).value = o.value ↔
            closedState (aggregateState probes) = o := EvidenceState.value_inj
        cases hupdated : response.protocolReputationUpdated with
        | false => simp [Served.tellsCanary, hupdated]
        | true =>
          simp [Served.tellsCanary, StoreOp.countsCanary, hupdated, hstate,
            ProbeObservationRequest.canary, hvalue]
      intro r _
      refine ⟨Nat.zero_le _, ?_⟩
      change (Served.tellsCanary s o (.probeObservation req) (req.served H probes r)).toNat ≤ _
      rcases served_probe_cases H req probes r with ⟨e, hserved⟩ | ⟨event, updated, rfl, hserved⟩
      · rw [hserved]
        exact Nat.zero_le _
      · rw [hserved]
        exact htold event _ rfl
  | trustSnapshot req => exact Tariff.affords_counting (fun _ _ => Nat.zero_le _) _ _
  | verifyDelivery latencyMs req => exact Tariff.affords_counting (fun _ _ => Nat.zero_le _) _ _
  | bestExecution req => exact Tariff.affords_counting (fun _ _ => Nat.zero_le _) _ _

def deliveryCounter (s taskType : String) (o : EvidenceState) :
    Counter (StoreOp.Exec H) (serve H J) Store.empty where
  value st := st.db.deliveries s taskType o
  counts := StoreOp.countsDelivery s taskType o
  tells := Served.tellsDelivery s taskType o
  value_start := rfl
  value_exec := deliveries_exec
  affords := affords_deliveries H J s taskType o

def canaryCounter (s : String) (o : EvidenceState) :
    Counter (StoreOp.Exec H) (serve H J) Store.empty where
  value st := st.db.canaries s o
  counts := StoreOp.countsCanary s o
  tells := Served.tellsCanary s o
  value_start := rfl
  value_exec := canaries_exec
  affords := affords_canaries H J s o

end Counters

/-! Tallies. -/

/-- What a client was told of the seller's deliveries: those that were answered as counted. -/
def toldDeliveries (past : List ServiceEvent) (s taskType : String) : BayesianReputation where
  successes := past.countP (Counter.toldIn (Served.tellsDelivery s taskType .pass))
  failures := past.countP (Counter.toldIn (Served.tellsDelivery s taskType .fail))

/-- The calls that counted a delivery of the seller. -/
def countedDeliveries (past : List ServiceEvent) (s taskType : String) : BayesianReputation where
  successes := past.countP (Counter.countedIn (StoreOp.countsDelivery s taskType .pass))
  failures := past.countP (Counter.countedIn (StoreOp.countsDelivery s taskType .fail))

def toldCanaries (past : List ServiceEvent) (s : String) : BayesianReputation where
  successes := past.countP (Counter.toldIn (Served.tellsCanary s .pass))
  failures := past.countP (Counter.toldIn (Served.tellsCanary s .fail))

def countedCanaries (past : List ServiceEvent) (s : String) : BayesianReputation where
  successes := past.countP (Counter.countedIn (StoreOp.countsCanary s .pass))
  failures := past.countP (Counter.countedIn (StoreOp.countsCanary s .fail))

section Traces

variable {E : Trace (StoreOp.Exec H) (serve H J) Store.empty} {h a b h' a' b' : ℕ} {s taskType : String}

/-- The tallies hold all that was told before the first moment, and nothing but what was counted before
the second. -/
structure Remembered (E : Trace (StoreOp.Exec H) (serve H J) Store.empty) (a b : ℕ) (s taskType : String)
    (deliveries canaries : BayesianReputation) : Prop where
  told_deliveries : toldDeliveries (E.past a) s taskType ≤ deliveries
  deliveries_counted : deliveries ≤ countedDeliveries (E.past b) s taskType
  told_canaries : toldCanaries (E.past a) s ≤ canaries
  canaries_counted : canaries ≤ countedCanaries (E.past b) s

/-- The tallies of the seller were read at two moments between a start and an end. -/
def ReadBetween (E : Trace (StoreOp.Exec H) (serve H J) Store.empty) (a b : ℕ) (s taskType : String)
    (delivery protocol : BayesianReputation × Option ℤ) : Prop :=
  ∃ i j, a < i ∧ i < b ∧ a < j ∧ j < b ∧ delivery = reputation (E.config i).store.db s taskType ∧
    protocol = protocolReputation (E.config j).store.db s

theorem ReadBetween.remembered {delivery protocol : BayesianReputation × Option ℤ}
    (h : ReadBetween E a b s taskType delivery protocol) (hb : b ≤ E.length) :
    Remembered E a b s taskType delivery.1 protocol.1 := by
  obtain ⟨i, j, hai, hib, haj, hjb, rfl, rfl⟩ := h
  have hdeliveries := fun o => (deliveryCounter H J s taskType o).found_between hai.le hib.le hb
  have hcanaries := fun o => (canaryCounter H J s o).found_between haj.le hjb.le hb
  exact ⟨⟨(hdeliveries .pass).1, (hdeliveries .fail).1⟩, ⟨(hdeliveries .pass).2, (hdeliveries .fail).2⟩,
    ⟨(hcanaries .pass).1, (hcanaries .fail).1⟩, ⟨(hcanaries .pass).2, (hcanaries .fail).2⟩⟩

/-- Tallies that are read later are no lower. -/
theorem ReadBetween.le {delivery protocol delivery' protocol' : BayesianReputation × Option ℤ}
    (h : ReadBetween E a b s taskType delivery protocol)
    (h' : ReadBetween E a' b' s taskType delivery' protocol') (hba : b ≤ a') (hb : b' ≤ E.length) :
    delivery.1 ≤ delivery'.1 ∧ protocol.1 ≤ protocol'.1 := by
  obtain ⟨i, j, -, hib, -, hjb, rfl, rfl⟩ := h
  obtain ⟨i', j', hai, hib', haj, hjb', rfl, rfl⟩ := h'
  have hdeliveries := fun o => (deliveryCounter H J s taskType o).value_mono (E := E) (j := i) (k := i')
    (by omega) (by omega)
  have hcanaries := fun o => (canaryCounter H J s o).value_mono (E := E) (j := j) (k := j')
    (by omega) (by omega)
  exact ⟨⟨hdeliveries .pass, hdeliveries .fail⟩, ⟨hcanaries .pass, hcanaries .fail⟩⟩

theorem snapshot_readBetween {req : TrustSnapshotRequest} {response : TrustSnapshotResponse}
    (hanswers : E.Answers h a b (.trustSnapshot req) (.ok (.snapshot response))) :
    ReadBetween E a b req.serviceId req.taskType response.evidence response.protocolEvidence := by
  obtain ⟨respond, hprogram, hrespond⟩ := serve_trustSnapshot H J req
  have hperforms := hanswers.performs
  rw [hprogram] at hperforms
  obtain ⟨i, delivery, hai, hib, -, ⟨_, hread⟩, hperforms⟩ := hperforms.of_call
  obtain ⟨j, protocol, hij, hjb, -, ⟨_, hread'⟩, hperforms⟩ := hperforms.of_call
  obtain ⟨k, result, -, -, -, -, hperforms⟩ := hperforms.of_call
  obtain ⟨rfl, -⟩ := Prod.mk.inj hread
  obtain ⟨rfl, -⟩ := Prod.mk.inj hread'
  have hanswer := hperforms.of_done
  cases result with
  | error e => cases hanswer
  | ok event =>
    cases hanswer
    obtain ⟨hevidence, hprotocol⟩ := hrespond
      (reputation (E.config i).store.db req.serviceId req.taskType)
      (protocolReputation (E.config j).store.db req.serviceId) event
    exact ⟨i, j, by omega, hib, by omega, hjb, hevidence, hprotocol⟩

theorem scoreCandidates_cons (mode : Mode) (taskType : String) (candidate : CandidateRequest)
    (rest : List CandidateRequest) : scoreCandidates mode taskType (candidate :: rest) =
      .call (.reputation candidate.serviceId taskType) fun delivery =>
        .call (.protocolReputation candidate.serviceId) fun protocol =>
          if (candidateScore mode candidate delivery protocol).Valid then
            scoreCandidates mode taskType rest >>= fun scores =>
              .done (scores.map (candidateScore mode candidate delivery protocol :: ·))
          else .done (.error .valueError) := rfl

/-- The scores that are given go by what was read of their candidates. -/
theorem scores_readBetween {req : ServiceRequest} {mode : Mode} {candidates : List CandidateRequest}
    {k : ℕ} {scores : List CandidateScore} (hak : a < k)
    (hperforms : E.Performs req b k (scoreCandidates mode taskType candidates) (.ok scores)) :
    ∀ score ∈ scores, ∃ candidate ∈ candidates, ∃ delivery protocol,
      ReadBetween E a b candidate.serviceId taskType delivery protocol ∧
        score = candidateScore mode candidate delivery protocol := by
  induction candidates generalizing k scores with
  | nil =>
    have hnone := hperforms.of_done
    cases hnone
    exact nofun
  | cons candidate rest ih =>
    rw [scoreCandidates_cons] at hperforms
    obtain ⟨i, delivery, hki, hib, -, ⟨_, hread⟩, hperforms⟩ := hperforms.of_call
    obtain ⟨j, protocol, hij, hjb, -, ⟨_, hread'⟩, hperforms⟩ := hperforms.of_call
    obtain ⟨rfl, -⟩ := Prod.mk.inj hread
    obtain ⟨rfl, -⟩ := Prod.mk.inj hread'
    by_cases hvalid : (candidateScore mode candidate
        (reputation (E.config i).store.db candidate.serviceId taskType)
        (protocolReputation (E.config j).store.db candidate.serviceId)).Valid
    · simp only [if_pos hvalid] at hperforms
      obtain ⟨k', result, -, hrest, hlast⟩ := hperforms.of_bind
      obtain ⟨others, rfl, rfl⟩ := Except.map_eq_ok hlast.of_done.symm
      intro score hscore
      rcases List.mem_cons.1 hscore with rfl | hscore
      · exact ⟨candidate, List.mem_cons_self, _, _, ⟨i, j, by omega, hib, by omega, hjb, rfl, rfl⟩, rfl⟩
      · obtain ⟨other, hother, hread⟩ := ih (by omega) hrest score hscore
        exact ⟨other, List.mem_cons_of_mem _ hother, hread⟩
    · simp only [if_neg hvalid] at hperforms
      cases hperforms.of_done

theorem execution_readBetween {req : BestExecutionRequest} {response : BestExecutionResponse}
    {winner : CandidateScore × ℚ} {ranked : Ranked}
    (hanswers : E.Answers h a b (.bestExecution req) (.ok (.execution response)))
    (hrecommended : response.execution = .recommended winner ranked) :
    req.mode.Routes winner.1.evidenceTier ∧ ∃ candidate ∈ req.candidates, ∃ delivery protocol,
      ReadBetween E a b candidate.serviceId req.taskType delivery protocol ∧
        winner.1 = candidateScore req.mode candidate delivery protocol := by
  have hperforms := hanswers.performs
  rw [serve, bestExecution] at hperforms
  obtain ⟨_, result, -, hperforms, hlast⟩ := hperforms.of_bind
  obtain ⟨k, scored, hk, hscores, hperforms⟩ := hperforms.of_bind
  obtain rfl : result = .ok response := by
    have hanswer := hlast.of_done
    cases result with
    | error e => cases hanswer
    | ok response' =>
      cases hanswer
      rfl
  cases scored with
  | error e => cases hperforms.of_done
  | ok scores =>
    obtain ⟨_, event, -, -, -, -, hperforms⟩ := hperforms.of_call
    obtain ⟨event, rfl, rfl⟩ := Except.map_eq_ok hperforms.of_done.symm
    have hhead := chooseExecution_recommended_iff.1 ⟨ranked, hrecommended⟩
    obtain ⟨hranked, hrouted⟩ := List.mem_filter.1 (List.mem_of_mem_head? hhead)
    obtain ⟨score, hscore, rfl⟩ := List.mem_map.1 ((List.mem_insertionSort _).1 hranked)
    obtain ⟨candidate, hcandidate, delivery, protocol, hread, rfl⟩ :=
      scores_readBetween (Nat.lt_succ_self a) hscores score hscore
    exact ⟨(of_decide_eq_true hrouted).2, candidate, hcandidate, delivery, protocol, hread, rfl⟩

/-- What a client was told of a seller is never forgotten, by whomever and whenever it is asked for: it
is in the tallies of every snapshot that is asked for later, and in what a seller is recommended for;
nothing else is but what was counted before the answer, and tallies never fall. -/
theorem evidence_remembered :
    (∀ req response, E.Answers h a b (.trustSnapshot req) (.ok (.snapshot response)) →
      Remembered E a b req.serviceId req.taskType response.evidence.1 response.protocolEvidence.1 ∧
      ∀ h' a' b' response', E.Answers h' a' b' (.trustSnapshot req) (.ok (.snapshot response')) →
        b ≤ a' → response.evidence.1 ≤ response'.evidence.1 ∧
          response.protocolEvidence.1 ≤ response'.protocolEvidence.1) ∧
    ∀ req response winner ranked, E.Answers h a b (.bestExecution req) (.ok (.execution response)) →
      response.execution = .recommended winner ranked → ∃ deliveries canaries,
        Remembered E a b winner.1.serviceId req.taskType deliveries canaries ∧
          winner.1.observations = deliveries.observations ∧
          winner.1.protocolObservations = canaries.observations := by
  constructor
  · intro req response hanswers
    have hread := snapshot_readBetween hanswers
    refine ⟨hread.remembered hanswers.lt_length.le, ?_⟩
    intro h' a' b' response' hanswers' hlater
    exact hread.le (snapshot_readBetween hanswers') hlater hanswers'.lt_length.le
  · intro req response winner ranked hanswers hrecommended
    obtain ⟨-, candidate, -, delivery, protocol, hread, hwinner⟩ :=
      execution_readBetween hanswers hrecommended
    have hremembered := hread.remembered hanswers.lt_length.le
    refine ⟨delivery.1, protocol.1, ?_, by rw [hwinner]; rfl, by rw [hwinner]; rfl⟩
    rw [hwinner]
    exact hremembered

/-- Tallies that were read between two moments are earned before the second. -/
theorem ReadBetween.earned {delivery protocol : BayesianReputation × Option ℤ}
    (h : ReadBetween E a b s taskType delivery protocol) (hb : b ≤ E.length) :
    DeliveriesEarned H J (E.past b) s taskType delivery.1 ∧ CanariesEarned H J (E.past b) s protocol.1 := by
  obtain ⟨i, j, -, hib, -, hjb, rfl, rfl⟩ := h
  have hjustified {k : ℕ} (hk : k < b) : Justified H J (E.past b) (E.config k).store.db := by
    have hbefore := (provenance_of_serving (E.run (by omega : k ≤ E.length))).inv
    exact Justified.mono hbefore (E.past_prefix hk.le)
  exact ⟨(hjustified hib).deliveriesEarned s taskType, (hjustified hjb).canariesEarned s⟩

/-- A seller is recommended by the whole of what is on record of it between the request and the answer,
and that is earned: there are deliveries, or there are none, as many canaries passed as failed, and in
safe mode one did. -/
theorem recommendation_earned {req : BestExecutionRequest} {response : BestExecutionResponse}
    {winner : CandidateScore × ℚ} {ranked : Ranked}
    (hanswers : E.Answers h a b (.bestExecution req) (.ok (.execution response)))
    (hrecommended : response.execution = .recommended winner ranked) :
    ∃ candidate ∈ req.candidates, ∃ delivery protocol,
      winner.1 = candidateScore req.mode candidate delivery protocol ∧
      ReadBetween E a b candidate.serviceId req.taskType delivery protocol ∧
      DeliveriesEarned H J (E.past b) candidate.serviceId req.taskType delivery.1 ∧
      CanariesEarned H J (E.past b) candidate.serviceId protocol.1 ∧
      (1 ≤ delivery.1.observations ∨ delivery.1.observations = 0 ∧
        protocol.1.failures ≤ protocol.1.successes ∧
        (req.mode = .safe → 1 ≤ protocol.1.successes)) := by
  obtain ⟨hroutes, candidate, hcandidate, delivery, protocol, hread, hwinner⟩ :=
    execution_readBetween hanswers hrecommended
  obtain ⟨hdeliveries, hcanaries⟩ := hread.earned hanswers.lt_length.le
  refine ⟨candidate, hcandidate, delivery, protocol, hwinner, hread, hdeliveries, hcanaries, ?_⟩
  have htier : winner.1.evidenceTier = (assess req.mode delivery.1 protocol.1).2.2 := by
    rw [hwinner]
    rfl
  rw [htier] at hroutes
  by_cases hdelivered : delivery.1.observations > 0
  · exact .inl hdelivered
  · right
    refine ⟨by omega, ?_⟩
    unfold assess at hroutes
    rw [if_neg hdelivered] at hroutes
    by_cases hprobed : protocol.1.observations > 0
    · rw [if_pos hprobed] at hroutes
      by_cases hfailed : protocol.1.failures > protocol.1.successes
      · cases hmode : req.mode <;> simp [hmode, hfailed, Mode.Routes] at hroutes
      · have hobservations : protocol.1.observations = protocol.1.successes + protocol.1.failures := rfl
        exact ⟨by omega, fun _ => by omega⟩
    · have hnone : protocol.1.successes + protocol.1.failures = 0 := Nat.eq_zero_of_not_pos hprobed
      refine ⟨by omega, ?_⟩
      intro hsafe
      rw [if_neg hprobed, hsafe] at hroutes
      simp [Mode.Routes] at hroutes

end Traces

/-- A request that is served on its own after a run is answered in a trace of it. -/
theorem exists_answered [Inhabited ServiceRequest] {history : List ServiceEvent} {req : ServiceRequest}
    {faults : Faults} {served : Served} (hrun : Serving H J history ⟨st, fun _ => none⟩)
    (hserved : (serve H J req).run H faults st = (served, st')) :
    ∃ (E : Trace (StoreOp.Exec H) (serve H J) Store.empty) (a b : ℕ),
      E.past a = history ∧ E.Answers 0 a b req served := by
  obtain ⟨E, hlast, hhistory⟩ := hrun.exists_trace
  have hexec : ∀ op st, StoreOp.Exec H op st (StoreOp.exec H faults st op).1
      (StoreOp.exec H faults st op).2 := fun op st => ⟨faults, rfl⟩
  obtain ⟨E', hextends, -, b, hanswers⟩ := E.exists_answers hexec hlast 0 req
  have heval : (serve H J req).eval (fun op st => StoreOp.exec H faults st op) st = (served, st') :=
    hserved
  rw [heval] at hanswers
  have hpast : E'.past E.length = history := by
    rw [← hhistory]
    exact List.map_congr_left fun k hk => hextends.event_eq k (List.mem_range.1 hk)
  exact ⟨E', E.length, b, hpast, hanswers⟩

/-- A snapshot can be asked for after a delivery was verified. -/
theorem exists_snapshot_answered :
    ∃ (E : Trace (StoreOp.Exec AnyPayload.injectiveHost) (serve AnyPayload.injectiveHost .sample)
        Store.empty) (a b : ℕ) (delivered : ServiceResponse) (response : TrustSnapshotResponse),
      .returned (.verifyDelivery 0 acknowledged) (.ok delivered) ∈ E.past a ∧
      E.Answers 0 a b (.trustSnapshot sellerSnapshot) (.ok (.snapshot response)) := by
  have : Inhabited ServiceRequest := ⟨.trustSnapshot sellerSnapshot⟩
  obtain ⟨history, st, delivered, hrun, -, hdelivered⟩ := exists_acknowledged
  have hcommits : Commits AnyPayload.injectiveHost (fun _ => false) st :=
    (reachable_of_serving hrun).commits AnyPayload.injective_sha256 fun _ => rfl
  obtain ⟨response, st', hsnapshot⟩ := trustSnapshot_commits hcommits sellerSnapshot
  have hserved : (serve AnyPayload.injectiveHost .sample (.trustSnapshot sellerSnapshot)).run
      AnyPayload.injectiveHost (fun _ => false) st = (.ok (.snapshot response), st') := by
    rw [serve, Endpoint.run_bind, hsnapshot]
    rfl
  obtain ⟨E, a, b, hpast, hanswers⟩ := exists_answered hrun hserved
  exact ⟨E, a, b, delivered, response, hpast ▸ hdelivered, hanswers⟩

/-- A snapshot that is asked for after a delivery was verified remembers what was told of it. -/
theorem evidence_remembered_acknowledged :
    ∃ (E : Trace (StoreOp.Exec AnyPayload.injectiveHost) (serve AnyPayload.injectiveHost .sample)
        Store.empty) (a b : ℕ) (delivered : ServiceResponse) (response : TrustSnapshotResponse),
      .returned (.verifyDelivery 0 acknowledged) (.ok delivered) ∈ E.past a ∧
      E.Answers 0 a b (.trustSnapshot sellerSnapshot) (.ok (.snapshot response)) ∧
      Remembered E a b "seller" "general" response.evidence.1 response.protocolEvidence.1 := by
  obtain ⟨E, a, b, delivered, response, hdelivered, hanswers⟩ := exists_snapshot_answered
  exact ⟨E, a, b, delivered, response, hdelivered, hanswers, (evidence_remembered.1 _ _ hanswers).1⟩

/-- A seller is recommended after it delivered. -/
theorem exists_recommended_answered :
    ∃ (E : Trace (StoreOp.Exec AnyPayload.injectiveHost) (serve AnyPayload.injectiveHost .sample)
        Store.empty) (a b : ℕ) (response : BestExecutionResponse) (winner : CandidateScore × ℚ)
        (ranked : Ranked),
      E.Answers 0 a b (.bestExecution onlyNewcomer) (.ok (.execution response)) ∧
      response.execution = .recommended winner ranked := by
  have : Inhabited ServiceRequest := ⟨.trustSnapshot sellerSnapshot⟩
  obtain ⟨history, st, delivered, hrun, hdelivered, -⟩ := exists_acknowledged
  have hcommits : Commits AnyPayload.injectiveHost (fun _ => false) st :=
    (reachable_of_serving hrun).commits AnyPayload.injective_sha256 fun _ => rfl
  have htimed := timed_of_serving hrun
  have hvalid : ∀ c ∈ onlyNewcomer.candidates,
      (st.db.score onlyNewcomer.mode onlyNewcomer.taskType c).Valid :=
    fun c _ => htimed.score_valid onlyNewcomer.mode onlyNewcomer.taskType c
  obtain ⟨response, st', hexecution⟩ := bestExecution_returns hcommits hvalid
  have hserved : (serve AnyPayload.injectiveHost .sample (.bestExecution onlyNewcomer)).run
      AnyPayload.injectiveHost (fun _ => false) st = (.ok (.execution response), st') := by
    rw [serve, Endpoint.run_bind, hexecution]
    rfl
  obtain ⟨E, a, b, -, hanswers⟩ := exists_answered hrun hserved
  have heligible : st.db.Eligible onlyNewcomer newcomer := by
    refine ⟨by decide, .inl ?_⟩
    change (assess .safe (reputation st.db "seller" "general").1 _).2.2 = .verified
    rw [assess, if_pos (reputation_acknowledged hdelivered)]
  obtain ⟨winner, ranked, hdecided⟩ := (recommends_iff (A := .rational)).2
    ⟨newcomer, List.mem_singleton_self _, heligible⟩
  exact ⟨E, a, b, response, winner, ranked, hanswers, (bestExecution_ok hexecution).trans hdecided⟩

theorem recommendation_earned_acknowledged :
    ∃ (E : Trace (StoreOp.Exec AnyPayload.injectiveHost) (serve AnyPayload.injectiveHost .sample)
        Store.empty) (a b : ℕ) (delivery protocol : BayesianReputation × Option ℤ),
      ReadBetween E a b "seller" "general" delivery protocol ∧
      DeliveriesEarned AnyPayload.injectiveHost .sample (E.past b) "seller" "general" delivery.1 ∧
      (1 ≤ delivery.1.observations ∨ delivery.1.observations = 0 ∧
        protocol.1.failures ≤ protocol.1.successes ∧
        (onlyNewcomer.mode = .safe → 1 ≤ protocol.1.successes)) := by
  obtain ⟨E, a, b, response, winner, ranked, hanswers, hrecommended⟩ := exists_recommended_answered
  obtain ⟨candidate, hcandidate, delivery, protocol, -, hread, hdeliveries, -, hearned⟩ :=
    recommendation_earned hanswers hrecommended
  rw [List.mem_singleton.1 hcandidate] at hread hdeliveries
  exact ⟨E, a, b, delivery, protocol, hread, hdeliveries, hearned⟩

end Counterparty
