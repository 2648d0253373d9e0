import Mathlib.Tactic.IntervalCases
import Mathlib.Tactic.NormNum
import Counterparty.Endpoint
import Counterparty.StorageSpec

/-! The trust snapshot of one seller: its verdict, its action and its evidence tier. -/
namespace Counterparty

inductive Verdict
  | unproven
  | avoid
  | trySmall
  | buy
  | caution
deriving DecidableEq

def Verdict.text : Verdict → String
  | .unproven => "UNPROVEN"
  | .avoid => "AVOID"
  | .trySmall => "TRY_SMALL"
  | .buy => "BUY"
  | .caution => "CAUTION"

inductive EvidenceTier
  | verified
  | rejected
  | provisional
  | unproven
deriving DecidableEq

def EvidenceTier.text : EvidenceTier → String
  | .verified => "VERIFIED"
  | .rejected => "REJECTED"
  | .provisional => "PROVISIONAL"
  | .unproven => "UNPROVEN"

/-- Canaries decide for a seller without deliveries, score thresholds from the first delivery on. -/
def snapshotVerdict (rep protocolRep : BayesianReputation) : Verdict × String :=
  if rep.observations = 0 then
    if protocolRep.observations = 0 then (.unproven, "RUN_CANARY")
    else if protocolRep.failures > protocolRep.successes then (.avoid, "SKIP")
    else (.trySmall, "BUY_SMALL_THEN_VERIFY")
  else if rep.score100 ≥ 75 ∧ rep.confidence ≥ 0.5 then (.buy, "BUY")
  else if rep.score100 ≥ 55 then (.caution, "BUY_SMALL_THEN_VERIFY")
  else (.avoid, "SKIP")

def snapshotTier (rep protocolRep : BayesianReputation) : EvidenceTier :=
  if rep.observations ≠ 0 then .verified
  else if protocolRep.observations ≠ 0 ∧ protocolRep.failures > protocolRep.successes then .rejected
  else if protocolRep.observations ≠ 0 then .provisional
  else .unproven

structure TrustSnapshotRequest where
  serviceId : String
  taskType : String := "general"

structure TrustSnapshotResponse where
  serviceId : String
  taskType : String
  trustScore : ℚ
  conservativeScore : ℚ
  confidence : ℚ
  observations : ℕ
  verdict : Verdict
  action : String
  evidenceTier : EvidenceTier
  evidence : BayesianReputation × Option ℤ
  protocolEvidence : BayesianReputation × Option ℤ
  auditReceipt : String

noncomputable def snapshotPayload (H : Host) (req : TrustSnapshotRequest)
    (rep protocolRep : BayesianReputation) : PyDict :=
  dict
    [("service_id", pyText req.serviceId),
      ("task_type", pyText req.taskType),
      ("score", pyFloat H rep.score100),
      ("conservative_score", pyFloat H rep.conservativeScore100),
      ("confidence", pyFloat H rep.confidence),
      ("observations", pyInt rep.observations),
      ("protocol_observations", pyInt protocolRep.observations),
      ("evidence_tier", pyText (snapshotTier rep protocolRep).text),
      ("verdict", pyText (snapshotVerdict rep protocolRep).1.text),
      ("action", pyText (snapshotVerdict rep protocolRep).2)]

open Rounding in
noncomputable def trustSnapshot (H : Host) (req : TrustSnapshotRequest) :
    Endpoint (Except StoreError TrustSnapshotResponse) := do
  let (rep, medianLatency) ← Endpoint.reputation req.serviceId req.taskType
  let (protocolRep, protocolLatency) ← Endpoint.protocolReputation req.serviceId
  let score := rep.score100
  let conservative := rep.conservativeScore100
  let (verdict, action) := snapshotVerdict rep protocolRep
  let evidenceTier := snapshotTier rep protocolRep
  let event ← Endpoint.appendAudit "trust_snapshot" (snapshotPayload H req rep protocolRep)
  return event.map fun event =>
    { serviceId := req.serviceId
      taskType := req.taskType
      trustScore := score
      conservativeScore := conservative
      confidence := roundDigits 4 rep.confidence
      observations := rep.observations
      verdict := verdict
      action := action
      evidenceTier := evidenceTier
      evidence := (rep, medianLatency)
      protocolEvidence := (protocolRep, protocolLatency)
      auditReceipt := event.hash }

variable {rep protocolRep : BayesianReputation} {db : Db} {s taskType : String}

theorem thresholds_avoid_iff (score confidence : ℚ) :
    (if rep.observations = 0 then
      if protocolRep.observations = 0 then (Verdict.unproven, "RUN_CANARY")
      else if protocolRep.failures > protocolRep.successes then (.avoid, "SKIP")
      else (.trySmall, "BUY_SMALL_THEN_VERIFY")
    else if score ≥ 75 ∧ confidence ≥ 0.5 then (.buy, "BUY")
    else if score ≥ 55 then (.caution, "BUY_SMALL_THEN_VERIFY")
    else (.avoid, "SKIP")).1 = .avoid ↔
      if rep.observations = 0 then protocolRep.successes < protocolRep.failures else score < 55 := by
  by_cases hrep : rep.observations = 0
  · by_cases hcanary : protocolRep.observations = 0
    · have hnone : protocolRep.failures = 0 := by
        simp only [BayesianReputation.observations] at hcanary
        omega
      simp [hrep, hcanary, hnone]
    · by_cases hfailed : protocolRep.failures > protocolRep.successes <;>
        simp [hrep, hcanary, hfailed]
  · by_cases hbuy : score ≥ 75 ∧ confidence ≥ 0.5
    · have h55 : (55 : ℚ) ≤ score := le_trans (by norm_num) hbuy.1
      simp [hrep, hbuy, h55]
    · by_cases h55 : score ≥ 55
      · simp [hrep, hbuy, h55]
      · simp only [if_neg hrep, if_neg hbuy, if_neg h55, true_iff]
        exact lt_of_not_ge h55

theorem snapshotVerdict_avoid_iff : (snapshotVerdict rep protocolRep).1 = .avoid ↔
    if rep.observations = 0 then protocolRep.successes < protocolRep.failures
    else rep.score100 < 55 := thresholds_avoid_iff _ _

/-- What `trust_snapshot` says of a seller in a state of the database. -/
def Db.verdict (db : Db) (s taskType : String) : Verdict :=
  (snapshotVerdict (reputation db s taskType).1 (protocolReputation db s).1).1

theorem trustSnapshot_verdict {H : Host} {faults : Faults} {st st' : Store}
    {req : TrustSnapshotRequest} {response : TrustSnapshotResponse}
    (h : (trustSnapshot H req).run H faults st = (.ok response, st')) :
    response.verdict = st.db.verdict req.serviceId req.taskType := by
  obtain ⟨hresponse, -⟩ := Prod.mk.inj h
  obtain ⟨event, -, rfl⟩ := Except.map_eq_ok hresponse
  rfl

theorem trustSnapshot_returns {H : Host} {faults : Faults} {st st' : Store}
    {req : TrustSnapshotRequest} {event : AuditEvent}
    (h : appendAudit H faults "trust_snapshot" (snapshotPayload H req
      (reputation st.db req.serviceId req.taskType).1 (protocolReputation st.db req.serviceId).1) st =
        (.ok event, st')) :
    ∃ response, (trustSnapshot H req).run H faults st = (.ok response, st') := by
  rw [trustSnapshot, Endpoint.run_reputation, Endpoint.run_protocolReputation,
    Endpoint.run_appendAudit, h]
  exact ⟨_, rfl⟩

/-! Recording a success. -/

/-- A passing canary never turns a verdict into AVOID. -/
theorem verdict_canary {r : ProtocolObservation}
    {protocolObservations : Table ProtocolObservation.Clash}
    (h : db.protocolObservations.insert r = some protocolObservations) (hr : r.serviceId = s)
    (hpass : r.outcome = "PASS") (hclear : db.verdict s taskType ≠ .avoid) :
    Db.verdict { db with protocolObservations } s taskType ≠ .avoid := by
  simp only [Db.verdict, ne_eq, snapshotVerdict_avoid_iff, protocolReputation_record h hr, hpass,
    BayesianReputation.record_pass] at hclear ⊢
  change ¬if (reputation db s taskType).1.observations = 0 then _ else _
  split_ifs at hclear ⊢
  · omega
  · exact hclear

theorem score100_first_passes : (∀ k ∈ [1, 2], BayesianReputation.score100 ⟨k, 0⟩ < 55) ∧
    55 ≤ BayesianReputation.score100 ⟨3, 0⟩ := by decide +kernel

/-- A first passing delivery is scored below the threshold that deliveries are held to. -/
theorem verdict_delivery_iff {r : Observation} {observations : Table Observation.Clash}
    (h : db.observations.insert r = some observations) (hr : r.CountsFor s taskType)
    (hpass : r.outcome = "PASS") :
    (db.verdict s taskType ≠ .avoid → Db.verdict { db with observations } s taskType ≠ .avoid) ↔
      (reputation db s taskType).1.observations ≠ 0 ∨
        (protocolReputation db s).1.successes < (protocolReputation db s).1.failures := by
  have hsome : ¬((reputation db s taskType).1.record "PASS").observations = 0 := by
    simp [BayesianReputation.record_pass, BayesianReputation.observations]
  have hafter : Db.verdict { db with observations } s taskType = .avoid ↔
      ((reputation db s taskType).1.record "PASS").score100 < 55 := by
    simp only [Db.verdict, snapshotVerdict_avoid_iff, reputation_record h hr, hpass, if_neg hsome]
  rw [ne_eq, ne_eq, hafter, Db.verdict, snapshotVerdict_avoid_iff]
  by_cases hnone : (reputation db s taskType).1.observations = 0
  · have hzero : (reputation db s taskType).1 = ⟨0, 0⟩ := by
      generalize (reputation db s taskType).1 = rep at hnone ⊢
      obtain ⟨s, f⟩ := rep
      simp only [BayesianReputation.observations, Nat.add_eq_zero_iff] at hnone
      rw [hnone.1, hnone.2]
    have hlow : (BayesianReputation.record ⟨0, 0⟩ "PASS").score100 < 55 :=
      score100_first_passes.1 1 (by decide)
    rw [if_pos hnone, hzero]
    simp [hlow, BayesianReputation.observations]
  · rw [if_neg hnone]
    simp only [ne_eq, hnone, not_false_eq_true, true_or, iff_true, not_lt]
    intro hscore
    exact hscore.trans (BayesianReputation.score100_success_le _ _)

/-- Without a failure on record, only one or two passing deliveries are answered with AVOID. -/
theorem verdict_without_failure_iff (hrep : (reputation db s taskType).1.failures = 0)
    (hprotocol : (protocolReputation db s).1.failures = 0) :
    db.verdict s taskType ≠ .avoid ↔ (reputation db s taskType).1.successes ∉ [1, 2] := by
  rw [Db.verdict, ne_eq, snapshotVerdict_avoid_iff, hprotocol]
  generalize (reputation db s taskType).1 = rep at hrep ⊢
  obtain ⟨k, f⟩ := rep
  obtain rfl : f = 0 := hrep
  obtain ⟨hfirst, hthird⟩ := score100_first_passes
  rcases Nat.lt_or_ge k 3 with hk | hk
  · interval_cases k
    · simp [BayesianReputation.observations]
    · simp [BayesianReputation.observations, hfirst 1 (by decide)]
    · simp [BayesianReputation.observations, hfirst 2 (by decide)]
  · obtain ⟨j, rfl⟩ := Nat.exists_eq_add_of_le hk
    have hscore : 55 ≤ BayesianReputation.score100 ⟨3 + j, 0⟩ :=
      hthird.trans (BayesianReputation.score100_success_mono 3 0 j)
    have hne : ¬(3 + j + 0 = 0) := by omega
    simp only [BayesianReputation.observations, hne, if_false, not_lt, hscore, List.mem_cons,
      List.not_mem_nil, or_false, true_iff]
    omega

/-- When recording a success keeps a seller from AVOID, over every verdict `trust_snapshot` gives:
a canary always does, a delivery unless it is the first, and of the sellers without a failure only
those with one or two deliveries are given AVOID. -/
theorem success_clears_verdict (db : Db) (s taskType : String) :
    (∀ H faults st st' req response,
      (trustSnapshot H req).run H faults st = (.ok response, st') →
      response.verdict = st.db.verdict req.serviceId req.taskType) ∧
    (∀ r protocolObservations, db.protocolObservations.insert r = some protocolObservations →
      r.serviceId = s → r.outcome = "PASS" → db.verdict s taskType ≠ .avoid →
      Db.verdict { db with protocolObservations } s taskType ≠ .avoid) ∧
    (∀ r observations, db.observations.insert r = some observations →
      r.CountsFor s taskType → r.outcome = "PASS" →
      ((db.verdict s taskType ≠ .avoid →
          Db.verdict { db with observations } s taskType ≠ .avoid) ↔
        (reputation db s taskType).1.observations ≠ 0 ∨
          (protocolReputation db s).1.successes < (protocolReputation db s).1.failures)) ∧
    ((reputation db s taskType).1.failures = 0 → (protocolReputation db s).1.failures = 0 →
      (db.verdict s taskType ≠ .avoid ↔ (reputation db s taskType).1.successes ∉ [1, 2])) := by
  refine ⟨?_, ?_, ?_, verdict_without_failure_iff⟩
  · intro H faults st st' req response h
    exact trustSnapshot_verdict h
  · intro r protocolObservations h hr hpass hclear
    exact verdict_canary h hr hpass hclear
  · intro r observations h hr hpass
    exact verdict_delivery_iff h hr hpass

/-- The first passing delivery of a seller turns UNPROVEN into AVOID. -/
theorem first_success_avoided :
    Store.empty.db.verdict "seller" "general" = .unproven ∧
      (recordObservation (.sample zeroHash) (fun _ => false)
        ⟨"delivery", "seller", "general", "PASS", "evidence", none⟩ .empty).1 = .ok true ∧
      (recordObservation (.sample zeroHash) (fun _ => false)
        ⟨"delivery", "seller", "general", "PASS", "evidence", none⟩ .empty).2.db.verdict
          "seller" "general" = .avoid := by
  decide +kernel

end Counterparty
