import Mathlib.Tactic.Linarith
import Counterparty.Snapshot

/-! Best execution: candidates scored from the evidence on record and ranked by utility. -/
namespace Counterparty

open Json Rounding

inductive Mode
  | safe
  | explore
deriving DecidableEq

def Mode.text : Mode → String
  | .safe => "safe"
  | .explore => "explore"

/-- A candidate as the request model admits it. -/
structure CandidateRequest where
  serviceId : String
  priceCredits : ℕ
  taskFit : ℚ := 0.5
  latencyMs : Option ℕ := none
  price_le : priceCredits ≤ 100
  taskFit_nonneg : 0 ≤ taskFit
  taskFit_le : taskFit ≤ 1
  latency_le : ∀ l ∈ latencyMs, l ≤ 300000

structure BestExecutionRequest where
  task : String
  taskType : String := "general"
  budgetCredits : ℕ
  candidates : List CandidateRequest
  mode : Mode := .safe
  budget_pos : 0 < budgetCredits
  budget_le : budgetCredits ≤ 100
  candidates_ne : candidates ≠ []
  candidates_length : candidates.length ≤ 32
  candidates_must_be_unique : (candidates.map CandidateRequest.serviceId).Nodup

structure CandidateScore where
  serviceId : String
  priceCredits : ℕ
  trustScore : ℚ
  confidence : ℚ
  taskFit : ℚ
  latencyMs : ℤ
  observations : ℕ
  protocolObservations : ℕ
  evidenceTier : EvidenceTier

/-- The bounds the score model declares; a score outside them is not built. -/
def CandidateScore.Valid (c : CandidateScore) : Prop :=
  0 ≤ c.trustScore ∧ c.trustScore ≤ 100 ∧ 0 ≤ c.confidence ∧ c.confidence ≤ 1 ∧ 0 ≤ c.taskFit ∧
    c.taskFit ≤ 1 ∧ 0 ≤ c.latencyMs

instance : DecidablePred CandidateScore.Valid := fun _ => inferInstanceAs (Decidable (_ ∧ _))

/-- Safe mode penalizes uncertainty aggressively, explore mode tolerates sparse evidence. -/
def Mode.uncertaintyWeight : Mode → ℚ
  | .safe => 0.28
  | .explore => 0.12

def utility (c : CandidateScore) (budget : ℕ) (mode : Mode) : ℚ :=
  if c.priceCredits > budget then -1e9
  else
    let trust := c.trustScore / 100
    let priceEfficiency : ℚ := max 0 (1 - c.priceCredits / max budget 1)
    let latencyPenalty : ℚ := min 1 (c.latencyMs / 300000)
    let uncertaintyPenalty := 1 - c.confidence
    0.42 * trust + 0.25 * c.taskFit + 0.18 * priceEfficiency + 0.15 * c.confidence -
      0.10 * latencyPenalty - mode.uncertaintyWeight * uncertaintyPenalty

abbrev Ranked := List (CandidateScore × ℚ)

/-- `key=lambda x: (x[1], x[0].service_id), reverse=True` -/
def RankedBefore (x y : CandidateScore × ℚ) : Prop :=
  y.2 < x.2 ∨ y.2 = x.2 ∧ y.1.serviceId ≤ x.1.serviceId

instance : DecidableRel RankedBefore := fun _ _ => inferInstanceAs (Decidable (_ ∨ _))

def rank (candidates : List CandidateScore) (budget : ℕ) (mode : Mode) : Ranked :=
  (candidates.map fun c => (c, utility c budget mode)).insertionSort RankedBefore

/-! Scoring. -/

/-- Trust, confidence and tier. A failed canary is a negative signal, stronger than uncertainty. -/
noncomputable def assess (mode : Mode) (rep protocolRep : BayesianReputation) :
    ℚ × ℚ × EvidenceTier :=
  if rep.observations > 0 then
    (match mode with | .safe => rep.conservativeScore100 | .explore => rep.score100,
      rep.confidence, .verified)
  else if protocolRep.observations > 0 then
    (50 + 0.5 * (protocolRep.score100 - 50), min 0.5 (0.2 + 0.5 * protocolRep.confidence),
      if protocolRep.failures > protocolRep.successes then .rejected else .provisional)
  else (50, 0, .unproven)

/-- `a or b`, for a number that may be missing: zero is passed over as well. -/
def orElseNonzero (a : Option ℤ) (b : ℤ) : ℤ :=
  match a with
  | some n => if n = 0 then b else n
  | none => b

def candidateLatency (candidate : CandidateRequest) (observed protocol : Option ℤ) : ℤ :=
  match candidate.latencyMs with
  | some l => l
  | none => orElseNonzero observed (orElseNonzero protocol 1000)

noncomputable def candidateScore (mode : Mode) (candidate : CandidateRequest)
    (delivery protocol : BayesianReputation × Option ℤ) : CandidateScore :=
  let (trust, confidence, evidenceTier) := assess mode delivery.1 protocol.1
  { serviceId := candidate.serviceId
    priceCredits := candidate.priceCredits
    trustScore := trust
    confidence := confidence
    taskFit := candidate.taskFit
    latencyMs := candidateLatency candidate delivery.2 protocol.2
    observations := delivery.1.observations
    protocolObservations := protocol.1.observations
    evidenceTier := evidenceTier }

noncomputable def scoreCandidates (mode : Mode) (taskType : String) :
    List CandidateRequest → Endpoint (Except StoreError (List CandidateScore))
  | [] => return .ok []
  | candidate :: rest => do
    let delivery ← Endpoint.reputation candidate.serviceId taskType
    let protocol ← Endpoint.protocolReputation candidate.serviceId
    let score := candidateScore mode candidate delivery protocol
    if score.Valid then
      let scores ← scoreCandidates mode taskType rest
      return scores.map (score :: ·)
    else return .error .valueError

/-! The decision. -/

inductive Execution
  | unaffordable
  | rejected (ranked : Ranked)
  | unready (ranked : Ranked) (targets : List String)
  | recommended (winner : CandidateScore × ℚ) (ranked : Ranked)

def chooseExecution (mode : Mode) (ranked : Ranked) : Execution :=
  let viable := ranked.filter fun x => x.2 > -1e8
  let routeable := viable.filter fun x => x.1.evidenceTier ≠ .rejected
  let evidenceReady := routeable.filter fun x =>
    x.1.evidenceTier = .verified ∨ x.1.evidenceTier = .provisional
  if viable = [] then .unaffordable
  else
    match routeable with
    | [] => .rejected viable
    | first :: _ =>
      match mode, evidenceReady with
      | .safe, [] =>
        .unready viable
          (((routeable.filter fun x => x.1.evidenceTier = .unproven).map
            fun x => x.1.serviceId).take 5)
      | .safe, winner :: _ => .recommended winner viable
      | .explore, _ => .recommended first viable

def scoreRow (H : Host) (x : CandidateScore × ℚ) : PyJson :=
  .obj (dict
    [("service_id", pyText x.1.serviceId),
      ("utility", pyFloat H (roundDigits 4 x.2)),
      ("price_credits", pyInt x.1.priceCredits),
      ("trust_score", pyFloat H (roundDigits 2 x.1.trustScore)),
      ("confidence", pyFloat H (roundDigits 4 x.1.confidence)),
      ("evidence_tier", pyText x.1.evidenceTier.text),
      ("verified_observations", pyInt x.1.observations),
      ("protocol_observations", pyInt x.1.protocolObservations)])

def Execution.result (H : Host) : Execution → PyDict
  | .unaffordable => dict
    [("state", pyText "INCONCLUSIVE"), ("reason", pyText "No candidate fits the budget"),
      ("ranked", .arr [])]
  | .rejected ranked => dict
    [("state", pyText "INCONCLUSIVE"),
      ("reason", pyText
        "Every in-budget candidate is rejected by deterministic active-canary evidence."),
      ("ranked", .arr (ranked.map (scoreRow H)))]
  | .unready ranked targets => dict
    [("state", pyText "INCONCLUSIVE"),
      ("reason", pyText
        "No in-budget candidate has verified delivery evidence or a passing protocol canary."),
      ("ranked", .arr (ranked.map (scoreRow H))),
      ("next_action", .obj (dict
        [("service", pyText "trust_snapshot"), ("price_credits", pyInt 4),
          ("reason", pyText
            "Trust Snapshot actively canary-tests an unknown seller under a bounded SharedOS Probe grant."),
          ("targets", .arr (targets.map pyText))]))]
  | .recommended winner ranked => dict
    [("state", pyText "PASS"), ("recommended", pyText winner.1.serviceId),
      ("expected_utility", pyFloat H (roundDigits 4 winner.2)),
      ("evidence_tier", pyText winner.1.evidenceTier.text),
      ("recommendation_strength",
        pyText (if winner.1.evidenceTier = .verified then "VERIFIED" else "PROVISIONAL")),
      ("ranked", .arr (ranked.map (scoreRow H))),
      ("next_action", .obj (dict
        [("service", pyText "verify_delivery"), ("price_credits", pyInt 7),
          ("reason", pyText
            "After purchase, verify the actual delivery to upgrade provisional protocol evidence into task-specific reputation.")]))]

structure BestExecutionResponse where
  execution : Execution
  result : PyDict
  auditReceipt : String

def executionPayload (H : Host) (req : BestExecutionRequest) (execution : Execution) : PyDict :=
  dict
    [("task_hash", pyText (H.sha256 (codes req.task))), ("mode", pyText req.mode.text),
      ("result", .obj (execution.result H))]

noncomputable def bestExecution (H : Host) (req : BestExecutionRequest) :
    Endpoint (Except StoreError BestExecutionResponse) := do
  match ← scoreCandidates req.mode req.taskType req.candidates with
  | .error e => return .error e
  | .ok scores =>
    let execution := chooseExecution req.mode (rank scores req.budgetCredits req.mode)
    let event ← Endpoint.appendAudit "best_execution" (executionPayload H req execution)
    return event.map fun event =>
      { execution := execution
        result := put (PyStr.ofString "audit_receipt") (pyText event.hash) (execution.result H)
        auditReceipt := event.hash }

variable {db : Db} {mode : Mode} {taskType : String} {rep protocolRep : BayesianReputation}

/-- How `best_execution` scores a candidate in a state of the database. -/
noncomputable def Db.score (db : Db) (mode : Mode) (taskType : String)
    (candidate : CandidateRequest) : CandidateScore :=
  candidateScore mode candidate (reputation db candidate.serviceId taskType)
    (protocolReputation db candidate.serviceId)

/-! Recording a failure. -/

theorem assess_first_failure_le (mode : Mode) (protocolRep : BayesianReputation) :
    (assess mode ⟨0, 1⟩ protocolRep).1 ≤ 48.89 := by
  have hscore : BayesianReputation.score100 ⟨0, 1⟩ ≤ 48.89 := by decide +kernel
  cases mode with
  | safe => exact (BayesianReputation.conservativeScore100_le_score100 _).trans hscore
  | explore => exact hscore

theorem confidence_first : BayesianReputation.confidence ⟨0, 1⟩ = 1 / 9 := by decide +kernel

theorem uncertaintyWeight_ge (mode : Mode) : 0.12 ≤ mode.uncertaintyWeight := by
  cases mode <;> norm_num [Mode.uncertaintyWeight]

/-- A seller with deliveries does not gain trust by failing one more. -/
theorem assess_failure_le (mode : Mode) (protocolRep : BayesianReputation)
    (h : 0 < rep.observations) :
    (assess mode (rep.record "FAIL") protocolRep).1 ≤ (assess mode rep protocolRep).1 := by
  obtain ⟨s, f⟩ := rep
  have hafter : 0 < (⟨s, f + 1⟩ : BayesianReputation).observations := Nat.succ_pos _
  simp only [BayesianReputation.record_fail, assess, gt_iff_lt, h, hafter, if_true]
  cases mode with
  | safe => exact BayesianReputation.conservativeScore100_failure_le s f
  | explore => exact BayesianReputation.score100_failure_le s f

/-- A canary is held with more confidence than a first delivery, by more than its trust can gain
when the delivery fails. -/
theorem assess_canary (mode : Mode) (h : rep.observations = 0)
    (hcanary : 0 < protocolRep.observations) :
    0.42 * ((assess mode ⟨0, 1⟩ protocolRep).1 - (assess mode rep protocolRep).1) / 100 +
      0.27 * ((assess mode ⟨0, 1⟩ protocolRep).2.1 - (assess mode rep protocolRep).2.1) ≤ 0 ∧
    (assess mode ⟨0, 1⟩ protocolRep).2.1 ≤ (assess mode rep protocolRep).2.1 := by
  have hfirst := assess_first_failure_le mode protocolRep
  have hconfidence : (assess mode ⟨0, 1⟩ protocolRep).2.1 = 1 / 9 := confidence_first
  have hlow : 1 / 9 ≤ protocolRep.confidence :=
    confidence_first ▸ BayesianReputation.confidence_mono hcanary
  have hhigh := protocolRep.confidence_le
  have hscore := protocolRep.le_score100
  have htrust : (assess mode rep protocolRep).1 = 50 + 0.5 * (protocolRep.score100 - 50) := by
    simp [assess, h, hcanary]
  have hheld : (assess mode rep protocolRep).2.1 = min 0.5 (0.2 + 0.5 * protocolRep.confidence) := by
    simp [assess, h, hcanary]
  rw [htrust, hheld, hconfidence]
  rcases le_total (0.5 : ℚ) (0.2 + 0.5 * protocolRep.confidence) with hcap | hcap
  · rw [min_eq_left hcap]
    constructor <;> linarith
  · rw [min_eq_right hcap]
    constructor <;> linarith

/-- What a failure can gain a seller: no more than the confidence that its evidence gains. -/
theorem assess_gain_le (mode : Mode) (rep protocolRep : BayesianReputation) :
    0.42 * ((assess mode (rep.record "FAIL") protocolRep).1 - (assess mode rep protocolRep).1) / 100 +
      (0.15 + mode.uncertaintyWeight) *
        ((assess mode (rep.record "FAIL") protocolRep).2.1 - (assess mode rep protocolRep).2.1) ≤
    (0.15 + mode.uncertaintyWeight) *
      max 0 ((assess mode (rep.record "FAIL") protocolRep).2.1 - (assess mode rep protocolRep).2.1) := by
  have hw := uncertaintyWeight_ge mode
  rcases Nat.eq_zero_or_pos rep.observations with hnone | hsome
  · have hzero : rep.record "FAIL" = ⟨0, 1⟩ := by
      simp only [BayesianReputation.observations, Nat.add_eq_zero_iff] at hnone
      simp [BayesianReputation.record_fail, hnone]
    rw [hzero]
    rcases Nat.eq_zero_or_pos protocolRep.observations with hunproven | hcanary
    · have hfirst := assess_first_failure_le mode protocolRep
      have htrust : (assess mode rep protocolRep).1 = 50 := by simp [assess, hnone, hunproven]
      have hcredit := mul_le_mul_of_nonneg_left
        (le_max_right 0 ((assess mode ⟨0, 1⟩ protocolRep).2.1 - (assess mode rep protocolRep).2.1))
        (by linarith : 0 ≤ 0.15 + mode.uncertaintyWeight)
      rw [htrust]
      linarith
    · obtain ⟨hgain, hheld⟩ := assess_canary mode hnone hcanary
      rw [max_eq_left (sub_nonpos.2 hheld), mul_zero]
      nlinarith
  · have htrust := assess_failure_le mode protocolRep hsome
    have hcredit := mul_le_mul_of_nonneg_left
      (le_max_right 0 ((assess mode (rep.record "FAIL") protocolRep).2.1 -
        (assess mode rep protocolRep).2.1))
      (by linarith : 0 ≤ 0.15 + mode.uncertaintyWeight)
    linarith

/-- One more counted failure raises the utility of a seller at most by what the confidence it adds
is worth to the mode, so it never raises it where the confidence does not grow. -/
theorem utility_failure_le {candidate : CandidateRequest} {r : Observation}
    {observations : Table Observation.Clash} (h : db.observations.insert r = some observations)
    (hr : r.CountsFor candidate.serviceId taskType) (hfail : r.outcome = "FAIL")
    (hlatency : candidate.latencyMs.isSome) (mode : Mode) (budget : ℕ) :
    utility (Db.score { db with observations } mode taskType candidate) budget mode ≤
      utility (db.score mode taskType candidate) budget mode +
        (0.15 + mode.uncertaintyWeight) *
          max 0 ((Db.score { db with observations } mode taskType candidate).confidence -
            (db.score mode taskType candidate).confidence) := by
  have hgain := assess_gain_le mode (reputation db candidate.serviceId taskType).1
    (protocolReputation db candidate.serviceId).1
  obtain ⟨latency, hlatency⟩ := Option.isSome_iff_exists.1 hlatency
  have hrep := reputation_record h hr
  rw [hfail] at hrep
  have hcredit : 0 ≤ (0.15 + mode.uncertaintyWeight) *
      max 0 ((Db.score { db with observations } mode taskType candidate).confidence -
        (db.score mode taskType candidate).confidence) :=
    mul_nonneg (by linarith [uncertaintyWeight_ge mode]) (le_max_left _ _)
  have hprotocol : protocolReputation { db with observations } candidate.serviceId =
      protocolReputation db candidate.serviceId := rfl
  simp only [Db.score, candidateScore, candidateLatency, hlatency, hrep, hprotocol] at hcredit ⊢
  by_cases hprice : candidate.priceCredits > budget
  · simp only [utility, hprice, if_true]
    linarith
  · simp only [utility, hprice, if_false]
    linarith

def newcomer : CandidateRequest :=
  ⟨"seller", 10, 0.5, some 1000, by decide, by norm_num, by norm_num, by decide⟩

def failedDelivery : Observation :=
  ⟨"id", "delivery", "seller", "general", "FAIL", none, "evidence", 0⟩

def Db.failedOnce : Db :=
  { Store.empty.db with observations := ⟨[failedDelivery], List.pairwise_singleton _ _⟩ }

theorem utility_failure_newcomer :
    utility (Db.failedOnce.score .safe "general" newcomer) 100 .safe ≤
      utility (Store.empty.db.score .safe "general" newcomer) 100 .safe +
        (0.15 + Mode.safe.uncertaintyWeight) *
          max 0 ((Db.failedOnce.score .safe "general" newcomer).confidence -
            (Store.empty.db.score .safe "general" newcomer).confidence) :=
  utility_failure_le (show Store.empty.db.observations.insert failedDelivery =
    some Db.failedOnce.observations from rfl) (by decide) rfl rfl .safe 100

/-- The first delivery on record raises a seller's utility although it failed. -/
theorem failure_raises_utility :
    Store.empty.db.observations.insert failedDelivery = some Db.failedOnce.observations ∧
      failedDelivery.CountsFor "seller" "general" ∧ failedDelivery.outcome = "FAIL" ∧
      utility (Store.empty.db.score .explore "general" newcomer) 100 .explore <
        utility (Db.failedOnce.score .explore "general" newcomer) 100 .explore :=
  ⟨rfl, by decide, rfl, by decide +kernel⟩

end Counterparty
