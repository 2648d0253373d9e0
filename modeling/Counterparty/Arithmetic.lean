import Counterparty.Library.Roundoff
import Counterparty.Routing

/-! The two decisions in the arithmetic they are computed in: every operation of the scores and of the
utility is rounded, to a double where the source runs. Without rounding they are the ones above. -/
namespace Roundoff

open Counterparty Rounding

/-! Scores. -/

section Scores

variable (R : Roundoff) (r : BayesianReputation)

/-- `alpha_prior + successes` -/
def alpha : ℚ := R.fl (BayesianReputation.alphaPrior + R.fl r.successes)

/-- `beta_prior + failures` -/
def beta : ℚ := R.fl (BayesianReputation.betaPrior + R.fl r.failures)

def mean : ℚ := R.fl (R.alpha r / R.fl (R.alpha r + R.beta r))

def variance : ℚ :=
  let total := R.fl (R.alpha r + R.beta r)
  R.fl (R.fl (R.alpha r * R.beta r) / R.fl (R.fl (total * total) * R.fl (total + 1)))

def confidence : ℚ :=
  min (R.fl 0.99) (R.fl (R.fl r.observations / R.fl (R.fl r.observations + 8)))

/-- `0.5 * (1 - confidence) + m * confidence` -/
def adjusted (m : ℚ) : ℚ :=
  R.fl (R.fl (0.5 * R.fl (1 - R.confidence r)) + R.fl (m * R.confidence r))

/-- `round(x, d)` -/
def roundTo (d : ℕ) (x : ℚ) : ℚ := R.fl (roundDigits d x)

def score100 : ℚ := R.roundTo 2 (R.fl (R.adjusted r (R.mean r) * 100))

def lower (sqrt : ℚ → ℚ) (z : ℚ) : ℚ :=
  max 0 (R.fl (R.mean r - R.fl (z * sqrt (R.variance r))))

def conservativeScore100 (sqrt : ℚ → ℚ) : ℚ :=
  R.roundTo 2 (R.fl (R.adjusted r (R.lower r sqrt (R.fl 1.645)) * 100))

end Scores

section Bounds

variable (R : Roundoff) {r : BayesianReputation}

theorem alpha_nonneg : 0 ≤ R.alpha r := by
  have hcount := R.fl_nonneg (Nat.cast_nonneg r.successes)
  exact R.fl_nonneg (by rw [BayesianReputation.alphaPrior]; linarith)

theorem beta_nonneg : 0 ≤ R.beta r := by
  have hcount := R.fl_nonneg (Nat.cast_nonneg r.failures)
  exact R.fl_nonneg (by rw [BayesianReputation.betaPrior]; linarith)

theorem mean_nonneg : 0 ≤ R.mean r :=
  R.fl_nonneg (div_nonneg R.alpha_nonneg
    (R.fl_nonneg (add_nonneg R.alpha_nonneg R.beta_nonneg)))

theorem mean_le_one : R.mean r ≤ 1 := R.fl_div_le_one R.alpha_nonneg R.beta_nonneg

theorem confidence_nonneg : 0 ≤ R.confidence r := by
  have hcount := R.fl_nonneg (Nat.cast_nonneg r.observations)
  exact le_min (R.fl_nonneg (by norm_num))
    (R.fl_nonneg (div_nonneg hcount (R.fl_nonneg (by linarith))))

/-- The cap is short of one by nine steps of the grid. -/
theorem confidence_le_cap : R.confidence r ≤ 1014 / 1024 := by
  refine (min_le_left _ _).trans ?_
  have hcap := R.fl_le (n := 1014) (x := 0.99) (by decide) (by norm_num)
  rwa [Int.cast_ofNat] at hcap

theorem confidence_le_one : R.confidence r ≤ 1 := R.confidence_le_cap.trans (by norm_num)

theorem adjusted_nonneg {m : ℚ} (hm : 0 ≤ m) : 0 ≤ R.adjusted r m := by
  have hc := R.confidence_nonneg (r := r)
  have hrest := R.fl_nonneg (sub_nonneg.2 (R.confidence_le_one (r := r)))
  exact R.fl_nonneg (add_nonneg (R.fl_nonneg (by linarith)) (R.fl_nonneg (mul_nonneg hm hc)))

/-- Short of one, with room for a last rounding. -/
theorem adjusted_le {m : ℚ} (hm : 0 ≤ m) (hm1 : m ≤ 1) : R.adjusted r m ≤ 1023 / 1024 := by
  have hc := R.confidence_nonneg (r := r)
  have hcap := R.confidence_le_cap (r := r)
  have hrest := R.fl_le_add (x := 1 - R.confidence r) (by linarith) (by linarith)
  have hrest0 := R.fl_nonneg (x := 1 - R.confidence r) (by linarith)
  have hhalf := R.fl_le_add (x := 0.5 * R.fl (1 - R.confidence r)) (by linarith) (by linarith)
  have hshare : m * R.confidence r ≤ R.confidence r := mul_le_of_le_one_left hc hm1
  have hpart := R.fl_le_add (x := m * R.confidence r) (mul_nonneg hm hc) (by linarith)
  have hsum := R.fl_le (n := 1023)
    (x := R.fl (0.5 * R.fl (1 - R.confidence r)) + R.fl (m * R.confidence r)) (by decide)
    (by push_cast; linarith)
  rwa [Int.cast_ofNat] at hsum

theorem roundTo_percent {x : ℚ} (h0 : 0 ≤ x) (h1 : x ≤ 1023 / 1024) :
    0 ≤ R.roundTo 2 (R.fl (x * 100)) ∧ R.roundTo 2 (R.fl (x * 100)) ≤ 100 := by
  have hpos : 0 ≤ R.fl (x * 100) := R.fl_nonneg (by linarith)
  have hle : R.fl (x * 100) ≤ 100 := by
    have h := R.fl_le_intCast (n := 100) (x := x * 100) (by decide) (by push_cast; linarith)
    exact_mod_cast h
  have hlow : (0 : ℤ) / 10 ^ 2 ≤ roundDigits 2 (R.fl (x * 100)) :=
    le_roundDigits 2 (by push_cast; linarith)
  have hhigh : roundDigits 2 (R.fl (x * 100)) ≤ (10000 : ℤ) / 10 ^ 2 :=
    roundDigits_le 2 (by push_cast; linarith)
  constructor
  · exact R.fl_nonneg (by simpa using hlow)
  · have h := R.fl_le_intCast (n := 100) (x := roundDigits 2 (R.fl (x * 100))) (by decide)
      (hhigh.trans (by norm_num))
    exact_mod_cast h

theorem score100_bounds : 0 ≤ R.score100 r ∧ R.score100 r ≤ 100 :=
  R.roundTo_percent (R.adjusted_nonneg R.mean_nonneg) (R.adjusted_le R.mean_nonneg R.mean_le_one)

theorem conservativeScore100_bounds {sqrt : ℚ → ℚ} (hsqrt : ∀ x, 0 ≤ sqrt x) :
    0 ≤ R.conservativeScore100 r sqrt ∧ R.conservativeScore100 r sqrt ≤ 100 := by
  have hlow : 0 ≤ R.lower r sqrt (R.fl 1.645) := le_max_left _ _
  have hhigh : R.lower r sqrt (R.fl 1.645) ≤ 1 := by
    refine max_le (by norm_num) (R.fl_le_one ?_)
    have hz := R.fl_nonneg (x := 1.645) (by norm_num)
    have hdeviation := R.fl_nonneg (mul_nonneg hz (hsqrt (R.variance r)))
    linarith [R.mean_le_one (r := r)]
  exact R.roundTo_percent (R.adjusted_nonneg hlow) (R.adjusted_le hlow hhigh)

end Bounds

end Roundoff

namespace Counterparty

open Json

/-- An arithmetic: a rounding, and what it makes of the one score that takes a root. -/
structure Arithmetic extends Roundoff where
  conservativeScore100 : BayesianReputation → ℚ
  conservativeScore100_nonneg : ∀ r, 0 ≤ conservativeScore100 r
  conservativeScore100_le : ∀ r, conservativeScore100 r ≤ 100

namespace Arithmetic

/-- No rounding. -/
noncomputable def rational : Arithmetic where
  toRoundoff := .unrounded
  conservativeScore100 := BayesianReputation.conservativeScore100
  conservativeScore100_nonneg r := r.conservativeScore100_nonneg
  conservativeScore100_le r := r.conservativeScore100_le_score100.trans r.score100_le

/-- The rounding of IEEE doubles. -/
def binary64 : Roundoff := .ofFormat .binary64 (by decide) (by decide)

/-- What the source computes with. -/
def double : Arithmetic where
  toRoundoff := binary64
  conservativeScore100 r := binary64.conservativeScore100 r FloatFormat.binary64.sqrt
  conservativeScore100_nonneg _ :=
    (binary64.conservativeScore100_bounds FloatFormat.binary64.sqrt_nonneg).1
  conservativeScore100_le _ :=
    (binary64.conservativeScore100_bounds FloatFormat.binary64.sqrt_nonneg).2

/-! Routing. -/

section Routing

variable (A : Arithmetic)

/-- `price_credits / max(budget, 1)` and `latency_ms / 300_000` are divisions of integers, each rounded
once. -/
def utility (c : CandidateScore) (budget : ℕ) (mode : Mode) : ℚ :=
  if c.priceCredits > budget then -1e9
  else
    let trust := A.fl (c.trustScore / 100)
    let priceEfficiency := max 0 (A.fl (1 - A.fl (c.priceCredits / max budget 1)))
    let latencyPenalty := min 1 (A.fl (c.latencyMs / 300000))
    let uncertaintyPenalty := A.fl (1 - c.confidence)
    A.fl (A.fl (A.fl (A.fl (A.fl (A.fl (A.fl 0.42 * trust) + A.fl (0.25 * c.taskFit)) +
      A.fl (A.fl 0.18 * priceEfficiency)) + A.fl (A.fl 0.15 * c.confidence)) -
      A.fl (A.fl 0.10 * latencyPenalty)) -
      A.fl (A.fl mode.uncertaintyWeight * uncertaintyPenalty))

def rank (candidates : List CandidateScore) (budget : ℕ) (mode : Mode) : Ranked :=
  (candidates.map fun c => (c, A.utility c budget mode)).insertionSort RankedBefore

def assess (mode : Mode) (rep protocolRep : BayesianReputation) : ℚ × ℚ × EvidenceTier :=
  if rep.observations > 0 then
    (match mode with | .safe => A.conservativeScore100 rep | .explore => A.score100 rep,
      A.confidence rep, .verified)
  else if protocolRep.observations > 0 then
    (A.fl (50 + A.fl (0.5 * A.fl (A.score100 protocolRep - 50))),
      min 0.5 (A.fl (A.fl 0.2 + A.fl (0.5 * A.confidence protocolRep))),
      if protocolRep.failures > protocolRep.successes then .rejected else .provisional)
  else (50, 0, .unproven)

def candidateScore (mode : Mode) (candidate : CandidateRequest)
    (delivery protocol : BayesianReputation × Option ℤ) : CandidateScore :=
  let (trust, confidence, evidenceTier) := A.assess mode delivery.1 protocol.1
  { serviceId := candidate.serviceId
    priceCredits := candidate.priceCredits
    trustScore := trust
    confidence := confidence
    taskFit := candidate.taskFit
    latencyMs := candidateLatency candidate delivery.2 protocol.2
    observations := delivery.1.observations
    protocolObservations := protocol.1.observations
    evidenceTier := evidenceTier }

def scoreCandidates (mode : Mode) (taskType : String) :
    List CandidateRequest → Endpoint (Except StoreError (List CandidateScore))
  | [] => return .ok []
  | candidate :: rest => do
    let delivery ← Endpoint.reputation candidate.serviceId taskType
    let protocol ← Endpoint.protocolReputation candidate.serviceId
    let score := A.candidateScore mode candidate delivery protocol
    if score.Valid then
      let scores ← scoreCandidates mode taskType rest
      return scores.map (score :: ·)
    else return .error .valueError

def bestExecution (H : Host) (req : BestExecutionRequest) :
    Endpoint (Except StoreError BestExecutionResponse) := do
  match ← A.scoreCandidates req.mode req.taskType req.candidates with
  | .error e => return .error e
  | .ok scores =>
    let execution := chooseExecution req.mode (A.rank scores req.budgetCredits req.mode)
    let event ← Endpoint.appendAudit "best_execution" (executionPayload H req execution)
    return event.map fun event =>
      { execution := execution
        result := put (PyStr.ofString "audit_receipt") (pyText event.hash) (execution.result H)
        auditReceipt := event.hash }

end Routing

/-! Snapshots. -/

section Snapshots

variable (A : Arithmetic)

def snapshotVerdict (rep protocolRep : BayesianReputation) : Verdict × String :=
  if rep.observations = 0 then
    if protocolRep.observations = 0 then (.unproven, "RUN_CANARY")
    else if protocolRep.failures > protocolRep.successes then (.avoid, "SKIP")
    else (.trySmall, "BUY_SMALL_THEN_VERIFY")
  else if A.score100 rep ≥ 75 ∧ A.confidence rep ≥ 0.5 then (.buy, "BUY")
  else if A.score100 rep ≥ 55 then (.caution, "BUY_SMALL_THEN_VERIFY")
  else (.avoid, "SKIP")

def snapshotPayload (H : Host) (req : TrustSnapshotRequest) (rep protocolRep : BayesianReputation) :
    PyDict :=
  dict
    [("service_id", pyText req.serviceId),
      ("task_type", pyText req.taskType),
      ("score", pyFloat H (A.score100 rep)),
      ("conservative_score", pyFloat H (A.conservativeScore100 rep)),
      ("confidence", pyFloat H (A.confidence rep)),
      ("observations", pyInt rep.observations),
      ("protocol_observations", pyInt protocolRep.observations),
      ("evidence_tier", pyText (snapshotTier rep protocolRep).text),
      ("verdict", pyText (A.snapshotVerdict rep protocolRep).1.text),
      ("action", pyText (A.snapshotVerdict rep protocolRep).2)]

def trustSnapshot (H : Host) (req : TrustSnapshotRequest) :
    Endpoint (Except StoreError TrustSnapshotResponse) := do
  let (rep, medianLatency) ← Endpoint.reputation req.serviceId req.taskType
  let (protocolRep, protocolLatency) ← Endpoint.protocolReputation req.serviceId
  let (verdict, action) := A.snapshotVerdict rep protocolRep
  let event ← Endpoint.appendAudit "trust_snapshot" (A.snapshotPayload H req rep protocolRep)
  return event.map fun event =>
    { serviceId := req.serviceId
      taskType := req.taskType
      trustScore := A.score100 rep
      conservativeScore := A.conservativeScore100 rep
      confidence := A.roundTo 4 (A.confidence rep)
      observations := rep.observations
      verdict := verdict
      action := action
      evidenceTier := snapshotTier rep protocolRep
      evidence := (rep, medianLatency)
      protocolEvidence := (protocolRep, protocolLatency)
      auditReceipt := event.hash }

end Snapshots

/-! Bounds. -/

section Bounds

variable (A : Arithmetic) {mode : Mode} {budget : ℕ} {c : CandidateScore}

/-- Half of what a score is off its middle is no more off the middle. -/
theorem halfway_bounds {x : ℚ} (h0 : 0 ≤ x) (h100 : x ≤ 100) :
    0 ≤ A.fl (50 + A.fl (0.5 * A.fl (x - 50))) ∧ A.fl (50 + A.fl (0.5 * A.fl (x - 50))) ≤ 100 := by
  have hlow : -50 ≤ A.fl (x - 50) := by
    exact_mod_cast A.intCast_le_fl (n := -50) (by decide) (by push_cast; linarith)
  have hhigh : A.fl (x - 50) ≤ 50 := by
    exact_mod_cast A.fl_le_intCast (n := 50) (by decide) (by push_cast; linarith)
  have hlow' : -50 ≤ A.fl (0.5 * A.fl (x - 50)) := by
    exact_mod_cast A.intCast_le_fl (n := -50) (by decide) (by push_cast; linarith)
  have hhigh' : A.fl (0.5 * A.fl (x - 50)) ≤ 50 := by
    exact_mod_cast A.fl_le_intCast (n := 50) (by decide) (by push_cast; linarith)
  constructor
  · exact A.fl_nonneg (by linarith)
  · exact_mod_cast A.fl_le_intCast (n := 100) (x := 50 + A.fl (0.5 * A.fl (x - 50))) (by decide)
      (by push_cast; linarith)

theorem assess_trust (mode : Mode) (rep protocolRep : BayesianReputation) :
    0 ≤ (A.assess mode rep protocolRep).1 ∧ (A.assess mode rep protocolRep).1 ≤ 100 := by
  by_cases hrep : rep.observations > 0
  · simp only [assess, if_pos hrep]
    cases mode with
    | safe => exact ⟨A.conservativeScore100_nonneg rep, A.conservativeScore100_le rep⟩
    | explore => exact A.score100_bounds
  · by_cases hcanary : protocolRep.observations > 0
    · simp only [assess, if_neg hrep, if_pos hcanary]
      exact A.halfway_bounds A.score100_bounds.1 A.score100_bounds.2
    · simp only [assess, if_neg hrep, if_neg hcanary]
      constructor <;> norm_num

theorem assess_confidence (mode : Mode) (rep protocolRep : BayesianReputation) :
    0 ≤ (A.assess mode rep protocolRep).2.1 ∧ (A.assess mode rep protocolRep).2.1 ≤ 1 := by
  by_cases hrep : rep.observations > 0
  · simp only [assess, if_pos hrep]
    exact ⟨A.confidence_nonneg, A.confidence_le_one⟩
  · by_cases hcanary : protocolRep.observations > 0
    · have hbase := A.fl_nonneg (x := 0.2) (by norm_num)
      have hshare := A.fl_nonneg (x := 0.5 * A.confidence protocolRep)
        (mul_nonneg (by norm_num) A.confidence_nonneg)
      simp only [assess, if_neg hrep, if_pos hcanary]
      exact ⟨le_min (by norm_num) (A.fl_nonneg (add_nonneg hbase hshare)),
        (min_le_left _ _).trans (by norm_num)⟩
    · simp only [assess, if_neg hrep, if_neg hcanary]
      constructor <;> norm_num

/-- Two penalties are taken off what is not negative, neither of them above one. -/
theorem utility_ge (hprice : c.priceCredits ≤ budget) (htrust : 0 ≤ c.trustScore)
    (hconfidence : 0 ≤ c.confidence) (hfit : 0 ≤ c.taskFit) : -2 ≤ A.utility c budget mode := by
  have hweight {w : ℚ} (h0 : 0 ≤ w) (h1 : w ≤ 1) {x : ℚ} (hx : x ≤ 1) : A.fl (A.fl w * x) ≤ 1 := by
    refine A.fl_le_one ?_
    calc A.fl w * x ≤ A.fl w * 1 := mul_le_mul_of_nonneg_left hx (A.fl_nonneg h0)
      _ ≤ 1 := by rw [mul_one]; exact A.fl_le_one h1
  have hpart {w : ℚ} (h0 : 0 ≤ w) {x : ℚ} (hx : 0 ≤ x) : 0 ≤ A.fl (A.fl w * x) :=
    A.fl_nonneg (mul_nonneg (A.fl_nonneg h0) hx)
  have htrustPart := hpart (w := 0.42) (by norm_num)
    (A.fl_nonneg (x := c.trustScore / 100) (by linarith))
  have hfitPart := A.fl_nonneg (x := 0.25 * c.taskFit) (by linarith)
  have hpricePart := hpart (w := 0.18) (by norm_num)
    (le_max_left 0 (A.fl (1 - A.fl (c.priceCredits / (max budget 1 : ℕ)))))
  have hconfidencePart := hpart (w := 0.15) (by norm_num) hconfidence
  have hlatency := hweight (w := 0.10) (by norm_num) (by norm_num)
    (min_le_left 1 (A.fl (c.latencyMs / 300000)))
  have huncertainty := hweight (w := mode.uncertaintyWeight)
    (by cases mode <;> norm_num [Mode.uncertaintyWeight])
    (by cases mode <;> norm_num [Mode.uncertaintyWeight])
    (A.fl_le_one (x := 1 - c.confidence) (by linarith))
  have hsum := A.fl_nonneg (add_nonneg
    (A.fl_nonneg (add_nonneg (A.fl_nonneg (add_nonneg htrustPart hfitPart)) hpricePart))
    hconfidencePart)
  have hslow := A.pred_le_fl_sub (n := 0) (by decide) (by exact_mod_cast hsum) hlatency
  have hunsure := A.pred_le_fl_sub (n := -1) (by decide) hslow huncertainty
  rw [utility, if_neg (not_lt.2 hprice)]
  refine le_trans ?_ hunsure
  norm_num

end Bounds

/-! Runs of the endpoints. -/

section Runs

variable (A : Arithmetic) {H : Host} {faults : Faults} {st st' : Store}

/-- How `best_execution` scores a candidate in a state of the database. -/
def score (db : Db) (mode : Mode) (taskType : String) (candidate : CandidateRequest) :
    CandidateScore :=
  A.candidateScore mode candidate (reputation db candidate.serviceId taskType)
    (protocolReputation db candidate.serviceId)

/-- What `best_execution` decides in a state of the database. -/
def decide (db : Db) (req : BestExecutionRequest) : Execution :=
  chooseExecution req.mode
    (A.rank (req.candidates.map (A.score db req.mode req.taskType)) req.budgetCredits req.mode)

/-- What `trust_snapshot` says of a seller in a state of the database. -/
def verdict (db : Db) (s taskType : String) : Verdict :=
  (A.snapshotVerdict (reputation db s taskType).1 (protocolReputation db s).1).1

theorem scoreCandidates_run (H : Host) (faults : Faults) (st : Store) (mode : Mode)
    (taskType : String) (candidates : List CandidateRequest) :
    (A.scoreCandidates mode taskType candidates).run H faults st =
      (if ∀ c ∈ candidates, (A.score st.db mode taskType c).Valid then
        .ok (candidates.map (A.score st.db mode taskType)) else .error .valueError, st) := by
  induction candidates with
  | nil => rfl
  | cons candidate rest ih =>
    have hcons := List.forall_mem_cons (p := fun c => (A.score st.db mode taskType c).Valid)
      (a := candidate) (l := rest)
    rw [scoreCandidates, Endpoint.run_reputation, Endpoint.run_protocolReputation]
    change (if (A.score st.db mode taskType candidate).Valid then _ else _ : Endpoint _).run H faults
      st = _
    by_cases hvalid : (A.score st.db mode taskType candidate).Valid
    · rw [if_pos hvalid, Endpoint.run_bind, ih]
      by_cases hrest : ∀ c ∈ rest, (A.score st.db mode taskType c).Valid
      · rw [if_pos hrest, if_pos (hcons.2 ⟨hvalid, hrest⟩)]
        rfl
      · rw [if_neg hrest, if_neg fun hall => hrest (hcons.1 hall).2]
        rfl
    · rw [if_neg hvalid, if_neg fun hall => hvalid (hcons.1 hall).1]
      rfl

/-- What `best_execution` answers with is decided by the state it started in. -/
theorem bestExecution_ok {req : BestExecutionRequest} {response : BestExecutionResponse}
    (h : (A.bestExecution H req).run H faults st = (.ok response, st')) :
    response.execution = A.decide st.db req ∧
    response.result = put (PyStr.ofString "audit_receipt") (pyText response.auditReceipt)
      (response.execution.result H) := by
  rw [bestExecution, Endpoint.run_bind, scoreCandidates_run] at h
  by_cases hvalid : ∀ c ∈ req.candidates, (A.score st.db req.mode req.taskType c).Valid
  · rw [if_pos hvalid] at h
    obtain ⟨event, -, rfl⟩ := Except.map_eq_ok (Prod.mk.inj h).1
    exact ⟨rfl, rfl⟩
  · rw [if_neg hvalid] at h
    cases h

theorem bestExecution_returns {req : BestExecutionRequest} (hcommits : Commits H faults st)
    (hvalid : ∀ c ∈ req.candidates, (A.score st.db req.mode req.taskType c).Valid) :
    ∃ response st', (A.bestExecution H req).run H faults st = (.ok response, st') := by
  obtain ⟨event, st', happend⟩ := hcommits.appendAudit "best_execution"
    (executionPayload H req (A.decide st.db req))
  rw [decide] at happend
  rw [bestExecution, Endpoint.run_bind, scoreCandidates_run, if_pos hvalid]
  dsimp only
  rw [Endpoint.run_appendAudit, happend]
  exact ⟨_, _, rfl⟩

theorem trustSnapshot_verdict {req : TrustSnapshotRequest} {response : TrustSnapshotResponse}
    (h : (A.trustSnapshot H req).run H faults st = (.ok response, st')) :
    response.verdict = A.verdict st.db req.serviceId req.taskType := by
  obtain ⟨hresponse, -⟩ := Prod.mk.inj h
  obtain ⟨event, -, rfl⟩ := Except.map_eq_ok hresponse
  rfl

theorem trustSnapshot_returns (hcommits : Commits H faults st) (req : TrustSnapshotRequest) :
    ∃ response st', (A.trustSnapshot H req).run H faults st = (.ok response, st') := by
  obtain ⟨event, st', happend⟩ := hcommits.appendAudit "trust_snapshot" (A.snapshotPayload H req
    (reputation st.db req.serviceId req.taskType).1 (protocolReputation st.db req.serviceId).1)
  rw [trustSnapshot, Endpoint.run_reputation, Endpoint.run_protocolReputation,
    Endpoint.run_appendAudit, happend]
  exact ⟨_, _, rfl⟩

theorem score_valid_iff {db : Db} {mode : Mode} {taskType : String} {candidate : CandidateRequest} :
    (A.score db mode taskType candidate).Valid ↔
      0 ≤ (A.score db mode taskType candidate).latencyMs := by
  have htrust := A.assess_trust mode (reputation db candidate.serviceId taskType).1
    (protocolReputation db candidate.serviceId).1
  have hconfidence := A.assess_confidence mode (reputation db candidate.serviceId taskType).1
    (protocolReputation db candidate.serviceId).1
  constructor
  · exact fun h => h.2.2.2.2.2.2
  · exact fun h => ⟨htrust.1, htrust.2, hconfidence.1, hconfidence.2, candidate.taskFit_nonneg,
      candidate.taskFit_le, h⟩

/-- Affordable scores are the ones kept as viable. -/
theorem viable_iff {db : Db} {mode : Mode} {taskType : String} {candidate : CandidateRequest}
    {budget : ℕ} : A.utility (A.score db mode taskType candidate) budget mode > -1e8 ↔
      candidate.priceCredits ≤ budget := by
  constructor
  · intro h
    by_contra hprice
    have hover : (A.score db mode taskType candidate).priceCredits > budget := not_le.1 hprice
    rw [utility, if_pos hover] at h
    norm_num at h
  · intro hprice
    have h : -2 ≤ A.utility (A.score db mode taskType candidate) budget mode :=
      A.utility_ge hprice (A.assess_trust mode _ _).1 (A.assess_confidence mode _ _).1
        candidate.taskFit_nonneg
    exact lt_of_lt_of_le (by norm_num) h

/-- The tier goes by the tallies alone. -/
theorem score_evidenceTier (db : Db) (mode : Mode) (taskType : String)
    (candidate : CandidateRequest) : (A.score db mode taskType candidate).evidenceTier =
      (db.score mode taskType candidate).evidenceTier := by
  simp only [score, candidateScore, assess, Db.score, Counterparty.candidateScore,
    Counterparty.assess]
  split_ifs <;> rfl

theorem snapshotVerdict_avoid_iff {rep protocolRep : BayesianReputation} :
    (A.snapshotVerdict rep protocolRep).1 = .avoid ↔
      if rep.observations = 0 then protocolRep.successes < protocolRep.failures
      else A.score100 rep < 55 := thresholds_avoid_iff _ _

end Runs

/-! Without rounding. -/

section Rational

theorem rational_score100 : rational.score100 = BayesianReputation.score100 := by
  funext r
  have hhalf : rational.adjusted r (rational.mean r) = BetaEstimate.shrink r.confidence r.mean := by
    rw [BetaEstimate.shrink, show (1 / 2 : ℚ) = 0.5 by norm_num]
    rfl
  rw [Roundoff.score100, hhalf]
  rfl

theorem rational_assess : rational.assess = Counterparty.assess := by
  funext mode rep protocolRep
  simp only [assess, Counterparty.assess, rational_score100]
  rfl

theorem rational_candidateScore : rational.candidateScore = Counterparty.candidateScore := by
  funext mode candidate delivery protocol
  rw [candidateScore, Counterparty.candidateScore, rational_assess]

theorem rational_scoreCandidates (mode : Mode) (taskType : String)
    (candidates : List CandidateRequest) :
    rational.scoreCandidates mode taskType candidates =
      Counterparty.scoreCandidates mode taskType candidates := by
  induction candidates with
  | nil => rfl
  | cons candidate rest ih =>
    rw [scoreCandidates, Counterparty.scoreCandidates, ih, rational_candidateScore]

/-- The model computes in the rational arithmetic. -/
theorem rational_bestExecution (H : Host) (req : BestExecutionRequest) :
    rational.bestExecution H req = Counterparty.bestExecution H req := by
  rw [bestExecution, Counterparty.bestExecution, rational_scoreCandidates]
  rfl

theorem rational_trustSnapshot (H : Host) (req : TrustSnapshotRequest) :
    rational.trustSnapshot H req = Counterparty.trustSnapshot H req := by
  have hverdict : rational.snapshotVerdict = Counterparty.snapshotVerdict := by
    funext rep protocolRep
    rw [snapshotVerdict, Counterparty.snapshotVerdict, rational_score100]
    rfl
  have hpayload : rational.snapshotPayload = Counterparty.snapshotPayload := by
    funext H req rep protocolRep
    rw [snapshotPayload, Counterparty.snapshotPayload, hverdict, rational_score100]
    rfl
  rw [trustSnapshot, Counterparty.trustSnapshot, hverdict, hpayload, rational_score100]
  rfl

theorem rational_score (db : Db) : rational.score db = db.score := by
  funext mode taskType candidate
  rw [score, Db.score, rational_candidateScore]

end Rational

end Arithmetic

/-! Runs of the model. -/

variable {H : Host} {faults : Faults} {st st' : Store} {req : BestExecutionRequest}

theorem scoreCandidates_run (H : Host) (faults : Faults) (st : Store) (mode : Mode)
    (taskType : String) (candidates : List CandidateRequest) :
    (scoreCandidates mode taskType candidates).run H faults st =
      (if ∀ c ∈ candidates, (st.db.score mode taskType c).Valid then
        .ok (candidates.map (st.db.score mode taskType)) else .error .valueError, st) := by
  rw [← Arithmetic.rational_scoreCandidates, Arithmetic.scoreCandidates_run,
    Arithmetic.rational_score]

theorem bestExecution_ok {response : BestExecutionResponse}
    (h : (bestExecution H req).run H faults st = (.ok response, st')) :
    response.execution = Arithmetic.rational.decide st.db req := by
  rw [← Arithmetic.rational_bestExecution] at h
  exact (Arithmetic.rational.bestExecution_ok h).1

theorem bestExecution_returns (hcommits : Commits H faults st)
    (hvalid : ∀ c ∈ req.candidates, (st.db.score req.mode req.taskType c).Valid) :
    ∃ response st', (bestExecution H req).run H faults st = (.ok response, st') := by
  rw [← Arithmetic.rational_bestExecution]
  apply Arithmetic.rational.bestExecution_returns hcommits
  rw [Arithmetic.rational_score]
  exact hvalid

theorem trustSnapshot_commits (hcommits : Commits H faults st) (req : TrustSnapshotRequest) :
    ∃ response st', (trustSnapshot H req).run H faults st = (.ok response, st') := by
  rw [← Arithmetic.rational_trustSnapshot]
  exact Arithmetic.rational.trustSnapshot_returns hcommits req

end Counterparty
