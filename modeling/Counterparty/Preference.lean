import Counterparty.Agreement

/-! What evidence is worth to a seller: the utility of a candidate as its evidence changes. -/
namespace Counterparty

open BayesianReputation

variable {db : Db} {mode : Mode} {taskType : String} {rep protocolRep : BayesianReputation}
  {candidate : CandidateRequest} {budget : ℕ}

/-- What trust and confidence of `b` are worth over those of `a`. -/
def gain (mode : Mode) (a b : ℚ × ℚ × EvidenceTier) : ℚ :=
  0.42 * (b.1 - a.1) / 100 + (0.15 + mode.uncertaintyWeight) * (b.2.1 - a.2.1)

/-- Candidates that differ in their evidence alone differ in utility by what it is worth. -/
theorem utility_le_iff {c c' : CandidateScore} (hprice : c.priceCredits = c'.priceCredits)
    (hbudget : c.priceCredits ≤ budget) (hfit : c.taskFit = c'.taskFit)
    (hlatency : c.latencyMs = c'.latencyMs) :
    utility c budget mode ≤ utility c' budget mode ↔
      0 ≤ gain mode (c.trustScore, c.confidence, c.evidenceTier)
        (c'.trustScore, c'.confidence, c'.evidenceTier) := by
  rw [utility, utility, if_neg (not_lt.2 hbudget), if_neg (not_lt.2 (hprice ▸ hbudget)), hprice,
    hfit, hlatency, gain]
  constructor <;> intro h <;> dsimp only at h ⊢ <;> linarith

/-- The same request scored in two states. -/
theorem utility_score_le_iff {db' : Db} (hprice : candidate.priceCredits ≤ budget)
    (hlatency : candidate.latencyMs.isSome) :
    utility (db.score mode taskType candidate) budget mode ≤
        utility (db'.score mode taskType candidate) budget mode ↔
      0 ≤ gain mode
        (assess mode (reputation db candidate.serviceId taskType).1
          (protocolReputation db candidate.serviceId).1)
        (assess mode (reputation db' candidate.serviceId taskType).1
          (protocolReputation db' candidate.serviceId).1) := by
  obtain ⟨latency, hlatency⟩ := Option.isSome_iff_exists.1 hlatency
  apply utility_le_iff
  · rfl
  · exact hprice
  · rfl
  · simp [Db.score, candidateScore, candidateLatency, hlatency]

/-! A passing canary. -/

theorem gain_nonneg {a b : ℚ × ℚ × EvidenceTier} (htrust : a.1 ≤ b.1)
    (hconfidence : a.2.1 ≤ b.2.1) : 0 ≤ gain mode a b := by
  have hweight := uncertaintyWeight_ge mode
  have hcredit := mul_nonneg (by linarith : 0 ≤ 0.15 + mode.uncertaintyWeight)
    (sub_nonneg.2 hconfidence)
  rw [gain]
  linarith

theorem gain_canary (mode : Mode) (rep protocolRep : BayesianReputation) :
    0 ≤ gain mode (assess mode rep protocolRep) (assess mode rep (protocolRep.record "PASS")) := by
  obtain ⟨s, f⟩ := protocolRep
  have hafter : (⟨s + 1, f⟩ : BayesianReputation).observations > 0 := by
    simp only [observations]
    omega
  have hscore := score100_success_le s f
  have hconfidence : confidence ⟨s, f⟩ ≤ confidence ⟨s + 1, f⟩ :=
    confidence_mono (by simp only [observations]; omega)
  rw [record_pass]
  by_cases hrep : rep.observations > 0
  · -- deliveries decide, canaries do not count
    simp only [assess, if_pos hrep]
    exact gain_nonneg le_rfl le_rfl
  · by_cases hcanary : (⟨s, f⟩ : BayesianReputation).observations > 0
    · simp only [assess, if_neg hrep, if_pos hcanary, if_pos hafter]
      refine gain_nonneg ?_ ?_
      · dsimp only
        linarith
      · exact min_le_min_left _ (by linarith)
    · obtain ⟨rfl, rfl⟩ : s = 0 ∧ f = 0 := by
        simp only [observations] at hcanary
        omega
      have hfirst : (50 : ℚ) ≤ score100 ⟨0 + 1, 0⟩ := by decide +kernel
      have hheld := confidence_nonneg ⟨0 + 1, 0⟩
      simp only [assess, if_neg hrep, if_neg hcanary, if_pos hafter]
      refine gain_nonneg ?_ ?_
      · dsimp only
        linarith
      · exact le_min (by norm_num) (by linarith)

/-! A passing delivery. -/

/-- Deliveries on record: one more that passed is worth something in either mode. -/
theorem gain_delivery (mode : Mode) (h : rep.observations > 0) :
    0 ≤ gain mode (assess mode rep protocolRep) (assess mode (rep.record "PASS") protocolRep) := by
  obtain ⟨s, f⟩ := rep
  have hafter : (⟨s + 1, f⟩ : BayesianReputation).observations > 0 := by
    simp only [observations]
    omega
  have hconfidence : confidence ⟨s, f⟩ ≤ confidence ⟨s + 1, f⟩ :=
    confidence_mono (by simp only [observations]; omega)
  rw [record_pass]
  simp only [assess, if_pos h, if_pos hafter]
  cases mode with
  | safe =>
    have hscore := conservativeScore100_success s f
    simp only [gain, Mode.uncertaintyWeight]
    linarith
  | explore => exact gain_nonneg (score100_success_le s f) hconfidence

theorem confidence_one : confidence ⟨1, 0⟩ = 1 / 9 := by decide +kernel

theorem score100_one : score100 ⟨1, 0⟩ = 51.11 := by decide +kernel

/-- The first delivery of a seller without any evidence. -/
theorem gain_first_unproven (mode : Mode) (h : rep.observations = 0)
    (hprotocol : protocolRep.observations = 0) :
    0 ≤ gain mode (assess mode rep protocolRep) (assess mode ⟨1, 0⟩ protocolRep) := by
  have hrep : ¬rep.observations > 0 := by omega
  have hcanary : ¬protocolRep.observations > 0 := by omega
  have hone : (⟨1, 0⟩ : BayesianReputation).observations > 0 := by decide
  simp only [assess, if_neg hrep, if_neg hcanary, if_pos hone, gain]
  rw [confidence_one]
  cases mode with
  | safe =>
    have hlow := conservativeScore100_ge ⟨1, 0⟩
    rw [confidence_one] at hlow
    norm_num [Mode.uncertaintyWeight] at hlow ⊢
    linarith
  | explore =>
    rw [score100_one]
    norm_num [Mode.uncertaintyWeight]

/-- The first delivery of a seller with canaries gives up the confidence that canaries are held
with, which only the worst of canary scores makes up for, and only in explore mode. -/
theorem gain_first_canary_iff (mode : Mode) (h : rep.observations = 0)
    (hprotocol : protocolRep.observations > 0) :
    0 ≤ gain mode (assess mode rep protocolRep) (assess mode ⟨1, 0⟩ protocolRep) ↔
      mode = .explore ∧ protocolRep.score100 ≤ 2.22 := by
  have hrep : ¬rep.observations > 0 := by omega
  have hone : (⟨1, 0⟩ : BayesianReputation).observations > 0 := by decide
  have hscore := protocolRep.le_score100
  have hlow : 1 / 9 ≤ protocolRep.confidence := confidence_one ▸ confidence_mono hprotocol
  have hhigh := protocolRep.confidence_le
  simp only [assess, if_neg hrep, if_pos hprotocol, if_pos hone, gain]
  rw [confidence_one]
  cases mode with
  | safe =>
    have htrust := conservativeScore100_le_score100 ⟨1, 0⟩
    rw [score100_one] at htrust
    simp only [Mode.uncertaintyWeight, reduceCtorEq, false_and, iff_false, not_le]
    rcases le_total (0.5 : ℚ) (0.2 + 0.5 * protocolRep.confidence) with hcap | hcap
    · rw [min_eq_left hcap]
      linarith
    · rw [min_eq_right hcap]
      linarith
  | explore =>
    rw [score100_one]
    simp only [Mode.uncertaintyWeight, true_and]
    rcases le_total (0.5 : ℚ) (0.2 + 0.5 * protocolRep.confidence) with hcap | hcap
    · rw [min_eq_left hcap]
      constructor <;> intro hle <;> linarith
    · rw [min_eq_right hcap]
      constructor <;> intro hle <;> linarith

/-- A seller whose deliveries, or whose lack of canaries, let a first delivery that passed count for
it; in explore mode the worst of canary scores let it too. -/
def SuccessCounts (mode : Mode) (rep protocolRep : BayesianReputation) : Prop :=
  rep.observations ≠ 0 ∨ protocolRep.observations = 0 ∨
    mode = .explore ∧ protocolRep.score100 ≤ 2.22

theorem gain_delivery_iff (mode : Mode) (rep protocolRep : BayesianReputation) :
    0 ≤ gain mode (assess mode rep protocolRep) (assess mode (rep.record "PASS") protocolRep) ↔
      SuccessCounts mode rep protocolRep := by
  by_cases hrep : rep.observations = 0
  · have hfirst : rep.record "PASS" = ⟨1, 0⟩ := by
      simp only [observations, Nat.add_eq_zero_iff] at hrep
      simp [record_pass, hrep]
    rw [hfirst]
    by_cases hprotocol : protocolRep.observations = 0
    · exact iff_of_true (gain_first_unproven mode hrep hprotocol) (.inr (.inl hprotocol))
    · rw [gain_first_canary_iff mode hrep (Nat.pos_of_ne_zero hprotocol)]
      simp [SuccessCounts, hrep, hprotocol]
  · exact iff_of_true (gain_delivery mode (Nat.pos_of_ne_zero hrep)) (.inl hrep)

/-- A passing canary never lowers the utility of a seller, and a counted delivery that passed lowers
it exactly when it is the first of a seller that canaries speak for. -/
theorem utility_success_iff (hprice : candidate.priceCredits ≤ budget)
    (hlatency : candidate.latencyMs.isSome) (mode : Mode) (taskType : String) :
    (∀ (r : ProtocolObservation) (protocolObservations : Table ProtocolObservation.Clash),
      db.protocolObservations.insert r = some protocolObservations →
      r.serviceId = candidate.serviceId → r.outcome = "PASS" →
      utility (db.score mode taskType candidate) budget mode ≤
        utility (Db.score { db with protocolObservations } mode taskType candidate) budget mode) ∧
    ∀ (r : Observation) (observations : Table Observation.Clash),
      db.observations.insert r = some observations →
      r.CountsFor candidate.serviceId taskType → r.outcome = "PASS" →
      (utility (db.score mode taskType candidate) budget mode ≤
          utility (Db.score { db with observations } mode taskType candidate) budget mode ↔
        SuccessCounts mode (reputation db candidate.serviceId taskType).1
          (protocolReputation db candidate.serviceId).1) := by
  constructor
  · intro r protocolObservations hinsert hservice hpass
    have hrep := protocolReputation_record hinsert hservice
    have hdelivery : reputation { db with protocolObservations } candidate.serviceId taskType =
        reputation db candidate.serviceId taskType := rfl
    rw [hpass] at hrep
    rw [utility_score_le_iff hprice hlatency, hdelivery, hrep]
    exact gain_canary mode _ _
  · intro r observations hinsert hcounts hpass
    have hrep := reputation_record hinsert hcounts
    have hprotocol : protocolReputation { db with observations } candidate.serviceId =
        protocolReputation db candidate.serviceId := rfl
    rw [hpass] at hrep
    rw [utility_score_le_iff hprice hlatency, hprotocol, hrep]
    exact gain_delivery_iff mode _ _

def passedDelivery : Observation :=
  ⟨"id", "delivery", "seller", "general", "PASS", none, "evidence", 0⟩

def passedCanary : ProtocolObservation := ⟨"id", "probe", "seller", "PASS", 1000, "evidence", 0⟩

def Db.passedCanary : Db :=
  { Store.empty.db with
    protocolObservations := ⟨[Counterparty.passedCanary], List.pairwise_singleton _ _⟩ }

theorem utility_success_newcomer :
    utility (Store.empty.db.score .safe "general" newcomer) 100 .safe ≤
        utility (Db.passedCanary.score .safe "general" newcomer) 100 .safe ∧
      ∀ observations, Store.empty.db.observations.insert passedDelivery = some observations →
        utility (Store.empty.db.score .safe "general" newcomer) 100 .safe ≤
          utility (Db.score { Store.empty.db with observations } .safe "general" newcomer) 100 .safe :=
  have h := utility_success_iff (by decide : newcomer.priceCredits ≤ 100) rfl .safe "general"
  ⟨h.1 passedCanary _ rfl rfl rfl,
    fun _ hinsert => (h.2 passedDelivery _ hinsert (by decide) rfl).2 (.inr (.inl rfl))⟩

/-- A seller with one passing canary loses utility by its first delivery, which passed. -/
theorem success_lowers_utility : ∃ observations,
    Db.passedCanary.observations.insert passedDelivery = some observations ∧
      passedDelivery.CountsFor "seller" "general" ∧ passedDelivery.outcome = "PASS" ∧
      utility (Db.score { Db.passedCanary with observations } .explore "general" newcomer) 100
          .explore <
        utility (Db.passedCanary.score .explore "general" newcomer) 100 .explore :=
  ⟨_, rfl, by decide, rfl, by decide +kernel⟩

/-! As many passed deliveries as passed canaries. -/

/-- How many passes it takes until deliveries are preferred to as many canaries. -/
def Mode.passesNeeded : Mode → ℕ
  | .safe => 7
  | .explore => 4

variable {n : ℕ}

theorem assess_deliveries (mode : Mode) (protocolRep : BayesianReputation) (hn : 1 ≤ n) :
    assess mode ⟨n, 0⟩ protocolRep =
      (match mode with
        | .safe => conservativeScore100 ⟨n, 0⟩
        | .explore => score100 ⟨n, 0⟩, confidence ⟨n, 0⟩, .verified) := by
  have hsome : (⟨n, 0⟩ : BayesianReputation).observations > 0 := hn
  cases mode <;> simp only [assess, if_pos hsome]

theorem assess_canaries (mode : Mode) (h : rep.observations = 0) (hn : 1 ≤ n) :
    assess mode rep ⟨n, 0⟩ =
      (50 + 0.5 * (score100 ⟨n, 0⟩ - 50), min 0.5 (0.2 + 0.5 * confidence ⟨n, 0⟩),
        .provisional) := by
  have hnone : ¬rep.observations > 0 := by omega
  have hsome : (⟨n, 0⟩ : BayesianReputation).observations > 0 := hn
  simp only [assess, if_neg hnone, if_pos hsome, if_neg (by omega : ¬0 > n)]

theorem score100_passes_mono {m : ℕ} (h : m ≤ n) : score100 ⟨m, 0⟩ ≤ score100 ⟨n, 0⟩ := by
  obtain ⟨k, rfl⟩ := Nat.exists_eq_add_of_le h
  exact score100_success_mono m 0 k

theorem confidence_passes_mono {m : ℕ} (h : m ≤ n) : confidence ⟨m, 0⟩ ≤ confidence ⟨n, 0⟩ :=
  confidence_mono h

theorem gain_passes_explore (h : rep.observations = 0) (hn : 1 ≤ n) :
    0 ≤ gain .explore (assess .explore rep ⟨n, 0⟩) (assess .explore ⟨n, 0⟩ protocolRep) ↔ 4 ≤ n := by
  rw [assess_canaries .explore h hn, assess_deliveries .explore protocolRep hn, gain]
  simp only [Mode.uncertaintyWeight]
  constructor
  · intro hgain
    by_contra hfew
    have hscore := score100_passes_mono (by omega : n ≤ 3)
    have hconfidence := confidence_passes_mono (by omega : n ≤ 3)
    rw [show score100 ⟨3, 0⟩ = 55.84 by decide +kernel] at hscore
    rw [show confidence ⟨3, 0⟩ = 3 / 11 by decide +kernel] at hconfidence
    rw [min_eq_right (by linarith)] at hgain
    linarith
  · intro hmany
    have hscore := score100_passes_mono hmany
    have hconfidence := confidence_passes_mono hmany
    have hheld := min_le_right (0.5 : ℚ) (0.2 + 0.5 * confidence ⟨n, 0⟩)
    rw [show score100 ⟨4, 0⟩ = 58.33 by decide +kernel] at hscore
    rw [show confidence ⟨4, 0⟩ = 1 / 3 by decide +kernel] at hconfidence
    linarith

theorem mean_passes (n : ℕ) : mean ⟨n, 0⟩ = (2 + n) / (4 + n) := by
  simp only [mean, BetaEstimate.mean, alphaPrior, betaPrior]
  push_cast
  congr 1
  ring

theorem variance_passes (n : ℕ) :
    variance ⟨n, 0⟩ = (2 + n) * 2 / ((4 + n) * (4 + n) * (5 + n)) := by
  simp only [variance, BetaEstimate.variance, alphaPrior, betaPrior]
  push_cast
  congr 1 <;> ring

theorem lower_passes_le (hn : n ≤ 6) :
    BayesianReputation.lower conservativeZ ⟨n, 0⟩ ≤ mean ⟨n, 0⟩ - 0.1974 := by
  have hvariance : (3 / 25 : ℚ) ^ 2 ≤ variance ⟨n, 0⟩ := by
    rw [variance_passes, le_div_iff₀ (by positivity)]
    interval_cases n <;> norm_num
  have hmean : (1 / 2 : ℚ) ≤ mean ⟨n, 0⟩ := by
    rw [mean_passes, le_div_iff₀ (by positivity)]
    linarith [(by positivity : (0 : ℚ) ≤ n)]
  have hvariance' := (Rat.cast_le (K := ℝ)).2 hvariance
  have hmean' := (Rat.cast_le (K := ℝ)).2 hmean
  push_cast at hvariance' hmean'
  have hroot := Real.le_sqrt_of_sq_le hvariance'
  rw [BayesianReputation.lower, conservativeZ]
  apply max_le <;> linarith

theorem le_lower_passes (hn : 7 ≤ n) :
    mean ⟨n, 0⟩ - 0.1832 ≤ BayesianReputation.lower conservativeZ ⟨n, 0⟩ := by
  have hn' : (7 : ℚ) ≤ n := by exact_mod_cast hn
  have hvariance : variance ⟨n, 0⟩ ≤ (2227 / 20000 : ℚ) ^ 2 := by
    rw [variance_passes, div_le_iff₀ (by positivity)]
    nlinarith [mul_nonneg (sub_nonneg.2 hn') (sub_nonneg.2 hn')]
  have hvariance' := (Rat.cast_le (K := ℝ)).2 hvariance
  push_cast at hvariance'
  have hroot := Real.sqrt_le_iff.2 ⟨by norm_num, hvariance'⟩
  refine le_trans ?_ (le_max_right _ _)
  rw [conservativeZ]
  linarith

/-- Up to six passes, the conservative score of deliveries falls short of what as many canaries count
for. -/
theorem conservative_passes_few (hn : n ≤ 6) :
    conservativeScore100 ⟨n, 0⟩ - (50 + 0.5 * (score100 ⟨n, 0⟩ - 50)) ≤
      0.0075 - 4.74 * confidence ⟨n, 0⟩ := by
  have hmean : mean ⟨n, 0⟩ ≤ 0.8 := by
    have hn' : (n : ℚ) ≤ 6 := by exact_mod_cast hn
    rw [mean_passes, div_le_iff₀ (by positivity)]
    linarith
  have hc := confidence_nonneg ⟨n, 0⟩
  have hconservative : ((conservativeScore100 ⟨n, 0⟩ : ℚ) : ℝ) ≤
      ((BetaEstimate.shrink (confidence ⟨n, 0⟩) (mean ⟨n, 0⟩ - 0.1974) * 100 + 0.005 : ℚ) : ℝ) := by
    have hnear := (conservativeScore100_near ⟨n, 0⟩).2
    have hlower := mul_le_mul_of_nonneg_right (lower_passes_le hn)
      (by exact_mod_cast hc : (0 : ℝ) ≤ confidence ⟨n, 0⟩)
    simp only [BetaEstimate.shrink] at hnear ⊢
    push_cast
    linarith
  have hscore := (score100_near ⟨n, 0⟩).1
  have hle := Rat.cast_le.1 hconservative
  have hhalf := mul_le_mul_of_nonneg_right hmean hc
  simp only [BetaEstimate.shrink] at hscore hle
  linarith

/-- From seven passes on it is at most a fortieth of the confidence short. -/
theorem conservative_passes_many (hn : 7 ≤ n) :
    -(0.0075 + 2.42 * confidence ⟨n, 0⟩) ≤
      conservativeScore100 ⟨n, 0⟩ - (50 + 0.5 * (score100 ⟨n, 0⟩ - 50)) := by
  have hmean : 9 / 11 ≤ mean ⟨n, 0⟩ := by
    have hn' : (7 : ℚ) ≤ n := by exact_mod_cast hn
    rw [mean_passes, le_div_iff₀ (by positivity)]
    linarith
  have hc := confidence_nonneg ⟨n, 0⟩
  have hconservative :
      ((BetaEstimate.shrink (confidence ⟨n, 0⟩) (mean ⟨n, 0⟩ - 0.1832) * 100 - 0.005 : ℚ) : ℝ) ≤
        (conservativeScore100 ⟨n, 0⟩ : ℚ) := by
    have hnear := (conservativeScore100_near ⟨n, 0⟩).1
    have hlower := mul_le_mul_of_nonneg_right (le_lower_passes hn)
      (by exact_mod_cast hc : (0 : ℝ) ≤ confidence ⟨n, 0⟩)
    simp only [BetaEstimate.shrink] at hnear ⊢
    push_cast
    linarith
  have hscore := (score100_near ⟨n, 0⟩).2
  have hle := Rat.cast_le.1 hconservative
  have hhalf := mul_le_mul_of_nonneg_right hmean hc
  simp only [BetaEstimate.shrink] at hscore hle
  linarith

theorem gain_passes_safe (h : rep.observations = 0) (hn : 1 ≤ n) :
    0 ≤ gain .safe (assess .safe rep ⟨n, 0⟩) (assess .safe ⟨n, 0⟩ protocolRep) ↔ 7 ≤ n := by
  rw [assess_canaries .safe h hn, assess_deliveries .safe protocolRep hn, gain]
  simp only [Mode.uncertaintyWeight]
  constructor
  · intro hgain
    by_contra hfew
    have htrust := conservative_passes_few (by omega : n ≤ 6)
    have hconfidence := confidence_passes_mono (by omega : n ≤ 6)
    rw [show confidence ⟨6, 0⟩ = 3 / 7 by decide +kernel] at hconfidence
    rw [min_eq_right (by linarith)] at hgain
    linarith
  · intro hmany
    have htrust := conservative_passes_many hmany
    have hconfidence := confidence_passes_mono hmany
    have hheld := min_le_right (0.5 : ℚ) (0.2 + 0.5 * confidence ⟨n, 0⟩)
    rw [show confidence ⟨7, 0⟩ = 7 / 15 by decide +kernel] at hconfidence
    linarith

/-- Passed deliveries are worth at least as many passed canaries exactly from the count the mode
needs on. -/
theorem verified_preferred_iff {verified provisional : CandidateRequest} (hn : 1 ≤ n)
    (hprice : provisional.priceCredits ≤ budget)
    (hsame : verified.priceCredits = provisional.priceCredits)
    (hfit : verified.taskFit = provisional.taskFit)
    (hlatency : (db.score mode taskType verified).latencyMs =
      (db.score mode taskType provisional).latencyMs)
    (hverified : (reputation db verified.serviceId taskType).1 = ⟨n, 0⟩)
    (hnone : (reputation db provisional.serviceId taskType).1.observations = 0)
    (hprovisional : (protocolReputation db provisional.serviceId).1 = ⟨n, 0⟩) :
    utility (db.score mode taskType provisional) budget mode ≤
        utility (db.score mode taskType verified) budget mode ↔ mode.passesNeeded ≤ n := by
  refine (utility_le_iff hsame.symm hprice hfit.symm hlatency.symm).trans ?_
  simp only [Db.score, candidateScore]
  rw [hverified, hprovisional]
  cases mode with
  | safe => exact gain_passes_safe hnone hn
  | explore => exact gain_passes_explore hnone hn

/-- One seller has passed a delivery, another one a canary. -/
def Db.passedOnce : Db :=
  { Db.passedCanary with
    observations :=
      ⟨[{ passedDelivery with serviceId := "veteran" }], List.pairwise_singleton _ _⟩ }

def veteran : CandidateRequest := { newcomer with serviceId := "veteran" }

theorem veteran_preferred_iff :
    utility (Db.passedOnce.score .explore "general" newcomer) 100 .explore ≤
        utility (Db.passedOnce.score .explore "general" veteran) 100 .explore ↔ 4 ≤ 1 :=
  verified_preferred_iff le_rfl (by decide) rfl rfl rfl (by decide) (by decide) (by decide)

/-- One passed canary makes a seller preferable to one that has passed a delivery. -/
theorem veteran_not_preferred :
    (reputation Db.passedOnce "veteran" "general").1 = ⟨1, 0⟩ ∧
      (reputation Db.passedOnce "seller" "general").1.observations = 0 ∧
      (protocolReputation Db.passedOnce "seller").1 = ⟨1, 0⟩ ∧
      utility (Db.passedOnce.score .explore "general" veteran) 100 .explore <
        utility (Db.passedOnce.score .explore "general" newcomer) 100 .explore :=
  ⟨by decide, by decide, by decide, by decide +kernel⟩

end Counterparty
