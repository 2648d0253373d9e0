import Mathlib.Tactic.NormNum
import Counterparty.Library.BetaEstimate
import Counterparty.Library.Rounding

/-! Server-owned reputation: a Beta posterior shrunk toward neutral while evidence is sparse. -/
namespace Counterparty

open Rounding

/-- The tallies of one seller. Both priors keep their default, two pseudo-observations a side. -/
structure BayesianReputation where
  successes : ℕ
  failures : ℕ
deriving DecidableEq, Repr

namespace BayesianReputation

variable {r : BayesianReputation} {s f : ℕ}

def alphaPrior : ℚ := 2

def betaPrior : ℚ := 2

def observations (r : BayesianReputation) : ℕ := r.successes + r.failures

/-- The tallies after one more row with the outcome. -/
def record (r : BayesianReputation) (outcome : String) : BayesianReputation :=
  ⟨r.successes + if outcome = "PASS" then 1 else 0, r.failures + if outcome = "FAIL" then 1 else 0⟩

def mean (r : BayesianReputation) : ℚ :=
  BetaEstimate.mean (alphaPrior + r.successes) (betaPrior + r.failures)

def variance (r : BayesianReputation) : ℚ :=
  BetaEstimate.variance (alphaPrior + r.successes) (betaPrior + r.failures)

/-- Evidence-volume confidence; it never reaches one. -/
def confidence (r : BayesianReputation) : ℚ :=
  min 0.99 (r.observations / (r.observations + 8))

def score100 (r : BayesianReputation) : ℚ :=
  roundDigits 2 (BetaEstimate.shrink r.confidence r.mean * 100)

/-- `max(0.0, mean - z * sqrt(variance))` -/
noncomputable def lower (z : ℝ) (r : BayesianReputation) : ℝ :=
  max 0 (r.mean - z * √(r.variance : ℝ))

/-- The default `z` of `conservative_score_100`. -/
noncomputable def conservativeZ : ℝ := 1.645

noncomputable def conservativeScore100 (r : BayesianReputation) : ℚ :=
  roundDigits 2 (BetaEstimate.shrink (r.confidence : ℝ) (r.lower conservativeZ) * 100)

theorem record_pass (r : BayesianReputation) : r.record "PASS" = ⟨r.successes + 1, r.failures⟩ := rfl

theorem record_fail (r : BayesianReputation) : r.record "FAIL" = ⟨r.successes, r.failures + 1⟩ := rfl

theorem mean_nonneg (r : BayesianReputation) : 0 ≤ r.mean := by
  simp only [mean, BetaEstimate.mean, alphaPrior, betaPrior]
  positivity

theorem lower_eq (z : ℝ) (s f : ℕ) :
    lower z ⟨s, f⟩ = max 0 (BetaEstimate.lowerBound z (2 + s) (2 + f)) := by
  simp [lower, mean, variance, BetaEstimate.lowerBound, BetaEstimate.mean, BetaEstimate.variance,
    alphaPrior, betaPrior]

/-- At `z = 0` the lower bound is the mean, so the public score is the conservative one at zero. -/
theorem lower_zero (r : BayesianReputation) : r.lower 0 = r.mean := by
  have h : (0 : ℝ) ≤ r.mean := by exact_mod_cast r.mean_nonneg
  simp [lower, h]

theorem conservativeZ_nonneg : 0 ≤ conservativeZ := by norm_num [conservativeZ]

theorem confidence_nonneg (r : BayesianReputation) : 0 ≤ r.confidence := by
  simp only [confidence]
  positivity

theorem confidence_le (r : BayesianReputation) : r.confidence ≤ 0.99 := min_le_left _ _

theorem score100_near (r : BayesianReputation) :
    BetaEstimate.shrink r.confidence r.mean * 100 - 0.005 ≤ r.score100 ∧
      r.score100 ≤ BetaEstimate.shrink r.confidence r.mean * 100 + 0.005 := by
  have h := roundDigits_near 2 (BetaEstimate.shrink r.confidence r.mean * 100)
  rw [← score100] at h
  norm_num at h ⊢
  exact h

theorem le_score100 (r : BayesianReputation) : 50 - 50 * r.confidence - 0.005 ≤ r.score100 := by
  have hnear := r.score100_near.1
  have hmean := mul_nonneg r.mean_nonneg r.confidence_nonneg
  simp only [BetaEstimate.shrink] at hnear
  linarith

theorem volume_mono {m n : ℕ} (h : m ≤ n) : (m : ℚ) / (m + 8) ≤ n / (n + 8) := by
  have hc : (m : ℚ) ≤ n := by exact_mod_cast h
  rw [div_le_div_iff₀ (by positivity) (by positivity)]
  linarith

theorem confidence_mono {r' : BayesianReputation} (h : r.observations ≤ r'.observations) :
    r.confidence ≤ r'.confidence := min_le_min_left _ (volume_mono h)

/-- One more observation raises the confidence at most by the factor the uncapped volume grows by. -/
theorem confidence_succ_mul (r r' : BayesianReputation)
    (h : r'.observations = r.observations + 1) :
    r'.confidence * (r.observations * (r.observations + 9)) ≤
      r.confidence * ((r.observations + 1) * (r.observations + 8)) := by
  simp only [confidence, h]
  set n : ℚ := (r.observations : ℚ) with hn
  have h0 : 0 ≤ n := by positivity
  have hgrow : n * (n + 9) ≤ (n + 1) * (n + 8) := by nlinarith
  push_cast
  rcases le_total (0.99 : ℚ) (n / (n + 8)) with hcap | hcap
  · rw [min_eq_left hcap]
    calc min 0.99 ((n + 1) / (n + 1 + 8)) * (n * (n + 9))
        ≤ 0.99 * (n * (n + 9)) := mul_le_mul_of_nonneg_right (min_le_left _ _) (by positivity)
      _ ≤ 0.99 * ((n + 1) * (n + 8)) := mul_le_mul_of_nonneg_left hgrow (by norm_num)
  · rw [min_eq_right hcap]
    calc min 0.99 ((n + 1) / (n + 1 + 8)) * (n * (n + 9))
        ≤ (n + 1) / (n + 1 + 8) * (n * (n + 9)) :=
          mul_le_mul_of_nonneg_right (min_le_right _ _) (by positivity)
      _ = n / (n + 8) * ((n + 1) * (n + 8)) := by
          have h8 : n + 8 ≠ 0 := by positivity
          have h9 : n + 1 + 8 ≠ 0 := by positivity
          field_simp
          ring

theorem lower_nonneg (z : ℝ) (r : BayesianReputation) : 0 ≤ r.lower z := le_max_left _ _

theorem lower_le_mean {z : ℝ} (hz : 0 ≤ z) (r : BayesianReputation) : r.lower z ≤ r.mean := by
  have h : (0 : ℝ) ≤ r.mean := by exact_mod_cast r.mean_nonneg
  exact max_le h (sub_le_self _ (mul_nonneg hz (Real.sqrt_nonneg _)))

theorem lower_failure_le {z : ℝ} (hz : 0 ≤ z) (s f : ℕ) :
    lower z ⟨s, f + 1⟩ ≤ lower z ⟨s, f⟩ := by
  rw [lower_eq, lower_eq]
  push_cast
  rw [← add_assoc]
  exact BetaEstimate.lowerBound_succ_le hz (by positivity) (by positivity)

theorem lower_failure_mul {z : ℝ} (hz : 0 ≤ z) (s f : ℕ) :
    (s + f + 5) * lower z ⟨s, f + 1⟩ ≤ (s + f + 4) * lower z ⟨s, f⟩ := by
  rw [lower_eq, lower_eq]
  push_cast
  rw [← add_assoc]
  have hn : (0 : ℝ) < s + f + 4 := by positivity
  have h := BetaEstimate.lowerBound_succ hz (by positivity : (0 : ℝ) < 2 + s)
    (by positivity : (0 : ℝ) < 2 + f)
  have he : ((2 : ℝ) + s + (2 + f)) = s + f + 4 := by ring
  rw [he, div_mul_eq_mul_div, div_le_iff₀ hn] at h
  rcases le_or_gt (BetaEstimate.lowerBound z (2 + s) (2 + f + 1)) 0 with hl | hl
  · rw [max_eq_left hl, mul_zero]
    exact mul_nonneg hn.le (le_max_left _ _)
  · rw [max_eq_right hl.le]
    calc (s + f + 5) * BetaEstimate.lowerBound z (2 + s) (2 + f + 1)
        ≤ (s + f + 4) * BetaEstimate.lowerBound z (2 + s) (2 + f) := by linarith
      _ ≤ (s + f + 4) * max 0 (BetaEstimate.lowerBound z (2 + s) (2 + f)) :=
          mul_le_mul_of_nonneg_left (le_max_right _ _) hn.le

/-- Above one half, what a failure takes off the estimate outweighs the confidence it adds. -/
theorem loss_covers_credit {n l : ℝ} (hn : 0 ≤ n) (hl : 1 / 2 < l) (hm : l * (n + 5) ≤ n + 2) :
    0 ≤ l * (n ^ 2 + n - 32) + 4 * n + 16 := by
  rcases le_or_gt 32 (n ^ 2 + n) with h32 | h32
  · nlinarith
  · have hup : l * (n + 5) * (32 - n ^ 2 - n) ≤ (n + 2) * (32 - n ^ 2 - n) :=
      mul_le_mul_of_nonneg_right hm (by linarith)
    by_contra hneg
    have hm5 : (l * (n ^ 2 + n - 32) + 4 * n + 16) * (n + 5) < 0 :=
      mul_neg_of_neg_of_pos (by linarith) (by linarith)
    nlinarith [pow_nonneg hn 3, pow_nonneg hn 2]

/-- One more failure never raises the shrunk estimate, of the mean or of any lower bound. -/
theorem shrink_failure_le {z : ℝ} (hz : 0 ≤ z) (s f : ℕ) :
    BetaEstimate.shrink (confidence ⟨s, f + 1⟩ : ℝ) (lower z ⟨s, f + 1⟩) ≤
      BetaEstimate.shrink (confidence ⟨s, f⟩ : ℝ) (lower z ⟨s, f⟩) := by
  have hc0 : (0 : ℝ) ≤ confidence ⟨s, f⟩ := by exact_mod_cast confidence_nonneg _
  have hcc : (confidence ⟨s, f⟩ : ℝ) ≤ confidence ⟨s, f + 1⟩ := by
    exact_mod_cast confidence_mono (by simp [observations])
  rcases le_or_gt (lower z ⟨s, f + 1⟩) (1 / 2) with hh | hh
  · exact BetaEstimate.shrink_le_of_le_half hc0 hcc (lower_failure_le hz s f) hh
  · have hvol : (confidence ⟨s, f + 1⟩ : ℝ) * (((s + f : ℕ) : ℝ) * ((s + f : ℕ) + 9)) ≤
        confidence ⟨s, f⟩ * (((s + f : ℕ) + 1) * ((s + f : ℕ) + 8)) := by
      exact_mod_cast confidence_succ_mul ⟨s, f⟩ ⟨s, f + 1⟩ rfl
    have hm : lower z ⟨s, f + 1⟩ * (s + f + 5) ≤ s + 2 := by
      have h := lower_le_mean hz ⟨s, f + 1⟩
      simp only [mean, BetaEstimate.mean, alphaPrior, betaPrior] at h
      push_cast at h
      rw [le_div_iff₀ (by positivity)] at h
      linarith
    have hmul := lower_failure_mul hz s f
    push_cast at hvol
    set n : ℝ := (s : ℝ) + f
    set c : ℝ := (confidence ⟨s, f⟩ : ℝ)
    set c' : ℝ := (confidence ⟨s, f + 1⟩ : ℝ)
    set l := lower z ⟨s, f⟩
    set l' := lower z ⟨s, f + 1⟩
    have hf : (0 : ℝ) ≤ f := by positivity
    have hn0 : 0 ≤ n := by positivity
    have hn1 : 0 < n := by nlinarith
    have hkey := loss_covers_credit hn0 hh (by linarith)
    have hpos : 0 < n * (n + 9) * (n + 4) := by positivity
    have hgoal : c' * (l' - 1 / 2) ≤ c * (l - 1 / 2) := by
      refine le_of_mul_le_mul_right ?_ hpos
      calc c' * (l' - 1 / 2) * (n * (n + 9) * (n + 4))
          = c' * (n * (n + 9)) * ((l' - 1 / 2) * (n + 4)) := by ring
        _ ≤ c * ((n + 1) * (n + 8)) * ((l' - 1 / 2) * (n + 4)) :=
            mul_le_mul_of_nonneg_right hvol (mul_nonneg (by linarith) (by linarith))
        _ = c * (n * (n + 9) * ((n + 5) * l' - (n + 4) / 2) -
              (l' * (n ^ 2 + n - 32) + 4 * n + 16)) := by ring
        _ ≤ c * (n * (n + 9) * ((n + 4) * l - (n + 4) / 2)) := by
            refine mul_le_mul_of_nonneg_left ?_ hc0
            have := mul_le_mul_of_nonneg_left hmul (by positivity : 0 ≤ n * (n + 9))
            linarith
        _ = c * (l - 1 / 2) * (n * (n + 9) * (n + 4)) := by ring
    simp only [BetaEstimate.shrink]
    linarith

theorem conservativeScore100_failure_le (s f : ℕ) :
    conservativeScore100 ⟨s, f + 1⟩ ≤ conservativeScore100 ⟨s, f⟩ :=
  roundDigits_mono 2 (by linarith [shrink_failure_le conservativeZ_nonneg s f])

theorem adjusted_failure_le (s f : ℕ) :
    BetaEstimate.shrink (confidence ⟨s, f + 1⟩) (mean ⟨s, f + 1⟩) ≤
      BetaEstimate.shrink (confidence ⟨s, f⟩) (mean ⟨s, f⟩) := by
  have h := shrink_failure_le le_rfl s f
  rw [lower_zero, lower_zero, BetaEstimate.shrink_ratCast, BetaEstimate.shrink_ratCast] at h
  exact_mod_cast h

theorem score100_failure_le (s f : ℕ) : score100 ⟨s, f + 1⟩ ≤ score100 ⟨s, f⟩ :=
  roundDigits_mono 2 (by linarith [adjusted_failure_le s f])

/-- Swapping successes and failures mirrors the estimate at one half. -/
theorem adjusted_swap (s f : ℕ) :
    BetaEstimate.shrink (confidence ⟨f, s⟩) (mean ⟨f, s⟩) =
      1 - BetaEstimate.shrink (confidence ⟨s, f⟩) (mean ⟨s, f⟩) := by
  have hc : confidence ⟨f, s⟩ = confidence ⟨s, f⟩ := by
    simp only [confidence, observations, Nat.add_comm]
  have hm : mean ⟨f, s⟩ = 1 - mean ⟨s, f⟩ := by
    have h : (2 : ℚ) + s + (2 + f) ≠ 0 := by positivity
    have h' : (2 : ℚ) + f + (2 + s) ≠ 0 := by positivity
    simp only [mean, BetaEstimate.mean, alphaPrior, betaPrior]
    field_simp
    ring
  rw [hc, hm]
  simp only [BetaEstimate.shrink]
  ring

theorem score100_success_le (s f : ℕ) : score100 ⟨s, f⟩ ≤ score100 ⟨s + 1, f⟩ := by
  refine roundDigits_mono 2 ?_
  have h := adjusted_failure_le f s
  rw [adjusted_swap s f, adjusted_swap (s + 1) f] at h
  linarith

theorem score100_success_mono (s f k : ℕ) : score100 ⟨s, f⟩ ≤ score100 ⟨s + k, f⟩ := by
  induction k with
  | zero => exact le_rfl
  | succ k ih => exact ih.trans (score100_success_le (s + k) f)

/-- A success never lowers the public score, and a failure never raises it. -/
theorem score100_monotone (s f : ℕ) :
    score100 ⟨s, f⟩ ≤ score100 ⟨s + 1, f⟩ ∧ score100 ⟨s, f + 1⟩ ≤ score100 ⟨s, f⟩ :=
  ⟨score100_success_le s f, score100_failure_le s f⟩

/-- The conservative score never exceeds the public one. -/
theorem conservativeScore100_le_score100 (r : BayesianReputation) :
    r.conservativeScore100 ≤ r.score100 := by
  have hc0 : (0 : ℝ) ≤ r.confidence := by exact_mod_cast r.confidence_nonneg
  have hl := mul_le_mul_of_nonneg_right (lower_le_mean conservativeZ_nonneg r) hc0
  have hcast : r.score100 =
      roundDigits 2 (BetaEstimate.shrink (r.confidence : ℝ) (r.mean : ℝ) * 100) := by
    rw [score100, ← roundDigits_ratCast (α := ℝ), BetaEstimate.shrink_ratCast]
    push_cast
    rfl
  rw [hcast]
  refine roundDigits_mono 2 ?_
  simp only [BetaEstimate.shrink]
  linarith

theorem mean_le_one (r : BayesianReputation) : r.mean ≤ 1 := by
  simp only [mean, BetaEstimate.mean, alphaPrior, betaPrior]
  rw [div_le_one (by positivity)]
  linarith [(by positivity : (0 : ℚ) ≤ r.failures)]

theorem score100_le (r : BayesianReputation) : r.score100 ≤ 100 := by
  have hm := mul_le_mul_of_nonneg_right r.mean_le_one r.confidence_nonneg
  have hc := r.confidence_le
  have h : BetaEstimate.shrink r.confidence r.mean * 100 * 10 ^ 2 ≤ ((10000 : ℤ) : ℚ) := by
    simp only [BetaEstimate.shrink]
    push_cast
    linarith
  exact (roundDigits_le 2 h).trans (by norm_num)

theorem conservativeScore100_nonneg (r : BayesianReputation) : 0 ≤ r.conservativeScore100 := by
  have hl := mul_nonneg (lower_nonneg conservativeZ r)
    (by exact_mod_cast r.confidence_nonneg : (0 : ℝ) ≤ r.confidence)
  have hc : (r.confidence : ℝ) ≤ 1 := by
    exact_mod_cast r.confidence_le.trans (by norm_num)
  have h : ((0 : ℤ) : ℝ) ≤
      BetaEstimate.shrink (r.confidence : ℝ) (r.lower conservativeZ) * 100 * 10 ^ 2 := by
    simp only [BetaEstimate.shrink]
    push_cast
    linarith
  exact le_trans (by norm_num) (le_roundDigits 2 h)

theorem conservativeScore100_ge (r : BayesianReputation) :
    50 - 50 * r.confidence - 0.005 ≤ r.conservativeScore100 := by
  have hl := mul_nonneg (lower_nonneg conservativeZ r)
    (by exact_mod_cast r.confidence_nonneg : (0 : ℝ) ≤ r.confidence)
  have hnear := (roundDigits_near 2
    (BetaEstimate.shrink (r.confidence : ℝ) (r.lower conservativeZ) * 100)).1
  rw [← conservativeScore100] at hnear
  simp only [BetaEstimate.shrink] at hnear
  norm_num at hnear
  have hreal : ((50 - 50 * r.confidence - 0.005 : ℚ) : ℝ) ≤ (r.conservativeScore100 : ℚ) := by
    push_cast
    linarith
  exact_mod_cast hreal

/-! One more success under the conservative score. -/

theorem lower_success_le (s f : ℕ) : lower conservativeZ ⟨s, f⟩ ≤ lower conservativeZ ⟨s + 1, f⟩ := by
  rw [lower_eq, lower_eq]
  push_cast
  rw [← add_assoc]
  refine max_le_max le_rfl (BetaEstimate.lowerBound_succ_left conservativeZ_nonneg ?_ ?_ ?_)
  · norm_num [conservativeZ]
  · linarith [(by positivity : (0 : ℝ) ≤ s)]
  · linarith [(by positivity : (0 : ℝ) ≤ f)]

theorem lower_success_gain {s f : ℕ} (hn : 96 ≤ s + f) (hhalf : lower conservativeZ ⟨s, f⟩ < 1 / 2) :
    lower conservativeZ ⟨s, f⟩ + 0.15 / (s + f + 5) ≤ lower conservativeZ ⟨s + 1, f⟩ := by
  rw [lower_eq] at hhalf ⊢
  rw [lower_eq]
  have hn' : (96 : ℝ) ≤ s + f := by exact_mod_cast hn
  have hs : (0 : ℝ) ≤ s := by positivity
  have hf : (0 : ℝ) ≤ f := by positivity
  have hgain := BetaEstimate.lowerBound_gain conservativeZ_nonneg (by norm_num [conservativeZ])
    (by linarith : (2 : ℝ) ≤ 2 + s) (by linarith : (0 : ℝ) < 2 + f) (by linarith) hhalf
  rw [show (2 : ℝ) + s + (2 + f) + 1 = s + f + 5 by ring] at hgain
  push_cast
  rwa [← add_assoc]

/-- A success costs the estimate at most half the confidence it adds, and from a hundred
observations on it costs nothing. -/
theorem shrink_success (s f : ℕ) :
    BetaEstimate.shrink (confidence ⟨s, f⟩ : ℝ) (lower conservativeZ ⟨s, f⟩) -
        1 / 2 * (confidence ⟨s + 1, f⟩ - confidence ⟨s, f⟩) ≤
      BetaEstimate.shrink (confidence ⟨s + 1, f⟩ : ℝ) (lower conservativeZ ⟨s + 1, f⟩) ∧
    (96 ≤ s + f → BetaEstimate.shrink (confidence ⟨s, f⟩ : ℝ) (lower conservativeZ ⟨s, f⟩) ≤
      BetaEstimate.shrink (confidence ⟨s + 1, f⟩ : ℝ) (lower conservativeZ ⟨s + 1, f⟩)) := by
  have hc0 : (0 : ℝ) ≤ confidence ⟨s + 1, f⟩ := by exact_mod_cast confidence_nonneg _
  have hcc : (confidence ⟨s, f⟩ : ℝ) ≤ confidence ⟨s + 1, f⟩ := by
    exact_mod_cast confidence_mono (by simp only [observations]; omega)
  have hl := lower_success_le s f
  have hl0 := lower_nonneg conservativeZ ⟨s, f⟩
  have hkeep : confidence ⟨s + 1, f⟩ * (lower conservativeZ ⟨s, f⟩ - 1 / 2) ≤
      confidence ⟨s + 1, f⟩ * (lower conservativeZ ⟨s + 1, f⟩ - 1 / 2) :=
    mul_le_mul_of_nonneg_left (by linarith) hc0
  simp only [BetaEstimate.shrink]
  constructor
  · nlinarith
  · intro hn
    rcases lt_or_ge (lower conservativeZ ⟨s, f⟩) (1 / 2) with hhalf | hhalf
    · have hgain := mul_le_mul_of_nonneg_left (lower_success_gain hn hhalf) hc0
      have hvol : (confidence ⟨s + 1, f⟩ : ℝ) * (((s + f : ℕ) : ℝ) * ((s + f : ℕ) + 9)) ≤
          confidence ⟨s, f⟩ * (((s + f : ℕ) + 1) * ((s + f : ℕ) + 8)) := by
        exact_mod_cast confidence_succ_mul ⟨s, f⟩ ⟨s + 1, f⟩ (by simp only [observations]; omega)
      push_cast at hvol
      have hn' : (96 : ℝ) ≤ s + f := by exact_mod_cast hn
      set n : ℝ := (s : ℝ) + f
      set c : ℝ := (confidence ⟨s, f⟩ : ℝ)
      set c' : ℝ := (confidence ⟨s + 1, f⟩ : ℝ)
      -- the confidence gained is small against the bound gained
      have hstep : (c' - c) * (n * (n + 9)) ≤ 8 * c' := by linarith
      have hcredit : c' - c ≤ 2 * (c' * (0.15 / (n + 5))) := by
        rw [mul_div_assoc', mul_div_assoc', le_div_iff₀ (by linarith)]
        nlinarith
      have hheld : (c' - c) * (1 / 2 - lower conservativeZ ⟨s, f⟩) ≤ (c' - c) * (1 / 2) :=
        mul_le_mul_of_nonneg_left (by linarith) (by linarith)
      linarith
    · nlinarith

theorem conservativeScore100_near (r : BayesianReputation) :
    BetaEstimate.shrink (r.confidence : ℝ) (r.lower conservativeZ) * 100 - 0.005 ≤
        (r.conservativeScore100 : ℚ) ∧
      ((r.conservativeScore100 : ℚ) : ℝ) ≤
        BetaEstimate.shrink (r.confidence : ℝ) (r.lower conservativeZ) * 100 + 0.005 := by
  have h := roundDigits_near 2 (BetaEstimate.shrink (r.confidence : ℝ) (r.lower conservativeZ) * 100)
  rw [← conservativeScore100] at h
  norm_num at h ⊢
  exact h

theorem conservativeScore100_success_le {s f : ℕ} (hn : 96 ≤ s + f) :
    conservativeScore100 ⟨s, f⟩ ≤ conservativeScore100 ⟨s + 1, f⟩ :=
  roundDigits_mono 2 (by linarith [(shrink_success s f).2 hn])

theorem confidence_step {s f : ℕ} (hn : s + f < 96) :
    0.0007 ≤ confidence ⟨s + 1, f⟩ - confidence ⟨s, f⟩ := by
  have hvolume : ∀ r : BayesianReputation, r.observations ≤ 96 →
      r.confidence = r.observations / (r.observations + 8) := by
    intro r hr
    have hr' : (r.observations : ℚ) ≤ 96 := by exact_mod_cast hr
    refine min_eq_right ?_
    rw [div_le_iff₀ (by positivity)]
    linarith
  rw [hvolume _ (by simp only [observations]; omega), hvolume _ (by simp only [observations]; omega)]
  simp only [observations]
  push_cast
  have hn' : (s : ℚ) + f ≤ 95 := by exact_mod_cast Nat.lt_succ_iff.1 hn
  have h0 : (0 : ℚ) ≤ s + f := by positivity
  rw [show (s : ℚ) + 1 + f = s + f + 1 by ring]
  generalize (s : ℚ) + f = n at hn' h0
  have hdiff : (n + 1) / (n + 1 + 8) - n / (n + 8) = 8 / ((n + 8) * (n + 9)) := by
    have h8 : n + 8 ≠ 0 := by positivity
    have h9 : n + 1 + 8 ≠ 0 := by positivity
    have h9' : n + 9 ≠ 0 := by positivity
    field_simp
    ring
  rw [hdiff, le_div_iff₀ (by positivity)]
  nlinarith

/-- What a success costs the conservative score is less than the confidence it adds is worth. -/
theorem conservativeScore100_success (s f : ℕ) :
    0 ≤ 0.42 * (conservativeScore100 ⟨s + 1, f⟩ - conservativeScore100 ⟨s, f⟩) / 100 +
      0.43 * (confidence ⟨s + 1, f⟩ - confidence ⟨s, f⟩) := by
  have hcc : confidence ⟨s, f⟩ ≤ confidence ⟨s + 1, f⟩ :=
    confidence_mono (by simp only [observations]; omega)
  rcases Nat.lt_or_ge (s + f) 96 with hn | hn
  · have hstep := confidence_step hn
    have hcost := (shrink_success s f).1
    have hbefore := (conservativeScore100_near ⟨s, f⟩).2
    have hafter := (conservativeScore100_near ⟨s + 1, f⟩).1
    have hreal : ((conservativeScore100 ⟨s, f⟩ - 50 * (confidence ⟨s + 1, f⟩ - confidence ⟨s, f⟩) -
        0.01 : ℚ) : ℝ) ≤ (conservativeScore100 ⟨s + 1, f⟩ : ℚ) := by
      push_cast
      linarith
    have hrat : conservativeScore100 ⟨s, f⟩ - 50 * (confidence ⟨s + 1, f⟩ - confidence ⟨s, f⟩) -
        0.01 ≤ conservativeScore100 ⟨s + 1, f⟩ := by exact_mod_cast hreal
    linarith
  · linarith [conservativeScore100_success_le hn]

end BayesianReputation

end Counterparty
