import Mathlib.Analysis.Real.Sqrt
import Mathlib.Tactic.FieldSimp
import Mathlib.Tactic.Linarith
import Mathlib.Tactic.Positivity
import Mathlib.Tactic.Ring

/-! Estimates read off a Beta distribution: its mean, its variance, a lower bound some standard
deviations below the mean, and an estimate shrunk toward one half. -/
namespace BetaEstimate

section Field

variable {α : Type*} [Field α]

def mean (a b : α) : α := a / (a + b)

def variance (a b : α) : α := a * b / ((a + b) * (a + b) * (a + b + 1))

/-- An estimate `m` held with confidence `c`, the rest of the weight on one half. -/
def shrink (c m : α) : α := 1 / 2 * (1 - c) + m * c

end Field

section Real

variable {a b c c' l l' z : ℝ}

noncomputable def lowerBound (z a b : ℝ) : ℝ := mean a b - z * √(variance a b)

theorem lowerBound_le_mean (hz : 0 ≤ z) : lowerBound z a b ≤ mean a b :=
  sub_le_self _ (mul_nonneg hz (Real.sqrt_nonneg _))

theorem mean_succ (ha : 0 < a) (hb : 0 < b) :
    (a + b + 1) / (a + b) * mean a (b + 1) = mean a b := by
  have h0 : a + b ≠ 0 := by positivity
  have h1 : a + (b + 1) ≠ 0 := by positivity
  simp only [mean]
  field_simp
  ring

/-- One more failure lowers the variance by at most the square of the factor it costs the mean. -/
theorem variance_le_succ (ha : 0 < a) (hb : 0 < b) :
    variance a b ≤ ((a + b + 1) / (a + b)) ^ 2 * variance a (b + 1) := by
  have he : ((a + b + 1) / (a + b)) ^ 2 * variance a (b + 1) =
      a * (b + 1) / ((a + b) * (a + b) * (a + b + 2)) := by
    have h0 : a + b ≠ 0 := by positivity
    have h1 : a + (b + 1) ≠ 0 := by positivity
    have h2 : a + (b + 1) + 1 ≠ 0 := by positivity
    have h3 : a + b + 2 ≠ 0 := by positivity
    simp only [variance]
    field_simp
    ring
  rw [he, variance, div_le_div_iff₀ (by positivity) (by positivity)]
  have hn : 0 ≤ a * ((a + b) * (a + b)) * (a + 1) := by positivity
  nlinarith [hn]

/-- The lower bound loses at least the factor the mean loses, wherever it stands. -/
theorem lowerBound_succ (hz : 0 ≤ z) (ha : 0 < a) (hb : 0 < b) :
    (a + b + 1) / (a + b) * lowerBound z a (b + 1) ≤ lowerBound z a b := by
  set r := (a + b + 1) / (a + b) with hr
  have hr0 : 0 ≤ r := by positivity
  have hs : √(variance a b) ≤ r * √(variance a (b + 1)) := by
    rw [← Real.sqrt_sq hr0, ← Real.sqrt_mul (sq_nonneg r)]
    exact Real.sqrt_le_sqrt (variance_le_succ ha hb)
  have hm := mean_succ ha hb
  rw [← hr] at hm
  calc r * lowerBound z a (b + 1)
      = r * mean a (b + 1) - z * (r * √(variance a (b + 1))) := by rw [lowerBound]; ring
    _ ≤ mean a b - z * √(variance a b) := by
        rw [hm]
        exact sub_le_sub_left (mul_le_mul_of_nonneg_left hs hz) _

theorem lowerBound_succ_le (hz : 0 ≤ z) (ha : 0 < a) (hb : 0 < b) :
    max 0 (lowerBound z a (b + 1)) ≤ max 0 (lowerBound z a b) := by
  rcases le_or_gt (lowerBound z a (b + 1)) 0 with h | h
  · simp [max_eq_left h]
  · have hr : 1 ≤ (a + b + 1) / (a + b) := by
      rw [le_div_iff₀ (by positivity)]
      linarith
    have hs := lowerBound_succ hz ha hb
    have hl : lowerBound z a (b + 1) ≤ lowerBound z a b := by nlinarith
    exact max_le_max le_rfl hl

/-! One more success. -/

/-- The lower bound times the number of pseudo-observations. -/
theorem mul_lowerBound (ha : 0 < a) (hb : 0 < b) :
    (a + b) * lowerBound z a b = a - z * √(a * b / (a + b + 1)) := by
  have hn : 0 < a + b := by positivity
  have hvar : variance a b = a * b / (a + b + 1) / (a + b) ^ 2 := by
    have h1 : a + b + 1 ≠ 0 := by positivity
    have h2 : a + b ≠ 0 := hn.ne'
    simp only [variance]
    field_simp
  rw [lowerBound, hvar, Real.sqrt_div' _ (sq_nonneg _), Real.sqrt_sq hn.le, mean]
  field_simp

/-- What one more success adds to the deviation is at most `q`, where `q` is at least half of what
the difference of the variances comes to. -/
theorem deviation_succ_le {q : ℝ} (hz : 0 ≤ z) (ha : 0 < a) (hb : 0 < b) (hq : 0 ≤ q)
    (h : z * (b * (b + 1) / ((a + b + 1) * (a + b + 2))) ≤ 2 * √(a * b / (a + b + 1)) * q) :
    z * √((a + 1) * b / (a + 1 + b + 1)) ≤ z * √(a * b / (a + b + 1)) + q := by
  set y := a * b / (a + b + 1) with hy
  have hy0 : 0 ≤ y := by positivity
  have hdiff : (a + 1) * b / (a + 1 + b + 1) = y + b * (b + 1) / ((a + b + 1) * (a + b + 2)) := by
    have h1 : a + b + 1 ≠ 0 := by positivity
    have h2 : a + b + 2 ≠ 0 := by positivity
    have h3 : a + 1 + b + 1 ≠ 0 := by positivity
    rw [hy]
    field_simp
    ring
  have hsq : √y ^ 2 = y := Real.sq_sqrt hy0
  have hle : (z * √((a + 1) * b / (a + 1 + b + 1))) ^ 2 ≤ (z * √y + q) ^ 2 := by
    rw [mul_pow, Real.sq_sqrt (by positivity), hdiff]
    have hzh := mul_le_mul_of_nonneg_left h hz
    nlinarith [sq_nonneg q]
  exact le_of_sq_le_sq hle (by positivity)

theorem lowerBound_succ_left (hz : 0 ≤ z) (hz8 : z ^ 2 ≤ 8) (ha : 2 ≤ a) (hb : 1 ≤ b) :
    lowerBound z a b ≤ lowerBound z (a + 1) b := by
  have hn : 0 < a + b := by linarith
  have hroot : z * (b + 1) * (a + b) / (2 * ((a + b + 1) * (a + b + 2))) ≤
      √(a * b / (a + b + 1)) := by
    apply Real.le_sqrt_of_sq_le
    rw [div_pow, div_le_div_iff₀ (by positivity) (by linarith)]
    have hb1 : (b + 1) ^ 2 ≤ b * (a + b + 1) := by nlinarith
    have hn2 : (a + b) ^ 2 ≤ (a + b + 2) ^ 2 := by nlinarith
    calc (z * (b + 1) * (a + b)) ^ 2 * (a + b + 1)
        = z ^ 2 * ((b + 1) ^ 2 * ((a + b) ^ 2 * (a + b + 1))) := by ring
      _ ≤ 8 * (b * (a + b + 1) * ((a + b + 2) ^ 2 * (a + b + 1))) := by gcongr
      _ ≤ 4 * a * (b * (a + b + 1) * ((a + b + 2) ^ 2 * (a + b + 1))) := by
          gcongr
          linarith
      _ = a * b * (2 * ((a + b + 1) * (a + b + 2))) ^ 2 := by ring
  have hdeviation := deviation_succ_le (q := b / (a + b)) hz (by linarith : 0 < a)
    (by linarith : 0 < b) (by positivity) (by
      have hmul := mul_le_mul_of_nonneg_right hroot (by positivity : 0 ≤ 2 * (b / (a + b)))
      calc z * (b * (b + 1) / ((a + b + 1) * (a + b + 2)))
          = z * (b + 1) * (a + b) / (2 * ((a + b + 1) * (a + b + 2))) * (2 * (b / (a + b))) := by
            field_simp
        _ ≤ √(a * b / (a + b + 1)) * (2 * (b / (a + b))) := hmul
        _ = 2 * √(a * b / (a + b + 1)) * (b / (a + b)) := by ring)
  have hbefore := mul_lowerBound (z := z) (by linarith : 0 < a) (by linarith : 0 < b)
  have hafter := mul_lowerBound (z := z) (by linarith : 0 < a + 1) (by linarith : 0 < b)
  have hmean : lowerBound z a b ≤ 1 - b / (a + b) := by
    have hle := lowerBound_le_mean (a := a) (b := b) hz
    have heq : mean a b = 1 - b / (a + b) := by
      rw [mean, eq_sub_iff_add_eq, ← add_div, div_self hn.ne']
    linarith
  have hpos : 0 < a + 1 + b := by linarith
  refine le_of_mul_le_mul_left ?_ hpos
  rw [hafter]
  linarith

theorem deviation_succ_le_of_sq {q : ℝ} (hz : 0 ≤ z) (ha : 0 < a) (hb : 0 < b) (hq : 0 < q)
    (h : z ^ 2 ≤ 4 * q ^ 2 * a) :
    z * √((a + 1) * b / (a + 1 + b + 1)) ≤ z * √(a * b / (a + b + 1)) + q := by
  have hroot : z * b / (2 * q * (a + b + 1)) ≤ √(a * b / (a + b + 1)) := by
    apply Real.le_sqrt_of_sq_le
    rw [div_pow, div_le_div_iff₀ (by positivity) (by positivity)]
    calc (z * b) ^ 2 * (a + b + 1) = z ^ 2 * (b * b * (a + b + 1)) := by ring
      _ ≤ 4 * q ^ 2 * a * (b * (a + b + 1) * (a + b + 1)) := by
          gcongr
          linarith
      _ = a * b * (2 * q * (a + b + 1)) ^ 2 := by ring
  refine deviation_succ_le hz ha hb hq.le ?_
  have hmul := mul_le_mul_of_nonneg_right hroot (by positivity : 0 ≤ 2 * q)
  have hshare : b * (b + 1) / ((a + b + 1) * (a + b + 2)) ≤ b / (a + b + 1) := by
    rw [div_le_div_iff₀ (by positivity) (by positivity)]
    nlinarith [mul_pos hb ha, mul_pos (mul_pos hb ha) (by positivity : 0 < a + b + 1)]
  calc z * (b * (b + 1) / ((a + b + 1) * (a + b + 2)))
      ≤ z * (b / (a + b + 1)) := mul_le_mul_of_nonneg_left hshare hz
    _ = z * b / (2 * q * (a + b + 1)) * (2 * q) := by field_simp
    _ ≤ √(a * b / (a + b + 1)) * (2 * q) := hmul
    _ = 2 * √(a * b / (a + b + 1)) * q := by ring

/-- With a hundred pseudo-observations and a bound below one half, a success adds to the bound in
proportion to its weight. -/
theorem lowerBound_gain (hz : 0 ≤ z) (hz2 : z ≤ 1.645) (ha : 2 ≤ a) (hb : 0 < b)
    (hn : 100 ≤ a + b) (hhalf : max 0 (lowerBound z a b) < 1 / 2) :
    max 0 (lowerBound z a b) + 0.15 / (a + b + 1) ≤ max 0 (lowerBound z (a + 1) b) := by
  have hzsq : z ^ 2 ≤ 2.7061 := by nlinarith
  have hafter := mul_lowerBound (z := z) (by linarith : 0 < a + 1) hb
  have hpos : 0 < a + b + 1 := by linarith
  refine le_max_of_le_right (le_of_mul_le_mul_left ?_ (by linarith : 0 < a + 1 + b))
  rw [hafter]
  rcases le_or_gt (lowerBound z a b) 0 with hl | hl
  · -- the bound leaves zero
    rw [max_eq_left hl, zero_add]
    have hshare : (a + 1 + b) * (0.15 / (a + b + 1)) = 0.15 := by
      rw [show a + 1 + b = a + b + 1 by ring]
      field_simp
    have hdeviation : z * √((a + 1) * b / (a + 1 + b + 1)) ≤ a + 0.85 := by
      have hy : (a + 1) * b / (a + 1 + b + 1) ≤ a + 1 := by
        rw [div_le_iff₀ (by positivity)]
        nlinarith
      refine le_of_sq_le_sq ?_ (by linarith)
      rw [mul_pow, Real.sq_sqrt (by positivity)]
      nlinarith
    rw [hshare]
    linarith
  · rw [max_eq_right hl.le] at hhalf ⊢
    have hbefore := mul_lowerBound (z := z) (by linarith : 0 < a) hb
    have hmul : (a + 1 + b) * (lowerBound z a b + 0.15 / (a + b + 1)) =
        (a + b) * lowerBound z a b + lowerBound z a b + 0.15 := by
      field_simp
      ring
    rw [hmul, hbefore]
    rcases le_or_gt 9 a with h9 | h9
    · have hdeviation := deviation_succ_le_of_sq (q := 0.3) hz (by linarith : 0 < a) hb (by norm_num)
        (by linarith)
      linarith
    · have hdeviation := deviation_succ_le_of_sq (q := 0.6) hz (by linarith : 0 < a) hb
        (by norm_num) (by linarith)
      have hmean : lowerBound z a b ≤ 0.09 := by
        refine (lowerBound_le_mean hz).trans ?_
        rw [mean, div_le_iff₀ (by linarith)]
        linarith
      linarith

theorem shrink_ratCast (c m : ℚ) : shrink (c : ℝ) (m : ℝ) = (shrink c m : ℚ) := by
  simp [shrink]

/-- A lower estimate held with more confidence is lower still, below one half. -/
theorem shrink_le_of_le_half (hc : 0 ≤ c) (hcc : c ≤ c') (hl : l' ≤ l) (hh : l' ≤ 1 / 2) :
    shrink c' l' ≤ shrink c l := by
  have h1 : c' * (l' - 1 / 2) ≤ c * (l' - 1 / 2) := by nlinarith
  have h2 : c * (l' - 1 / 2) ≤ c * (l - 1 / 2) := by nlinarith
  simp only [shrink]
  linarith

end Real

end BetaEstimate
