import Counterparty.Library.FloatFormat

/-! Arithmetic in which every operation is rounded: what the rounding has to keep for bounds that hold
of exact results to hold of rounded ones. -/

/-- A rounding of results. It keeps the order, leaves alone what is rounded already, and is exact on the
multiples of 1/1024 that are not too large. -/
structure Roundoff where
  fl : ℚ → ℚ
  mono : Monotone fl
  idem : ∀ x, fl (fl x) = fl x
  grid : ∀ n : ℤ, n.natAbs ≤ 2 ^ 40 → fl (n / 1024) = n / 1024

namespace Roundoff

/-- Every operation is exact. -/
def unrounded : Roundoff where
  fl := id
  mono := monotone_id
  idem _ := rfl
  grid _ _ := rfl

/-- Every operation is rounded to the nearest float of a format. -/
def ofFormat (F : FloatFormat) (hprecision : 40 < F.precision) (hminExp : F.minExp ≤ -10) :
    Roundoff where
  fl := F.round
  mono := F.round_mono
  idem := F.round_round
  grid n hn := by
    have hscale : (n : ℚ) / 1024 = n * 2 ^ (-10 : ℤ) := by
      rw [zpow_neg, div_eq_mul_inv]
      norm_num
    rw [hscale]
    exact F.round_of_bits (lt_of_le_of_lt hn (Nat.pow_lt_pow_right (by norm_num) hprecision)) hminExp

variable (R : Roundoff) {x : ℚ}

theorem fl_le {n : ℤ} (hn : n.natAbs ≤ 2 ^ 40) (h : x ≤ n / 1024) : R.fl x ≤ n / 1024 :=
  (R.mono h).trans (R.grid n hn).le

theorem fl_intCast {n : ℤ} (hn : n.natAbs ≤ 2 ^ 30) : R.fl n = n := by
  have hscaled := R.grid (n * 1024) (by omega)
  rwa [Int.cast_mul, Int.cast_ofNat, mul_div_cancel_right₀ _ (by norm_num)] at hscaled

theorem fl_le_intCast {n : ℤ} (hn : n.natAbs ≤ 2 ^ 30) (h : x ≤ n) : R.fl x ≤ n :=
  (R.mono h).trans (R.fl_intCast hn).le

theorem intCast_le_fl {n : ℤ} (hn : n.natAbs ≤ 2 ^ 30) (h : n ≤ x) : n ≤ R.fl x :=
  (R.fl_intCast hn).ge.trans (R.mono h)

theorem fl_nonneg (h : 0 ≤ x) : 0 ≤ R.fl x := by
  have hzero := R.intCast_le_fl (n := 0) (by decide) (by exact_mod_cast h)
  exact_mod_cast hzero

theorem fl_le_one (h : x ≤ 1) : R.fl x ≤ 1 := by
  have hone := R.fl_le_intCast (n := 1) (by decide) (by exact_mod_cast h)
  exact_mod_cast hone

theorem pred_le_fl_sub {n : ℤ} {y : ℚ} (hn : (n - 1).natAbs ≤ 2 ^ 30) (hx : n ≤ x) (hy : y ≤ 1) :
    (n - 1 : ℤ) ≤ R.fl (x - y) := by
  refine R.intCast_le_fl hn ?_
  push_cast
  linarith

/-- Rounding adds no more than a step of the grid. -/
theorem fl_le_add (h : 0 ≤ x) (hx : x ≤ 2 ^ 20) : R.fl x ≤ x + 1 / 1024 := by
  have hfloor := Int.floor_le (x * 1024)
  have hnonneg : 0 ≤ ⌊x * 1024⌋ := Int.floor_nonneg.2 (by positivity)
  have hsmall : ⌊x * 1024⌋ ≤ 2 ^ 30 := by
    have hcast : (⌊x * 1024⌋ : ℚ) ≤ ((2 ^ 30 : ℤ) : ℚ) := by
      push_cast
      linarith
    exact_mod_cast hcast
  have hstep := R.fl_le (n := ⌊x * 1024⌋ + 1) (x := x) (by omega) (by
    have hnext := Int.lt_floor_add_one (x * 1024)
    push_cast
    linarith)
  refine hstep.trans ?_
  push_cast
  linarith

/-- A part is no more than the rounded whole, as long as it is rounded itself. -/
theorem fl_div_le_one {a b : ℚ} (ha : 0 ≤ R.fl a) (hb : 0 ≤ b) :
    R.fl (R.fl a / R.fl (R.fl a + b)) ≤ 1 := by
  have hpart : R.fl a ≤ R.fl (R.fl a + b) := by
    calc R.fl a = R.fl (R.fl a) := (R.idem a).symm
      _ ≤ R.fl (R.fl a + b) := R.mono (le_add_of_nonneg_right hb)
  exact R.fl_le_one (div_le_one_of_le₀ hpart (ha.trans hpart))

end Roundoff
