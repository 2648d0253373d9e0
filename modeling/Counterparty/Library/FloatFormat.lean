import Mathlib.Algebra.Order.Field.Power
import Mathlib.Data.Int.Log
import Mathlib.Tactic.LinearCombination
import Mathlib.Tactic.NormNum
import Mathlib.Tactic.Positivity
import Mathlib.Tactic.Ring
import Counterparty.Library.Rounding

/-! Binary floating-point formats, rounding into them, and the shortest decimal that reads back. -/

open Rounding

/-- A format with gradual underflow: `precision` bits at the exponents `minExp` to `maxExp`. -/
structure FloatFormat where
  precision : ℕ
  minExp : ℤ
  maxExp : ℤ
  precision_pos : 0 < precision
  minExp_nonpos : minExp ≤ 0
  minExp_lt : minExp < maxExp

namespace FloatFormat

variable (F : FloatFormat) {q : ℚ}

def binary64 : FloatFormat := ⟨53, -1074, 971, by decide, by decide, by decide⟩

def Representable (q : ℚ) : Prop :=
  ∃ m : ℕ, ∃ e : ℤ, m < 2 ^ F.precision ∧ F.minExp ≤ e ∧ e ≤ F.maxExp ∧ q = m * 2 ^ e

/-- The weight of the last bit kept by a number of this size. -/
def lastBit (q : ℚ) : ℤ := max (Int.log 2 q + 1 - F.precision) F.minExp

def nearest (q : ℚ) : ℚ := roundHalfEven (q / 2 ^ F.lastBit q) * 2 ^ F.lastBit q

/-- The least power of two beyond every number of the format. -/
def limit : ℚ := 2 ^ (F.precision + F.maxExp)

theorem lastBit_le {m : ℕ} {e : ℤ} (hm : m < 2 ^ F.precision) (he : F.minExp ≤ e)
    (h0 : 0 < (m : ℚ) * 2 ^ e) : F.lastBit (m * 2 ^ e) ≤ e := by
  refine max_le ?_ he
  have hlt : (m : ℚ) * 2 ^ e < 2 ^ ((F.precision : ℤ) + e) := by
    rw [zpow_add₀ (by norm_num), zpow_natCast]
    exact mul_lt_mul_of_pos_right (by exact_mod_cast hm) (by positivity)
  have hlog := (Int.lt_zpow_iff_log_lt (b := 2) (by norm_num) h0).1 (by exact_mod_cast hlt)
  omega

/-- Rounding leaves a number alone that has few enough bits. -/
theorem nearest_of_bits {m : ℕ} {e : ℤ} (hm : m < 2 ^ F.precision) (he : F.minExp ≤ e) :
    F.nearest (m * 2 ^ e) = m * 2 ^ e := by
  rcases Nat.eq_zero_or_pos m with rfl | hpos
  · simp [nearest, roundHalfEven]
  · have h0 : (0 : ℚ) < m * 2 ^ e := by positivity
    obtain ⟨j, hj⟩ := Int.eq_ofNat_of_zero_le (sub_nonneg.2 (F.lastBit_le hm he h0))
    have hsplit : (m : ℚ) * 2 ^ e / 2 ^ F.lastBit (m * 2 ^ e) = ((m * 2 ^ j : ℕ) : ℤ) := by
      rw [mul_div_assoc, ← zpow_sub₀ (by norm_num), hj]
      push_cast
      simp
    rw [nearest, hsplit, roundHalfEven_intCast, ← hsplit, div_mul_cancel₀ _ (by positivity)]

/-- Rounding leaves a number of the format alone. -/
theorem nearest_of_representable (h : F.Representable q) : F.nearest q = q := by
  obtain ⟨m, e, hm, he, -, rfl⟩ := h
  exact F.nearest_of_bits hm he

theorem scaled_le (q : ℚ) : q / 2 ^ F.lastBit q ≤ 2 ^ F.precision := by
  have hle : Int.log 2 q + 1 ≤ F.precision + F.lastBit q := by
    have := le_max_left (Int.log 2 q + 1 - F.precision) F.minExp
    rw [← lastBit] at this
    omega
  have hlog : q < 2 ^ (Int.log 2 q + 1) := by
    exact_mod_cast Int.lt_zpow_succ_log_self (b := 2) (by norm_num) q
  rw [div_le_iff₀ (by positivity)]
  calc q ≤ 2 ^ (Int.log 2 q + 1) := hlog.le
    _ ≤ 2 ^ (F.precision + F.lastBit q) := zpow_le_zpow_right₀ (by norm_num) hle
    _ = 2 ^ F.precision * 2 ^ F.lastBit q := by rw [zpow_add₀ (by norm_num), zpow_natCast]

/-- Above the subnormal range a scaled number has all its bits. -/
theorem le_scaled (h0 : 0 < q) (h : F.minExp < F.lastBit q) :
    2 ^ ((F.precision : ℤ) - 1) ≤ q / 2 ^ F.lastBit q := by
  have hlog : F.lastBit q = Int.log 2 q + 1 - F.precision := by
    rcases le_total (Int.log 2 q + 1 - F.precision) F.minExp with hle | hle
    · rw [lastBit, max_eq_right hle] at h
      omega
    · rw [lastBit, max_eq_left hle]
  have hself : (2 : ℚ) ^ Int.log 2 q ≤ q := by
    exact_mod_cast Int.zpow_log_le_self (b := 2) (by norm_num) h0
  rw [hlog, le_div_iff₀ (by positivity), ← zpow_add₀ (by norm_num)]
  have he : (F.precision : ℤ) - 1 + (Int.log 2 q + 1 - F.precision) = Int.log 2 q := by ring
  rwa [he]

/-- A product at the last exponent or below is under the limit only there. -/
theorem le_maxExp_of_lt_limit {m : ℚ} {e : ℤ} (hm : 2 ^ ((F.precision : ℤ) - 1) ≤ m)
    (h : m * 2 ^ e < F.limit) : e ≤ F.maxExp := by
  by_contra hgt
  have hge : F.limit ≤ m * 2 ^ e := by
    calc F.limit = 2 ^ ((F.precision : ℤ) - 1) * 2 ^ (F.maxExp + 1) := by
          rw [limit, ← zpow_add₀ (by norm_num)]
          congr 1
          ring
      _ ≤ m * 2 ^ e :=
          mul_le_mul hm (zpow_le_zpow_right₀ (by norm_num) (by omega)) (by positivity)
            ((by positivity : (0 : ℚ) ≤ 2 ^ ((F.precision : ℤ) - 1)).trans hm)
  exact absurd h (not_lt.2 hge)

theorem two_pow_pred : (2 : ℚ) ^ ((F.precision : ℤ) - 1) = ((2 ^ (F.precision - 1) : ℕ) : ℤ) := by
  rw [← Nat.cast_pred F.precision_pos, zpow_natCast]
  norm_cast

/-- What rounding arrives at: few enough bits, and all of them above the subnormal range. -/
theorem nearest_bits (h0 : 0 ≤ q) : ∃ (m : ℕ) (e : ℤ), F.nearest q = m * 2 ^ e ∧
    m < 2 ^ F.precision ∧ F.minExp ≤ e ∧ (e = F.minExp ∨ 2 ^ (F.precision - 1) ≤ m) := by
  have hp := F.precision_pos
  have hlow : F.minExp ≤ F.lastBit q := le_max_right _ _
  rcases h0.eq_or_lt with rfl | hpos
  · exact ⟨0, F.minExp, by simp [nearest, roundHalfEven], by positivity, le_rfl, .inl rfl⟩
  have hup : roundHalfEven (q / 2 ^ F.lastBit q) ≤ 2 ^ F.precision := by
    have hm := roundHalfEven_mono (y := ((2 ^ F.precision : ℤ) : ℚ))
      (by exact_mod_cast F.scaled_le q)
    rwa [roundHalfEven_intCast] at hm
  have hnn : 0 ≤ roundHalfEven (q / 2 ^ F.lastBit q) := by
    have hm := roundHalfEven_mono (x := ((0 : ℤ) : ℚ)) (y := q / 2 ^ F.lastBit q)
      (by rw [Int.cast_zero]; positivity)
    rwa [roundHalfEven_intCast] at hm
  obtain ⟨m, hm⟩ := Int.eq_ofNat_of_zero_le hnn
  have hval : F.nearest q = m * 2 ^ F.lastBit q := by rw [nearest, hm, Int.cast_natCast]
  rcases lt_or_eq_of_le hup with hsmall | hcarry
  · refine ⟨m, F.lastBit q, hval, by zify; omega, hlow, ?_⟩
    rcases hlow.eq_or_lt with he | he
    · exact .inl he.symm
    · have hr := F.le_scaled hpos he
      rw [F.two_pow_pred] at hr
      have hr := roundHalfEven_mono hr
      rw [roundHalfEven_intCast, hm] at hr
      exact .inr (by exact_mod_cast hr)
  · -- the rounding carried into one bit more
    have hmp : (m : ℚ) = 2 ^ F.precision := by
      rw [hm] at hcarry
      exact_mod_cast hcarry
    refine ⟨2 ^ (F.precision - 1), F.lastBit q + 1, ?_, ?_, by omega, .inr le_rfl⟩
    · rw [hval, hmp, zpow_add₀ (by norm_num)]
      obtain ⟨k, hk⟩ : ∃ k, F.precision = k + 1 := ⟨F.precision - 1, by omega⟩
      rw [hk]
      push_cast
      ring
    · exact Nat.pow_lt_pow_right (by norm_num) (by omega)

theorem representable_nearest (h0 : 0 ≤ q) (hlt : F.nearest q < F.limit) :
    F.Representable (F.nearest q) := by
  obtain ⟨m, e, hval, hm, he, hbits⟩ := F.nearest_bits h0
  refine ⟨m, e, hm, he, ?_, hval⟩
  rcases hbits with rfl | hall
  · exact F.minExp_lt.le
  · rw [hval] at hlt
    exact F.le_maxExp_of_lt_limit (by rw [F.two_pow_pred]; exact_mod_cast hall) hlt

/-- What was rounded once is not rounded again. -/
theorem nearest_nearest (h0 : 0 ≤ q) : F.nearest (F.nearest q) = F.nearest q := by
  obtain ⟨m, e, hval, hm, he, -⟩ := F.nearest_bits h0
  rw [hval, F.nearest_of_bits hm he]

theorem nearest_nonneg (h0 : 0 ≤ q) : 0 ≤ F.nearest q := by
  obtain ⟨m, e, hval, -⟩ := F.nearest_bits h0
  rw [hval]
  positivity

theorem nearest_mono {q' : ℚ} (h0 : 0 ≤ q) (h : q ≤ q') : F.nearest q ≤ F.nearest q' := by
  rcases h0.eq_or_lt with rfl | hpos
  · have hzero : F.nearest 0 = 0 := by simp [nearest, roundHalfEven]
    rw [hzero]
    exact F.nearest_nonneg h
  have hbits : F.lastBit q ≤ F.lastBit q' :=
    max_le_max (by have := Int.log_mono_right (b := 2) hpos h; omega) le_rfl
  rcases hbits.eq_or_lt with hsame | hless
  · rw [nearest, nearest, ← hsame]
    have hround := roundHalfEven_mono
      (div_le_div_of_nonneg_right h (by positivity : (0 : ℚ) ≤ 2 ^ F.lastBit q))
    exact mul_le_mul_of_nonneg_right (by exact_mod_cast hround) (by positivity)
  · -- a power of two lies between the two
    have hlow : (roundHalfEven (q / 2 ^ F.lastBit q) : ℚ) ≤ 2 ^ F.precision := by
      have hround := roundHalfEven_mono (y := ((2 ^ F.precision : ℤ) : ℚ))
        (by exact_mod_cast F.scaled_le q)
      rw [roundHalfEven_intCast] at hround
      exact_mod_cast hround
    have hhigh : (2 : ℚ) ^ ((F.precision : ℤ) - 1) ≤ roundHalfEven (q' / 2 ^ F.lastBit q') := by
      have hscaled := F.le_scaled (hpos.trans_le h)
        (lt_of_le_of_lt (le_max_right _ _ : F.minExp ≤ F.lastBit q) hless)
      rw [F.two_pow_pred] at hscaled ⊢
      have hround := roundHalfEven_mono hscaled
      rw [roundHalfEven_intCast] at hround
      exact_mod_cast hround
    calc F.nearest q ≤ 2 ^ F.precision * 2 ^ F.lastBit q :=
          mul_le_mul_of_nonneg_right hlow (by positivity)
      _ ≤ 2 ^ ((F.precision : ℤ) - 1) * 2 ^ F.lastBit q' := by
          rw [← zpow_natCast, ← zpow_add₀ (by norm_num), ← zpow_add₀ (by norm_num)]
          exact zpow_le_zpow_right₀ (by norm_num) (by omega)
      _ ≤ F.nearest q' := mul_le_mul_of_nonneg_right hhigh (by positivity)

/-- Rounding keeps the size of a number that is as large as the first with a bit too many. -/
theorem le_nearest (h : 2 ^ F.precision ≤ q) : 2 ^ F.precision ≤ F.nearest q := by
  have h0 : 0 < q := lt_of_lt_of_le (by positivity) h
  have hlog : (F.precision : ℤ) ≤ Int.log 2 q := by
    rw [← Int.zpow_le_iff_le_log (b := 2) (by norm_num) h0]
    exact_mod_cast h
  have hbit : F.lastBit q = Int.log 2 q + 1 - F.precision := by
    have := F.minExp_nonpos
    rw [lastBit, max_eq_left (by omega)]
  have hscaled : (2 : ℚ) ^ ((F.precision : ℤ) - 1) ≤ roundHalfEven (q / 2 ^ F.lastBit q) := by
    have hle := F.le_scaled h0 (by have := F.minExp_nonpos; omega)
    rw [F.two_pow_pred] at hle ⊢
    have hround := roundHalfEven_mono hle
    rw [roundHalfEven_intCast] at hround
    exact_mod_cast hround
  calc (2 : ℚ) ^ F.precision ≤ 2 ^ Int.log 2 q := by
        rw [← zpow_natCast]
        exact zpow_le_zpow_right₀ (by norm_num) hlog
    _ = 2 ^ ((F.precision : ℤ) - 1) * 2 ^ F.lastBit q := by
        rw [← zpow_add₀ (by norm_num), hbit]
        congr 1
        ring
    _ ≤ F.nearest q := mul_le_mul_of_nonneg_right hscaled (by positivity)

/-- Integers of at most `precision` bits are rounded to themselves. -/
theorem nearest_natCast {n : ℕ} (hmax : 0 ≤ F.maxExp) (h : n < 2 ^ F.precision) :
    F.nearest n = n :=
  F.nearest_of_representable ⟨n, 0, h, F.minExp_nonpos, hmax, by simp⟩

/-- No other integer is rounded to a number as small as these. -/
theorem eq_of_nearest_natCast {n : ℕ} (hmax : 0 ≤ F.maxExp) (hq : q < 2 ^ F.precision)
    (h : F.nearest n = q) : q = n := by
  have hn : n < 2 ^ F.precision := by
    by_contra hge
    have hle := F.le_nearest (q := n) (by exact_mod_cast not_lt.1 hge)
    rw [h] at hle
    exact absurd hq (not_lt.2 hle)
  rw [← h, F.nearest_natCast hmax hn]

/-! Rounding of either sign. -/

/-- The number of the format nearest to a rational, as long as that is within its limit. -/
def round (q : ℚ) : ℚ := if q < 0 then -F.nearest (-q) else F.nearest q

theorem round_of_nonneg (h : 0 ≤ q) : F.round q = F.nearest q := if_neg (not_lt.2 h)

theorem round_of_neg (h : q < 0) : F.round q = -F.nearest (-q) := if_pos h

theorem round_nonneg (h : 0 ≤ q) : 0 ≤ F.round q := by
  rw [F.round_of_nonneg h]
  exact F.nearest_nonneg h

theorem round_nonpos (h : q < 0) : F.round q ≤ 0 := by
  rw [F.round_of_neg h]
  exact neg_nonpos.2 (F.nearest_nonneg (neg_nonneg.2 h.le))

theorem round_mono : Monotone F.round := by
  intro q q' h
  rcases lt_or_ge q 0 with hneg | hpos
  · rcases lt_or_ge q' 0 with hneg' | hpos'
    · rw [F.round_of_neg hneg, F.round_of_neg hneg']
      exact neg_le_neg (F.nearest_mono (neg_nonneg.2 hneg'.le) (neg_le_neg h))
    · exact (F.round_nonpos hneg).trans (F.round_nonneg hpos')
  · rw [F.round_of_nonneg hpos, F.round_of_nonneg (hpos.trans h)]
    exact F.nearest_mono hpos h

theorem round_round (q : ℚ) : F.round (F.round q) = F.round q := by
  rcases lt_or_ge q 0 with hneg | hpos
  · have hq : 0 ≤ -q := neg_nonneg.2 hneg.le
    rcases (F.nearest_nonneg hq).eq_or_lt with hzero | hsome
    · have hround : F.round q = 0 := by rw [F.round_of_neg hneg, ← hzero, neg_zero]
      rw [hround]
      simp [round, nearest, roundHalfEven]
    · rw [F.round_of_neg hneg, F.round_of_neg (neg_neg_of_pos hsome), neg_neg, F.nearest_nearest hq]
  · rw [F.round_of_nonneg hpos, F.round_of_nonneg (F.nearest_nonneg hpos), F.nearest_nearest hpos]

/-- Numbers of few enough bits, of either sign, are left alone. -/
theorem round_of_bits {n e : ℤ} (hn : n.natAbs < 2 ^ F.precision) (he : F.minExp ≤ e) :
    F.round (n * 2 ^ e) = n * 2 ^ e := by
  rcases lt_or_ge n 0 with hneg | hpos
  · have habs : -((n : ℚ) * 2 ^ e) = n.natAbs * 2 ^ e := by
      rw [← neg_mul, Nat.cast_natAbs, abs_of_neg hneg, Int.cast_neg]
    have hlt : (n : ℚ) * 2 ^ e < 0 := mul_neg_of_neg_of_pos (by exact_mod_cast hneg) (by positivity)
    rw [F.round_of_neg hlt, habs, F.nearest_of_bits hn he, ← habs, neg_neg]
  · have habs : (n : ℚ) * 2 ^ e = n.natAbs * 2 ^ e := by
      rw [Nat.cast_natAbs, abs_of_nonneg hpos]
    rw [habs, F.round_of_nonneg (by positivity), F.nearest_of_bits hn he]

/-- The root of a number. It is cut off below the last place of every float, and half a unit stands in
that place for what is cut off, so it is rounded as it would be in full. -/
def sqrt (q : ℚ) : ℚ :=
  let places := (1 - F.minExp).toNat
  let k := Nat.sqrt ⌊q * 4 ^ places⌋₊
  F.nearest ((if (k : ℚ) ^ 2 = q * 4 ^ places then (k : ℚ) else k + 1 / 2) / 2 ^ places)

theorem sqrt_nonneg (q : ℚ) : 0 ≤ F.sqrt q := by
  apply F.nearest_nonneg
  split_ifs <;> positivity

/-! Decimals that read back. -/

/-- The decimal `d * 10 ^ t` rounds to `q`. -/
def ReadsBack (q : ℚ) (d : ℕ) (t : ℤ) : Prop := F.nearest (d * 10 ^ t) = q

instance (q : ℚ) (d : ℕ) (t : ℤ) : Decidable (F.ReadsBack q d t) :=
  inferInstanceAs (Decidable (_ = _))

/-- The last decimal place when `p` more digits follow the first. -/
def place (q : ℚ) (p : ℕ) : ℤ := Int.log 10 q - p

def digitsBelow (q : ℚ) (p : ℕ) : ℕ := ⌊q / 10 ^ place q p⌋₊

/-- With enough digits a number of the format is its own decimal. -/
theorem exists_readsBack (h : F.Representable q) :
    ∃ p, F.ReadsBack q (digitsBelow q p) (place q p) ∨
      F.ReadsBack q (digitsBelow q p + 1) (place q p) := by
  obtain ⟨m, e, -, -, -, hq⟩ := id h
  refine ⟨(Int.log 10 q - min e 0).toNat, .inl ?_⟩
  set t := place q (Int.log 10 q - min e 0).toNat with ht
  have hte : t ≤ e := by rw [ht, place]; omega
  have ht0 : t ≤ 0 := by rw [ht, place]; omega
  obtain ⟨i, hi⟩ := Int.eq_ofNat_of_zero_le (sub_nonneg.2 hte)
  obtain ⟨j, hj⟩ := Int.eq_ofNat_of_zero_le (neg_nonneg.2 ht0)
  have hten : (10 : ℚ) ^ t = 2 ^ t * 5 ^ t := by rw [← mul_zpow]; norm_num
  have hint : q / 10 ^ t = (m * 2 ^ i * 5 ^ j : ℕ) := by
    have h2 : (2 : ℚ) ^ e = 2 ^ i * 2 ^ t := by
      rw [← zpow_natCast, ← zpow_add₀ (by norm_num)]
      congr 1
      omega
    have h5 : (5 : ℚ) ^ j * 5 ^ t = 1 := by
      have hj0 : (j : ℤ) + t = 0 := by omega
      rw [← zpow_natCast, ← zpow_add₀ (by norm_num), hj0, zpow_zero]
    rw [div_eq_iff (by positivity), hten, hq, h2]
    push_cast
    linear_combination (-(m * 2 ^ i * 2 ^ t) : ℚ) * h5
  have hdig : (digitsBelow q (Int.log 10 q - min e 0).toNat : ℚ) = q / 10 ^ t := by
    rw [digitsBelow, ← ht, hint, Nat.floor_natCast]
  rw [ReadsBack, hdig, div_mul_cancel₀ _ (by positivity)]
  exact F.nearest_of_representable h

/-- The fewest digits that read back; among those the closest to the number, a tie to the even. -/
def shortest (h : F.Representable q) : ℕ × ℤ :=
  let p := Nat.find (F.exists_readsBack h)
  let t := place q p
  let closest := (roundHalfEven (q / 10 ^ t)).toNat
  (if F.ReadsBack q closest t then closest
    else if F.ReadsBack q (digitsBelow q p) t then digitsBelow q p else digitsBelow q p + 1, t)

theorem shortest_readsBack (h : F.Representable q) :
    F.ReadsBack q (F.shortest h).1 (F.shortest h).2 := by
  have hspec := Nat.find_spec (F.exists_readsBack h)
  simp only [shortest]
  split_ifs with hc hb
  · exact hc
  · exact hb
  · exact hspec.resolve_left hb

/-- A float of the format: two infinities, two zeros and one not-a-number. -/
inductive Value
  | finite (neg : Bool) (mag : {q : ℚ // F.Representable q})
  | infinity (neg : Bool)
  | nan
deriving DecidableEq

/-- The float nearest to the decimal `d * 10 ^ t` under a sign. -/
def ofDecimal (neg : Bool) (d : ℕ) (t : ℤ) : F.Value :=
  if h : F.nearest (d * 10 ^ t) < F.limit then
    .finite neg ⟨F.nearest (d * 10 ^ t), F.representable_nearest (by positivity) h⟩
  else .infinity neg

/-- The float nearest to a rational. -/
def ofRat (q : ℚ) : F.Value :=
  if h : F.nearest |q| < F.limit then
    .finite (q < 0) ⟨F.nearest |q|, F.representable_nearest (abs_nonneg q) h⟩
  else .infinity (q < 0)

theorem lt_limit (h : F.Representable q) : q < F.limit := by
  obtain ⟨m, e, hm, -, he, rfl⟩ := h
  calc (m : ℚ) * 2 ^ e < 2 ^ F.precision * 2 ^ e :=
        mul_lt_mul_of_pos_right (by exact_mod_cast hm) (by positivity)
    _ ≤ 2 ^ F.precision * 2 ^ F.maxExp :=
        mul_le_mul_of_nonneg_left (zpow_le_zpow_right₀ (by norm_num) he) (by positivity)
    _ = F.limit := by rw [limit, zpow_add₀ (by norm_num), zpow_natCast]

theorem ofDecimal_of_readsBack {neg : Bool} {mag : {q : ℚ // F.Representable q}} {d : ℕ} {t : ℤ}
    (h : F.ReadsBack mag.1 d t) : F.ofDecimal neg d t = .finite neg mag := by
  have hr : F.nearest (d * 10 ^ t) = mag.1 := h
  have hlt : F.nearest (d * 10 ^ t) < F.limit := hr ▸ F.lt_limit mag.2
  rw [ofDecimal, dif_pos hlt]
  exact congrArg _ (Subtype.ext hr)

end FloatFormat
