import Mathlib.Algebra.Order.Floor.Ring
import Mathlib.Data.Rat.Floor
import Mathlib.Tactic.Linarith
import Mathlib.Tactic.NormNum
import Mathlib.Tactic.Positivity
import Mathlib.Tactic.Ring

/-! Rounding to the nearest integer or decimal, ties to even, over any ordered field with floors. -/
namespace Rounding

variable {α : Type*} [Field α] [LinearOrder α] [IsStrictOrderedRing α] [FloorRing α] {x y : α}

local instance atLeastTwo_two : Nat.AtLeastTwo 2 := ⟨le_rfl⟩

/-- The nearest integer; a number halfway between two integers goes to the even one. -/
def roundHalfEven (x : α) : ℤ :=
  if Int.fract x < 1 / 2 then ⌊x⌋
  else if 1 / 2 < Int.fract x then ⌊x⌋ + 1
  else if Even ⌊x⌋ then ⌊x⌋ else ⌊x⌋ + 1

/-- `round(x, d)`: the nearest multiple of `10 ^ (-d)`. -/
def roundDigits (d : ℕ) (x : α) : ℚ := roundHalfEven (x * 10 ^ d) / 10 ^ d

theorem roundHalfEven_near (x : α) :
    x ≤ roundHalfEven x + 1 / 2 ∧ (roundHalfEven x : α) ≤ x + 1 / 2 := by
  have hx := Int.floor_add_fract x
  have h0 := Int.fract_nonneg x
  have h1 := Int.fract_lt_one x
  unfold roundHalfEven
  split_ifs <;> push_cast <;> constructor <;> linarith

@[simp] theorem roundHalfEven_intCast (n : ℤ) : roundHalfEven (n : α) = n := by
  simp [roundHalfEven]

theorem roundHalfEven_mono (h : x ≤ y) : roundHalfEven x ≤ roundHalfEven y := by
  by_contra hlt
  have hstep : roundHalfEven y + 1 ≤ roundHalfEven x := by omega
  have hcast : (roundHalfEven y : α) + 1 ≤ roundHalfEven x := by exact_mod_cast hstep
  have hxr := (roundHalfEven_near x).2
  have hyr := (roundHalfEven_near y).1
  -- both roundings sit exactly halfway, so the two numbers coincide
  have he : x = y := le_antisymm h (by linarith)
  subst he
  exact hlt le_rfl

theorem roundDigits_mono (d : ℕ) (h : x ≤ y) : roundDigits d x ≤ roundDigits d y := by
  have hm : roundHalfEven (x * 10 ^ d) ≤ roundHalfEven (y * 10 ^ d) :=
    roundHalfEven_mono (mul_le_mul_of_nonneg_right h (by positivity))
  have hc : (roundHalfEven (x * 10 ^ d) : ℚ) ≤ roundHalfEven (y * 10 ^ d) := by exact_mod_cast hm
  exact div_le_div_of_nonneg_right hc (by positivity)

theorem roundHalfEven_ratCast (q : ℚ) : roundHalfEven (q : α) = roundHalfEven q := by
  have hhalf : (1 / 2 : α) = ((1 / 2 : ℚ) : α) := by norm_num
  have hlt : Int.fract (q : α) < 1 / 2 ↔ Int.fract q < 1 / 2 := by
    rw [← Rat.cast_fract, hhalf, Rat.cast_lt]
  have hgt : 1 / 2 < Int.fract (q : α) ↔ 1 / 2 < Int.fract q := by
    rw [← Rat.cast_fract, hhalf, Rat.cast_lt]
  simp only [roundHalfEven, Rat.floor_cast, hlt, hgt]

theorem roundDigits_ratCast (d : ℕ) (q : ℚ) : roundDigits d (q : α) = roundDigits d q := by
  have h : (q : α) * 10 ^ d = ((q * 10 ^ d : ℚ) : α) := by push_cast; rfl
  rw [roundDigits, h, roundHalfEven_ratCast, ← roundDigits]

theorem roundDigits_near (d : ℕ) (x : α) : x - 1 / 2 / 10 ^ d ≤ (roundDigits d x : ℚ) ∧
    ((roundDigits d x : ℚ) : α) ≤ x + 1 / 2 / 10 ^ d := by
  obtain ⟨hlow, hhigh⟩ := roundHalfEven_near (x * 10 ^ d)
  have hpos : (0 : α) < 10 ^ d := by positivity
  rw [roundDigits]
  push_cast
  constructor
  · rw [le_div_iff₀ hpos, sub_mul, div_mul_cancel₀ _ hpos.ne']
    linarith
  · rw [div_le_iff₀ hpos, add_mul, div_mul_cancel₀ _ hpos.ne']
    exact hhigh

theorem roundDigits_le (d : ℕ) {n : ℤ} (h : x * 10 ^ d ≤ n) : roundDigits d x ≤ n / 10 ^ d := by
  have hm := roundHalfEven_mono h
  rw [roundHalfEven_intCast] at hm
  have hc : (roundHalfEven (x * 10 ^ d) : ℚ) ≤ n := by exact_mod_cast hm
  exact div_le_div_of_nonneg_right hc (by positivity)

theorem le_roundDigits (d : ℕ) {n : ℤ} (h : n ≤ x * 10 ^ d) : n / 10 ^ d ≤ roundDigits d x := by
  have hm := roundHalfEven_mono h
  rw [roundHalfEven_intCast] at hm
  have hc : (n : ℚ) ≤ roundHalfEven (x * 10 ^ d) := by exact_mod_cast hm
  exact div_le_div_of_nonneg_right hc (by positivity)

theorem roundDigits_unit (d : ℕ) (h : 0 ≤ x) (h' : x ≤ 1) :
    0 ≤ roundDigits d x ∧ roundDigits d x ≤ 1 := by
  have hpos : (0 : α) < 10 ^ d := by positivity
  have hlow : ((0 : ℤ) : α) ≤ x * 10 ^ d := by
    push_cast
    positivity
  have hhigh : x * 10 ^ d ≤ ((10 ^ d : ℤ) : α) := by
    push_cast
    exact mul_le_of_le_one_left hpos.le h'
  have hone : ((10 ^ d : ℤ) : ℚ) / 10 ^ d = 1 := by
    push_cast
    exact div_self (by positivity)
  exact ⟨by simpa using le_roundDigits d hlow, hone ▸ roundDigits_le d hhigh⟩

end Rounding
