import Mathlib.Data.List.Sort

/-! Medians: values that at most half of a list is below, and at most half above. -/
namespace OrderStatistic

variable {α : Type} [LinearOrder α] {l : List α} {i : ℕ} {m x : α}

def IsMedian (l : List α) (m : α) : Prop :=
  2 * l.countP (· < m) ≤ l.length ∧ 2 * l.countP (m < ·) ≤ l.length

/-! Places of an ordered list. -/

section Sorted

variable (h : l.Pairwise (· ≤ ·))

include h

theorem getElem_le_getElem {j : ℕ} (hij : i ≤ j) (hj : j < l.length) : l[i] ≤ l[j] := by
  rcases hij.lt_or_eq with hlt | rfl
  · exact List.pairwise_iff_getElem.1 h i j (by omega) hj hlt
  · exact le_rfl

/-- Only what stands before a place is below it. -/
theorem countP_lt_le (hi : i < l.length) (hx : x ≤ l[i]) : l.countP (· < x) ≤ i := by
  have hdrop : (l.drop i).countP (· < x) = 0 := by
    rw [List.countP_eq_zero]
    intro y hy
    obtain ⟨j, hj, rfl⟩ := List.mem_drop_iff_getElem.1 hy
    have hle := hx.trans (getElem_le_getElem h (Nat.le_add_right i j) (by omega))
    simpa using hle
  have htake : (l.take i).countP (· < x) ≤ i := List.countP_le_length.trans (List.length_take_le i l)
  rw [← List.take_append_drop i l, List.countP_append, hdrop]
  exact htake

/-- Only what stands behind a place is above it. -/
theorem countP_gt_le (hi : i < l.length) (hx : l[i] ≤ x) :
    l.countP (x < ·) + (i + 1) ≤ l.length := by
  have htake : (l.take (i + 1)).countP (x < ·) = 0 := by
    rw [List.countP_eq_zero]
    intro y hy
    obtain ⟨j, hj, rfl⟩ := List.mem_take_iff_getElem.1 hy
    have hle := (getElem_le_getElem h (show j ≤ i by omega) hi).trans hx
    simpa using hle
  have hdrop : (l.drop (i + 1)).countP (x < ·) ≤ l.length - (i + 1) :=
    List.countP_le_length.trans (List.length_drop ..).le
  have hsplit : l.countP (x < ·) = (l.take (i + 1)).countP (x < ·) + (l.drop (i + 1)).countP (x < ·) := by
    rw [← List.countP_append, List.take_append_drop]
  omega

/-- What lies between the two places in the middle is a median. -/
theorem isMedian_of_middle {j : ℕ} (hij : i ≤ j) (hmiddle : i + j + 1 = l.length)
    (hi : i < l.length) (hj : j < l.length) (hclose : j ≤ i + 1) (hlow : l[i] ≤ m) (hhigh : m ≤ l[j]) :
    IsMedian l m := by
  have hbelow := countP_lt_le h hj hhigh
  have habove := countP_gt_le h hi hlow
  constructor
  · omega
  · omega

end Sorted

/-! What a median says. -/

theorem IsMedian.perm {l' : List α} (h : IsMedian l m) (hperm : l.Perm l') : IsMedian l' m := by
  rw [IsMedian, ← hperm.countP_eq, ← hperm.countP_eq, ← hperm.length_eq]
  exact h

/-- If fewer than half are below a bound, a median is not. -/
theorem IsMedian.le_of_few (h : IsMedian l m) (hfew : 2 * l.countP (· < x) < l.length) : x ≤ m := by
  by_contra hlt
  have hle : l.countP (fun y => ¬decide (m < y)) ≤ l.countP (· < x) := by
    apply List.countP_mono_left
    intro y _ hy
    have hym : y ≤ m := by simpa using hy
    simpa using hym.trans_lt (not_le.1 hlt)
  have hsplit := List.length_eq_countP_add_countP (fun y => decide (m < y)) (l := l)
  have habove := h.2
  omega

/-- If fewer than half are above a bound, a median is not. -/
theorem IsMedian.ge_of_few (h : IsMedian l m) (hfew : 2 * l.countP (x < ·) < l.length) : m ≤ x := by
  by_contra hlt
  have hle : l.countP (fun y => ¬decide (y < m)) ≤ l.countP (x < ·) := by
    apply List.countP_mono_left
    intro y _ hy
    have hmy : m ≤ y := by simpa using hy
    simpa using (not_le.1 hlt).trans_le hmy
  have hsplit := List.length_eq_countP_add_countP (fun y => decide (y < m)) (l := l)
  have hbelow := h.1
  omega

end OrderStatistic
