import Mathlib.Data.List.Infix
import Mathlib.Order.MinMax
import Mathlib.Tactic.Tauto

/-! Following a list that grows at its end by a cursor: the greatest key met so far. -/
namespace Cursor

variable {α κ : Type} [LinearOrder κ] (key : α → κ) {after : κ} {m : α} {l l' page rest : List α}

/-- What lies above the cursor. -/
def above (after : κ) (l : List α) : List α := l.filter fun m => after < key m

/-- The cursor after a page. -/
def advance (after : κ) (page : List α) : κ := page.foldl (fun after m => max after (key m)) after

theorem above_prefix (h : l <+: l') : above key after l <+: above key after l' := h.filter _

theorem lt_key_of_mem_above (h : m ∈ above key after l) : after < key m := by
  simpa using (List.mem_filter.1 h).2

theorem advance_lt_iff {k : κ} :
    advance key after page < k ↔ after < k ∧ ∀ m ∈ page, key m < k := by
  induction page generalizing after with
  | nil => simp [advance]
  | cons m page ih =>
    rw [advance, List.foldl_cons, ← advance, ih, max_lt_iff, List.forall_mem_cons, and_assoc]

/-- After a page has been read off the front of what lies above the cursor, the rest of it lies
above the advanced cursor. -/
theorem above_advance (hsorted : l.Pairwise fun m m' => key m < key m')
    (h : above key after l = page ++ rest) : above key (advance key after page) l = rest := by
  have hkept : above key (advance key after page) l =
      (above key after l).filter fun m => advance key after page < key m := by
    rw [above, above, List.filter_filter]
    refine List.filter_congr fun m _ => ?_
    rw [Bool.eq_iff_iff, Bool.and_eq_true, decide_eq_true_iff, decide_eq_true_iff, advance_lt_iff]
    tauto
  have habove : (page ++ rest).Pairwise fun m m' => key m < key m' := h ▸ hsorted.filter _
  have hread : page.filter (fun m => advance key after page < key m) = [] := by
    refine List.filter_eq_nil_iff.2 fun m hm => ?_
    rw [decide_eq_true_iff, advance_lt_iff]
    exact fun hlt => lt_irrefl _ (hlt.2 m hm)
  have hunread : rest.filter (fun m => advance key after page < key m) = rest := by
    refine List.filter_eq_self.2 fun m hm => ?_
    rw [decide_eq_true_iff, advance_lt_iff]
    exact ⟨lt_key_of_mem_above key (h ▸ List.mem_append_right _ hm),
      fun m' hm' => (List.pairwise_append.1 habove).2.2 m' hm' m hm⟩
  rw [hkept, h, List.filter_append, hread, hunread, List.nil_append]

end Cursor
