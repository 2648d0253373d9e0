import Mathlib.Data.List.Sort

/-! Lists sorted by a relation that tells their members apart, and lists of numbers compared place
by place after sorting. -/
namespace Ranking

variable {α : Type} {r : α → α → Prop} {l l' : List α} {a : α}

/-- No two members of the list rank before each other. -/
def Distinguishes (r : α → α → Prop) (l : List α) : Prop :=
  ∀ a ∈ l, ∀ b ∈ l, r a b → r b a → a = b

theorem Distinguishes.filter (h : Distinguishes r l) (p : α → Bool) :
    Distinguishes r (l.filter p) := by
  intro a ha b hb
  exact h a (List.mem_of_mem_filter ha) b (List.mem_of_mem_filter hb)

section Last

variable [DecidableRel r]

theorem orderedInsert_concat {b : α} (h : r a b) :
    (l ++ [b]).orderedInsert r a = l.orderedInsert r a ++ [b] := by
  induction l with
  | nil => exact List.orderedInsert_cons_of_le r [] h
  | cons c l ih =>
    by_cases hc : r a c
    · rw [List.cons_append, List.orderedInsert_cons_of_le r _ hc, List.orderedInsert_cons_of_le r _ hc]
      rfl
    · rw [List.cons_append, List.orderedInsert_of_not_le r _ hc, List.orderedInsert_of_not_le r _ hc,
        ih, List.cons_append]

/-- A last member that ranks behind all others stays last. -/
theorem insertionSort_concat {b : α} (h : ∀ a ∈ l, r a b) :
    (l ++ [b]).insertionSort r = l.insertionSort r ++ [b] := by
  induction l with
  | nil => rfl
  | cons a l ih =>
    rw [List.cons_append, List.insertionSort_cons, List.insertionSort_cons,
      ih fun c hc => h c (List.mem_cons_of_mem _ hc), orderedInsert_concat (h a List.mem_cons_self)]

end Last

variable [DecidableRel r] [Std.Total r] [IsTrans α r]

/-- Whatever order a list is given in, it is sorted the same way. -/
theorem insertionSort_perm (h : Distinguishes r l) (hp : l.Perm l') :
    l.insertionSort r = l'.insertionSort r := by
  refine List.Perm.eq_of_pairwise ?_ (List.pairwise_insertionSort r l)
    (List.pairwise_insertionSort r l')
    ((List.perm_insertionSort r l).trans (hp.trans (List.perm_insertionSort r l').symm))
  intro a b ha hb
  exact h a ((List.mem_insertionSort r).1 ha) b (hp.mem_iff.2 ((List.mem_insertionSort r).1 hb))

/-- What is kept of a sorted list is sorted. -/
theorem filter_insertionSort (h : Distinguishes r l) (p : α → Bool) :
    (l.insertionSort r).filter p = (l.filter p).insertionSort r := by
  have hkept : ((l.insertionSort r).filter p).Pairwise r :=
    (List.pairwise_insertionSort r l).filter p
  have hp : (l.filter p).Perm ((l.insertionSort r).filter p) :=
    (List.perm_insertionSort r l).symm.filter p
  rw [insertionSort_perm (h.filter p) hp, hkept.insertionSort_eq]

/-- The first of a sorted list is the member that ranks before all of them. -/
theorem head?_insertionSort (h : Distinguishes r l) :
    (l.insertionSort r).head? = some a ↔ a ∈ l ∧ ∀ b ∈ l, r a b := by
  have hsorted := List.pairwise_insertionSort r l
  constructor
  · intro hhead
    obtain ⟨rest, hrest⟩ := List.head?_eq_some_iff.1 hhead
    rw [hrest] at hsorted
    have hmem (b : α) : b ∈ l ↔ b ∈ a :: rest := by rw [← hrest, List.mem_insertionSort]
    refine ⟨(hmem a).2 List.mem_cons_self, ?_⟩
    intro b hb
    rcases List.mem_cons.1 ((hmem b).1 hb) with rfl | hlater
    · exact (Std.Total.total b b).elim id id
    · exact (List.pairwise_cons.1 hsorted).1 b hlater
  · rintro ⟨ha, hfirst⟩
    have hin : a ∈ l.insertionSort r := (List.mem_insertionSort r).2 ha
    obtain ⟨b, rest, hrest⟩ := List.exists_cons_of_ne_nil (List.ne_nil_of_mem hin)
    rw [hrest] at hsorted hin ⊢
    rw [List.head?_cons]
    rcases List.mem_cons.1 hin with rfl | hlater
    · rfl
    · have hb : b ∈ l := (List.mem_insertionSort r).1 (hrest ▸ List.mem_cons_self)
      rw [h a ha b hb (hfirst b hb) ((List.pairwise_cons.1 hsorted).1 a hlater)]

section Pointwise

variable {β : Type} [LinearOrder β] {l l' : List β} {a b : β}

theorem forall₂_orderedInsert (hab : a ≤ b) (h : List.Forall₂ (· ≤ ·) l l')
    (hl : l.Pairwise (· ≤ ·)) (hl' : l'.Pairwise (· ≤ ·)) :
    List.Forall₂ (· ≤ ·) (l.orderedInsert (· ≤ ·) a) (l'.orderedInsert (· ≤ ·) b) := by
  induction h generalizing a b with
  | nil => exact .cons hab .nil
  | @cons x y xs ys hxy hrest ih =>
    have hxs := hl.of_cons
    have hys := hl'.of_cons
    rcases le_or_gt a x with hax | hax <;> rcases le_or_gt b y with hby | hby
    · rw [List.orderedInsert_cons_of_le _ _ hax, List.orderedInsert_cons_of_le _ _ hby]
      exact .cons hab (.cons hxy hrest)
    · -- what stood first on the left moves on, and `b` is placed later on the right
      have hsame : xs.orderedInsert (· ≤ ·) x = x :: xs := by
        cases xs with
        | nil => rfl
        | cons x' xs => exact List.orderedInsert_cons_of_le _ _ (List.rel_of_pairwise_cons hl (by simp))
      rw [List.orderedInsert_cons_of_le _ _ hax, List.orderedInsert_of_not_le _ _ hby.not_ge, ← hsame]
      exact .cons (hax.trans hxy) (ih (hxy.trans hby.le) hxs hys)
    · have hsame : ys.orderedInsert (· ≤ ·) y = y :: ys := by
        cases ys with
        | nil => rfl
        | cons y' ys => exact List.orderedInsert_cons_of_le _ _ (List.rel_of_pairwise_cons hl' (by simp))
      rw [List.orderedInsert_of_not_le _ _ hax.not_ge, List.orderedInsert_cons_of_le _ _ hby, ← hsame]
      exact .cons (hax.le.trans hab) (ih (hab.trans hby) hxs hys)
    · rw [List.orderedInsert_of_not_le _ _ hax.not_ge, List.orderedInsert_of_not_le _ _ hby.not_ge]
      exact .cons hxy (ih hab hxs hys)

/-- Where every member grows, so does the least of them, the second least, and so on. -/
theorem forall₂_insertionSort (h : List.Forall₂ (· ≤ ·) l l') :
    List.Forall₂ (· ≤ ·) (l.insertionSort (· ≤ ·)) (l'.insertionSort (· ≤ ·)) := by
  induction h with
  | nil => exact .nil
  | cons hab _ ih =>
    exact forall₂_orderedInsert hab ih (List.pairwise_insertionSort _ _)
      (List.pairwise_insertionSort _ _)

end Pointwise

end Ranking
