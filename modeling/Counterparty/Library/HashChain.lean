import Mathlib.Data.Int.Notation
import Mathlib.Data.List.Basic
import Mathlib.Data.List.Forall2
import Mathlib.Data.List.Induction

/-! Chains of numbered entries, each carrying the hash of the one before it. -/

/-- What a chain reads off an entry, and the digest its hash should be. -/
structure ChainView (E H : Type) where
  seq : E → ℤ
  previous : E → H
  hash : E → H
  digest : E → H

namespace ChainView

variable {E H : Type} (V : ChainView E H)

/-- Entries numbered from `n`, the first one following the hash `prev`. -/
def Linked : ℤ → H → List E → Prop
  | _, _, [] => True
  | n, prev, e :: es =>
    V.seq e = n ∧ V.previous e = prev ∧ V.digest e = V.hash e ∧ Linked (n + 1) (V.hash e) es

/-- The hash the next entry has to carry. -/
def tip (prev : H) (es : List E) : H := (es.getLast?.map V.hash).getD prev

variable {V} {n : ℤ} {prev : H} {es : List E} {e : E}

@[simp] theorem tip_nil : V.tip prev [] = prev := rfl

theorem tip_cons : V.tip prev (e :: es) = V.tip (V.hash e) es := by
  cases es with
  | nil => rfl
  | cons e' es => simp [tip, List.getLast?_cons]

/-- A chain grows at its end by an entry numbered next that carries the tip. -/
theorem linked_append :
    V.Linked n prev (es ++ [e]) ↔
      V.Linked n prev es ∧ V.seq e = n + es.length ∧ V.previous e = V.tip prev es ∧
        V.digest e = V.hash e := by
  induction es generalizing n prev with
  | nil => simp [Linked]
  | cons a es ih =>
    simp only [List.cons_append, Linked, ih, tip_cons, List.length_cons]
    constructor
    · rintro ⟨h1, h2, h3, h4, h5, h6⟩
      exact ⟨⟨h1, h2, h3, h4⟩, by omega, h6⟩
    · rintro ⟨⟨h1, h2, h3, h4⟩, h5, h6⟩
      exact ⟨h1, h2, h3, h4, by omega, h6⟩

theorem Linked.digest_eq (h : V.Linked n prev es) : ∀ e ∈ es, V.digest e = V.hash e := by
  induction es generalizing n prev with
  | nil => nofun
  | cons e es ih =>
    obtain ⟨-, -, hdigest, hrest⟩ := h
    exact List.forall_mem_cons.2 ⟨hdigest, ih hrest⟩

/-- The entries of a chain are numbered in their order. -/
theorem Linked.seq_eq (h : V.Linked n prev es) :
    es.map V.seq = (List.range es.length).map fun i : ℕ => n + i := by
  induction es generalizing n prev with
  | nil => rfl
  | cons e es ih =>
    obtain ⟨hseq, -, -, hrest⟩ := h
    rw [List.map_cons, ih hrest, hseq, List.length_cons, List.range_succ_eq_map, List.map_cons,
      List.map_map]
    simp only [Function.comp_def, List.cons.injEq]
    exact ⟨by omega, List.map_congr_left fun i _ => by omega⟩

theorem Linked.pairwise_seq (h : V.Linked n prev es) : es.Pairwise fun e e' => V.seq e ≤ V.seq e' := by
  have hmap : (es.map V.seq).Pairwise (· ≤ ·) := by
    rw [h.seq_eq, List.pairwise_map]
    exact List.pairwise_lt_range.imp fun hlt => by omega
  exact List.pairwise_map.1 hmap

/-- What is left of a chain after its first entries is a chain that follows them. -/
theorem Linked.drop (h : V.Linked n prev es) {k : ℕ} (hk : k ≤ es.length) :
    V.Linked (n + k) (V.tip prev (es.take k)) (es.drop k) := by
  induction es generalizing n prev k with
  | nil =>
    have hzero : k = 0 := Nat.le_zero.1 hk
    subst hzero
    simpa using h
  | cons e es ih =>
    cases k with
    | zero => simpa using h
    | succ k =>
      obtain ⟨-, -, -, hrest⟩ := h
      rw [List.take_succ_cons, List.drop_succ_cons, tip_cons]
      have hnext : n + (k + 1 : ℕ) = n + 1 + k := by omega
      rw [hnext]
      exact ih hrest (Nat.le_of_succ_le_succ hk)

theorem tip_take_drop (k : ℕ) : V.tip (V.tip prev (es.take k)) (es.drop k) = V.tip prev es := by
  induction es generalizing prev k with
  | nil => simp
  | cons e es ih =>
    cases k with
    | zero => simp
    | succ k => rw [List.take_succ_cons, List.drop_succ_cons, tip_cons, tip_cons, ih]

/-- Entries that read the same link up the same. -/
theorem Linked.view {E' H' : Type} {V' : ChainView E' H'} {f : H' → H} {R : E → E' → Prop}
    {prev' : H'} {es' : List E'} (hf : Function.Injective f)
    (hsame : ∀ e e', R e e' → V'.seq e' = V.seq e ∧ V.previous e = f (V'.previous e') ∧
      V.hash e = f (V'.hash e') ∧ V.digest e = f (V'.digest e'))
    (hes : List.Forall₂ R es es') (h : V.Linked n (f prev') es) :
    V'.Linked n prev' es' ∧ V.tip (f prev') es = f (V'.tip prev' es') := by
  induction hes generalizing n prev' with
  | nil => exact ⟨trivial, rfl⟩
  | @cons e e' es es' he hes ih =>
    obtain ⟨hseq, hprevious, hdigest, hrest⟩ := h
    obtain ⟨hseq', hprevious', hhash', hdigest'⟩ := hsame e e' he
    rw [hhash'] at hrest hdigest
    obtain ⟨hlinked, htip⟩ := ih hrest
    refine ⟨⟨hseq'.trans hseq, ?_, ?_, hlinked⟩, ?_⟩
    · exact hf (hprevious'.symm.trans hprevious)
    · exact hf (hdigest'.symm.trans hdigest)
    · rw [tip_cons, tip_cons, hhash']
      exact htip

end ChainView
