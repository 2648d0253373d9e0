import Mathlib.Data.List.Basic
import Mathlib.Data.List.Forall2
import Mathlib.Data.List.Pairwise

/-! Tables under uniqueness constraints: no two of their rows clash. -/

structure Table {R : Type} (Clash : R → R → Prop) where
  rows : List R
  apart : rows.Pairwise fun r r' => ¬Clash r r'

namespace Table

variable {R : Type} {Clash : R → R → Prop}

def empty : Table Clash := ⟨[], .nil⟩

/-- Adds a row, or refuses one that clashes with a row already there. -/
def insert [DecidableRel Clash] (t : Table Clash) (r : R) : Option (Table Clash) :=
  if h : ∃ r' ∈ t.rows, Clash r' r then none
  else
    some
      { rows := t.rows ++ [r]
        apart := List.pairwise_append.2 ⟨t.apart, List.pairwise_singleton _ _, by
          intro a ha b hb hab
          rw [List.mem_singleton.1 hb] at hab
          exact h ⟨a, ha, hab⟩⟩ }

/-- Rows that clash are one row. -/
theorem eq_of_clash {t : Table Clash} {r r' : R} (hsymm : ∀ {a b}, Clash a b → Clash b a)
    (hr : r ∈ t.rows) (hr' : r' ∈ t.rows) (h : Clash r r') : r = r' := by
  by_contra hne
  have hapart : Std.Symm fun a b : R => ¬Clash a b := ⟨fun a b hab hba => hab (hsymm hba)⟩
  exact t.apart.forall hr hr' hne h

variable [DecidableRel Clash] {t t' : Table Clash} {r : R}

theorem insert_eq_none : t.insert r = none ↔ ∃ r' ∈ t.rows, Clash r' r := by
  unfold insert
  split_ifs with h <;> simp [h]

theorem insert_eq_some (h : t.insert r = some t') :
    t'.rows = t.rows ++ [r] ∧ ∀ r' ∈ t.rows, ¬Clash r' r := by
  unfold insert at h
  split_ifs at h with hc
  obtain rfl := Option.some.inj h
  exact ⟨rfl, fun r' hr' hclash => hc ⟨r', hr', hclash⟩⟩

theorem exists_insert (h : ∀ r' ∈ t.rows, ¬Clash r' r) : ∃ t', t.insert r = some t' := by
  cases ht : t.insert r with
  | none =>
    obtain ⟨r', hr', hclash⟩ := insert_eq_none.1 ht
    exact absurd hclash (h r' hr')
  | some t' => exact ⟨t', rfl⟩

/-! What the rows are held for. -/

section Justify

variable {D : Type} {P : R → D → Prop} {rows : List R} {justified : List D}

theorem exists_of_mem_justified (h : List.Forall₂ P rows justified) {d : D} (hd : d ∈ justified) :
    ∃ r ∈ rows, P r d := by
  obtain ⟨n, hn, rfl⟩ := List.getElem_of_mem hd
  have hn' : n < rows.length := h.length_eq ▸ hn
  exact ⟨rows[n], List.getElem_mem hn', h.get hn' hn⟩

/-- Where each row has a justification, there is a list of them, as far apart as the rows. -/
theorem exists_justified {Apart : R → R → Prop} (Apart' : D → D → Prop) (h : ∀ r ∈ rows, ∃ d, P r d)
    (hrows : rows.Pairwise Apart) (hapart : ∀ r r' d d', Apart r r' → P r d → P r' d' → Apart' d d') :
    ∃ justified, List.Forall₂ P rows justified ∧ justified.Pairwise Apart' := by
  induction rows with
  | nil => exact ⟨[], .nil, .nil⟩
  | cons r rows ih =>
    obtain ⟨hfar, hrows⟩ := List.pairwise_cons.1 hrows
    obtain ⟨justified, hjustified, hpair⟩ := ih (fun r hr => h r (List.mem_cons_of_mem _ hr)) hrows
    obtain ⟨d, hd⟩ := h r List.mem_cons_self
    refine ⟨d :: justified, .cons hd hjustified, List.pairwise_cons.2 ⟨?_, hpair⟩⟩
    intro d' hd'
    obtain ⟨r', hr', hheld⟩ := exists_of_mem_justified hjustified hd'
    exact hapart r r' d d' (hfar r' hr') hd hheld

/-- They are counted alike. -/
theorem countP_justified {p : R → Bool} {q : D → Bool} (h : List.Forall₂ P rows justified)
    (hiff : ∀ r d, P r d → p r = q d) : rows.countP p = justified.countP q := by
  induction h with
  | nil => rfl
  | @cons r d rows justified hd _ ih =>
    rw [List.countP_cons, List.countP_cons, ih, hiff r d hd]

end Justify

end Table
