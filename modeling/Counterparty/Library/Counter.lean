import Counterparty.Library.Budget
import Counterparty.Library.Trace

/-! Counters: what calls count in the state, and what answers tell of it. -/
namespace Interleave

variable {Req Op α β σ : Type} {Ret : Op → Type} {exec : (op : Op) → σ → Ret op → σ → Prop}
  {ok : Config Req Ret α σ → ℕ → Event Req Ret α → Prop} {program : Req → Prog Op Ret α} {s₀ : σ}
  {history : List (Event Req Ret α)} {c : Config Req Ret α σ}

/-- A call that is counted earns one, and nothing costs anything. -/
def Tariff.counting (counts : (op : Op) → Ret op → Bool) : Tariff Req Ret where
  earns _ op r := (counts op r).toNat
  costs _ _ _ := 0

/-- What tells of nothing is always covered. -/
theorem Tariff.affords_counting {counts : (op : Op) → Ret op → Bool}
    {Possible : (op : Op) → Ret op → Prop} {req : Req} {Q : ℕ → β → Prop} (hQ : ∀ b a, Q b a)
    (p : Prog Op Ret β) (b : ℕ) : (Tariff.counting counts).Affords Possible req Q p b := by
  induction p generalizing b with
  | done a => exact hQ b a
  | call op next ih => exact fun r _ => ⟨Nat.zero_le _, ih r _⟩

/-- A number in the state that counts calls, and answers that tell of such a call for their request. -/
structure Counter (exec : (op : Op) → σ → Ret op → σ → Prop) (program : Req → Prog Op Ret α)
    (s₀ : σ) where
  value : σ → ℕ
  counts : (op : Op) → Ret op → Bool
  tells : Req → α → Bool
  value_start : value s₀ = 0
  value_exec : ∀ {op s r s'}, exec op s r s' → value s' = value s + (counts op r).toNat
  affords : ∀ req, (Tariff.counting counts).Affords (fun _ _ => True) req
    (fun b a => (tells req a).toNat ≤ b) (program req) 0

namespace Counter

/-- The event is a call that is counted. -/
def countedIn (counts : (op : Op) → Ret op → Bool) : Event Req Ret α → Bool
  | .called _ op r => counts op r
  | _ => false

/-- The event is an answer that tells of one. -/
def toldIn (tells : Req → α → Bool) : Event Req Ret α → Bool
  | .returned req a => tells req a
  | _ => false

variable (K : Counter exec program s₀)

def counted (history : List (Event Req Ret α)) : ℕ := history.countP (countedIn K.counts)

def told (history : List (Event Req Ret α)) : ℕ := history.countP (toldIn K.tells)

theorem earned_counting (counts : (op : Op) → Ret op → Bool) (history : List (Event Req Ret α)) :
    (Tariff.counting counts).earned history = history.countP (countedIn counts) := by
  rw [← Tariff.sum_toNat, Tariff.earned]
  congr 1
  apply List.map_congr_left
  intro e he
  cases e <;> rfl

theorem claimed_toldIn (tells : Req → α → Bool) (history : List (Event Req Ret α)) :
    Tariff.claimed (fun req a => (tells req a).toNat) history = history.countP (toldIn tells) := by
  rw [← Tariff.sum_toNat, Tariff.claimed]
  congr 1
  apply List.map_congr_left
  intro e he
  cases e <;> rfl

theorem value_eq (hrun : RunWhere ok exec program s₀ history c) : K.value c.store = K.counted history := by
  induction hrun with
  | init => exact K.value_start
  | @step history c c' i e hrun hstep hok ih =>
    rw [counted, List.countP_append, List.countP_singleton]
    cases hstep with
    | @call req op next r s hhandler hexec =>
      rw [K.value_exec hexec, ih]
      cases hcounts : K.counts op r <;> simp [counted, countedIn, hcounts]
    | start | finish | crash => exact ih

theorem told_le (hrun : RunWhere ok exec program s₀ history c) : K.told history ≤ K.value c.store := by
  have hle := Tariff.spent_claimed_le_earned hrun K.affords fun _ _ _ _ => trivial
  rw [earned_counting, claimed_toldIn] at hle
  rw [K.value_eq hrun]
  exact (Nat.le_add_left _ _).trans hle

variable {E : Trace exec program s₀} {a b i j k : ℕ}

theorem value_mono (hjk : j ≤ k) (hk : k ≤ E.length) :
    K.value (E.config j).store ≤ K.value (E.config k).store := by
  induction k, hjk using Nat.le_induction with
  | base => exact le_rfl
  | succ k hjk ih =>
    apply (ih (by omega)).trans
    rcases (E.step k (by omega)).store_cases with hsame | ⟨op, r, hexec⟩
    · rw [hsame]
    · rw [K.value_exec hexec]
      exact Nat.le_add_right _ _

/-- What is found between two moments was told by no more answers before the first of them, and counted
by no fewer calls before the second. -/
theorem found_between (hai : a ≤ i) (hib : i ≤ b) (hb : b ≤ E.length) :
    K.told (E.past a) ≤ K.value (E.config i).store ∧
      K.value (E.config i).store ≤ K.counted (E.past b) := by
  constructor
  · exact (K.told_le (E.run (by omega))).trans (K.value_mono hai (by omega))
  · have hcounted : K.value (E.config b).store = K.counted (E.past b) := K.value_eq (E.run hb)
    rw [← hcounted]
    exact K.value_mono hib hb

end Counter

end Interleave
