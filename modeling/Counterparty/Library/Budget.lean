import Mathlib.Algebra.BigOperators.Group.Finset.Piecewise
import Mathlib.Algebra.Order.BigOperators.Group.List
import Mathlib.Algebra.Order.Ring.Nat
import Counterparty.Library.Refinement

/-! What the handlers of a run spend is covered by what they earned, whatever a step earns and costs. -/

/-- What is covered one by one, by something else each time, is covered as a whole. -/
theorem List.sum_le_sum_of_cover {α β γ : Type} [AddCommMonoid γ] [PartialOrder γ] [IsOrderedAddMonoid γ]
    {L : List α} {M : List β} {R : α → β → Prop} {w : α → γ} {v : β → γ} (hL : L.Nodup)
    (hcover : ∀ a ∈ L, ∃ b ∈ M, R a b) (hunique : ∀ a a' b, R a b → R a' b → a = a')
    (hworth : ∀ a b, R a b → w a ≤ v b) (hv : ∀ b, 0 ≤ v b) : (L.map w).sum ≤ (M.map v).sum := by
  classical
  induction L generalizing M with
  | nil =>
    apply List.sum_nonneg
    intro x hx
    obtain ⟨b, -, rfl⟩ := List.mem_map.1 hx
    exact hv b
  | cons a L ih =>
    obtain ⟨hnot, hL⟩ := List.nodup_cons.1 hL
    obtain ⟨b, hb, hab⟩ := hcover a List.mem_cons_self
    have hrest : (L.map w).sum ≤ ((M.erase b).map v).sum := by
      apply ih hL
      intro a' ha'
      obtain ⟨b', hb', hab'⟩ := hcover a' (List.mem_cons_of_mem _ ha')
      have hne : b' ≠ b := by
        rintro rfl
        exact hnot (hunique a a' b' hab hab' ▸ ha')
      exact ⟨b', (List.mem_erase_of_ne hne).2 hb', hab'⟩
    calc ((a :: L).map w).sum = w a + (L.map w).sum := by rw [List.map_cons, List.sum_cons]
      _ ≤ v b + ((M.erase b).map v).sum := add_le_add (hworth a b hab) hrest
      _ = (M.map v).sum := by
        rw [((List.perm_cons_erase hb).map v).sum_eq, List.map_cons, List.sum_cons]

namespace Interleave

variable {Req Op α β σ : Type} {Ret : Op → Type} {exec : (op : Op) → σ → Ret op → σ → Prop}
  {ok : Config Req Ret α σ → ℕ → Event Req Ret α → Prop} {program : Req → Prog Op Ret α} {s₀ : σ}
  {history : List (Event Req Ret α)} {c c' : Config Req Ret α σ} {i : ℕ} {e : Event Req Ret α}

/-- What an answered call earns and what it costs. -/
structure Tariff (Req : Type) {Op : Type} (Ret : Op → Type) where
  earns : Req → (op : Op) → Ret op → ℕ
  costs : Req → (op : Op) → Ret op → ℕ

namespace Tariff

variable (T : Tariff Req Ret) (Possible : (op : Op) → Ret op → Prop)

/-- With so much to spend, a program never spends more than it has. -/
def Affords (req : Req) (Q : ℕ → β → Prop) : Prog Op Ret β → ℕ → Prop
  | .done a, b => Q b a
  | .call op next, b => ∀ r, Possible op r → T.costs req op r ≤ b + T.earns req op r ∧
      Affords req Q (next r) (b + T.earns req op r - T.costs req op r)

def eventEarns : Event Req Ret α → ℕ
  | .called req op r => T.earns req op r
  | _ => 0

def eventCosts : Event Req Ret α → ℕ
  | .called req op r => T.costs req op r
  | _ => 0

def earned (history : List (Event Req Ret α)) : ℕ := (history.map T.eventEarns).sum

def spent (history : List (Event Req Ret α)) : ℕ := (history.map T.eventCosts).sum

variable {T Possible} {req : Req} {b : ℕ}

theorem Affords.bind {Q : ℕ → α → Prop} {p : Prog Op Ret β} {f : β → Prog Op Ret α}
    (h : T.Affords Possible req (fun b a => T.Affords Possible req Q (f a) b) p b) :
    T.Affords Possible req Q (p >>= f) b := by
  induction p generalizing b with
  | done a => exact h
  | call op next ih =>
    intro r hr
    obtain ⟨hcosts, hnext⟩ := h r hr
    exact ⟨hcosts, ih r hnext⟩

theorem Affords.mono {Q Q' : ℕ → β → Prop} {p : Prog Op Ret β}
    (h : T.Affords Possible req Q p b) (hQ : ∀ b a, Q b a → Q' b a) :
    T.Affords Possible req Q' p b := by
  induction p generalizing b with
  | done a => exact hQ b a h
  | call op next ih =>
    intro r hr
    obtain ⟨hcosts, hnext⟩ := h r hr
    exact ⟨hcosts, ih r hnext⟩

theorem earned_append (history : List (Event Req Ret α)) (e : Event Req Ret α) :
    T.earned (history ++ [e]) = T.earned history + T.eventEarns e := by
  simp [earned]

theorem spent_append (history : List (Event Req Ret α)) (e : Event Req Ret α) :
    T.spent (history ++ [e]) = T.spent history + T.eventCosts e := by
  simp [spent]

/-- Programs that are made of programs that can always pay. -/
theorem affords_expand {Op₀ : Type} {Ret₀ : Op₀ → Type} {f : (op : Op₀) → Prog Op Ret (Ret₀ op)}
    (h : ∀ op b, T.Affords Possible req (fun _ _ => True) (f op) b) (p : Prog Op₀ Ret₀ β) (b : ℕ) :
    T.Affords Possible req (fun _ _ => True) (p.expand f) b := by
  induction p generalizing b with
  | done a => trivial
  | call op next ih => exact Affords.bind ((h op b).mono fun b r _ => ih r b)

/-- What earns nothing never costs anything. -/
theorem costs_eq_zero_of_spent {e : Event Req Ret α} (h : T.spent history ≤ 0) (he : e ∈ history) :
    T.eventCosts e = 0 := by
  have hle : T.eventCosts e ≤ T.spent history :=
    List.single_le_sum (fun _ _ => Nat.zero_le _) _ (List.mem_map_of_mem he)
  omega

/-- What an answer costs. -/
def eventClaims (claims : Req → α → ℕ) : Event Req Ret α → ℕ
  | .returned req a => claims req a
  | _ => 0

def claimed (claims : Req → α → ℕ) (history : List (Event Req Ret α)) : ℕ :=
  (history.map (eventClaims claims)).sum

theorem claimed_append (claims : Req → α → ℕ) (history : List (Event Req Ret α)) (e : Event Req Ret α) :
    claimed claims (history ++ [e]) = claimed claims history + eventClaims claims e := by
  simp [claimed]

/-- What the handlers under way have left; only those of a finite set have anything. -/
structure Balanced (T : Tariff Req Ret) (Possible : (op : Op) → Ret op → Prop) (claims : Req → α → ℕ)
    (history : List (Event Req Ret α)) (c : Config Req Ret α σ) (S : Finset ℕ) (left : ℕ → ℕ) :
    Prop where
  affords : ∀ i req p, c.handlers i = some (req, p) →
    T.Affords Possible req (fun b a => claims req a ≤ b) p (left i)
  outside : ∀ i, i ∉ S → left i = 0
  covered : T.spent history + claimed claims history + ∑ i ∈ S, left i ≤ T.earned history

theorem sum_toNat (p : α → Bool) (l : List α) : (l.map fun a => (p a).toNat).sum = l.countP p := by
  induction l with
  | nil => rfl
  | cons a l ih =>
    cases h : p a <;> simp [h, ih]
    omega

theorem sum_toList {γ : Type} (f : α → Option γ) (l : List α) :
    (l.map fun a => (f a).toList.length).sum = (l.filterMap f).length := by
  induction l with
  | nil => rfl
  | cons a l ih =>
    cases h : f a <;> simp [h, ih]
    omega

theorem sum_insert {S : Finset ℕ} {left : ℕ → ℕ} (h : ∀ i, i ∉ S → left i = 0) (i : ℕ) :
    ∑ j ∈ insert i S, left j = ∑ j ∈ S, left j := by
  by_cases hi : i ∈ S
  · rw [Finset.insert_eq_of_mem hi]
  · rw [Finset.sum_insert hi, h i hi, zero_add]

theorem sum_update {S : Finset ℕ} {left : ℕ → ℕ} (hi : i ∈ S) (b : ℕ) :
    ∑ j ∈ S, Function.update left i b j + left i = ∑ j ∈ S, left j + b := by
  rw [Finset.sum_update_of_mem hi, Finset.sdiff_singleton_eq_erase, ← Finset.add_sum_erase S left hi]
  omega

variable {claims : Req → α → ℕ}

/-- A step of one handler changes what it has left, and nothing else. -/
theorem Balanced.step {S : Finset ℕ} {left : ℕ → ℕ} (h : T.Balanced Possible claims history c S left)
    (hprog : ∀ req, T.Affords Possible req (fun b a => claims req a ≤ b) (program req) 0)
    (hpossible : ∀ req op r, e = .called req op r → Possible op r)
    (hstep : Step exec program c i e c') :
    ∃ S' left', T.Balanced Possible claims (history ++ [e]) c' S' left' := by
  have hgrown : T.Balanced Possible claims history c (insert i S) left := by
    refine ⟨h.affords, ?_, ?_⟩
    · intro j hj
      exact h.outside j fun hS => hj (Finset.mem_insert_of_mem hS)
    · rw [sum_insert h.outside]
      exact h.covered
  have hmem : i ∈ insert i S := Finset.mem_insert_self i S
  -- what handler `i` has left after the step, and the other handlers
  have hmoved : ∀ {b : ℕ} {q : Option (Req × Prog Op Ret α)} {s : σ},
      (∀ req p, q = some (req, p) → T.Affords Possible req (fun b a => claims req a ≤ b) p b) →
      b + T.eventCosts e + eventClaims claims e ≤ left i + T.eventEarns e →
      T.Balanced Possible claims (history ++ [e]) ⟨s, Function.update c.handlers i q⟩ (insert i S)
        (Function.update left i b) := by
    intro b q s hq hb
    refine ⟨?_, ?_, ?_⟩
    · intro j req p hj
      by_cases hji : j = i
      · subst hji
        simp only [Function.update_self] at hj ⊢
        exact hq req p hj
      · simp only [Function.update_of_ne hji] at hj ⊢
        exact h.affords j req p hj
    · intro j hj
      have hji : j ≠ i := fun hji => hj (hji ▸ hmem)
      rw [Function.update_of_ne hji]
      exact hgrown.outside j hj
    · have hsum : ∑ j ∈ insert i S, Function.update left i b j + left i =
          ∑ j ∈ insert i S, left j + b := sum_update hmem b
      have hcovered := hgrown.covered
      rw [spent_append, claimed_append, earned_append]
      omega
  refine ⟨insert i S, ?_⟩
  cases hstep with
  | start req hnone =>
    refine ⟨_, hmoved (b := 0) ?_ (by simp [eventCosts, eventClaims])⟩
    rintro req' p ⟨⟩
    exact hprog req
  | @call req op next r s hhandler hexec =>
    obtain ⟨hcosts, hnext⟩ := h.affords i req _ hhandler r (hpossible req op r rfl)
    refine ⟨_, hmoved (b := left i + T.earns req op r - T.costs req op r) ?_ ?_⟩
    · rintro req' p ⟨⟩
      exact hnext
    · simp only [eventCosts, eventEarns, eventClaims]
      omega
  | @finish req a hhandler =>
    have hanswer : claims req a ≤ left i := h.affords i req _ hhandler
    exact ⟨_, hmoved (b := 0) (by simp) (by simpa [eventCosts, eventEarns, eventClaims] using hanswer)⟩
  | crash hhandler => exact ⟨_, hmoved (b := 0) (by simp) (by simp [eventCosts, eventClaims])⟩

/-- However handlers interleave, and wherever they crash, what they spend and what their answers cost
was earned. -/
theorem spent_claimed_le_earned (hrun : RunWhere ok exec program s₀ history c)
    (hprog : ∀ req, T.Affords Possible req (fun b a => claims req a ≤ b) (program req) 0)
    (hpossible : ∀ req op r, .called req op r ∈ history → Possible op r) :
    T.spent history + claimed claims history ≤ T.earned history := by
  have hbalanced : ∃ S left, T.Balanced Possible claims history c S left := by
    induction hrun with
    | init => exact ⟨∅, fun _ => 0, nofun, fun _ _ => rfl, le_rfl⟩
    | @step history c c' i e hrun hstep hok ih =>
      obtain ⟨S, left, h⟩ := ih fun req op r hmem => hpossible req op r (List.mem_append_left _ hmem)
      refine h.step hprog ?_ hstep
      rintro req op r rfl
      exact hpossible req op r (by simp)
  obtain ⟨S, left, h⟩ := hbalanced
  have hcovered := h.covered
  omega

theorem spent_le_earned (hrun : RunWhere ok exec program s₀ history c)
    (hprog : ∀ req, T.Affords Possible req (fun _ _ => True) (program req) 0)
    (hpossible : ∀ req op r, .called req op r ∈ history → Possible op r) :
    T.spent history ≤ T.earned history := by
  have hfree : ∀ req, T.Affords Possible req (fun b _ => 0 ≤ b) (program req) 0 :=
    fun req => (hprog req).mono fun b _ _ => b.zero_le
  have hle := spent_claimed_le_earned hrun hfree hpossible
  omega

end Tariff

end Interleave
