import Counterparty.Library.Projection

/-! The calls of a run, whatever the programs that make them, as one sequence of atomic steps. -/
namespace Interleave

variable {Req Op α σ Err : Type} {Ret : Op → Type} {exec : (op : Op) → σ → Ret op → σ → Prop}
  {s₀ : σ}

/-- What an event calls, with the answer. -/
def Event.answered : Event Req Ret α → Option ((op : Op) × Ret op)
  | .called _ op r => some ⟨op, r⟩
  | _ => none

/-- The calls of a history, in their order. -/
def calls (history : List (Event Req Ret α)) : List ((op : Op) × Ret op) :=
  history.filterMap Event.answered

/-- Calls are taken where `ok` admits them; nothing else that happens is restricted. -/
def Event.Admitted (ok : (op : Op) → Ret op → Prop) : Event Req Ret α → Prop
  | .called _ op r => ok op r
  | _ => True

/-- The calls that lead from one state to another, with their answers, each one admitted by `ok`. -/
inductive CallsWhere (ok : σ → (op : Op) → Ret op → Prop) (exec : (op : Op) → σ → Ret op → σ → Prop)
    (s₀ : σ) : List ((op : Op) × Ret op) → σ → Prop
  | nil : CallsWhere ok exec s₀ [] s₀
  | call {past : List ((op : Op) × Ret op)} {s s' : σ} {op : Op} {r : Ret op}
      (hcalls : CallsWhere ok exec s₀ past s) (hexec : exec op s r s') (hok : ok s op r) :
      CallsWhere ok exec s₀ (past ++ [⟨op, r⟩]) s'

/-- All sequences of calls. -/
abbrev Calls (exec : (op : Op) → σ → Ret op → σ → Prop) (s₀ : σ) :
    List ((op : Op) × Ret op) → σ → Prop :=
  CallsWhere (fun _ _ _ => True) exec s₀

/-- Whoever makes them, the calls of a run act on the shared state one after the other. -/
theorem RunWhere.callsWhere {ok : σ → (op : Op) → Ret op → Prop} {program : Req → Prog Op Ret α}
    {history : List (Event Req Ret α)} {c : Config Req Ret α σ}
    (h : RunWhere (fun c _ e => e.Admitted (ok c.store)) exec program s₀ history c) :
    CallsWhere ok exec s₀ (calls history) c.store := by
  induction h with
  | init => exact .nil
  | @step history c c' i e hrun hstep hok ih =>
    have hnone (hnot : e.answered = none) : calls (history ++ [e]) = calls history := by
      simp [calls, hnot]
    cases hstep with
    | start req h => exact hnone rfl ▸ ih
    | @call req op next r s h hexec =>
      have hcall : calls (history ++ [.called req op r]) = calls history ++ [⟨op, r⟩] := by
        simp [calls, Event.answered]
      exact hcall ▸ ih.call hexec hok
    | finish h => exact hnone rfl ▸ ih
    | crash h => exact hnone rfl ▸ ih

theorem Run.calls {program : Req → Prog Op Ret α} {history : List (Event Req Ret α)}
    {c : Config Req Ret α σ} (h : Run exec program s₀ history c) :
    Calls exec s₀ (calls history) c.store := by
  have hadmitted (e : Event Req Ret α) : e.Admitted fun _ _ => True := by
    cases e <;> trivial
  exact RunWhere.callsWhere (h.mono (fun _ _ _ _ hexec => hexec) fun _ _ e _ => hadmitted e)

/-- A call of a sequence is made in the state that the calls before it lead to. -/
theorem CallsWhere.split {ok : σ → (op : Op) → Ret op → Prop} {before after : List ((op : Op) × Ret op)}
    {op : Op} {r : Ret op} {s : σ} (h : CallsWhere ok exec s₀ (before ++ ⟨op, r⟩ :: after) s) :
    ∃ s₁ s₂, CallsWhere ok exec s₀ before s₁ ∧ exec op s₁ r s₂ := by
  generalize hpast : before ++ ⟨op, r⟩ :: after = past at h
  induction h generalizing after with
  | nil => simp at hpast
  | @call past s s' op' r' hcalls hexec hok ih =>
    rcases List.eq_nil_or_concat after with rfl | ⟨rest, last, rfl⟩
    · obtain ⟨rfl, hlast⟩ := List.append_inj' hpast rfl
      cases List.singleton_inj.1 hlast
      exact ⟨s, s', hcalls, hexec⟩
    · rw [List.concat_eq_append, ← List.cons_append, ← List.append_assoc] at hpast
      exact ih (List.append_inj' hpast rfl).1

/-- A program for each operation, that calls it. -/
def oneCall (op : Op) : Prog Op Ret Unit := .call op fun _ => .done ()

/-- Every sequence of calls is made by a run, with a request for each call. -/
theorem CallsWhere.exists_run {ok : σ → (op : Op) → Ret op → Prop} {past : List ((op : Op) × Ret op)}
    {s : σ} (h : CallsWhere ok exec s₀ past s) : ∃ history : List (Event Op Ret Unit),
    RunWhere (fun c _ e => e.Admitted (ok c.store)) exec oneCall s₀ history ⟨s, fun _ => none⟩ ∧
      calls history = past := by
  induction h with
  | nil => exact ⟨[], .init, rfl⟩
  | @call past s s' op r hcalls hexec hok ih =>
    obtain ⟨history, hrun, rfl⟩ := ih
    let idle : ℕ → Option (Op × Prog Op Ret Unit) := fun _ => none
    have hwaiting : Function.update idle 0 (some (op, oneCall op)) 0 =
        some (op, .call op fun _ => .done ()) := Function.update_self ..
    have hdone : Function.update idle 0 (some (op, .done ())) 0 = some (op, .done ()) :=
      Function.update_self ..
    have hstarted := hrun.step (.start 0 op rfl) trivial
    have hcalled := hstarted.step (.call 0 hwaiting hexec) hok
    rw [Function.update_idem] at hcalled
    have hreturned := hcalled.step (.finish 0 hdone) trivial
    rw [Function.update_idem, Function.update_eq_self] at hreturned
    exact ⟨_, hreturned, by simp [calls, List.filterMap_cons, Event.answered]⟩

/-- An operation either fails, and changes nothing, or is answered. -/
def Fallible (answer : (op : Op) → σ → Ret op × σ) (op : Op) (s : σ) (r : Except Err (Ret op))
    (s' : σ) : Prop :=
  (s' = s ∧ ∃ error, r = .error error) ∨ (r = .ok (answer op s).1 ∧ s' = (answer op s).2)

theorem CallsWhere.answered {answer : (op : Op) → σ → Ret op × σ}
    {ok : σ → (op : Op) → Except Err (Ret op) → Prop} {past : List ((op : Op) × Except Err (Ret op))}
    {s : σ} (h : CallsWhere ok (Fallible answer) s₀ past s) (op : Op)
    (hok : ok s op (.ok (answer op s).1)) :
    CallsWhere ok (Fallible answer) s₀ (past ++ [⟨op, .ok (answer op s).1⟩]) (answer op s).2 :=
  h.call (.inr ⟨rfl, rfl⟩) hok

/-! One handler that takes its steps in a row, answered in any way that is possible. -/

/-- The calls that lead from a program and a state to what is left of the program, and a state. -/
inductive Leads (exec : (op : Op) → σ → Ret op → σ → Prop) {α : Type} :
    Prog Op Ret α → σ → List ((op : Op) × Ret op) → Prog Op Ret α → σ → Prop
  | refl (p : Prog Op Ret α) (s : σ) : Leads exec p s [] p s
  | call {op : Op} {next : Ret op → Prog Op Ret α} {s s' s'' : σ} {r : Ret op}
      {calls : List ((op : Op) × Ret op)} {p : Prog Op Ret α} (hexec : exec op s r s')
      (h : Leads exec (next r) s' calls p s'') :
      Leads exec (.call op next) s (⟨op, r⟩ :: calls) p s''

theorem Leads.trans {α : Type} {p p' p'' : Prog Op Ret α} {s s' s'' : σ}
    {calls calls' : List ((op : Op) × Ret op)} (h : Leads exec p s calls p' s')
    (h' : Leads exec p' s' calls' p'' s'') : Leads exec p s (calls ++ calls') p'' s'' := by
  induction h with
  | refl p s => exact h'
  | call hexec h ih => exact .call hexec (ih h')

theorem Leads.bind {α β : Type} {p p' : Prog Op Ret α} {s s' : σ} {calls : List ((op : Op) × Ret op)}
    (h : Leads exec p s calls p' s') (next : α → Prog Op Ret β) :
    Leads exec (p >>= next) s calls (p' >>= next) s' := by
  induction h with
  | refl p s => exact .refl _ _
  | call hexec h ih => exact .call hexec ih

/-- A run goes on as its handler leads. -/
theorem Run.leads {Req α : Type} {program : Req → Prog Op Ret α} {history : List (Event Req Ret α)}
    {c : Config Req Ret α σ} {i : ℕ} {req : Req} {p p' : Prog Op Ret α} {s' : σ}
    {calls : List ((op : Op) × Ret op)} (hrun : Run exec program s₀ history c)
    (hhandler : c.handlers i = some (req, p)) (h : Leads exec p c.store calls p' s') :
    Run exec program s₀ (history ++ calledBy req calls)
      ⟨s', Function.update c.handlers i (some (req, p'))⟩ := by
  generalize hs : c.store = s at h
  induction h generalizing c history with
  | refl p s =>
    subst hs
    rw [← hhandler, Function.update_eq_self]
    simpa [calledBy] using hrun
  | @call op next s s' s'' r calls p hexec h ih =>
    subst hs
    have hcalled := hrun.step (.call i hhandler hexec) trivial
    have hmore := ih hcalled (Function.update_self ..) rfl
    rw [Function.update_idem] at hmore
    simpa [calledBy] using hmore

end Interleave
