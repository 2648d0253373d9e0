import Mathlib.Data.Nat.Notation
import Mathlib.Logic.Function.Basic

/-! Programs over shared atomic operations, run interleaved, with crashes between any two steps. -/

/-- A program that performs one operation at a time and acts on what it returns. -/
inductive Prog (Op : Type) (Ret : Op → Type) (α : Type)
  | done (a : α)
  | call (op : Op) (next : Ret op → Prog Op Ret α)

namespace Prog

variable {Op : Type} {Ret : Op → Type} {α β σ : Type}

def bind : Prog Op Ret α → (α → Prog Op Ret β) → Prog Op Ret β
  | .done a, f => f a
  | .call op next, f => .call op fun r => (next r).bind f

instance : Monad (Prog Op Ret) where
  pure := .done
  bind := bind

def perform (op : Op) : Prog Op Ret (Ret op) := .call op .done

@[simp] theorem pure_eq (a : α) : (pure a : Prog Op Ret α) = .done a := rfl

@[simp] theorem done_bind (a : α) (f : α → Prog Op Ret β) : (Prog.done a >>= f) = f a := rfl

@[simp] theorem call_bind (op : Op) (next : Ret op → Prog Op Ret α) (f : α → Prog Op Ret β) :
    (Prog.call op next >>= f) = .call op fun r => next r >>= f := rfl

@[simp] theorem perform_bind (op : Op) (f : Ret op → Prog Op Ret β) :
    (perform op >>= f) = .call op f := rfl

/-- A run on its own, every operation answered by a function of the state. -/
def eval (answer : (op : Op) → σ → Ret op × σ) : Prog Op Ret α → σ → α × σ
  | .done a, s => (a, s)
  | .call op next, s => (next (answer op s).1).eval answer (answer op s).2

variable (answer : (op : Op) → σ → Ret op × σ)

@[simp] theorem eval_done (a : α) (s : σ) : (Prog.done a : Prog Op Ret α).eval answer s = (a, s) := rfl

@[simp] theorem eval_call (op : Op) (next : Ret op → Prog Op Ret α) (s : σ) :
    (Prog.call op next).eval answer s = (next (answer op s).1).eval answer (answer op s).2 := rfl

theorem eval_bind (p : Prog Op Ret α) (f : α → Prog Op Ret β) (s : σ) :
    (p >>= f).eval answer s = (f (p.eval answer s).1).eval answer (p.eval answer s).2 := by
  induction p generalizing s with
  | done a => rfl
  | call op next ih => exact ih _ _

/-- Every operation the program may come to perform is as described. -/
def Performs (P : Op → Prop) : Prog Op Ret α → Prop
  | .done _ => True
  | .call op next => P op ∧ ∀ r, (next r).Performs P

theorem Performs.bind {P : Op → Prop} {p : Prog Op Ret α} {f : α → Prog Op Ret β}
    (h : p.Performs P) (hf : ∀ a, (f a).Performs P) : (p >>= f).Performs P := by
  induction p with
  | done a => exact hf a
  | call op next ih => exact ⟨h.1, fun r => ih r (h.2 r)⟩

theorem Performs.perform_bind {P : Op → Prop} {op : Op} {f : Ret op → Prog Op Ret α} (h : P op)
    (hf : ∀ r, (f r).Performs P) : (perform op >>= f).Performs P := ⟨h, hf⟩

/-- The first `n` calls of a run on its own: what is left to do, the state, and the calls. -/
def advance (answer : (op : Op) → σ → Ret op × σ) :
    ℕ → Prog Op Ret α → σ → Prog Op Ret α × σ × List ((op : Op) × Ret op)
  | 0, p, s => (p, s, [])
  | _ + 1, .done a, s => (.done a, s, [])
  | n + 1, .call op next, s =>
    let rest := (next (answer op s).1).advance answer n (answer op s).2
    (rest.1, rest.2.1, ⟨op, (answer op s).1⟩ :: rest.2.2)

theorem advance_add (m n : ℕ) (p : Prog Op Ret α) (s : σ) : p.advance answer (m + n) s =
    let first := p.advance answer m s
    let rest := first.1.advance answer n first.2.1
    (rest.1, rest.2.1, first.2.2 ++ rest.2.2) := by
  induction m generalizing p s with
  | zero => simp [advance]
  | succ m ih =>
    cases p with
    | done a => cases n <;> simp [advance]
    | call op next => simp [advance, Nat.succ_add, ih]

/-- Some number of calls completes a program. -/
theorem exists_advance (p : Prog Op Ret α) (s : σ) : ∃ n calls,
    p.advance answer n s = (.done (p.eval answer s).1, (p.eval answer s).2, calls) := by
  induction p generalizing s with
  | done a => exact ⟨0, [], rfl⟩
  | call op next ih =>
    obtain ⟨n, calls, h⟩ := ih (answer op s).1 (answer op s).2
    exact ⟨n + 1, ⟨op, (answer op s).1⟩ :: calls, by simp only [advance, h, eval_call]⟩

end Prog

namespace Interleave

variable (Req : Type) {Op : Type} (Ret : Op → Type) (α σ : Type)

/-- The shared state and the handlers under way, each with the request it is for. -/
structure Config where
  store : σ
  handlers : ℕ → Option (Req × Prog Op Ret α)

/-- What happens in a run. -/
inductive Event
  | started (req : Req)
  | called (req : Req) (op : Op) (r : Ret op)
  | returned (req : Req) (a : α)
  | crashed (req : Req)

variable {Req Ret α σ}

/-- The request an event is about. -/
def Event.request : Event Req Ret α → Req
  | .started req | .called req _ _ | .returned req _ | .crashed req => req

/-- One step, of handler `i`. -/
inductive Step (exec : (op : Op) → σ → Ret op → σ → Prop) (program : Req → Prog Op Ret α) :
    Config Req Ret α σ → ℕ → Event Req Ret α → Config Req Ret α σ → Prop
  | start {c : Config Req Ret α σ} (i : ℕ) (req : Req) (h : c.handlers i = none) :
      Step exec program c i (.started req)
        ⟨c.store, Function.update c.handlers i (some (req, program req))⟩
  | call {c : Config Req Ret α σ} (i : ℕ) {req : Req} {op : Op} {next : Ret op → Prog Op Ret α}
      {r : Ret op} {s : σ} (h : c.handlers i = some (req, .call op next))
      (hexec : exec op c.store r s) :
      Step exec program c i (.called req op r)
        ⟨s, Function.update c.handlers i (some (req, next r))⟩
  | finish {c : Config Req Ret α σ} (i : ℕ) {req : Req} {a : α}
      (h : c.handlers i = some (req, .done a)) :
      Step exec program c i (.returned req a) ⟨c.store, Function.update c.handlers i none⟩
  | crash {c : Config Req Ret α σ} (i : ℕ) {req : Req} {p : Prog Op Ret α}
      (h : c.handlers i = some (req, p)) :
      Step exec program c i (.crashed req) ⟨c.store, Function.update c.handlers i none⟩

theorem Step.handlers_of_ne {exec : (op : Op) → σ → Ret op → σ → Prop} {program : Req → Prog Op Ret α}
    {c c' : Config Req Ret α σ} {i j : ℕ} {e : Event Req Ret α} (h : Step exec program c i e c')
    (hne : j ≠ i) : c'.handlers j = c.handlers j := by
  cases h <;> exact Function.update_of_ne hne _ _

/-- The runs from a state in which no handler is under way, with their histories, every step taken
where `ok` admits it. -/
inductive RunWhere (ok : Config Req Ret α σ → ℕ → Event Req Ret α → Prop)
    (exec : (op : Op) → σ → Ret op → σ → Prop) (program : Req → Prog Op Ret α) (s₀ : σ) :
    List (Event Req Ret α) → Config Req Ret α σ → Prop
  | init : RunWhere ok exec program s₀ [] ⟨s₀, fun _ => none⟩
  | step {history : List (Event Req Ret α)} {c c' : Config Req Ret α σ} {i : ℕ}
      {e : Event Req Ret α} (hrun : RunWhere ok exec program s₀ history c)
      (hstep : Step exec program c i e c') (hok : ok c i e) :
      RunWhere ok exec program s₀ (history ++ [e]) c'

/-- All runs. -/
abbrev Run (exec : (op : Op) → σ → Ret op → σ → Prop) (program : Req → Prog Op Ret α) (s₀ : σ) :
    List (Event Req Ret α) → Config Req Ret α σ → Prop :=
  RunWhere (fun _ _ _ => True) exec program s₀

/-- Whatever happens is about a request that was started. -/
theorem RunWhere.started {ok : Config Req Ret α σ → ℕ → Event Req Ret α → Prop}
    {exec : (op : Op) → σ → Ret op → σ → Prop} {program : Req → Prog Op Ret α} {s₀ : σ}
    {history : List (Event Req Ret α)} {c : Config Req Ret α σ}
    (h : RunWhere ok exec program s₀ history c) :
    (∀ i req p, c.handlers i = some (req, p) → .started req ∈ history) ∧
      ∀ e ∈ history, .started e.request ∈ history := by
  induction h with
  | init => exact ⟨nofun, nofun⟩
  | @step history c c' i e hrun hstep hok ih =>
    obtain ⟨hhandlers, hevents⟩ := ih
    have hrequest : .started e.request ∈ history ++ [e] := by
      cases hstep with
      | start req h => simp [Event.request]
      | call h hexec => exact List.mem_append_left _ (hhandlers _ _ _ h)
      | finish h => exact List.mem_append_left _ (hhandlers _ _ _ h)
      | crash h => exact List.mem_append_left _ (hhandlers _ _ _ h)
    refine ⟨?_, ?_⟩
    · intro j req p hj
      by_cases hji : j = i
      · subst hji
        cases hstep <;> simp only [Function.update_self] at hj <;> cases hj <;> exact hrequest
      · exact List.mem_append_left _ (hhandlers j req p (hstep.handlers_of_ne hji ▸ hj))
    · intro e' he'
      rcases List.mem_append.1 he' with he' | he'
      · exact List.mem_append_left _ (hevents e' he')
      · rw [List.mem_singleton.1 he']
        exact hrequest

/-- What holds of every program and passes to what is left after a call holds of every handler. -/
theorem RunWhere.handlers {ok : Config Req Ret α σ → ℕ → Event Req Ret α → Prop}
    {exec : (op : Op) → σ → Ret op → σ → Prop} {program : Req → Prog Op Ret α} {s₀ : σ}
    {history : List (Event Req Ret α)} {c : Config Req Ret α σ}
    (hrun : RunWhere ok exec program s₀ history c) {P : Req → Prog Op Ret α → Prop}
    (hstart : ∀ req, P req (program req))
    (hcall : ∀ req op next r, P req (.call op next) → P req (next r)) :
    ∀ i req p, c.handlers i = some (req, p) → P req p := by
  induction hrun with
  | init => exact nofun
  | @step history c c' i e hrun hstep hok ih =>
    intro j req p hj
    by_cases hji : j = i
    · subst hji
      cases hstep with
      | start req' h =>
        simp only [Function.update_self] at hj
        cases hj
        exact hstart _
      | call h hexec =>
        simp only [Function.update_self] at hj
        cases hj
        exact hcall _ _ _ _ (ih _ _ _ h)
      | finish h =>
        simp only [Function.update_self] at hj
        cases hj
      | crash h =>
        simp only [Function.update_self] at hj
        cases hj
    · exact ih j req p (hstep.handlers_of_ne hji ▸ hj)

/-- What every operation of the programs preserves holds in every state of every run. -/
theorem RunWhere.invariant {ok : Config Req Ret α σ → ℕ → Event Req Ret α → Prop}
    {exec : (op : Op) → σ → Ret op → σ → Prop} {program : Req → Prog Op Ret α} {s₀ : σ}
    {history : List (Event Req Ret α)} {c : Config Req Ret α σ} {P : Op → Prop} {I : σ → Prop}
    (hrun : RunWhere ok exec program s₀ history c) (hprogram : ∀ req, (program req).Performs P)
    (h₀ : I s₀) (hstep : ∀ op s r s', P op → I s → exec op s r s' → I s') : I c.store := by
  induction hrun with
  | init => exact h₀
  | @step history c c' i e hrun hstep' hok ih =>
    have hhandlers := hrun.handlers (P := fun _ p => p.Performs P) hprogram
      fun req op next r h => h.2 r
    cases hstep' with
    | start req h => exact ih
    | @call req op next r s h hexec => exact hstep op _ r s (hhandlers i req _ h).1 ih hexec
    | finish h => exact ih
    | crash h => exact ih

/-- A run is one of another execution too, if what its handlers call has the same effects there. -/
theorem RunWhere.reexec {ok : Config Req Ret α σ → ℕ → Event Req Ret α → Prop}
    {exec exec' : (op : Op) → σ → Ret op → σ → Prop} {program : Req → Prog Op Ret α} {s₀ : σ}
    {history : List (Event Req Ret α)} {c : Config Req Ret α σ} {P : Req → Op → Prop} {I : σ → Prop}
    (hrun : RunWhere ok exec program s₀ history c)
    (hprogram : ∀ req, (program req).Performs (P req)) (h₀ : I s₀)
    (hstep : ∀ req op s r s', .called req op r ∈ history → P req op → I s → exec op s r s' →
      exec' op s r s' ∧ I s') :
    RunWhere ok exec' program s₀ history c ∧ I c.store := by
  induction hrun with
  | init => exact ⟨.init, h₀⟩
  | @step history c c' i e hrun hstep' hok ih =>
    obtain ⟨hrun', hI⟩ := ih fun req op s r s' hmem =>
      hstep req op s r s' (List.mem_append_left _ hmem)
    have hhandlers := hrun.handlers (P := fun req p => p.Performs (P req)) hprogram
      fun req op next r h => h.2 r
    cases hstep' with
    | start req h => exact ⟨hrun'.step (.start i req h) hok, hI⟩
    | @call req op next r s h hexec =>
      obtain ⟨hexec', hs⟩ := hstep req op c.store r s (List.mem_append_right _ List.mem_cons_self)
        (hhandlers i req _ h).1 hI hexec
      exact ⟨hrun'.step (.call i h hexec') hok, hs⟩
    | finish h => exact ⟨hrun'.step (.finish i h) hok, hI⟩
    | crash h => exact ⟨hrun'.step (.crash i h) hok, hI⟩

section Alone

variable {ok : Config Req Ret α σ → ℕ → Event Req Ret α → Prop}
  {exec : (op : Op) → σ → Ret op → σ → Prop} {program : Req → Prog Op Ret α} {s₀ : σ}
  {answer : (op : Op) → σ → Ret op × σ} {history : List (Event Req Ret α)} {req : Req}

/-- What a handler did, as events of a run. -/
def calledBy (req : Req) (calls : List ((op : Op) × Ret op)) : List (Event Req Ret α) :=
  calls.map fun call => .called req call.1 call.2

theorem mem_calledBy {op : Op} {r : Ret op} {a : α} {calls : List ((op : Op) × Ret op)}
    (h : ⟨op, r⟩ ∈ calls) :
    .called req op r ∈ history ++ .started req :: calledBy req calls ++ [.returned req a] := by
  have hcalled : .called req op r ∈ (calledBy req calls : List (Event Req Ret α)) :=
    List.mem_map_of_mem h
  exact List.mem_append_left _ (List.mem_append_right _ (List.mem_cons_of_mem _ hcalled))

/-- A handler may take several steps in a row. -/
theorem RunWhere.advance (hanswer : ∀ op s, exec op s (answer op s).1 (answer op s).2) {i n : ℕ}
    {p p' : Prog Op Ret α} {c : Config Req Ret α σ} {s' : σ} {calls : List ((op : Op) × Ret op)}
    (hrun : RunWhere ok exec program s₀ history c) (h : c.handlers i = some (req, p))
    (hp : p.advance answer n c.store = (p', s', calls))
    (hok : ∀ call ∈ calls, ∀ c, ok c i (.called req call.1 call.2)) :
    RunWhere ok exec program s₀ (history ++ calledBy req calls)
      ⟨s', Function.update c.handlers i (some (req, p'))⟩ := by
  induction n generalizing p c history calls with
  | zero =>
    cases hp
    rw [← h, Function.update_eq_self]
    simpa [calledBy] using hrun
  | succ n ih =>
    cases p with
    | done a =>
      cases hp
      rw [← h, Function.update_eq_self]
      simpa [calledBy] using hrun
    | call op next =>
      cases hp
      have hcalled := hrun.step (.call i h (hanswer op c.store)) (hok _ List.mem_cons_self c)
      have hmore := ih hcalled (Function.update_self _ _ _) rfl
        (fun call hcall => hok call (List.mem_cons_of_mem _ hcall))
      rw [Function.update_idem, List.append_assoc] at hmore
      exact hmore

/-- Requests can be served one after the other. -/
theorem Run.serve_alone (hanswer : ∀ op s, exec op s (answer op s).1 (answer op s).2) {n : ℕ} {a : α}
    {s s' : σ} {calls : List ((op : Op) × Ret op)}
    (hrun : Run exec program s₀ history ⟨s, fun _ => none⟩)
    (hp : (program req).advance answer n s = (.done a, s', calls)) :
    Run exec program s₀ (history ++ .started req :: calledBy req calls ++ [.returned req a])
      ⟨s', fun _ => none⟩ := by
  have hstarted := hrun.step (.start 0 req rfl) trivial
  have hdone := hstarted.advance hanswer (Function.update_self _ _ _) hp fun _ _ _ => trivial
  simp only [Function.update_idem] at hdone
  have hlast : Function.update (fun _ => none : ℕ → Option (Req × Prog Op Ret α)) 0
      (some (req, .done a)) 0 = some (req, .done a) := Function.update_self _ _ _
  have hreturned := hdone.step (.finish 0 hlast) trivial
  simpa using hreturned

end Alone

variable (Req Ret α σ) in
/-- What has happened so far, and the shared state it led to. -/
structure Moment where
  past : List (Event Req Ret α)
  now : σ

/-- Facts that other handlers cannot take back: an invariant, what has to hold before an operation
or an answer, and an order on states in which allowed operations only move up. -/
structure Contract (Req : Type) {Op : Type} (Ret : Op → Type) (α σ : Type)
    (exec : (op : Op) → σ → Ret op → σ → Prop) where
  le : σ → σ → Prop
  refl : ∀ s, le s s
  trans : ∀ {s s' s''}, le s s' → le s' s'' → le s s''
  Inv : Moment Req Ret α σ → Prop
  inv_event : ∀ {past s e}, Inv ⟨past, s⟩ → (∀ req op r, e ≠ .called req op r) → Inv ⟨past ++ [e], s⟩
  Allowed : Req → Op → Moment Req Ret α σ → Prop
  allowed_mono : ∀ {req op m m'}, Allowed req op m → m.past <+: m'.past → le m.now m'.now →
    Allowed req op m'
  step : ∀ {req op m r s}, Allowed req op m → Inv m → exec op m.now r s →
    Inv ⟨m.past ++ [.called req op r], s⟩ ∧ le m.now s
  post : Req → α → Moment Req Ret α σ → Prop
  post_mono : ∀ {req a m m'}, post req a m → m.past <+: m'.past → le m.now m'.now → post req a m'

namespace Contract

variable {exec : (op : Op) → σ → Ret op → σ → Prop} (K : Contract Req Ret α σ exec) {β γ : Type}

/-- From a moment on, whatever other handlers do in between, a program keeps to the contract and
ends as `Q` says. -/
def Keeps (req : Req) (Q : β → Moment Req Ret α σ → Prop) :
    Prog Op Ret β → Moment Req Ret α σ → Prop
  | .done a, m => Q a m
  | .call op next, m => K.Allowed req op m ∧
    ∀ m₁ r s, m.past <+: m₁.past → K.le m.now m₁.now → K.Inv m₁ → exec op m₁.now r s →
      Keeps req Q (next r) ⟨m₁.past ++ [.called req op r], s⟩

/-- What a step of the system preserves. -/
structure Good (history : List (Event Req Ret α)) (c : Config Req Ret α σ) : Prop where
  inv : K.Inv ⟨history, c.store⟩
  keeps : ∀ i req p, c.handlers i = some (req, p) → K.Keeps req (K.post req) p ⟨history, c.store⟩
  answers : ∀ req a, .returned req a ∈ history → K.post req a ⟨history, c.store⟩

variable {K} {req : Req}

theorem Keeps.bind {Q : β → Moment Req Ret α σ → Prop} {Q' : γ → Moment Req Ret α σ → Prop}
    {p : Prog Op Ret β} {f : β → Prog Op Ret γ} {m : Moment Req Ret α σ} (h : K.Keeps req Q p m)
    (hf : ∀ a m', Q a m' → K.Keeps req Q' (f a) m') : K.Keeps req Q' (p >>= f) m := by
  induction p generalizing m with
  | done a => exact hf a m h
  | call op next ih =>
    refine ⟨h.1, ?_⟩
    intro m₁ r s hpast hle hinv hexec
    exact ih r (h.2 m₁ r s hpast hle hinv hexec)

theorem Keeps.mono {p : Prog Op Ret α} {m m' : Moment Req Ret α σ}
    (h : K.Keeps req (K.post req) p m) (hpast : m.past <+: m'.past) (hle : K.le m.now m'.now) :
    K.Keeps req (K.post req) p m' := by
  cases p with
  | done a => exact K.post_mono h hpast hle
  | call op next =>
    refine ⟨K.allowed_mono h.1 hpast hle, ?_⟩
    intro m₁ r s hpast₁ hle₁
    exact h.2 m₁ r s (hpast.trans hpast₁) (K.trans hle hle₁)

theorem Good.step {program : Req → Prog Op Ret α}
    (hprog : ∀ req m, K.Inv m → K.Keeps req (K.post req) (program req) m)
    {history : List (Event Req Ret α)} {c c' : Config Req Ret α σ} {i : ℕ} {e : Event Req Ret α}
    (hg : K.Good history c) (hstep : Step exec program c i e c') : K.Good (history ++ [e]) c' := by
  obtain ⟨hinv, hkeeps, hanswers⟩ := hg
  have hpast : history <+: history ++ [e] := List.prefix_append _ _
  -- a handler other than the one that stepped keeps the contract from the later moment
  have hothers : ∀ {s : σ} (q : Option (Req × Prog Op Ret α)), K.le c.store s →
      (∀ req p, q = some (req, p) → K.Keeps req (K.post req) p ⟨history ++ [e], s⟩) →
      ∀ j req p, Function.update c.handlers i q j = some (req, p) →
        K.Keeps req (K.post req) p ⟨history ++ [e], s⟩ := by
    intro s q hle hq j req p hj
    by_cases hji : j = i
    · subst hji
      rw [Function.update_self] at hj
      exact hq req p hj
    · rw [Function.update_of_ne hji] at hj
      exact (hkeeps j req p hj).mono hpast hle
  have hreturned : ∀ {s : σ}, K.le c.store s →
      (∀ req a, e = .returned req a → K.post req a ⟨history ++ [e], s⟩) →
      ∀ req a, .returned req a ∈ history ++ [e] → K.post req a ⟨history ++ [e], s⟩ := by
    intro s hle he req a hmem
    rcases List.mem_append.1 hmem with hmem | hmem
    · exact K.post_mono (hanswers req a hmem) hpast hle
    · exact he req a (List.mem_singleton.1 hmem).symm
  cases hstep with
  | start req h =>
    have hinv' : K.Inv ⟨history ++ [.started req], c.store⟩ := K.inv_event hinv nofun
    refine ⟨hinv', hothers _ (K.refl _) ?_, hreturned (K.refl _) nofun⟩
    rintro req' p ⟨⟩
    exact hprog req _ hinv'
  | @call req op next r s h hexec =>
    obtain ⟨hallowed, hnext⟩ := hkeeps i req _ h
    obtain ⟨hinv', hle⟩ := K.step hallowed hinv hexec
    refine ⟨hinv', hothers _ hle ?_, hreturned hle nofun⟩
    rintro req' p ⟨⟩
    exact hnext ⟨history, c.store⟩ r s List.prefix_rfl (K.refl _) hinv hexec
  | @finish req a h =>
    have hpost : K.Keeps req (K.post req) (.done a) ⟨history ++ [.returned req a], c.store⟩ :=
      (hkeeps i req _ h).mono hpast (K.refl _)
    refine ⟨K.inv_event hinv nofun, hothers _ (K.refl _) (by simp), hreturned (K.refl _) ?_⟩
    rintro req' a' ⟨⟩
    exact hpost
  | crash h =>
    exact ⟨K.inv_event hinv nofun, hothers _ (K.refl _) (by simp), hreturned (K.refl _) nofun⟩

/-- In every run of programs that keep a contract, its invariant holds and every answer is as
promised. -/
theorem good_of_run {ok : Config Req Ret α σ → ℕ → Event Req Ret α → Prop}
    {program : Req → Prog Op Ret α} {s₀ : σ} (h₀ : K.Inv ⟨[], s₀⟩)
    (hprog : ∀ req m, K.Inv m → K.Keeps req (K.post req) (program req) m)
    {history : List (Event Req Ret α)} {c : Config Req Ret α σ}
    (hrun : RunWhere ok exec program s₀ history c) : K.Good history c := by
  induction hrun with
  | init => exact ⟨h₀, nofun, nofun⟩
  | step _ hstep _ ih => exact ih.step hprog hstep

end Contract

end Interleave
