import Mathlib.Data.List.Basic
import Counterparty.Library.Interleave

/-! Parts of runs: what a run looks like without the steps of some requests, and from one of its
configurations on. -/
namespace Interleave

variable {Req Op α σ : Type} {Ret : Op → Type} {exec exec' : (op : Op) → σ → Ret op → σ → Prop}
  {ok ok' : Config Req Ret α σ → ℕ → Event Req Ret α → Prop} {program : Req → Prog Op Ret α} {s₀ : σ}
  {history full : List (Event Req Ret α)} {c c' c'' : Config Req Ret α σ} {i : ℕ}
  {e : Event Req Ret α}

theorem Step.mono (h : Step exec program c i e c')
    (hexec : ∀ op s r s', exec op s r s' → exec' op s r s') : Step exec' program c i e c' := by
  cases h with
  | start req h => exact .start i req h
  | call h hcall => exact .call i h (hexec _ _ _ _ hcall)
  | finish h => exact .finish i h
  | crash h => exact .crash i h

theorem RunWhere.mono (h : RunWhere ok exec program s₀ history c)
    (hexec : ∀ op s r s', exec op s r s' → exec' op s r s')
    (hok : ∀ c i e, ok c i e → ok' c i e) : RunWhere ok' exec' program s₀ history c := by
  induction h with
  | init => exact .init
  | step hrun hstep hstepped ih => exact ih.step (hstep.mono hexec) (hok _ _ _ hstepped)

/-! Without the steps of the other requests. -/

section Project

variable (own : Req → Prop) [DecidablePred own]

/-- The handlers under way for the requests that are kept. -/
def ownHandlers (handlers : ℕ → Option (Req × Prog Op Ret α)) (i : ℕ) :
    Option (Req × Prog Op Ret α) :=
  (handlers i).filter fun h => own h.1

variable {own} {handlers : ℕ → Option (Req × Prog Op Ret α)} {req : Req} {p : Prog Op Ret α}

theorem ownHandlers_some (hown : own req) (h : handlers i = some (req, p)) :
    ownHandlers own handlers i = some (req, p) := by
  simp [ownHandlers, h, hown]

theorem ownHandlers_none (h : handlers i = none) : ownHandlers own handlers i = none := by
  simp [ownHandlers, h]

theorem ownHandlers_other (hother : ¬own req) (h : handlers i = some (req, p)) :
    ownHandlers own handlers i = none := by
  simp [ownHandlers, h, Option.filter, hother]

theorem ownHandlers_start (hown : own req) :
    ownHandlers own (Function.update handlers i (some (req, p))) =
      Function.update (ownHandlers own handlers) i (some (req, p)) := by
  funext j
  by_cases hji : j = i
  · subst hji
    rw [Function.update_self]
    exact ownHandlers_some hown (Function.update_self ..)
  · simp [ownHandlers, Function.update_of_ne hji]

theorem ownHandlers_stop :
    ownHandlers own (Function.update handlers i none) =
      Function.update (ownHandlers own handlers) i none := by
  funext j
  by_cases hji : j = i
  · subst hji
    rw [Function.update_self]
    exact ownHandlers_none (Function.update_self ..)
  · simp [ownHandlers, Function.update_of_ne hji]

/-- A step of a request that is not kept does not show. -/
theorem Step.ownHandlers_eq (h : Step exec program c i e c') (hother : ¬own e.request) :
    ownHandlers own c'.handlers = ownHandlers own c.handlers := by
  funext j
  by_cases hji : j = i
  · subst hji
    cases h with
    | start req hnone =>
      rw [ownHandlers_none hnone]
      exact ownHandlers_other hother (Function.update_self ..)
    | call hhandler hexec =>
      rw [ownHandlers_other hother hhandler]
      exact ownHandlers_other hother (Function.update_self ..)
    | finish hhandler =>
      rw [ownHandlers_other hother hhandler]
      exact ownHandlers_none (Function.update_self ..)
    | crash hhandler =>
      rw [ownHandlers_other hother hhandler]
      exact ownHandlers_none (Function.update_self ..)
  · simp [ownHandlers, h.handlers_of_ne hji]

variable (exec program s₀ full own) in
/-- A relation between the state of a run and the state without the steps of other requests: what
the kept requests do can be done there too, with the same results, and what the others do does not
break it. -/
structure Unwinding (R : List (Event Req Ret α) → σ → σ → Prop) : Prop where
  init : R [] s₀ s₀
  quiet : ∀ {history e s t}, R history s t → (∀ req op r, e ≠ .called req op r) →
    R (history ++ [e]) s t
  own_call : ∀ {history c i req op next r s t}, Run exec program s₀ history c →
    c.handlers i = some (req, .call op next) → exec op c.store r s →
    history ++ [.called req op r] ⊆ full → own req → R history c.store t →
    ∃ t', exec op t r t' ∧ R (history ++ [.called req op r]) s t'
  other_call : ∀ {history c i req op next r s t}, Run exec program s₀ history c →
    c.handlers i = some (req, .call op next) → exec op c.store r s →
    history ++ [.called req op r] ⊆ full → ¬own req → R history c.store t →
    R (history ++ [.called req op r]) s t

/-- What is left of a run without the steps of the other requests is a run. -/
theorem Unwinding.project {R : List (Event Req Ret α) → σ → σ → Prop}
    (h : Unwinding exec program s₀ full own R) (hrun : Run exec program s₀ history c)
    (hfull : history ⊆ full) : ∃ t, R history c.store t ∧
      Run exec program s₀ (history.filter fun e => own e.request) ⟨t, ownHandlers own c.handlers⟩ := by
  induction hrun with
  | init => exact ⟨s₀, h.init, .init⟩
  | @step history c c' i e hrun hstep hok ih =>
    obtain ⟨t, hrelated, hprojected⟩ := ih fun e he => hfull (List.mem_append_left _ he)
    rw [List.filter_append]
    by_cases hown : own e.request
    · have hkeep : [e].filter (fun e => own e.request) = [e] := by simp [hown]
      rw [hkeep]
      cases hstep with
      | start req hnone =>
        have hown : own req := hown
        refine ⟨t, h.quiet hrelated nofun, ?_⟩
        have hstarted := hprojected.step (.start i req (ownHandlers_none hnone)) trivial
        rwa [ownHandlers_start hown]
      | @call req op next r s hhandler hexec =>
        have hown : own req := hown
        obtain ⟨t', hexec', hrelated'⟩ := h.own_call hrun hhandler hexec hfull hown hrelated
        refine ⟨t', hrelated', ?_⟩
        have hcalled := hprojected.step (.call i (ownHandlers_some hown hhandler) hexec') trivial
        rwa [ownHandlers_start hown]
      | @finish req a hhandler =>
        refine ⟨t, h.quiet hrelated nofun, ?_⟩
        have hfinished := hprojected.step (.finish i (ownHandlers_some hown hhandler)) trivial
        rwa [ownHandlers_stop]
      | @crash req p hhandler =>
        refine ⟨t, h.quiet hrelated nofun, ?_⟩
        have hcrashed := hprojected.step (.crash i (ownHandlers_some hown hhandler)) trivial
        rwa [ownHandlers_stop]
    · have hdelete : [e].filter (fun e => own e.request) = [] := by simp [hown]
      rw [hdelete, List.append_nil, hstep.ownHandlers_eq hown]
      refine ⟨t, ?_, hprojected⟩
      cases hstep with
      | start req hnone => exact h.quiet hrelated nofun
      | call hhandler hexec => exact h.other_call hrun hhandler hexec hfull hown hrelated
      | finish hhandler => exact h.quiet hrelated nofun
      | crash hhandler => exact h.quiet hrelated nofun

end Project

/-! From a configuration on. -/

/-- The steps that can follow a configuration, each with the handler that takes it. -/
inductive Steps (exec : (op : Op) → σ → Ret op → σ → Prop) (program : Req → Prog Op Ret α)
    (c : Config Req Ret α σ) : List (ℕ × Event Req Ret α) → Config Req Ret α σ → Prop
  | refl : Steps exec program c [] c
  | step {events : List (ℕ × Event Req Ret α)} {c' c'' : Config Req Ret α σ} {i : ℕ}
      {e : Event Req Ret α} (h : Steps exec program c events c')
      (hstep : Step exec program c' i e c'') : Steps exec program c (events ++ [(i, e)]) c''

theorem Steps.mono {events : List (ℕ × Event Req Ret α)} (h : Steps exec program c events c')
    (hexec : ∀ op s r s', exec op s r s' → exec' op s r s') : Steps exec' program c events c' := by
  induction h with
  | refl => exact .refl
  | step h hstep ih => exact ih.step (hstep.mono hexec)

theorem Steps.trans {events events' : List (ℕ × Event Req Ret α)}
    (h : Steps exec program c events c') (h' : Steps exec program c' events' c'') :
    Steps exec program c (events ++ events') c'' := by
  induction h' with
  | refl => simpa using h
  | step h' hstep ih => simpa using ih.step hstep

/-- A handler may take several of them in a row, through states that answer it. -/
theorem Steps.advance {answer : (op : Op) → σ → Ret op × σ} {I : σ → Prop} {n i : ℕ} {req : Req}
    {p p' : Prog Op Ret α} {s' : σ} {calls : List ((op : Op) × Ret op)}
    (hkeeps : ∀ op s, I s → I (answer op s).2)
    (h : c.handlers i = some (req, p)) (hI : I c.store)
    (hp : p.advance answer n c.store = (p', s', calls))
    (hanswer : ∀ op s r, (answer op s).1 = r → ⟨op, r⟩ ∈ calls → I s → exec op s r (answer op s).2) :
    Steps exec program c ((calledBy req calls).map (i, ·))
      ⟨s', Function.update c.handlers i (some (req, p'))⟩ := by
  induction n generalizing p c calls with
  | zero =>
    cases hp
    rw [← h, Function.update_eq_self]
    exact .refl
  | succ n ih =>
    cases p with
    | done a =>
      cases hp
      rw [← h, Function.update_eq_self]
      exact .refl
    | call op next =>
      cases hp
      have hcalled : Step exec program c i _ _ :=
        .call i h (hanswer op c.store _ rfl List.mem_cons_self hI)
      have hmore := ih (c := ⟨(answer op c.store).2,
        Function.update c.handlers i (some (req, next (answer op c.store).1))⟩)
        (Function.update_self _ _ _) (hkeeps op c.store hI) rfl fun op s r hr hcall =>
          hanswer op s r hr (List.mem_cons_of_mem _ hcall)
      rw [Function.update_idem] at hmore
      exact (Steps.refl.step hcalled).trans hmore

/-- They make the run longer. -/
theorem Steps.run {events : List (ℕ × Event Req Ret α)} (h : Steps exec program c events c')
    (hrun : Run exec program s₀ history c) :
    Run exec program s₀ (history ++ events.map Prod.snd) c' := by
  induction h with
  | refl => simpa using hrun
  | step h hstep ih => simpa using ih.step hstep trivial

end Interleave
