import Counterparty.Library.Projection

/-! Operations that are themselves programs, over smaller operations: what runs interleaved small step
by small step is a run in which every operation is one step. -/

namespace Prog

variable {Op Op' α β : Type} {Ret : Op → Type} {Ret' : Op' → Type}

/-- Every operation is replaced by a program. -/
def expand (f : (op : Op) → Prog Op' Ret' (Ret op)) : Prog Op Ret α → Prog Op' Ret' α
  | .done a => .done a
  | .call op next => f op >>= fun r => (next r).expand f

end Prog

namespace Interleave

variable {Req Req' Op Op' α σ σ' : Type} {Ret : Op → Type} {Ret' : Op' → Type}

/-- How states, requests and operations of the small steps read as large ones. -/
structure Reading (Req Req' : Type) {Op Op' : Type} (Ret : Op → Type) (Ret' : Op' → Type)
    (σ σ' : Type) where
  request : Req' → Req
  state : σ' → σ
  /-- The small operations that an operation is made of, for a request. -/
  Inside : Req' → Op → Op' → Prop
  /-- The answer of the last one of them gives the answer of the operation. -/
  Answers : (op : Op) → Ret op → (op' : Op') → Ret' op' → Prop
  /-- The small operations that need not show. -/
  Hidden : Op' → Prop

variable (M : Reading Req Req' Ret Ret' σ σ') (exec : (op : Op) → σ → Ret op → σ → Prop)
  (exec' : (op' : Op') → σ' → Ret' op' → σ' → Prop)

/-- The program does not show before its last step, which is the operation. -/
def Implements (req : Req') (op : Op) : Prog Op' Ret' (Ret op) → Prop
  | .done _ => False
  | .call op' next => M.Inside req op op' ∧ ∀ s r' s', exec' op' s r' s' →
      (M.Hidden op' ∧ M.state s' = M.state s ∧ Implements req op (next r')) ∨
      ∃ r, next r' = .done r ∧ exec op (M.state s) r (M.state s') ∧ M.Answers op r op' r'

/-- What may give any answer, and keeps the state, is implemented by any steps that do not show. -/
theorem implements_of_silent {M : Reading Req Req' Ret Ret' σ σ'}
    {exec : (op : Op) → σ → Ret op → σ → Prop} {exec' : (op' : Op') → σ' → Ret' op' → σ' → Prop}
    {req : Req'} {op : Op} (hexec : ∀ s r, exec op s r s)
    (hanswers : ∀ r op' r', M.Answers op r op' r') {p : Prog Op' Ret' (Ret op)}
    (hp : p.Performs fun op' => M.Inside req op op' ∧ M.Hidden op' ∧
      ∀ s r' s', exec' op' s r' s' → M.state s' = M.state s)
    (hcalls : ∀ r, p ≠ .done r) : Implements M exec exec' req op p := by
  induction p with
  | done r => exact absurd rfl (hcalls r)
  | call op' next ih =>
    obtain ⟨⟨hinside, hhidden, hsilent⟩, hnext⟩ := hp
    refine ⟨hinside, ?_⟩
    intro s r' s' hstep
    have hsame := hsilent s r' s' hstep
    cases hdone : next r' with
    | done r => exact .inr ⟨r, rfl, hsame ▸ hexec _ r, hanswers r op' r'⟩
    | call op'' next' =>
      refine .inl ⟨hhidden, hsame, ?_⟩
      have hrest := ih r' (hnext r') (by simp [hdone])
      rwa [hdone] at hrest

/-- A program of small steps at the point of a program of large ones. -/
inductive Follows (req : Req') (f : (op : Op) → Prog Op' Ret' (Ret op)) :
    Prog Op Ret α → Prog Op' Ret' α → Prop
  | between (p : Prog Op Ret α) : Follows req f p (p.expand f)
  | within {op : Op} {next : Ret op → Prog Op Ret α} {q : Prog Op' Ret' (Ret op)}
      (h : Implements M exec exec' req op q) :
      Follows req f (.call op next) (q >>= fun r => (next r).expand f)

variable {M exec exec'} {f : (op : Op) → Prog Op' Ret' (Ret op)} {p : Prog Op Ret α} {op' : Op'}
  {next' : Ret' op' → Prog Op' Ret' α} {s s' : σ'} {r' : Ret' op'} {a : α} {req : Req'}

theorem expand_eq_done (h : p.expand f = .done a) (hf : ∀ op, Implements M exec exec' req op (f op)) :
    p = .done a := by
  cases p with
  | done a' =>
    cases h
    rfl
  | call op next =>
    have hop := hf op
    simp only [Prog.expand] at h
    cases hq : f op with
    | done r =>
      rw [hq] at hop
      exact hop.elim
    | call op' next' =>
      rw [hq] at h
      cases h

theorem Follows.done_eq (h : Follows M exec exec' req f p (.done a))
    (hf : ∀ op, Implements M exec exec' req op (f op)) : p = .done a := by
  generalize hp : (.done a : Prog Op' Ret' α) = p' at h
  cases h with
  | between p => exact expand_eq_done hp.symm hf
  | @within op next q hq =>
    cases q with
    | done r => exact hq.elim
    | call op' next' => cases hp

/-- A program that calls is within an operation. -/
theorem Follows.call_eq (h : Follows M exec exec' req f p (.call op' next'))
    (hf : ∀ op, Implements M exec exec' req op (f op)) : ∃ op next q, p = .call op next ∧
      Implements M exec exec' req op (.call op' q) ∧ next' = fun r' => q r' >>= fun r => (next r).expand f := by
  generalize hp : (.call op' next' : Prog Op' Ret' α) = p' at h
  cases h with
  | between p =>
    cases p with
    | done a => cases hp
    | call op next =>
      have hop := hf op
      simp only [Prog.expand] at hp
      cases hq : f op with
      | done r =>
        rw [hq] at hop
        exact hop.elim
      | call op'' q =>
        rw [hq] at hp hop
        cases hp
        exact ⟨op, next, q, rfl, hop, rfl⟩
  | @within op next q hq =>
    cases q with
    | done r => exact hq.elim
    | call op'' q =>
      cases hp
      exact ⟨op, next, q, rfl, hq, rfl⟩

/-- A small step either does not show or is the operation that the program was within. -/
theorem Follows.step (h : Follows M exec exec' req f p (.call op' next'))
    (hf : ∀ op, Implements M exec exec' req op (f op)) (hexec : exec' op' s r' s') :
    (M.Hidden op' ∧ M.state s' = M.state s ∧ Follows M exec exec' req f p (next' r')) ∨
      ∃ op next r, p = .call op next ∧ exec op (M.state s) r (M.state s') ∧ M.Inside req op op' ∧
        M.Answers op r op' r' ∧ Follows M exec exec' req f (next r) (next' r') := by
  obtain ⟨op, next, q, rfl, ⟨hinside, hsteps⟩, rfl⟩ := h.call_eq hf
  rcases hsteps s r' s' hexec with ⟨hhidden, hsame, hrest⟩ | ⟨r, hdone, heffect, hanswers⟩
  · exact .inl ⟨hhidden, hsame, .within hrest⟩
  · refine .inr ⟨op, next, r, rfl, heffect, hinside, hanswers, ?_⟩
    simp only [hdone, Prog.done_bind]
    exact .between _

/-! Runs. -/

variable (M) in
/-- What an event shows as. -/
inductive Shows : Event Req' Ret' α → Event Req Ret α → Prop
  | started (req : Req') : Shows (.started req) (.started (M.request req))
  | called {req : Req'} {op : Op} {r : Ret op} {op' : Op'} {r' : Ret' op'} (hinside : M.Inside req op op')
      (hanswers : M.Answers op r op' r') : Shows (.called req op' r') (.called (M.request req) op r)
  | returned (req : Req') (a : α) : Shows (.returned req a) (.returned (M.request req) a)
  | crashed (req : Req') : Shows (.crashed req) (.crashed (M.request req))

variable (M) in
/-- Some of the hidden calls do not show, and everything else that happens does. -/
inductive Refines : List (Event Req' Ret' α) → List (Event Req Ret α) → Prop
  | nil : Refines [] []
  | silent {history' : List (Event Req' Ret' α)} {history : List (Event Req Ret α)}
      (h : Refines history' history) (req : Req') {op' : Op'} (r' : Ret' op')
      (hhidden : M.Hidden op') : Refines (history' ++ [.called req op' r']) history
  | shown {history' : List (Event Req' Ret' α)} {history : List (Event Req Ret α)}
      {e' : Event Req' Ret' α} {e : Event Req Ret α} (h : Refines history' history)
      (hshows : Shows M e' e) : Refines (history' ++ [e']) (history ++ [e])

variable {history' : List (Event Req' Ret' α)} {history : List (Event Req Ret α)}

/-- Whatever a run shows happened in it. -/
theorem Refines.exists_of_mem {e : Event Req Ret α} (h : Refines M history' history)
    (he : e ∈ history) : ∃ e' ∈ history', Shows M e' e := by
  induction h with
  | nil => cases he
  | silent h req r' hhidden ih =>
    obtain ⟨e', he', hshows⟩ := ih he
    exact ⟨e', List.mem_append_left _ he', hshows⟩
  | shown h hshows ih =>
    rcases List.mem_append.1 he with he | he
    · obtain ⟨e', he', hshows'⟩ := ih he
      exact ⟨e', List.mem_append_left _ he', hshows'⟩
    · cases List.mem_singleton.1 he
      exact ⟨_, by simp, hshows⟩

/-- What is not said of hidden calls is said of both, in the same order. -/
theorem Refines.filterMap_eq {β : Type} (h : Refines M history' history)
    {f' : Event Req' Ret' α → Option β} {f : Event Req Ret α → Option β}
    (hhidden : ∀ req op' r', M.Hidden op' → f' (.called req op' r') = none)
    (hshows : ∀ e' e, Shows M e' e → f' e' = f e) : history'.filterMap f' = history.filterMap f := by
  induction h with
  | nil => rfl
  | silent h req r' hop ih => rw [List.filterMap_append, List.filterMap_cons_none (hhidden _ _ _ hop),
      ih, List.filterMap_nil, List.append_nil]
  | @shown history' history e' e h hshow ih =>
    rw [List.filterMap_append, List.filterMap_append, ih]
    congr 1
    simp [List.filterMap_cons, hshows e' e hshow]

variable (M exec exec') in
/-- The same handlers are under way, each at the point of the other. -/
structure Related (f : Req' → (op : Op) → Prog Op' Ret' (Ret op)) (c' : Config Req' Ret' α σ')
    (c : Config Req Ret α σ) : Prop where
  store : c.store = M.state c'.store
  idle : ∀ i, c'.handlers i = none → c.handlers i = none
  under_way : ∀ i req p', c'.handlers i = some (req, p') →
    ∃ p, c.handlers i = some (M.request req, p) ∧ Follows M exec exec' req (f req) p p'

variable {f : Req' → (op : Op) → Prog Op' Ret' (Ret op)} {c' d' : Config Req' Ret' α σ'}
  {c : Config Req Ret α σ} {program : Req → Prog Op Ret α} {s₀ : σ'} {i : ℕ}
  {e' : Event Req' Ret' α} {t : σ} {t' : σ'}

/-- One handler moves on. -/
theorem Related.update (h : Related M exec exec' f c' c) {p : Prog Op Ret α} {p' : Prog Op' Ret' α}
    (hstore : t = M.state t') (hp : Follows M exec exec' req (f req) p p') :
    Related M exec exec' f ⟨t', Function.update c'.handlers i (some (req, p'))⟩
      ⟨t, Function.update c.handlers i (some (M.request req, p))⟩ := by
  refine ⟨hstore, ?_, ?_⟩
  · intro j hj
    by_cases hji : j = i
    · subst hji
      simp at hj
    · simp only [Function.update_of_ne hji] at hj ⊢
      exact h.idle j hj
  · intro j req' q hj
    by_cases hji : j = i
    · subst hji
      simp only [Function.update_self, Option.some.injEq, Prod.mk.injEq] at hj ⊢
      obtain ⟨rfl, rfl⟩ := hj
      exact ⟨p, ⟨rfl, rfl⟩, hp⟩
    · simp only [Function.update_of_ne hji] at hj ⊢
      exact h.under_way j req' q hj

/-- One handler stops. -/
theorem Related.stop (h : Related M exec exec' f c' c) (i : ℕ) :
    Related M exec exec' f ⟨c'.store, Function.update c'.handlers i none⟩
      ⟨c.store, Function.update c.handlers i none⟩ := by
  refine ⟨h.store, ?_, ?_⟩
  · intro j hj
    by_cases hji : j = i
    · subst hji
      simp
    · simp only [Function.update_of_ne hji] at hj ⊢
      exact h.idle j hj
  · intro j req q hj
    by_cases hji : j = i
    · subst hji
      simp at hj
    · simp only [Function.update_of_ne hji] at hj ⊢
      exact h.under_way j req q hj

/-- The program that is left does not show when a handler takes a silent step. -/
theorem Related.silent (h : Related M exec exec' f c' c) {p : Prog Op Ret α} {p' : Prog Op' Ret' α}
    (hhandler : c.handlers i = some (M.request req, p)) (hstore : M.state t' = M.state c'.store)
    (hp : Follows M exec exec' req (f req) p p') :
    Related M exec exec' f ⟨t', Function.update c'.handlers i (some (req, p'))⟩ c := by
  have hmoved : Related M exec exec' f ⟨t', Function.update c'.handlers i (some (req, p'))⟩
      ⟨c.store, Function.update c.handlers i (some (M.request req, p))⟩ :=
    h.update (h.store.trans hstore.symm) hp
  rwa [← hhandler, Function.update_eq_self] at hmoved

variable (exec program) in
/-- A step of the small steps shows as a step or does not show. -/
theorem Related.step (hf : ∀ req op, Implements M exec exec' req op (f req op))
    (h : Related M exec exec' f c' c)
    (hstep : Step exec' (fun req => (program (M.request req)).expand (f req)) c' i e' d') :
    (∃ req op' r', e' = .called req op' r' ∧ M.Hidden op' ∧ Related M exec exec' f d' c) ∨
      ∃ e d, Step exec program c i e d ∧ Shows M e' e ∧ Related M exec exec' f d' d := by
  cases hstep with
  | start req hnone =>
    refine .inr ⟨_, _, .start i (M.request req) (h.idle i hnone), .started req, ?_⟩
    exact h.update h.store (.between _)
  | @call req op' next' r' t' hhandler hexec =>
    obtain ⟨p, hp, hfollows⟩ := h.under_way i req _ hhandler
    rcases hfollows.step (hf req) hexec with ⟨hhidden, hsame, hrest⟩ | ⟨op, next, r, rfl, heffect, hinside, hanswers, hrest⟩
    · exact .inl ⟨req, op', r', rfl, hhidden, h.silent hp hsame hrest⟩
    · have heffect' : exec op c.store r (M.state t') := h.store ▸ heffect
      exact .inr ⟨_, _, .call i hp heffect', .called hinside hanswers, h.update rfl hrest⟩
  | @finish req a hhandler =>
    obtain ⟨p, hp, hfollows⟩ := h.under_way i req _ hhandler
    obtain rfl := hfollows.done_eq (hf req)
    exact .inr ⟨_, _, .finish i hp, .returned req a, h.stop i⟩
  | @crash req p' hhandler =>
    obtain ⟨p, hp, -⟩ := h.under_way i req _ hhandler
    exact .inr ⟨_, _, .crash i hp, .crashed req, h.stop i⟩

/-- A handler calls a small operation where the other is about to call the operation it belongs to. -/
theorem Related.within (hf : ∀ req op, Implements M exec exec' req op (f req op))
    (h : Related M exec exec' f c' c) {program' : Req' → Prog Op' Ret' α}
    (hstep : Step exec' program' c' i (.called req op' r') d') :
    ∃ op next, c.handlers i = some (M.request req, .call op next) ∧ M.Inside req op op' := by
  cases hstep with
  | call hhandler hexec =>
    obtain ⟨p, hp, hfollows⟩ := h.under_way i req _ hhandler
    obtain ⟨op, next, q, rfl, ⟨hinside, -⟩, -⟩ := hfollows.call_eq (hf req)
    exact ⟨op, next, hp, hinside⟩

variable (M exec program) in
/-- At some moment of the run the request was about to call an operation that the small one is
part of. -/
def WasWithin (s₀ : σ) (history : List (Event Req Ret α)) (c : Config Req Ret α σ) (req : Req')
    (op' : Op') : Prop :=
  ∃ past c₀ i op next events, Run exec program s₀ past c₀ ∧
    c₀.handlers i = some (M.request req, .call op next) ∧ M.Inside req op op' ∧
    Steps exec program c₀ events c ∧ history = past ++ events.map Prod.snd

theorem WasWithin.step {s₀ : σ} {d : Config Req Ret α σ} {e : Event Req Ret α}
    (h : WasWithin M exec program s₀ history c req op') (hstep : Step exec program c i e d) :
    WasWithin M exec program s₀ (history ++ [e]) d req op' := by
  obtain ⟨past, c₀, j, op, next, events, hrun, hhandler, hinside, hsteps, rfl⟩ := h
  exact ⟨past, c₀, j, op, next, _, hrun, hhandler, hinside, hsteps.step hstep, by simp⟩

variable (program) in
/-- Every run of small steps refines a run in which each operation is one step. -/
theorem Run.refines (hf : ∀ req op, Implements M exec exec' req op (f req op))
    (hrun : Run exec' (fun req => (program (M.request req)).expand (f req)) s₀ history' c') :
    ∃ history c, Run exec program (M.state s₀) history c ∧ Refines M history' history ∧
      Related M exec exec' f c' c ∧ ∀ req op' r', .called req op' r' ∈ history' →
        WasWithin M exec program (M.state s₀) history c req op' := by
  induction hrun with
  | init => exact ⟨[], _, .init, .nil, ⟨rfl, fun _ _ => rfl, nofun⟩, nofun⟩
  | @step history' c' d' i e' hrun hstep hok ih =>
    obtain ⟨history, c, hcoarse, hrefines, hrelated, hwithin⟩ := ih
    have hnow (req : Req') (op' : Op') (r' : Ret' op') (he : e' = .called req op' r') :
        WasWithin M exec program (M.state s₀) history c req op' := by
      subst he
      obtain ⟨op, next, hhandler, hinside⟩ := hrelated.within hf hstep
      exact ⟨history, c, i, op, next, [], hcoarse, hhandler, hinside, .refl, by simp⟩
    have hall (req : Req') (op' : Op') (r' : Ret' op') (hmem : .called req op' r' ∈ history' ++ [e']) :
        WasWithin M exec program (M.state s₀) history c req op' := by
      rcases List.mem_append.1 hmem with hmem | hmem
      · exact hwithin req op' r' hmem
      · exact hnow req op' r' (List.mem_singleton.1 hmem).symm
    rcases hrelated.step exec program hf hstep with
      ⟨req, op', r', rfl, hhidden, hrelated'⟩ | ⟨e, d, hstep', hshows, hrelated'⟩
    · exact ⟨history, c, hcoarse, hrefines.silent req r' hhidden, hrelated', hall⟩
    · refine ⟨history ++ [e], d, hcoarse.step hstep' trivial, hrefines.shown hshows, hrelated', ?_⟩
      intro req op' r' hmem
      exact (hall req op' r' hmem).step hstep'

end Interleave
