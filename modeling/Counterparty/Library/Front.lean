import Counterparty.Library.Trace

/-! A service behind a front: some requests are passed on to the service, the others only read its
state. -/

/-- The results of two kinds of operations. -/
@[reducible] def EitherRet {Op ROp : Type} (Ret : Op → Type) (RRet : ROp → Type) : Op ⊕ ROp → Type
  | .inl op => Ret op
  | .inr op => RRet op

namespace Prog

variable {Op ROp α β : Type} {Ret : Op → Type} {RRet : ROp → Type}

/-- A program of the service, its operations among all. -/
def passed : Prog Op Ret α → Prog (Op ⊕ ROp) (EitherRet Ret RRet) α
  | .done a => .done a
  | .call op next => .call (.inl op) fun r => (next r).passed

/-- A program that only reads. -/
def reading : Prog ROp RRet β → Prog (Op ⊕ ROp) (EitherRet Ret RRet) β
  | .done b => .done b
  | .call op next => .call (.inr op) fun r => (next r).reading

/-- Whatever its operations return, the program ends as described. -/
def Ends (Q : α → Prop) : Prog Op Ret α → Prop
  | .done a => Q a
  | .call _ next => ∀ r, (next r).Ends Q

theorem Ends.reading {Q : β → Prop} {p : Prog ROp RRet β} (h : p.Ends Q) :
    (p.reading : Prog (Op ⊕ ROp) (EitherRet Ret RRet) β).Ends Q := by
  induction p with
  | done b => exact h
  | call op next ih => exact fun r => ih r (h r)

end Prog

namespace Interleave

variable {Req Req' Op ROp α β σ : Type} {Ret : Op → Type} {RRet : ROp → Type}

/-- Reads find what they read off the state, and keep it. -/
def frontExec (exec : (op : Op) → σ → Ret op → σ → Prop) (read : (op : ROp) → σ → RRet op) :
    (op : Op ⊕ ROp) → σ → EitherRet Ret RRet op → σ → Prop
  | .inl op, s, r, s' => exec op s r s'
  | .inr op, s, r, s' => r = read op s ∧ s' = s

/-- Operations and reads, as functions of the state. -/
def frontAnswer (answer : (op : Op) → σ → Ret op × σ) (read : (op : ROp) → σ → RRet op) :
    (op : Op ⊕ ROp) → σ → EitherRet Ret RRet op × σ
  | .inl op, s => answer op s
  | .inr op, s => (read op s, s)

theorem frontExec_answer {exec : (op : Op) → σ → Ret op → σ → Prop}
    {answer : (op : Op) → σ → Ret op × σ} (hanswer : ∀ op s, exec op s (answer op s).1 (answer op s).2)
    (read : (op : ROp) → σ → RRet op) (op : Op ⊕ ROp) (s : σ) :
    frontExec exec read op s (frontAnswer answer read op s).1 (frontAnswer answer read op s).2 := by
  cases op with
  | inl op => exact hanswer op s
  | inr op => exact ⟨rfl, rfl⟩

theorem eval_passed (answer : (op : Op) → σ → Ret op × σ) (read : (op : ROp) → σ → RRet op)
    (p : Prog Op Ret α) (s : σ) :
    (p.passed : Prog (Op ⊕ ROp) (EitherRet Ret RRet) α).eval (frontAnswer answer read) s =
      p.eval answer s := by
  induction p generalizing s with
  | done a => rfl
  | call op next ih => exact ih _ _

/-- Which requests are passed on, how their answers are presented, and what the others read. -/
structure Front (Req Req' α β : Type) {ROp : Type} (RRet : ROp → Type) where
  accepts : Req' → Option Req
  present : Req' → α → β
  reads : Req' → Prog ROp RRet β

namespace Front

variable (F : Front Req Req' α β RRet)

def program (program : Req → Prog Op Ret α) (req' : Req') : Prog (Op ⊕ ROp) (EitherRet Ret RRet) β :=
  match F.accepts req' with
  | some req => (program req).passed >>= fun a => .done (F.present req' a)
  | none => (F.reads req').reading

/-- What the event of a request that is passed on is to the service. -/
inductive Shows : Event Req' (EitherRet Ret RRet) β → Event Req Ret α → Prop
  | started {req' : Req'} {req : Req} (h : F.accepts req' = some req) :
      Shows (.started req') (.started req)
  | called {req' : Req'} {req : Req} (h : F.accepts req' = some req) (op : Op) (r : Ret op) :
      Shows (.called req' (.inl op) r) (.called req op r)
  | returned {req' : Req'} {req : Req} (h : F.accepts req' = some req) (a : α) :
      Shows (.returned req' (F.present req' a)) (.returned req a)
  | crashed {req' : Req'} {req : Req} (h : F.accepts req' = some req) :
      Shows (.crashed req') (.crashed req)

/-- The service sees the events of the requests that are passed on, and no others. -/
inductive Behind : List (Event Req' (EitherRet Ret RRet) β) → List (Event Req Ret α) → Prop
  | nil : Behind [] []
  | hidden {history' : List (Event Req' (EitherRet Ret RRet) β)} {history : List (Event Req Ret α)}
      {e' : Event Req' (EitherRet Ret RRet) β} (hbehind : Behind history' history)
      (h : F.accepts e'.request = none) : Behind (history' ++ [e']) history
  | shown {history' : List (Event Req' (EitherRet Ret RRet) β)} {history : List (Event Req Ret α)}
      {e' : Event Req' (EitherRet Ret RRet) β} {e : Event Req Ret α} (hbehind : Behind history' history)
      (h : F.Shows e' e) : Behind (history' ++ [e']) (history ++ [e])

/-- What the service has under way for a request. -/
inductive Follows (req' : Req') :
    Prog (Op ⊕ ROp) (EitherRet Ret RRet) β → Option (Req × Prog Op Ret α) → Prop
  | passed {req : Req} (h : F.accepts req' = some req) (p : Prog Op Ret α) :
      Follows req' (p.passed >>= fun a => .done (F.present req' a)) (some (req, p))
  | reading (h : F.accepts req' = none) (p : Prog ROp RRet β) : Follows req' p.reading none

/-- The same state, and under way what was passed on. -/
structure Related (c' : Config Req' (EitherRet Ret RRet) β σ) (c : Config Req Ret α σ) : Prop where
  store : c'.store = c.store
  idle : ∀ i, c'.handlers i = none → c.handlers i = none
  under_way : ∀ i req' p', c'.handlers i = some (req', p') → F.Follows req' p' (c.handlers i)

variable {F} {program : Req → Prog Op Ret α} {exec : (op : Op) → σ → Ret op → σ → Prop}
  {read : (op : ROp) → σ → RRet op} {s₀ : σ} {c c₁ : Config Req Ret α σ}
  {c' d' : Config Req' (EitherRet Ret RRet) β σ} {i : ℕ}
  {e' : Event Req' (EitherRet Ret RRet) β} {e : Event Req Ret α}
  {history' : List (Event Req' (EitherRet Ret RRet) β)} {history : List (Event Req Ret α)}

/-! Events. -/

theorem Behind.exists_seen (h : F.Behind history' history) (he : e' ∈ history') {req : Req}
    (haccepts : F.accepts e'.request = some req) : ∃ e ∈ history, F.Shows e' e := by
  induction h with
  | nil => cases he
  | hidden _ hnone ih =>
    rcases List.mem_append.1 he with he | he
    · exact ih he
    · rw [List.mem_singleton.1 he, hnone] at haccepts
      cases haccepts
  | @shown _ _ _ e _ hshows ih =>
    rcases List.mem_append.1 he with he | he
    · obtain ⟨e, he, hshows'⟩ := ih he
      exact ⟨e, List.mem_append_left _ he, hshows'⟩
    · rw [List.mem_singleton.1 he]
      exact ⟨e, List.mem_append_right _ (List.mem_singleton_self _), hshows⟩

/-! Steps. -/

theorem follows_program (req' : Req') :
    F.Follows req' (F.program program req') ((F.accepts req').map fun req => (req, program req)) := by
  rw [Front.program]
  cases haccepts : F.accepts req' with
  | none => exact .reading haccepts _
  | some req => exact .passed haccepts _

variable {req' : Req'} {handler : Option (Req × Prog Op Ret α)}

/-- An operation of the service is called where the service calls it. -/
theorem Follows.passed_call {op : Op}
    {next' : Ret op → Prog (Op ⊕ ROp) (EitherRet Ret RRet) β}
    (h : F.Follows req' (.call (.inl op) next') handler) : ∃ req next, F.accepts req' = some req ∧
      handler = some (req, .call op next) ∧
      ∀ r, next' r = (next r).passed >>= fun a => .done (F.present req' a) := by
  generalize hp : (.call (.inl op) next' : Prog (Op ⊕ ROp) (EitherRet Ret RRet) β) = p' at h
  cases h with
  | passed haccepts p =>
    cases p with
    | done a => cases hp
    | call op next =>
      cases hp
      exact ⟨_, next, haccepts, rfl, fun r => rfl⟩
  | reading haccepts p => cases p <;> cases hp

/-- A request that reads has nothing under way in the service. -/
theorem Follows.reading_call {op : ROp}
    {next' : RRet op → Prog (Op ⊕ ROp) (EitherRet Ret RRet) β}
    (h : F.Follows req' (.call (.inr op) next') handler) :
    ∃ next : RRet op → Prog ROp RRet β, F.accepts req' = none ∧ handler = none ∧
      ∀ r, next' r = (next r).reading := by
  generalize hp : (.call (.inr op) next' : Prog (Op ⊕ ROp) (EitherRet Ret RRet) β) = p' at h
  cases h with
  | passed haccepts p => cases p <;> cases hp
  | reading haccepts p =>
    cases p with
    | done b => cases hp
    | call op next =>
      cases hp
      exact ⟨next, haccepts, rfl, fun r => rfl⟩

/-- An answer to a request that was passed on presents the answer of the service. -/
theorem Follows.done_eq {b : β} (h : F.Follows req' (.done b) handler) :
    (F.accepts req' = none ∧ handler = none) ∨
      ∃ req a, F.accepts req' = some req ∧ handler = some (req, .done a) ∧ b = F.present req' a := by
  generalize hp : (.done b : Prog (Op ⊕ ROp) (EitherRet Ret RRet) β) = p' at h
  cases h with
  | passed haccepts p =>
    cases p with
    | done a =>
      cases hp
      exact .inr ⟨_, a, haccepts, rfl, rfl⟩
    | call op next => cases hp
  | reading haccepts p => exact .inl ⟨haccepts, rfl⟩

theorem Follows.none_or (h : F.Follows req' p' handler) :
    (F.accepts req' = none ∧ handler = none) ∨
      ∃ req p, F.accepts req' = some req ∧ handler = some (req, p) := by
  cases h with
  | passed haccepts p => exact .inr ⟨_, p, haccepts, rfl⟩
  | reading haccepts p => exact .inl ⟨haccepts, rfl⟩

/-- The handler that took a step goes on as said, the others are where they were. -/
theorem Related.update (h : F.Related c' c) {s : σ} {p' : Prog (Op ⊕ ROp) (EitherRet Ret RRet) β}
    (hfollows : F.Follows req' p' handler) : F.Related
      ⟨s, Function.update c'.handlers i (some (req', p'))⟩ ⟨s, Function.update c.handlers i handler⟩ := by
  refine ⟨rfl, ?_, ?_⟩
  · intro j hj
    by_cases hji : j = i
    · subst hji
      simp only [Function.update_self] at hj
      cases hj
    · simp only [Function.update_of_ne hji] at hj ⊢
      exact h.idle j hj
  · intro j req p hj
    by_cases hji : j = i
    · subst hji
      simp only [Function.update_self] at hj ⊢
      cases hj
      exact hfollows
    · simp only [Function.update_of_ne hji] at hj ⊢
      exact h.under_way j req p hj

theorem Related.stop (h : F.Related c' c) (i : ℕ) : F.Related
    ⟨c'.store, Function.update c'.handlers i none⟩ ⟨c.store, Function.update c.handlers i none⟩ := by
  refine ⟨h.store, ?_, ?_⟩
  · intro j hj
    by_cases hji : j = i
    · subst hji
      exact Function.update_self ..
    · simp only [Function.update_of_ne hji] at hj ⊢
      exact h.idle j hj
  · intro j req p hj
    by_cases hji : j = i
    · subst hji
      simp only [Function.update_self] at hj
      cases hj
    · simp only [Function.update_of_ne hji] at hj ⊢
      exact h.under_way j req p hj

/-- A step of the front is a step of the service, or one that the service does not see. -/
theorem Related.step (h : F.Related c' c)
    (hstep : Step (frontExec exec read) (F.program program) c' i e' d') :
    (F.accepts e'.request = none ∧ F.Related d' c) ∨
      ∃ e d, Step exec program c i e d ∧ F.Shows e' e ∧ F.Related d' d := by
  -- a handler that the service does not have stays away from it
  have hquiet {req' : Req'} {s : σ} {p' : Prog (Op ⊕ ROp) (EitherRet Ret RRet) β}
      (hnone : c.handlers i = none) (hs : s = c.store) (hfollows : F.Follows req' p' none) :
      F.Related ⟨s, Function.update c'.handlers i (some (req', p'))⟩ c := by
    have hrelated := h.update (i := i) (s := c.store) hfollows
    rw [← hnone, Function.update_eq_self] at hrelated
    rw [hs]
    exact hrelated
  have hgone (hnone : c.handlers i = none) :
      F.Related ⟨c'.store, Function.update c'.handlers i none⟩ c := by
    have hrelated := h.stop i
    rw [← hnone, Function.update_eq_self] at hrelated
    exact hrelated
  cases hstep with
  | start req' hidle =>
    have hfollows : F.Follows req' (F.program program req') _ := follows_program req'
    cases haccepts : F.accepts req' with
    | none =>
      rw [haccepts] at hfollows
      exact .inl ⟨haccepts, hquiet (h.idle i hidle) h.store hfollows⟩
    | some req =>
      rw [haccepts] at hfollows
      have hrelated := h.update (i := i) (s := c.store) hfollows
      rw [← h.store] at hrelated
      refine .inr ⟨_, _, .start i req (h.idle i hidle), .started haccepts, ?_⟩
      rw [← h.store]
      exact hrelated
  | @call req' op' next' r s hhandler hexec =>
    have hfollows := h.under_way i req' _ hhandler
    cases op' with
    | inl op =>
      obtain ⟨req, next, haccepts, hp, hnext⟩ := hfollows.passed_call
      have hexec' : exec op c.store r s := h.store ▸ hexec
      refine .inr ⟨_, _, .call i hp hexec', .called haccepts op r, h.update ?_⟩
      rw [hnext]
      exact .passed haccepts _
    | inr op =>
      obtain ⟨next, haccepts, hp, hnext⟩ := hfollows.reading_call
      refine .inl ⟨haccepts, hquiet hp (hexec.2.trans h.store) ?_⟩
      rw [hnext]
      exact .reading haccepts _
  | @finish req' b hhandler =>
    rcases (h.under_way i req' _ hhandler).done_eq with ⟨haccepts, hp⟩ | ⟨req, a, haccepts, hp, rfl⟩
    · exact .inl ⟨haccepts, hgone hp⟩
    · exact .inr ⟨_, _, .finish i hp, .returned haccepts a, h.stop i⟩
  | @crash req' p' hhandler =>
    rcases (h.under_way i req' _ hhandler).none_or with ⟨haccepts, hp⟩ | ⟨req, p, haccepts, hp⟩
    · exact .inl ⟨haccepts, hgone hp⟩
    · exact .inr ⟨_, _, .crash i hp, .crashed haccepts, h.stop i⟩

/-- Behind every run of the front there is a run of the service, in the same states. -/
theorem run_behind (hrun : Run (frontExec exec read) (F.program program) s₀ history' c') :
    ∃ history c, Run exec program s₀ history c ∧ F.Behind history' history ∧ F.Related c' c := by
  induction hrun with
  | init => exact ⟨[], _, .init, .nil, rfl, fun _ _ => rfl, nofun⟩
  | step hrun hstep hok ih =>
    obtain ⟨history, c, hservice, hbehind, hrelated⟩ := ih
    rcases hrelated.step hstep with ⟨hnone, hrelated'⟩ | ⟨e, d, hstep', hshows, hrelated'⟩
    · exact ⟨history, c, hservice, hbehind.hidden hnone, hrelated'⟩
    · exact ⟨_, d, hservice.step hstep' trivial, hbehind.shown hshows, hrelated'⟩

end Front

/-! What a request that only reads can be answered. -/

/-- The answer of a program whose reads take place, in their order, from one moment to another. -/
inductive ReadsIn (read : (op : ROp) → σ → RRet op) (state : ℕ → σ) (b : ℕ) :
    ℕ → Prog ROp RRet β → β → Prop
  | done {a : ℕ} (h : a ≤ b) (x : β) : ReadsIn read state b a (.done x) x
  | call {a i : ℕ} {op : ROp} {next : RRet op → Prog ROp RRet β} {x : β} (h : a ≤ i)
      (hrest : ReadsIn read state b i (next (read op (state i))) x) :
      ReadsIn read state b a (.call op next) x

theorem ReadsIn.mono {read : (op : ROp) → σ → RRet op} {state : ℕ → σ} {a a' b : ℕ}
    {p : Prog ROp RRet β} {x : β} (h : ReadsIn read state b a p x) (ha : a' ≤ a) :
    ReadsIn read state b a' p x := by
  cases h with
  | done h x => exact .done (by omega) x
  | call h hrest => exact .call (by omega) hrest

theorem ReadsIn.le {read : (op : ROp) → σ → RRet op} {state : ℕ → σ} {a b : ℕ}
    {p : Prog ROp RRet β} {x : β} (h : ReadsIn read state b a p x) : a ≤ b := by
  induction h with
  | done h x => exact h
  | call h hrest ih => exact h.trans ih

theorem ReadsIn.of_done {read : (op : ROp) → σ → RRet op} {state : ℕ → σ} {a b : ℕ} {x y : β}
    (h : ReadsIn read state b a (.done y) x) : a ≤ b ∧ x = y := by
  cases h with
  | done h x => exact ⟨h, rfl⟩

theorem ReadsIn.of_call {read : (op : ROp) → σ → RRet op} {state : ℕ → σ} {a b : ℕ} {op : ROp}
    {next : RRet op → Prog ROp RRet β} {x : β} (h : ReadsIn read state b a (.call op next) x) :
    ∃ i, a ≤ i ∧ ReadsIn read state b i (next (read op (state i))) x := by
  cases h with
  | call h hrest => exact ⟨_, h, hrest⟩

variable {program : Req' → Prog (Op ⊕ ROp) (EitherRet Ret RRet) β}
  {exec : (op : Op) → σ → Ret op → σ → Prop} {read : (op : ROp) → σ → RRet op} {s₀ : σ}
  {E : Trace (frontExec exec read) program s₀} {h a b k : ℕ} {req' : Req'} {x : β}
  {p : Prog ROp RRet β}

theorem Trace.Performs.reads (hperforms : E.Performs req' b k p.reading x) :
    ReadsIn read (fun i => (E.config i).store) b k p x := by
  induction p generalizing k with
  | done y =>
    rw [hperforms.of_done]
    exact .done hperforms.le y
  | call op next ih =>
    obtain ⟨i, r, hki, -, -, hread, hrest⟩ := hperforms.of_call
    obtain ⟨rfl, -⟩ := hread
    exact .call hki ((ih _ hrest).mono (by omega))

/-- The answer to a request that only reads is of states between its start and its end. -/
theorem Trace.Answers.reads (hanswers : E.Answers h a b req' x) (hprogram : program req' = p.reading) :
    ReadsIn read (fun i => (E.config i).store) b (a + 1) p x := by
  have hperforms := hanswers.performs
  rw [hprogram] at hperforms
  exact hperforms.reads

end Interleave
