import Counterparty.Library.Calls

/-! Handlers that take several requests in turn: whatever they do could be done by a handler for each
request. -/

namespace Prog

variable {Op Req ε β γ : Type} {Ret : Op → Type}

/-- What comes after one request: a failure ends it all. -/
def afterOne (next : List β → Prog Op Ret γ) (out : Except ε (List β) → γ) (answers : List β) :
    Except ε β → Prog Op Ret γ
  | .error e => .done (out (.error e))
  | .ok answer => next (answers ++ [answer])

/-- The requests one after the other. -/
def inTurn (program : Req → Prog Op Ret (Except ε β)) (out : Except ε (List β) → γ) :
    List Req → List β → Prog Op Ret γ
  | [], answers => .done (out (.ok answers))
  | req :: rest, answers => program req >>= afterOne (inTurn program out rest) out answers

end Prog

namespace Interleave

variable {Req Req' Op ε β γ σ : Type} {Ret : Op → Type}

/-- The requests were answered one after the other. -/
def Returned (history : List (Event Req Ret (Except ε β))) (reqs : List Req) (answers : List β) : Prop :=
  reqs.length = answers.length ∧
    (List.zipWith (fun req answer => .returned req (.ok answer)) reqs answers).Sublist history

/-- All the requests were answered, or those before the first that failed. -/
def AnsweredInTurn (history : List (Event Req Ret (Except ε β))) (reqs : List Req) :
    Except ε (List β) → Prop
  | .ok answers => Returned history reqs answers
  | .error e => ∃ past req rest answers, reqs = past ++ req :: rest ∧ Returned history past answers ∧
    .returned req (.error e) ∈ history

variable {history history₁ : List (Event Req Ret (Except ε β))} {reqs past rest : List Req}
  {answers : List β} {req : Req}

theorem Returned.mono (h : Returned history reqs answers) (hgrows : history <+: history₁) :
    Returned history₁ reqs answers :=
  ⟨h.1, h.2.trans hgrows.sublist⟩

theorem returned_nil (history : List (Event Req Ret (Except ε β))) :
    Returned history ([] : List Req) ([] : List β) :=
  ⟨rfl, List.nil_sublist _⟩

theorem Returned.snoc (h : Returned history past answers) (req : Req) (answer : β) :
    Returned (history ++ [.returned req (.ok answer)]) (past ++ [req]) (answers ++ [answer]) := by
  obtain ⟨hlength, hsublist⟩ := h
  refine ⟨by simp [hlength], ?_⟩
  rw [List.zipWith_append hlength]
  exact hsublist.append (.refl _)

theorem AnsweredInTurn.mono {r : Except ε (List β)} (h : AnsweredInTurn history reqs r)
    (hgrows : history <+: history₁) : AnsweredInTurn history₁ reqs r := by
  cases r with
  | ok answers => exact Returned.mono h hgrows
  | error e =>
    obtain ⟨past, req, rest, answers, hsplit, hreturned, hmem⟩ := h
    exact ⟨past, req, rest, answers, hsplit, hreturned.mono hgrows, hgrows.subset hmem⟩

variable (program : Req → Prog Op Ret (Except ε β)) (requests : Req' → List Req)
  (out : Req' → Except ε (List β) → γ)

/-- Where a handler is in its requests, and the handler of the request that it is at. -/
inductive AtRequest (history : List (Event Req Ret (Except ε β))) (batch : Req') :
    Prog Op Ret γ → Option (Req × Prog Op Ret (Except ε β)) → Prop
  | ended {r : Except ε (List β)} (h : AnsweredInTurn history (requests batch) r) :
      AtRequest history batch (.done (out batch r)) none
  | within {past rest : List Req} {req : Req} {answers : List β} {op : Op}
      {next : Ret op → Prog Op Ret (Except ε β)} (hsplit : requests batch = past ++ req :: rest)
      (hreturned : Returned history past answers) :
      AtRequest history batch
        (.call op fun r => next r >>= Prog.afterOne (Prog.inTurn program (out batch) rest) (out batch) answers)
        (some (req, .call op next))

variable {program requests out} {exec : (op : Op) → σ → Ret op → σ → Prop} {s₀ : σ}
  {c c₁ : Config Req Ret (Except ε β) σ} {c' d' : Config Req' Ret γ σ} {batch : Req'} {i : ℕ}

theorem AtRequest.mono {p' : Prog Op Ret γ} {handler : Option (Req × Prog Op Ret (Except ε β))}
    (h : AtRequest program requests out history batch p' handler) (hgrows : history <+: history₁) :
    AtRequest program requests out history₁ batch p' handler := by
  cases h with
  | ended h => exact .ended (h.mono hgrows)
  | within hsplit hreturned => exact .within hsplit (hreturned.mono hgrows)

variable (program requests out exec s₀) in
/-- The run goes on to where handler `i` is at a call again, or has answered everything. -/
structure Settles (batch : Req') (i : ℕ) (p' : Prog Op Ret γ)
    (history : List (Event Req Ret (Except ε β))) (c : Config Req Ret (Except ε β) σ)
    (history₁ : List (Event Req Ret (Except ε β))) (c₁ : Config Req Ret (Except ε β) σ) : Prop where
  run : Run exec program s₀ history₁ c₁
  grows : history <+: history₁
  calls_eq : calls history₁ = calls history
  store_eq : c₁.store = c.store
  others : ∀ j, j ≠ i → c₁.handlers j = c.handlers j
  point : AtRequest program requests out history₁ batch p' (c₁.handlers i)

/-- One more step, that calls nothing, before it settles. -/
theorem Settles.after {p' : Prog Op Ret γ} {e : Event Req Ret (Except ε β)}
    {c₀ : Config Req Ret (Except ε β) σ}
    (h : Settles program requests out exec s₀ batch i p' (history ++ [e]) c₀ history₁ c₁)
    (hcall : e.answered = none) (hstore : c₀.store = c.store)
    (hothers : ∀ j, j ≠ i → c₀.handlers j = c.handlers j) :
    Settles program requests out exec s₀ batch i p' history c history₁ c₁ where
  run := h.run
  grows := (List.prefix_append _ _).trans h.grows
  calls_eq := by
    rw [h.calls_eq]
    simp [calls, hcall]
  store_eq := h.store_eq.trans hstore
  others j hj := (h.others j hj).trans (hothers j hj)
  point := h.point

theorem settles_call {op : Op} {next : Ret op → Prog Op Ret (Except ε β)}
    (hrun : Run exec program s₀ history c) (hhandler : c.handlers i = some (req, .call op next))
    (hsplit : requests batch = past ++ req :: rest) (hreturned : Returned history past answers) :
    Settles program requests out exec s₀ batch i
      (.call op fun r => next r >>= Prog.afterOne (Prog.inTurn program (out batch) rest) (out batch) answers)
      history c history c :=
  ⟨hrun, List.prefix_rfl, rfl, rfl, fun _ _ => rfl, hhandler ▸ .within hsplit hreturned⟩

/-- The handler of a request is over, and with it all of them. -/
theorem settles_done {a : Except ε β} {r : Except ε (List β)} (hrun : Run exec program s₀ history c)
    (hhandler : c.handlers i = some (req, .done a))
    (hanswered : AnsweredInTurn (history ++ [.returned req a]) (requests batch) r) :
    Settles program requests out exec s₀ batch i (.done (out batch r)) history c
      (history ++ [.returned req a]) ⟨c.store, Function.update c.handlers i none⟩ where
  run := hrun.step (.finish i hhandler) trivial
  grows := List.prefix_append _ _
  calls_eq := by simp [calls, Event.answered]
  store_eq := rfl
  others j hj := Function.update_of_ne hj _ _
  point := by
    simp only [Function.update_self]
    exact .ended hanswered

variable (out) in
/-- A request that is answered is followed by the next ones, up to one that calls something. -/
theorem exists_settles {p : Prog Op Ret (Except ε β)} (hrun : Run exec program s₀ history c)
    (hhandler : c.handlers i = some (req, p)) (hsplit : requests batch = past ++ req :: rest)
    (hreturned : Returned history past answers) : ∃ history₁ c₁,
      Settles program requests out exec s₀ batch i
        (p >>= Prog.afterOne (Prog.inTurn program (out batch) rest) (out batch) answers)
        history c history₁ c₁ := by
  induction rest generalizing past req p history c answers with
  | nil =>
    cases p with
    | call op next => exact ⟨_, _, settles_call hrun hhandler hsplit hreturned⟩
    | done a =>
      cases a with
      | error e =>
        exact ⟨_, _, settles_done hrun hhandler
          ⟨past, req, [], answers, hsplit, hreturned.mono (List.prefix_append _ _), by simp⟩⟩
      | ok answer =>
        refine ⟨_, _, settles_done hrun hhandler (r := .ok (answers ++ [answer])) ?_⟩
        change Returned _ (requests batch) (answers ++ [answer])
        rw [hsplit]
        exact hreturned.snoc req answer
  | cons req' rest ih =>
    cases p with
    | call op next => exact ⟨_, _, settles_call hrun hhandler hsplit hreturned⟩
    | done a =>
      cases a with
      | error e =>
        exact ⟨_, _, settles_done hrun hhandler
          ⟨past, req, req' :: rest, answers, hsplit, hreturned.mono (List.prefix_append _ _), by simp⟩⟩
      | ok answer =>
        have hfinish := hrun.step (.finish i hhandler) trivial
        have hstart := hfinish.step (.start i req' (Function.update_self ..)) trivial
        have hsplit' : requests batch = (past ++ [req]) ++ req' :: rest := by simp [hsplit]
        obtain ⟨history₁, c₁, hsettles⟩ := ih hstart (Function.update_self ..) hsplit'
          ((hreturned.snoc req answer).mono (List.prefix_append _ _))
        have hfinished := hsettles.after (c := ⟨c.store, Function.update c.handlers i none⟩) rfl rfl
          fun j hj => Function.update_of_ne hj _ _
        exact ⟨history₁, c₁, hfinished.after rfl rfl fun j hj => Function.update_of_ne hj _ _⟩

variable (program requests out) in
/-- The handlers of the requests do what the handlers of the batches did. -/
structure InTurns (history' : List (Event Req' Ret γ)) (c' : Config Req' Ret γ σ)
    (history : List (Event Req Ret (Except ε β))) (c : Config Req Ret (Except ε β) σ) : Prop where
  calls_eq : calls history = calls history'
  store_eq : c.store = c'.store
  idle : ∀ i, c'.handlers i = none → c.handlers i = none
  point : ∀ i batch p', c'.handlers i = some (batch, p') →
    AtRequest program requests out history batch p' (c.handlers i)
  called : ∀ batch op r, .called batch op r ∈ history' →
    ∃ req ∈ requests batch, .called req op r ∈ history
  answered : ∀ batch a, .returned batch a ∈ history' →
    ∃ r, a = out batch r ∧ AnsweredInTurn history (requests batch) r

variable {history' : List (Event Req' Ret γ)} {e' : Event Req' Ret γ}

/-- A handler goes on, and the handlers of its requests with it. -/
theorem InTurns.settle {p' : Prog Op Ret γ} {t : σ} {history₀ : List (Event Req Ret (Except ε β))}
    {c₀ : Config Req Ret (Except ε β) σ} (h : InTurns program requests out history' c' history c)
    (hsettles : Settles program requests out exec s₀ batch i p' history₀ c₀ history₁ c₁)
    (hgrows : history <+: history₀) (hcalls : calls history₀ = calls (history' ++ [e']))
    (hstore : c₀.store = t) (hothers : ∀ j, j ≠ i → c₀.handlers j = c.handlers j)
    (hcalled : ∀ batch op r, e' = .called batch op r → ∃ req ∈ requests batch, .called req op r ∈ history₀)
    (hreturned : ∀ batch a, e' ≠ .returned batch a) :
    InTurns program requests out (history' ++ [e']) ⟨t, Function.update c'.handlers i (some (batch, p'))⟩
      history₁ c₁ where
  calls_eq := hsettles.calls_eq.trans hcalls
  store_eq := hsettles.store_eq.trans hstore
  idle j hj := by
    by_cases hji : j = i
    · subst hji
      simp at hj
    · simp only [Function.update_of_ne hji] at hj
      rw [hsettles.others j hji, hothers j hji]
      exact h.idle j hj
  point j batch' q hj := by
    by_cases hji : j = i
    · subst hji
      simp only [Function.update_self, Option.some.injEq, Prod.mk.injEq] at hj
      obtain ⟨rfl, rfl⟩ := hj
      exact hsettles.point
    · simp only [Function.update_of_ne hji] at hj
      rw [hsettles.others j hji, hothers j hji]
      exact (h.point j batch' q hj).mono (hgrows.trans hsettles.grows)
  called batch' op r hmem := by
    rcases List.mem_append.1 hmem with hmem | hmem
    · obtain ⟨req, hreq, hmem⟩ := h.called batch' op r hmem
      exact ⟨req, hreq, (hgrows.trans hsettles.grows).subset hmem⟩
    · obtain ⟨req, hreq, hmem⟩ := hcalled batch' op r (List.mem_singleton.1 hmem).symm
      exact ⟨req, hreq, hsettles.grows.subset hmem⟩
  answered batch' a hmem := by
    rcases List.mem_append.1 hmem with hmem | hmem
    · obtain ⟨r, ha, hanswered⟩ := h.answered batch' a hmem
      exact ⟨r, ha, hanswered.mono (hgrows.trans hsettles.grows)⟩
    · exact absurd (List.mem_singleton.1 hmem).symm (hreturned batch' a)

/-- A handler stops, and what it was at stops with it. -/
theorem InTurns.stop (h : InTurns program requests out history' c' history c) (i : ℕ)
    (hgrows : history <+: history₁) (hcalls : calls history₁ = calls (history' ++ [e']))
    (hstore : c₁.store = c.store) (hstopped : c₁.handlers i = none)
    (hothers : ∀ j, j ≠ i → c₁.handlers j = c.handlers j)
    (hcalled : ∀ batch op r, e' ≠ .called batch op r)
    (hreturned : ∀ batch a, e' = .returned batch a →
      ∃ r, a = out batch r ∧ AnsweredInTurn history₁ (requests batch) r) :
    InTurns program requests out (history' ++ [e']) ⟨c'.store, Function.update c'.handlers i none⟩
      history₁ c₁ where
  calls_eq := hcalls
  store_eq := hstore.trans h.store_eq
  idle j hj := by
    by_cases hji : j = i
    · exact hji ▸ hstopped
    · simp only [Function.update_of_ne hji] at hj
      rw [hothers j hji]
      exact h.idle j hj
  point j batch' q hj := by
    by_cases hji : j = i
    · subst hji
      simp at hj
    · simp only [Function.update_of_ne hji] at hj
      rw [hothers j hji]
      exact (h.point j batch' q hj).mono hgrows
  called batch' op r hmem := by
    rcases List.mem_append.1 hmem with hmem | hmem
    · obtain ⟨req, hreq, hmem⟩ := h.called batch' op r hmem
      exact ⟨req, hreq, hgrows.subset hmem⟩
    · exact absurd (List.mem_singleton.1 hmem).symm (hcalled batch' op r)
  answered batch' a hmem := by
    rcases List.mem_append.1 hmem with hmem | hmem
    · obtain ⟨r, ha, hanswered⟩ := h.answered batch' a hmem
      exact ⟨r, ha, hanswered.mono hgrows⟩
    · exact hreturned batch' a (List.mem_singleton.1 hmem).symm

theorem calls_append_quiet {Req₀ α : Type} {past : List (Event Req₀ Ret α)} {e : Event Req₀ Ret α}
    (h : e.answered = none) : calls (past ++ [e]) = calls past := by
  simp [calls, h]

/-- One step of a handler of a batch is some steps of the handlers of its requests. -/
theorem InTurns.step (h : InTurns program requests out history' c' history c)
    (hrun : Run exec program s₀ history c)
    (hstep : Step exec (fun batch => Prog.inTurn program (out batch) (requests batch) []) c' i e' d') :
    ∃ history₁ c₁, Run exec program s₀ history₁ c₁ ∧
      InTurns program requests out (history' ++ [e']) d' history₁ c₁ := by
  cases hstep with
  | start batch hnone =>
    have hquiet : calls (history' ++ [.started batch]) = calls history' := calls_append_quiet rfl
    cases hrequests : requests batch with
    | nil =>
      have hended : Settles program requests out exec s₀ batch i
          (Prog.inTurn program (out batch) [] []) history c history c := by
        refine ⟨hrun, List.prefix_rfl, rfl, rfl, fun _ _ => rfl, ?_⟩
        rw [h.idle i hnone]
        refine .ended ?_
        change Returned history (requests batch) []
        rw [hrequests]
        exact returned_nil history
      exact ⟨history, c, hrun, h.settle hended List.prefix_rfl (h.calls_eq.trans hquiet.symm)
        h.store_eq (fun _ _ => rfl) (by simp) (by simp)⟩
    | cons req rest =>
      have hstart := hrun.step (.start i req (h.idle i hnone)) trivial
      obtain ⟨history₁, c₁, hsettles⟩ := exists_settles out hstart (Function.update_self ..)
        (hrequests : requests batch = [] ++ req :: rest) (returned_nil _)
      refine ⟨history₁, c₁, hsettles.run, h.settle hsettles (List.prefix_append _ _) ?_ h.store_eq
        (fun j hj => Function.update_of_ne hj _ _) (by simp) (by simp)⟩
      rw [calls_append_quiet rfl, hquiet, h.calls_eq]
  | @call batch op next r t hhandler hexec =>
    have hpoint := h.point i batch _ hhandler
    generalize hp : (.call op next : Prog Op Ret γ) = p' at hpoint
    generalize hq : c.handlers i = q at hpoint
    cases hpoint with
    | ended hanswered => cases hp
    | @within past rest req answers op' next' hsplit hreturned =>
      cases hp
      have hexec' : exec op c.store r t := h.store_eq ▸ hexec
      have hcall := hrun.step (.call i hq hexec') trivial
      obtain ⟨history₁, c₁, hsettles⟩ := exists_settles out hcall (Function.update_self ..)
        hsplit (hreturned.mono (List.prefix_append _ _))
      refine ⟨history₁, c₁, hsettles.run, h.settle hsettles (List.prefix_append _ _) ?_ rfl
        (fun j hj => Function.update_of_ne hj _ _) ?_ (by simp)⟩
      · rw [calls, calls, List.filterMap_append, List.filterMap_append]
        exact congrArg (· ++ _) h.calls_eq
      · intro batch' op' r' he
        cases he
        exact ⟨req, by simp [hsplit], by simp⟩
  | @finish batch a hhandler =>
    have hpoint := h.point i batch _ hhandler
    generalize hp : (.done a : Prog Op Ret γ) = p' at hpoint
    generalize hq : c.handlers i = q at hpoint
    cases hpoint with
    | within hsplit hreturned => cases hp
    | @ended r hanswered =>
      cases hp
      refine ⟨history, c, hrun, h.stop i List.prefix_rfl ?_ rfl hq (fun _ _ => rfl) (by simp) ?_⟩
      · rw [calls_append_quiet rfl, h.calls_eq]
      · intro batch' a' he
        cases he
        exact ⟨r, rfl, hanswered⟩
  | @crash batch p hhandler =>
    have hquiet : calls (history' ++ [.crashed batch]) = calls history' := calls_append_quiet rfl
    have hpoint := h.point i batch _ hhandler
    generalize hq : c.handlers i = q at hpoint
    cases hpoint with
    | ended hanswered =>
      exact ⟨history, c, hrun, h.stop i List.prefix_rfl (h.calls_eq.trans hquiet.symm) rfl hq
        (fun _ _ => rfl) (by simp) (by simp)⟩
    | within hsplit hreturned =>
      have hcrash := hrun.step (.crash i hq) trivial
      refine ⟨_, _, hcrash, h.stop i (List.prefix_append _ _) ?_ rfl (Function.update_self ..)
        (fun j hj => Function.update_of_ne hj _ _) (by simp) (by simp)⟩
      rw [calls_append_quiet rfl, hquiet, h.calls_eq]

/-- What handlers do that take several requests in turn is done by handlers that take one each. -/
theorem Run.inTurns
    (hrun : Run exec (fun batch => Prog.inTurn program (out batch) (requests batch) []) s₀ history' c') :
    ∃ history c, Run exec program s₀ history c ∧ InTurns program requests out history' c' history c := by
  induction hrun with
  | init => exact ⟨[], _, .init, rfl, rfl, fun _ _ => rfl, by simp, by simp, by simp⟩
  | step hrun hstep hok ih =>
    obtain ⟨history, c, hcoarse, hturns⟩ := ih
    exact hturns.step hcoarse hstep

end Interleave
