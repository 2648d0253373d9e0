/-! Transactions: a body that fails anywhere, or whose commit fails, leaves the state as it was. -/

variable {σ ε α : Type} {commit : Except ε Unit} {body : StateT σ (Except ε) α} {s : σ}

def atomically (commit : Except ε Unit) (body : StateT σ (Except ε) α) (s : σ) :
    Except ε α × σ :=
  match body s with
  | .error e => (.error e, s)
  | .ok (a, s') =>
    match commit with
    | .error e => (.error e, s)
    | .ok () => (.ok a, s')

theorem atomically_error {e : ε} (h : (atomically commit body s).1 = .error e) :
    (atomically commit body s).2 = s := by
  unfold atomically at *
  split at h
  · rfl
  · split at h
    · rfl
    · cases h

theorem atomically_ok {a : α} (h : (atomically commit body s).1 = .ok a) :
    body s = .ok (a, (atomically commit body s).2) := by
  unfold atomically at *
  split at h
  · cases h
  · rename_i a' s' hbody
    split at h
    · cases h
    · cases h
      exact hbody

theorem atomically_error_cases {e : ε} (h : (atomically commit body s).1 = .error e) :
    body s = .error e ∨ commit = .error e := by
  unfold atomically at h
  split at h
  · rename_i e' hbody
    cases h
    exact .inl hbody
  · split at h
    · cases h
      exact .inr rfl
    · cases h

theorem Except.map_eq_ok {β : Type} {x : Except ε α} {f : α → β} {b : β} (h : x.map f = .ok b) :
    ∃ a, x = .ok a ∧ f a = b := by
  cases x with
  | error e => cases h
  | ok a => exact ⟨a, rfl, Except.ok.inj h⟩
