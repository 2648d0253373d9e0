import Mathlib.Data.List.Basic

/-! Sessions that answer every input with a call or with their end, and turns in which the calls are
answered. -/

inductive Decision (Call Out : Type)
  | call (c : Call)
  | stop (o : Out)

namespace Session

variable {σ In Call Out E W : Type}

section Inputs

variable (next : σ → In → Decision Call Out × σ)

/-- The calls decided on before the session ends, each with the input it was decided on. -/
def issued (s : σ) : List In → List (In × Call)
  | [] => []
  | i :: inputs =>
    match next s i with
    | (.call c, s') => (i, c) :: issued s' inputs
    | (.stop _, _) => []

/-- How the session ends, with the input it ends on. -/
def ending (s : σ) : List In → Option (In × Out)
  | [] => none
  | i :: inputs =>
    match next s i with
    | (.call _, s') => ending s' inputs
    | (.stop o, _) => some (i, o)

end Inputs

variable {next : σ → In → Decision Call Out × σ} {s s' : σ} {i : In} {c : Call} {o : Out}
  {inputs : List In}

theorem issued_call (h : next s i = (.call c, s')) :
    issued next s (i :: inputs) = (i, c) :: issued next s' inputs := by
  rw [issued, h]

theorem issued_stop (h : next s i = (.stop o, s')) : issued next s (i :: inputs) = [] := by
  rw [issued, h]

theorem ending_call (h : next s i = (.call c, s')) :
    ending next s (i :: inputs) = ending next s' inputs := by
  rw [ending, h]

theorem ending_stop (h : next s i = (.stop o, s')) : ending next s (i :: inputs) = some (i, o) := by
  rw [ending, h]

/-- An input that no call was decided on ends the session. -/
theorem ending_isSome (h : (issued next s inputs).length < inputs.length) :
    (ending next s inputs).isSome := by
  induction inputs generalizing s with
  | nil => cases h
  | cons i inputs ih =>
    match hnext : next s i with
    | (.call c, s') =>
      rw [issued_call hnext] at h
      rw [ending_call hnext]
      exact ih (Nat.lt_of_succ_lt_succ h)
    | (.stop o, s') =>
      rw [ending_stop hnext]
      rfl

/-- The calls that lead from a state to another. -/
inductive Path (next : σ → In → Decision Call Out × σ) (s : σ) : List (In × Call) → σ → Prop
  | refl : Path next s [] s
  | call {s' s'' : σ} {i : In} {c : Call} {steps : List (In × Call)} (h : Path next s steps s')
      (hnext : next s' i = (.call c, s'')) : Path next s (steps ++ [(i, c)]) s''

theorem Path.head {s'' : σ} {steps : List (In × Call)} (hnext : next s i = (.call c, s'))
    (h : Path next s' steps s'') : Path next s ((i, c) :: steps) s'' := by
  induction h with
  | refl => exact Path.refl.call hnext
  | call _ hlast ih => exact ih.call hlast

/-- The calls on some inputs lead to the state in which the session ends. -/
theorem exists_path (next : σ → In → Decision Call Out × σ) (s : σ) (inputs : List In) :
    ∃ s', Path next s (issued next s inputs) s' ∧
      ∀ i o, ending next s inputs = some (i, o) → ∃ t, next s' i = (.stop o, t) := by
  induction inputs generalizing s with
  | nil => exact ⟨s, .refl, fun _ _ h => by cases h⟩
  | cons i inputs ih =>
    match hnext : next s i with
    | (.call c, s') =>
      rw [issued_call hnext, ending_call hnext]
      obtain ⟨t, hpath, hending⟩ := ih s'
      exact ⟨t, hpath.head hnext, hending⟩
    | (.stop o, s') =>
      rw [issued_stop hnext, ending_stop hnext]
      refine ⟨s, .refl, ?_⟩
      rintro _ _ ⟨rfl⟩
      exact ⟨s', hnext⟩

/-- A turn: every call is answered, and what is answered is the next input, until the session ends or
is cut short. -/
inductive Turn (next : σ → In → Decision Call Out × σ) (answer : Call → W → List E → In → W → Prop) :
    σ → In → W → List (In × Call) → List E → Option Out → W → Prop
  | cut (s : σ) (i : In) (w : W) : Turn next answer s i w [] [] none w
  | stop {s s' : σ} {i : In} {o : Out} (h : next s i = (.stop o, s')) (w : W) :
      Turn next answer s i w [] [] (some o) w
  | call {s s' : σ} {i i' : In} {c : Call} {w w' w'' : W} {es es' : List E}
      {steps : List (In × Call)} {out : Option Out} (h : next s i = (.call c, s'))
      (hanswer : answer c w es i' w') (hrest : Turn next answer s' i' w' steps es' out w'') :
      Turn next answer s i w ((i, c) :: steps) (es ++ es') out w''

variable {answer : Call → W → List E → In → W → Prop} {w w' : W} {steps : List (In × Call)}
  {es : List E} {out : Option Out}

/-- A turn follows a path of its session. -/
theorem Turn.exists_path (h : Turn next answer s i w steps es out w') :
    ∃ s', Path next s steps s' := by
  induction h with
  | cut s i w => exact ⟨s, .refl⟩
  | @stop s s' i o hnext w => exact ⟨s, .refl⟩
  | call hnext hanswer hrest ih =>
    obtain ⟨t, hpath⟩ := ih
    exact ⟨t, hpath.head hnext⟩

/-- What holds of the effects of every answer holds of those of the turn. -/
theorem Turn.effects {P : E → Prop} (h : Turn next answer s i w steps es out w')
    (hanswer : ∀ c w es i w', answer c w es i w' → ∀ e ∈ es, P e) : ∀ e ∈ es, P e := by
  induction h with
  | cut s i w => exact nofun
  | @stop s s' i o hnext w => exact nofun
  | call hnext hanswered hrest ih =>
    intro e he
    rcases List.mem_append.1 he with he | he
    · exact hanswer _ _ _ _ _ hanswered e he
    · exact ih e he

end Session
