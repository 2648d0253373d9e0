import Mathlib.Order.Nat
import Counterparty.Library.Interleave

/-! Runs with every configuration on the way, and what one handler does in them. -/
namespace Interleave

variable {Req Op α σ : Type} {Ret : Op → Type}

/-- Some number of steps from a state in which no handler is under way. -/
structure Trace (exec : (op : Op) → σ → Ret op → σ → Prop) (program : Req → Prog Op Ret α)
    (s₀ : σ) where
  length : ℕ
  config : ℕ → Config Req Ret α σ
  actor : ℕ → ℕ
  event : ℕ → Event Req Ret α
  start : config 0 = ⟨s₀, fun _ => none⟩
  step : ∀ k < length, Step exec program (config k) (actor k) (event k) (config (k + 1))

variable {exec : (op : Op) → σ → Ret op → σ → Prop} {program : Req → Prog Op Ret α} {s₀ : σ}
  {c c' : Config Req Ret α σ} {history : List (Event Req Ret α)} {req : Req} {op : Op} {r : Ret op}
  {i : ℕ}

/-- As far as a trace goes, it is a run. -/
theorem Trace.run (E : Trace exec program s₀) {k : ℕ} (h : k ≤ E.length) :
    Run exec program s₀ ((List.range k).map E.event) (E.config k) := by
  induction k with
  | zero =>
    rw [E.start]
    exact .init
  | succ k ih =>
    rw [List.range_succ, List.map_append]
    exact (ih (by omega)).step (E.step k (by omega)) trivial

/-- What has happened before a step. -/
def Trace.past (E : Trace exec program s₀) (k : ℕ) : List (Event Req Ret α) :=
  (List.range k).map E.event

theorem Trace.past_succ (E : Trace exec program s₀) (k : ℕ) :
    E.past (k + 1) = E.past k ++ [E.event k] := by
  rw [Trace.past, List.range_succ, List.map_append]
  rfl

theorem Trace.past_prefix (E : Trace exec program s₀) {k b : ℕ} (h : k ≤ b) :
    E.past k <+: E.past b := by
  obtain ⟨n, rfl⟩ := Nat.exists_eq_add_of_le h
  rw [Trace.past, Trace.past, List.range_add, List.map_append]
  exact List.prefix_append _ _

/-- The trace without a step. -/
def Trace.nil (exec : (op : Op) → σ → Ret op → σ → Prop) (program : Req → Prog Op Ret α) (s₀ : σ)
    (req : Req) : Trace exec program s₀ where
  length := 0
  config _ := ⟨s₀, fun _ => none⟩
  actor _ := 0
  event _ := .started req
  start := rfl
  step := nofun

/-- A trace with one more step. -/
def Trace.snoc (E : Trace exec program s₀) {i : ℕ} {e : Event Req Ret α}
    (hstep : Step exec program (E.config E.length) i e c') : Trace exec program s₀ where
  length := E.length + 1
  config k := if k ≤ E.length then E.config k else c'
  actor k := if k < E.length then E.actor k else i
  event k := if k < E.length then E.event k else e
  start := by rw [if_pos (Nat.zero_le _), E.start]
  step k hk := by
    rcases Nat.lt_succ_iff_lt_or_eq.1 hk with hlt | rfl
    · rw [if_pos hlt.le, if_pos hlt, if_pos hlt, if_pos (Nat.succ_le_of_lt hlt)]
      exact E.step k hlt
    · rw [if_pos le_rfl, if_neg (lt_irrefl _), if_neg (lt_irrefl _), if_neg (Nat.not_succ_le_self _)]
      exact hstep

/-- Every run is one. -/
theorem RunWhere.exists_trace [Inhabited Req] (h : Run exec program s₀ history c) :
    ∃ E : Trace exec program s₀, E.config E.length = c ∧
      (List.range E.length).map E.event = history := by
  induction h with
  | init => exact ⟨⟨0, fun _ => ⟨s₀, fun _ => none⟩, fun _ => 0, fun _ => .started default, rfl, nofun⟩, rfl, rfl⟩
  | @step history c c' i e hrun hstep hok ih =>
    obtain ⟨E, rfl, rfl⟩ := ih
    refine ⟨E.snoc hstep, if_neg (Nat.not_succ_le_self _), ?_⟩
    have hevents : ∀ k ∈ List.range E.length, (E.snoc hstep).event k = E.event k :=
      fun k hk => if_pos (List.mem_range.1 hk)
    have hlast : (E.snoc hstep).event E.length = e := if_neg (lt_irrefl _)
    change (List.range (E.length + 1)).map _ = _
    rw [List.range_succ, List.map_append, List.map_congr_left hevents, List.map_singleton, hlast]

/-! One handler. -/

theorem Step.called (h : Step exec program c i (.called req op r) c') :
    ∃ next, c.handlers i = some (req, .call op next) ∧ exec op c.store r c'.store ∧
      c'.handlers i = some (req, next r) := by
  cases h with
  | call hhandler hexec => exact ⟨_, hhandler, hexec, Function.update_self ..⟩

theorem Step.started (h : Step exec program c i (.started req) c') :
    c'.store = c.store ∧ c'.handlers i = some (req, program req) := by
  cases h with
  | start _ hnone => exact ⟨rfl, Function.update_self ..⟩

variable {E : Trace exec program s₀} {h k b : ℕ}

/-- A handler is where it was left when it takes its next step. -/
theorem Trace.next_step {handler : Option (Req × Prog Op Ret α)}
    (hstate : (E.config k).handlers h = handler) (hkb : k ≤ b) (hb : b < E.length)
    (hactor : E.actor b = h) :
    ∃ i, k ≤ i ∧ i ≤ b ∧ E.actor i = h ∧ (E.config i).handlers h = handler := by
  obtain ⟨d, rfl⟩ := Nat.exists_eq_add_of_le hkb
  induction d generalizing k with
  | zero => exact ⟨k, le_rfl, le_rfl, hactor, hstate⟩
  | succ d ih =>
    by_cases hk : E.actor k = h
    · exact ⟨k, le_rfl, by omega, hk, hstate⟩
    · have hsame := (E.step k (by omega)).handlers_of_ne (Ne.symm hk)
      have hd : k + (d + 1) = k + 1 + d := by omega
      rw [hd] at hb hactor ⊢
      obtain ⟨i, hi, hib, hstep⟩ := ih (hsame.trans hstate) (by omega) hb hactor
      exact ⟨i, by omega, hib, hstep⟩

/-- Up to a step, all that a handler does is call. -/
def Trace.CallsOnly (E : Trace exec program s₀) (h k b : ℕ) : Prop :=
  ∀ i, k ≤ i → i ≤ b → E.actor i = h → ∃ req op r, E.event i = .called req op r

theorem Trace.CallsOnly.mono {k' : ℕ} (hcalls : E.CallsOnly h k b) (hk : k ≤ k') :
    E.CallsOnly h k' b :=
  fun i hi => hcalls i (hk.trans hi)

/-- The next step of a handler that only calls is a call, and it is where its state says. -/
theorem Trace.next_called {handler : Prog Op Ret α}
    (hstate : (E.config k).handlers h = some (req, handler)) (hkb : k ≤ b) (hb : b < E.length)
    (hactor : E.actor b = h) (hcalls : E.CallsOnly h k b) :
    ∃ i op next r, handler = .call op next ∧ k ≤ i ∧ i ≤ b ∧ E.actor i = h ∧
      E.event i = .called req op r ∧ exec op (E.config i).store r (E.config (i + 1)).store ∧
      (E.config (i + 1)).handlers h = some (req, next r) := by
  obtain ⟨i, hki, hib, hi, hhandler⟩ := E.next_step hstate hkb hb hactor
  obtain ⟨req', op, r, hevent⟩ := hcalls i hki hib hi
  have hstep := E.step i (by omega)
  rw [hi, hevent] at hstep
  obtain ⟨next, hhandler', hexec, hafter⟩ := hstep.called
  rw [hhandler] at hhandler'
  cases hhandler'
  exact ⟨i, op, next, r, rfl, hki, hib, hi, hevent, hexec, hafter⟩

/-- The next step of a handler that is about to call is that call. -/
theorem Trace.next_call {next : Ret op → Prog Op Ret α}
    (hstate : (E.config k).handlers h = some (req, .call op next)) (hkb : k ≤ b)
    (hb : b < E.length) (hactor : E.actor b = h) (hcalls : E.CallsOnly h k b) :
    ∃ i r, k ≤ i ∧ i ≤ b ∧ E.actor i = h ∧ E.event i = .called req op r ∧
      exec op (E.config i).store r (E.config (i + 1)).store ∧
      (E.config (i + 1)).handlers h = some (req, next r) := by
  obtain ⟨i, _, _, r, hcall, hnext⟩ := E.next_called hstate hkb hb hactor hcalls
  cases hcall
  exact ⟨i, r, hnext⟩

/-- A handler that is done does not call. -/
theorem Trace.not_call_of_done {a : α} (hstate : (E.config k).handlers h = some (req, .done a))
    (hkb : k ≤ b) (hb : b < E.length) (hactor : E.actor b = h) : ¬E.CallsOnly h k b := by
  intro hcalls
  obtain ⟨_, _, _, _, hcall, -⟩ := E.next_called hstate hkb hb hactor hcalls
  cases hcall

/-! What the steps keep of the store. -/

/-- A step that calls takes the store as its operation says, any other leaves it. -/
theorem Step.store_cases {e : Event Req Ret α} (h : Step exec program c i e c') :
    c'.store = c.store ∨ ∃ op r, exec op c.store r c'.store := by
  cases h with
  | start req hnone => exact .inl rfl
  | call hhandler hexec => exact .inr ⟨_, _, hexec⟩
  | finish hhandler => exact .inl rfl
  | crash hhandler => exact .inl rfl

/-! Schedules: traces in which every operation is answered by a function of the state. -/

/-- The next step of a handler; one that is not under way starts on the request. -/
def Config.move (program : Req → Prog Op Ret α) (answer : (op : Op) → σ → Ret op × σ)
    (c : Config Req Ret α σ) (i : ℕ) (req : Req) : Event Req Ret α × Config Req Ret α σ :=
  match c.handlers i with
  | none => (.started req, ⟨c.store, Function.update c.handlers i (some (req, program req))⟩)
  | some (req, .call op next) =>
    (.called req op (answer op c.store).1,
      ⟨(answer op c.store).2, Function.update c.handlers i (some (req, next (answer op c.store).1))⟩)
  | some (req, .done a) => (.returned req a, ⟨c.store, Function.update c.handlers i none⟩)

theorem Config.step_move {answer : (op : Op) → σ → Ret op × σ}
    (hanswer : ∀ op s, exec op s (answer op s).1 (answer op s).2) (c : Config Req Ret α σ) (i : ℕ)
    (req : Req) :
    Step exec program c i (c.move program answer i req).1 (c.move program answer i req).2 := by
  rw [Config.move]
  cases hhandler : c.handlers i with
  | none => exact .start i req hhandler
  | some handler =>
    obtain ⟨req', p⟩ := handler
    cases p with
    | done a => exact .finish i hhandler
    | call op next => exact .call i hhandler (hanswer op c.store)

theorem Config.move_called {answer : (op : Op) → σ → Ret op × σ} {req' : Req}
    (h : (c.move program answer i req').1 = .called req op r) : r = (answer op c.store).1 := by
  rw [Config.move] at h
  split at h
  · cases h
  · cases h
    rfl
  · cases h

theorem Config.move_ne_crashed {answer : (op : Op) → σ → Ret op × σ} {req' : Req} :
    (c.move program answer i req').1 ≠ .crashed req := by
  rw [Config.move]
  split <;> exact nofun

/-- The configurations that a schedule leads through. -/
def scheduled (program : Req → Prog Op Ret α) (answer : (op : Op) → σ → Ret op × σ) (s₀ : σ)
    (schedule : ℕ → ℕ × Req) : ℕ → Config Req Ret α σ
  | 0 => ⟨s₀, fun _ => none⟩
  | k + 1 => ((scheduled program answer s₀ schedule k).move program answer (schedule k).1
      (schedule k).2).2

/-- What a schedule does next. -/
def scheduledEvent (program : Req → Prog Op Ret α) (answer : (op : Op) → σ → Ret op × σ) (s₀ : σ)
    (schedule : ℕ → ℕ × Req) (k : ℕ) : Event Req Ret α :=
  ((scheduled program answer s₀ schedule k).move program answer (schedule k).1 (schedule k).2).1

def Trace.ofSchedule (program : Req → Prog Op Ret α) {answer : (op : Op) → σ → Ret op × σ}
    (hanswer : ∀ op s, exec op s (answer op s).1 (answer op s).2) (s₀ : σ)
    (schedule : ℕ → ℕ × Req) (length : ℕ) : Trace exec program s₀ where
  length := length
  config := scheduled program answer s₀ schedule
  actor k := (schedule k).1
  event := scheduledEvent program answer s₀ schedule
  start := rfl
  step _ _ := Config.step_move hanswer _ _ _

/-- Handlers that are never scheduled never start. -/
theorem scheduled_idle {answer : (op : Op) → σ → Ret op × σ} {schedule : ℕ → ℕ × Req} {j : ℕ}
    (h : ∀ k, (schedule k).1 ≠ j) (k : ℕ) :
    (scheduled program answer s₀ schedule k).handlers j = none := by
  induction k with
  | zero => rfl
  | succ k ih =>
    rw [scheduled, Config.move]
    split <;> exact (Function.update_of_ne (h k).symm _ _).trans ih

/-- What a handler does and comes to when it is scheduled for a number of calls. -/
theorem scheduled_advance {answer : (op : Op) → σ → Ret op × σ} {schedule : ℕ → ℕ × Req}
    (hschedule : ∀ k, (schedule k).1 = i) {k n : ℕ} {p p' : Prog Op Ret α} {s' : σ}
    {calls : List ((op : Op) × Ret op)}
    (hstate : (scheduled program answer s₀ schedule k).handlers i = some (req, p))
    (hp : p.advance answer n (scheduled program answer s₀ schedule k).store = (p', s', calls))
    (hn : calls.length = n) :
    (∀ j e, (calledBy req calls)[j]? = some e →
        scheduledEvent program answer s₀ schedule (k + j) = e) ∧
      (scheduled program answer s₀ schedule (k + n)).handlers i = some (req, p') ∧
      (scheduled program answer s₀ schedule (k + n)).store = s' := by
  induction n generalizing k p calls with
  | zero =>
    cases hp
    exact ⟨nofun, hstate, rfl⟩
  | succ n ih =>
    cases p with
    | done a =>
      cases hp
      cases hn
    | call op next =>
      simp only [Prog.advance, Prod.mk.injEq] at hp
      obtain ⟨hp', hs', rfl⟩ := hp
      have hmove : (scheduled program answer s₀ schedule k).move program answer (schedule k).1
          (schedule k).2 = (.called req op (answer op (scheduled program answer s₀ schedule k).store).1,
          ⟨(answer op (scheduled program answer s₀ schedule k).store).2,
            Function.update (scheduled program answer s₀ schedule k).handlers i
              (some (req, next (answer op (scheduled program answer s₀ schedule k).store).1))⟩) := by
        rw [Config.move, hschedule, hstate]
      have hnext := congrArg Prod.snd hmove
      rw [← scheduled] at hnext
      have hrest : (scheduled program answer s₀ schedule (k + 1)).handlers i =
          some (req, next (answer op (scheduled program answer s₀ schedule k).store).1) := by
        rw [hnext]
        exact Function.update_self ..
      obtain ⟨hevents, hlast⟩ := ih hrest (by rw [hnext]; exact Prod.ext hp' (Prod.ext hs' rfl))
        (Nat.succ.inj hn)
      rw [← Nat.add_assoc, Nat.add_right_comm]
      refine ⟨?_, hlast⟩
      intro j e hj
      cases j with
      | zero =>
        cases hj
        exact congrArg Prod.fst hmove
      | succ j =>
        rw [← Nat.add_assoc, Nat.add_right_comm]
        exact hevents j e hj

/-- A handler that is about to call does so when it is scheduled. -/
theorem Trace.ofSchedule_call {answer : (op : Op) → σ → Ret op × σ}
    {hanswer : ∀ op s, exec op s (answer op s).1 (answer op s).2} {schedule : ℕ → ℕ × Req}
    {length : ℕ} {next : Ret op → Prog Op Ret α}
    (hstate : ((Trace.ofSchedule program hanswer s₀ schedule length).config k).handlers
      (schedule k).1 = some (req, .call op next)) :
    let E := Trace.ofSchedule program hanswer s₀ schedule length
    E.event k = .called req op (answer op (E.config k).store).1 ∧
      (E.config (k + 1)).handlers (schedule k).1 =
        some (req, next (answer op (E.config k).store).1) := by
  intro E
  have hmove : (E.config k).move program answer (schedule k).1 (schedule k).2 =
      (.called req op (answer op (E.config k).store).1,
        ⟨(answer op (E.config k).store).2, Function.update (E.config k).handlers (schedule k).1
          (some (req, next (answer op (E.config k).store).1))⟩) := by
    rw [Config.move, hstate]
  have hnext : E.config (k + 1) =
      ((E.config k).move program answer (schedule k).1 (schedule k).2).2 := rfl
  refine ⟨congrArg Prod.fst hmove, ?_⟩
  rw [hnext, hmove]
  exact Function.update_self ..

/-- A handler that is not under way starts when it is scheduled. -/
theorem scheduled_start {answer : (op : Op) → σ → Ret op × σ} {schedule : ℕ → ℕ × Req} {k : ℕ}
    (hschedule : schedule k = (i, req))
    (hstate : (scheduled program answer s₀ schedule k).handlers i = none) :
    scheduledEvent program answer s₀ schedule k = .started req ∧
      (scheduled program answer s₀ schedule (k + 1)).store =
        (scheduled program answer s₀ schedule k).store ∧
      (scheduled program answer s₀ schedule (k + 1)).handlers i = some (req, program req) := by
  rw [scheduledEvent, scheduled, hschedule, Config.move, hstate]
  exact ⟨rfl, rfl, Function.update_self ..⟩

/-- A handler that is done answers when it is scheduled. -/
theorem scheduled_finish {answer : (op : Op) → σ → Ret op × σ} {schedule : ℕ → ℕ × Req} {k : ℕ}
    {a : α} (hschedule : (schedule k).1 = i)
    (hstate : (scheduled program answer s₀ schedule k).handlers i = some (req, .done a)) :
    scheduledEvent program answer s₀ schedule k = .returned req a ∧
      (scheduled program answer s₀ schedule (k + 1)).store =
        (scheduled program answer s₀ schedule k).store ∧
      (scheduled program answer s₀ schedule (k + 1)).handlers i = none := by
  rw [scheduledEvent, scheduled, hschedule, Config.move, hstate]
  exact ⟨rfl, rfl, Function.update_self ..⟩

/-! Answers. -/

/-- A handler starts on a request at one step and answers it at another. -/
structure Trace.Answers (E : Trace exec program s₀) (h a b : ℕ) (req : Req) (answer : α) : Prop where
  started : E.actor a = h ∧ E.event a = .started req
  returned : E.actor b = h ∧ E.event b = .returned req answer
  lt : a < b
  lt_length : b < E.length
  calls : ∀ i, a < i → i < b → E.actor i = h → ∃ req op r, E.event i = .called req op r

theorem Trace.Answers.mem {E : Trace exec program s₀} {h a b : ℕ} {answer : α}
    (hanswers : E.Answers h a b req answer) :
    .returned req answer ∈ (List.range (b + 1)).map E.event := by
  rw [← hanswers.returned.2]
  exact List.mem_map_of_mem (List.mem_range.2 (Nat.lt_succ_self b))

theorem Step.returned {a : α} (h : Step exec program c i (.returned req a) c') :
    c.handlers i = some (req, .done a) := by
  cases h with
  | finish hhandler => exact hhandler

/-- A handler that is done has its answer, and does nothing more before it gives it. -/
theorem Trace.Answers.of_done {a : ℕ} {answer x : α} {req' : Req} (hanswers : E.Answers h a b req answer)
    (hstate : (E.config k).handlers h = some (req', .done x)) (hak : a < k) (hkb : k ≤ b) :
    answer = x ∧ ∀ i, k ≤ i → i < b → E.actor i ≠ h := by
  have hnone : ∀ i, k ≤ i → i < b → E.actor i ≠ h := by
    intro i hki hib hi
    refine E.not_call_of_done hstate hki (hib.trans hanswers.lt_length) hi ?_
    intro j hkj hji
    exact hanswers.calls j (by omega) (by omega)
  obtain ⟨i, hki, hib, hi, hdone⟩ := E.next_step hstate hkb hanswers.lt_length hanswers.returned.1
  obtain rfl : i = b := by
    by_contra hne
    exact hnone i hki (by omega) hi
  have hstep := E.step i hanswers.lt_length
  rw [hi, hanswers.returned.2] at hstep
  have hreturned := hstep.returned
  rw [hdone] at hreturned
  cases hreturned
  exact ⟨rfl, hnone⟩

/-- A handler that is about to call does so before it answers. -/
theorem Trace.Answers.of_call {a : ℕ} {answer : α} {req' : Req} {next : Ret op → Prog Op Ret α}
    (hanswers : E.Answers h a b req answer)
    (hstate : (E.config k).handlers h = some (req', .call op next)) (hak : a < k) (hkb : k ≤ b) :
    ∃ i, k ≤ i ∧ i < b ∧ E.actor i = h ∧ E.CallsOnly h k i := by
  obtain ⟨i, hki, hib, hi, hcall⟩ := E.next_step hstate hkb hanswers.lt_length hanswers.returned.1
  rcases Nat.lt_or_eq_of_le hib with hlt | rfl
  · refine ⟨i, hki, hlt, hi, ?_⟩
    intro j hkj hji
    exact hanswers.calls j (by omega) (by omega)
  · have hstep := E.step i hanswers.lt_length
    rw [hi, hanswers.returned.2] at hstep
    have hreturned := hstep.returned
    rw [hcall] at hreturned
    cases hreturned

/-- Between two moments of a trace a program is performed for a request, and comes to its answer. -/
inductive Trace.Performs {β : Type} (E : Trace exec program s₀) (req : Req) (b : ℕ) :
    ℕ → Prog Op Ret β → β → Prop
  | done {k : ℕ} (hkb : k ≤ b) (x : β) : E.Performs req b k (.done x) x
  | call {k i : ℕ} {op : Op} {next : Ret op → Prog Op Ret β} {r : Ret op} {x : β} (hki : k ≤ i)
      (hib : i < b) (hevent : E.event i = .called req op r)
      (hexec : exec op (E.config i).store r (E.config (i + 1)).store)
      (hrest : E.Performs req b (i + 1) (next r) x) : E.Performs req b k (.call op next) x

theorem Trace.Performs.le {β : Type} {p : Prog Op Ret β} {x : β} (hperforms : E.Performs req b k p x) :
    k ≤ b := by
  cases hperforms with
  | done hkb => exact hkb
  | call hki hib => omega

theorem Trace.Performs.of_done {β : Type} {x y : β} (hperforms : E.Performs req b k (.done y) x) :
    x = y := by
  cases hperforms with
  | done => rfl

theorem Trace.Performs.of_call {β : Type} {next : Ret op → Prog Op Ret β} {x : β}
    (hperforms : E.Performs req b k (.call op next) x) :
    ∃ i r, k ≤ i ∧ i < b ∧ E.event i = .called req op r ∧
      exec op (E.config i).store r (E.config (i + 1)).store ∧ E.Performs req b (i + 1) (next r) x := by
  cases hperforms with
  | call hki hib hevent hexec hrest => exact ⟨_, _, hki, hib, hevent, hexec, hrest⟩

/-- One program after the other. -/
theorem Trace.Performs.of_bind {β γ : Type} {p : Prog Op Ret β} {f : β → Prog Op Ret γ} {x : γ}
    (hperforms : E.Performs req b k (p >>= f) x) :
    ∃ k' y, k ≤ k' ∧ E.Performs req b k p y ∧ E.Performs req b k' (f y) x := by
  induction p generalizing k with
  | done y => exact ⟨k, y, le_rfl, .done hperforms.le y, hperforms⟩
  | call op next ih =>
    cases hperforms with
    | call hki hib hevent hexec hrest =>
      obtain ⟨k', y, hik, hfirst, hsecond⟩ := ih _ hrest
      exact ⟨k', y, by omega, .call hki hib hevent hexec hfirst, hsecond⟩

theorem Trace.performs_of_calls {p : Prog Op Ret α} {a : α}
    (hstate : (E.config k).handlers h = some (req, p)) (hkb : k ≤ b) (hb : b < E.length)
    (hreturned : E.actor b = h ∧ E.event b = .returned req a)
    (hcalls : ∀ i, k ≤ i → i < b → E.actor i = h → ∃ req op r, E.event i = .called req op r) :
    E.Performs req b k p a := by
  induction p generalizing k with
  | done a' =>
    obtain ⟨i, hki, hib, hactor, hhandler⟩ := E.next_step hstate hkb hb hreturned.1
    rcases Nat.lt_or_eq_of_le hib with hlt | rfl
    · obtain ⟨req, op, r, hevent⟩ := hcalls i hki hlt hactor
      have hstep := E.step i (by omega)
      rw [hactor, hevent] at hstep
      obtain ⟨next, hcalled, -⟩ := hstep.called
      rw [hhandler] at hcalled
      cases hcalled
    · have hstep := E.step i hb
      rw [hactor, hreturned.2] at hstep
      have hdone := hstep.returned
      rw [hhandler] at hdone
      cases hdone
      exact .done hki a
  | call op next ih =>
    obtain ⟨i, hki, hib, hactor, hhandler⟩ := E.next_step hstate hkb hb hreturned.1
    rcases Nat.lt_or_eq_of_le hib with hlt | rfl
    · obtain ⟨req', op', r, hevent⟩ := hcalls i hki hlt hactor
      have hstep := E.step i (by omega)
      rw [hactor, hevent] at hstep
      obtain ⟨next', hcalled, hexec, hafter⟩ := hstep.called
      rw [hhandler] at hcalled
      cases hcalled
      have hrest := ih r hafter (by omega) fun j hj => hcalls j (by omega)
      exact .call hki hlt hevent hexec hrest
    · have hstep := E.step i hb
      rw [hactor, hreturned.2] at hstep
      have hdone := hstep.returned
      rw [hhandler] at hdone
      cases hdone

/-- A request is answered with what its program comes to between its start and its end. -/
theorem Trace.Answers.performs {a : ℕ} {answer : α} (hanswers : E.Answers h a b req answer) :
    E.Performs req b (a + 1) (program req) answer := by
  obtain ⟨⟨hactor, hstarted⟩, hreturned, hlt, hlength, hcalls⟩ := hanswers
  have hstep := E.step a (by omega)
  rw [hactor, hstarted] at hstep
  exact performs_of_calls hstep.started.2 (by omega) hlength hreturned fun i hi => hcalls i (by omega)

/-- What holds of every program and passes to what is left after a call holds of every answer. -/
theorem RunWhere.returned {ok : Config Req Ret α σ → ℕ → Event Req Ret α → Prop}
    (hrun : RunWhere ok exec program s₀ history c) {P : Req → Prog Op Ret α → Prop}
    (hstart : ∀ req, P req (program req))
    (hcall : ∀ req op next r, P req (.call op next) → P req (next r)) :
    ∀ req a, .returned req a ∈ history → P req (.done a) := by
  induction hrun with
  | init => exact nofun
  | @step history c d i e hrun hstep hok ih =>
    intro req a hmem
    rcases List.mem_append.1 hmem with hmem | hmem
    · exact ih req a hmem
    · have hlast := List.mem_singleton.1 hmem
      subst hlast
      exact hrun.handlers hstart hcall i req _ hstep.returned

/-- The one trace goes on with the other. -/
structure Trace.Extends (E E' : Trace exec program s₀) : Prop where
  length_le : E.length ≤ E'.length
  config_eq : ∀ k ≤ E.length, E'.config k = E.config k
  actor_eq : ∀ k < E.length, E'.actor k = E.actor k
  event_eq : ∀ k < E.length, E'.event k = E.event k

theorem Trace.Extends.trans {E E' E'' : Trace exec program s₀} (h : E.Extends E') (h' : E'.Extends E'') :
    E.Extends E'' := by
  have hle := h.length_le
  refine ⟨hle.trans h'.length_le, ?_, ?_, ?_⟩
  · intro k hk
    exact (h'.config_eq k (by omega)).trans (h.config_eq k hk)
  · intro k hk
    exact (h'.actor_eq k (by omega)).trans (h.actor_eq k hk)
  · intro k hk
    exact (h'.event_eq k (by omega)).trans (h.event_eq k hk)

theorem Trace.Extends.answers {E E' : Trace exec program s₀} {h a b : ℕ} {answer : α}
    (hextends : E.Extends E') (hanswers : E.Answers h a b req answer) :
    E'.Answers h a b req answer := by
  obtain ⟨hlength, -, hactor, hevent⟩ := hextends
  obtain ⟨⟨hstart, hstarted⟩, ⟨hend, hended⟩, hlt, hb, hcalls⟩ := hanswers
  refine ⟨⟨?_, ?_⟩, ⟨?_, ?_⟩, hlt, by omega, ?_⟩
  · exact (hactor a (by omega)).trans hstart
  · exact (hevent a (by omega)).trans hstarted
  · exact (hactor b hb).trans hend
  · exact (hevent b hb).trans hended
  · intro k hak hkb hk
    obtain ⟨req, op, r, hcalled⟩ := hcalls k hak hkb ((hactor k (by omega)).symm.trans hk)
    exact ⟨req, op, r, (hevent k (by omega)).trans hcalled⟩

theorem Trace.extends_snoc (E : Trace exec program s₀) {e : Event Req Ret α}
    (hstep : Step exec program (E.config E.length) i e c') : E.Extends (E.snoc hstep) where
  length_le := Nat.le_succ _
  config_eq _ hk := if_pos hk
  actor_eq _ hk := if_pos hk
  event_eq _ hk := if_pos hk

section Alone

variable {answer : (op : Op) → σ → Ret op × σ}
  (hanswer : ∀ op s, exec op s (answer op s).1 (answer op s).2)

include hanswer

/-- A handler that is alone can go on to its end. -/
theorem Trace.exists_returned (p : Prog Op Ret α) (E : Trace exec program s₀) {s : σ}
    (hlast : E.config E.length = ⟨s, Function.update (fun _ => none) i (some (req, p))⟩) :
    ∃ E', E.Extends E' ∧ ∃ b, E.length ≤ b ∧ E'.length = b + 1 ∧
      E'.config E'.length = ⟨(p.eval answer s).2, fun _ => none⟩ ∧ E'.actor b = i ∧
      E'.event b = .returned req (p.eval answer s).1 ∧
      ∀ k, E.length ≤ k → k < b → ∃ req op r, E'.event k = .called req op r := by
  have hhandler : (E.config E.length).handlers i = some (req, p) := by
    simp only [hlast, Function.update_self]
  induction p generalizing E s with
  | done a =>
    have hstep : Step exec program (E.config E.length) i _ _ := .finish i hhandler
    refine ⟨E.snoc hstep, E.extends_snoc hstep, E.length, le_rfl, rfl, ?_, ?_, ?_, ?_⟩
    · change (if E.length + 1 ≤ E.length then _ else _) = _
      rw [if_neg (Nat.not_succ_le_self _), hlast]
      simp [Function.update_idem]
    · exact if_neg (lt_irrefl _)
    · exact if_neg (lt_irrefl _)
    · intro k hk hk'
      omega
  | call op next ih =>
    have hstep : Step exec program (E.config E.length) i _ _ :=
      .call i hhandler (hanswer op (E.config E.length).store)
    have hnext : (E.snoc hstep).config (E.snoc hstep).length = ⟨(answer op s).2,
        Function.update (fun _ => none) i (some (req, next (answer op s).1))⟩ := by
      change (if E.length + 1 ≤ E.length then _ else _) = _
      rw [if_neg (Nat.not_succ_le_self _), hlast]
      simp [Function.update_idem]
    obtain ⟨E', hextends, b, hb, hlength, hdone, hactor, hreturned, hcalls⟩ :=
      ih (answer op s).1 (E.snoc hstep) hnext (by simp only [hnext, Function.update_self])
    have hlonger : E.length + 1 ≤ b := hb
    refine ⟨E', (E.extends_snoc hstep).trans hextends, b, by omega, hlength, hdone, hactor,
      hreturned, ?_⟩
    intro k hk hkb
    rcases Nat.lt_or_eq_of_le hk with hlt | rfl
    · exact hcalls k hlt hkb
    · have hevent := hextends.event_eq E.length (Nat.lt_succ_self _)
      exact ⟨_, _, _, hevent.trans (if_neg (lt_irrefl _))⟩

/-- After any trace that leaves nothing under way, a request can be answered on its own. -/
theorem Trace.exists_answers (E : Trace exec program s₀) {s : σ}
    (hlast : E.config E.length = ⟨s, fun _ => none⟩) (i : ℕ) (req : Req) :
    ∃ E' : Trace exec program s₀, E.Extends E' ∧
      E'.config E'.length = ⟨((program req).eval answer s).2, fun _ => none⟩ ∧
      ∃ b, E'.Answers i E.length b req ((program req).eval answer s).1 := by
  have hidle : (E.config E.length).handlers i = none := by rw [hlast]
  have hstep : Step exec program (E.config E.length) i _ _ := .start i req hidle
  have hstarted : (E.snoc hstep).config (E.snoc hstep).length =
      ⟨s, Function.update (fun _ => none) i (some (req, program req))⟩ := by
    change (if E.length + 1 ≤ E.length then _ else _) = _
    rw [if_neg (Nat.not_succ_le_self _), hlast]
  obtain ⟨E', hextends, b, hb, hlength, hdone, hactor, hreturned, hcalls⟩ :=
    Trace.exists_returned hanswer (program req) (E.snoc hstep) hstarted
  have hlonger : E.length + 1 ≤ b := hb
  refine ⟨E', (E.extends_snoc hstep).trans hextends, hdone, b, ⟨?_, ?_⟩, ⟨hactor, hreturned⟩, ?_, ?_, ?_⟩
  · exact (hextends.actor_eq _ (Nat.lt_succ_self _)).trans (if_neg (lt_irrefl _))
  · exact (hextends.event_eq _ (Nat.lt_succ_self _)).trans (if_neg (lt_irrefl _))
  · omega
  · omega
  · intro k hk hkb _
    exact hcalls k hk hkb

end Alone

/-! Two reads of a state that grows. -/

section Reads

variable {β γ : Type} [PartialOrder β] [PartialOrder γ] {D : ℕ → β} {P : ℕ → γ} {a i j b m n : ℕ}

theorem le_of_steps (hD : ∀ k, a ≤ k → k < b → D k ≤ D (k + 1)) (ham : a ≤ m) (hmn : m ≤ n)
    (hnb : n ≤ b) : D m ≤ D n := by
  induction n, hmn using Nat.le_induction with
  | base => exact le_rfl
  | succ n hmn ih => exact (ih (by omega)).trans (hD n (by omega) (by omega))

/-- Of two quantities that grow one at a time, the first is read at `i` and the second, later, at
`j`: they are held together at some moment unless, at a moment between the reads, the first had
grown and the second was still to grow. -/
theorem exists_both_iff (hD : ∀ k, a ≤ k → k < b → D k ≤ D (k + 1))
    (hP : ∀ k, a ≤ k → k < b → P k ≤ P (k + 1))
    (hone : ∀ k, a ≤ k → k < b → D (k + 1) = D k ∨ P (k + 1) = P k) (hai : a ≤ i) (hij : i ≤ j)
    (hjb : j ≤ b) :
    (∃ k, a ≤ k ∧ k ≤ b ∧ D k = D i ∧ P k = P j) ↔
      ¬∃ m, i ≤ m ∧ m ≤ j ∧ D m ≠ D i ∧ P m ≠ P j := by
  constructor
  · rintro ⟨k, hak, hkb, hDk, hPk⟩ ⟨m, him, hmj, hDm, hPm⟩
    rcases Nat.le_total k m with hkm | hmk
    · have hup := le_of_steps hP hak hkm (by omega)
      exact hPm (le_antisymm (le_of_steps hP (by omega) hmj hjb) (hPk ▸ hup))
    · have hup := le_of_steps hD (by omega) hmk hkb
      exact hDm (le_antisymm (hDk ▸ hup) (le_of_steps hD hai him (by omega)))
  · intro hnone
    -- as long as the first has not grown go on; the moment it does, the second is there
    have hgo : ∀ d, i + d ≤ j → D (i + d) = D i ∨
        ∃ k, a ≤ k ∧ k ≤ b ∧ D k = D i ∧ P k = P j := by
      intro d
      induction d with
      | zero => exact fun _ => .inl rfl
      | succ d ih =>
        intro hd
        rcases ih (by omega) with hsame | hfound
        · by_cases hnext : D (i + (d + 1)) = D i
          · exact .inl hnext
          · have hlast : P (i + (d + 1)) = P j := by
              by_contra hP'
              exact hnone ⟨i + (d + 1), by omega, hd, hnext, hP'⟩
            rcases hone (i + d) (by omega) (by omega) with hstill | hstill
            · exact absurd (hstill.trans hsame) hnext
            · exact .inr ⟨i + d, by omega, by omega, hsame, hstill.symm.trans hlast⟩
        · exact .inr hfound
    obtain ⟨d, rfl⟩ := Nat.exists_eq_add_of_le hij
    rcases hgo d le_rfl with hsame | hfound
    · exact ⟨i + d, by omega, hjb, hsame, rfl⟩
    · exact hfound

end Reads

end Interleave
