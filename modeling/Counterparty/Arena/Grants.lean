import Counterparty.Library.Calls
import Counterparty.Arena.Store

/-! Capability grants in the durable store, and how often each of them may be used. -/
namespace Counterparty.Arena

open Json Interleave

/-- A grant is stored as its text; only its id is read before. -/
structure CapabilityGrant where
  id : JsString
  grant : JsObject

/-- PRIMARY KEY(namespace_id, grant_id) -/
structure GrantKey where
  namespaceId : JsString
  grantId : JsString
deriving DecidableEq

structure GrantRow where
  grantJson : Text
  revokedAt : Option JsString

structure GrantState where
  grants : GrantKey → Option GrantRow
  usage : GrantKey → Option ℕ

inductive GrantOp
  | storeGrant (namespaceId : JsString) (grant : CapabilityGrant)
  | getUsage (namespaceId grantId : JsString)
  | tryConsume (namespaceId grantId : JsString) (maximumUses : ℕ)

def GrantOp.Ret : GrantOp → Type
  | .storeGrant .. => Unit
  | .getUsage .. => ℕ
  | .tryConsume .. => Bool

/-- A grant that is stored again is no longer revoked. -/
def storeGrant (namespaceId : JsString) (grant : CapabilityGrant) (s : GrantState) : GrantState :=
  { s with
    grants := Function.update s.grants ⟨namespaceId, grant.id⟩
      (some ⟨stringify (.obj grant.grant), none⟩) }

def getUsage (namespaceId grantId : JsString) (s : GrantState) : ℕ :=
  (s.usage ⟨namespaceId, grantId⟩).getD 0

/-- The first use inserts a row; `WHERE grant_usage.used < ?` is about the rows that are there. -/
def tryConsume (namespaceId grantId : JsString) (maximumUses : ℕ) (s : GrantState) :
    Bool × GrantState :=
  let key : GrantKey := ⟨namespaceId, grantId⟩
  match s.usage key with
  | none => (true, { s with usage := Function.update s.usage key (some 1) })
  | some used =>
    if used < maximumUses then
      (true, { s with usage := Function.update s.usage key (some (used + 1)) })
    else (false, s)

def GrantOp.answer (op : GrantOp) (s : GrantState) : op.Ret × GrantState :=
  match op with
  | .storeGrant namespaceId grant => ((), Arena.storeGrant namespaceId grant s)
  | .getUsage namespaceId grantId => (Arena.getUsage namespaceId grantId s, s)
  | .tryConsume namespaceId grantId maximumUses =>
    Arena.tryConsume namespaceId grantId maximumUses s

abbrev GrantOp.Result (op : GrantOp) : Type := Except StoreError op.Ret

abbrev GrantCalls := List ((op : GrantOp) × op.Result)

/-- Any statement may fail. -/
def GrantOp.Exec : (op : GrantOp) → GrantState → op.Result → GrantState → Prop :=
  Fallible GrantOp.answer

/-! The same operations on ids of any strings, which are bound. -/

namespace Sqlite

def storeGrant (namespaceId : JsString) (grant : CapabilityGrant) (s : GrantState) : GrantState :=
  Arena.storeGrant (bindString namespaceId) { grant with id := bindString grant.id } s

def getUsage (namespaceId grantId : JsString) (s : GrantState) : ℕ :=
  Arena.getUsage (bindString namespaceId) (bindString grantId) s

def tryConsume (namespaceId grantId : JsString) (maximumUses : ℕ) (s : GrantState) :
    Bool × GrantState :=
  Arena.tryConsume (bindString namespaceId) (bindString grantId) maximumUses s

end Sqlite

def GrantOp.boundAnswer (op : GrantOp) (s : GrantState) : op.Ret × GrantState :=
  match op with
  | .storeGrant namespaceId grant => ((), Sqlite.storeGrant namespaceId grant s)
  | .getUsage namespaceId grantId => (Sqlite.getUsage namespaceId grantId s, s)
  | .tryConsume namespaceId grantId maximumUses =>
    Sqlite.tryConsume namespaceId grantId maximumUses s

def GrantOp.BoundExec : (op : GrantOp) → GrantState → op.Result → GrantState → Prop :=
  Fallible GrantOp.boundAnswer

/-- The ids of an operation have no lone surrogates. -/
def GrantOp.WellFormed : GrantOp → Prop
  | .storeGrant namespaceId grant => IsWellFormed namespaceId ∧ IsWellFormed grant.id
  | .getUsage namespaceId grantId => IsWellFormed namespaceId ∧ IsWellFormed grantId
  | .tryConsume namespaceId grantId _ => IsWellFormed namespaceId ∧ IsWellFormed grantId

theorem GrantOp.boundAnswer_eq {op : GrantOp} (h : op.WellFormed) (s : GrantState) :
    op.boundAnswer s = op.answer s := by
  cases op with
  | storeGrant namespaceId grant =>
    have hnamespace : bindString namespaceId = namespaceId := h.1
    have hid : bindString grant.id = grant.id := h.2
    rw [GrantOp.boundAnswer, Sqlite.storeGrant, hnamespace, hid]
    rfl
  | getUsage namespaceId grantId =>
    have hnamespace : bindString namespaceId = namespaceId := h.1
    have hid : bindString grantId = grantId := h.2
    rw [GrantOp.boundAnswer, Sqlite.getUsage, hnamespace, hid]
    rfl
  | tryConsume namespaceId grantId maximumUses =>
    have hnamespace : bindString namespaceId = namespaceId := h.1
    have hid : bindString grantId = grantId := h.2
    rw [GrantOp.boundAnswer, Sqlite.tryConsume, hnamespace, hid]
    rfl

theorem GrantOp.BoundExec.exec {op : GrantOp} {r : op.Result} {s s' : GrantState}
    (h : op.BoundExec s r s') (hop : op.WellFormed) : op.Exec s r s' := by
  rcases h with hfailed | ⟨rfl, rfl⟩
  · exact .inl hfailed
  · rw [GrantOp.boundAnswer_eq hop]
    exact .inr ⟨rfl, rfl⟩

/-! The uses of one grant. -/

/-- Whether a use was allowed, for an answered attempt to use the grant. -/
def useOf (key : GrantKey) : (op : GrantOp) × op.Result → Option Bool
  | ⟨.tryConsume namespaceId grantId _, .ok allowed⟩ =>
    if key = ⟨namespaceId, grantId⟩ then some allowed else none
  | _ => none

def uses (key : GrantKey) (calls : GrantCalls) : List Bool := calls.filterMap (useOf key)

/-- Every attempt to use the grant is made with the bound `m`. -/
def BoundedBy (key : GrantKey) (m : ℕ) (calls : GrantCalls) : Prop :=
  ∀ maximumUses result,
    ⟨.tryConsume key.namespaceId key.grantId maximumUses, result⟩ ∈ calls → maximumUses = m

/-- What the table says after the attempts so far. -/
structure Counted (key : GrantKey) (m : ℕ) (allowed : List Bool) (s : GrantState) : Prop where
  unused : s.usage key = none ↔ allowed = []
  used : ∀ n, s.usage key = some n → n = allowed.count true ∧ n = max 1 (min allowed.length m)

variable {key : GrantKey} {m : ℕ} {calls : GrantCalls} {s s' : GrantState} {allowed : List Bool}

theorem Counted.of_usage_eq (h : Counted key m allowed s) (hs : s'.usage key = s.usage key) :
    Counted key m allowed s' := by
  refine ⟨?_, ?_⟩
  · rw [hs]
    exact h.unused
  · intro n hn
    exact h.used n (hs.symm.trans hn)

/-- The first attempt is counted unchecked, a later one while the bound is not reached. -/
theorem Counted.tryConsume (h : Counted key m allowed s) :
    Counted key m (allowed ++ [(tryConsume key.namespaceId key.grantId m s).1])
      (tryConsume key.namespaceId key.grantId m s).2 := by
  unfold Arena.tryConsume
  cases hused : s.usage key with
  | none =>
    have hnil := h.unused.1 hused
    subst hnil
    refine ⟨by simp [hused], ?_⟩
    intro n hn
    simp only [hused, Function.update_self, Option.some.injEq] at hn
    subst hn
    simp [hused]
  | some used =>
    obtain ⟨hcount, hmax⟩ := h.used used hused
    have hne : allowed ≠ [] := by
      intro hnil
      rw [h.unused.2 hnil] at hused
      cases hused
    have hlen : 0 < allowed.length := List.length_pos_iff.2 hne
    by_cases hlt : used < m
    · simp only [hused, hlt, if_true]
      refine ⟨by simp, ?_⟩
      intro n hn
      simp only [Function.update_self, Option.some.injEq] at hn
      subst hn
      simp only [List.count_append, List.count_singleton_self, List.length_append,
        List.length_singleton]
      omega
    · simp only [hused, hlt, if_false]
      refine ⟨by simp [hused], ?_⟩
      intro n hn
      obtain rfl : used = n := by simpa using hused.symm.trans hn
      simp only [List.count_append, List.length_append, List.length_singleton]
      simp
      omega

theorem tryConsume_other {namespaceId grantId : JsString} {maximumUses : ℕ}
    (hne : key ≠ ⟨namespaceId, grantId⟩) :
    (tryConsume namespaceId grantId maximumUses s).2.usage key = s.usage key := by
  unfold Arena.tryConsume
  cases hused : s.usage ⟨namespaceId, grantId⟩ with
  | none => simp [hused, Function.update_of_ne hne]
  | some used => by_cases hlt : used < maximumUses <;> simp [hused, hlt, Function.update_of_ne hne]

theorem uses_append (calls calls' : GrantCalls) :
    uses key (calls ++ calls') = uses key calls ++ uses key calls' := List.filterMap_append

/-- Nothing but an attempt to use the grant touches its row. -/
theorem Counted.call {op : GrantOp} {r : op.Result} (h : Counted key m (uses key calls) s)
    (hexec : op.Exec s r s') (hbound : BoundedBy key m (calls ++ [⟨op, r⟩])) :
    Counted key m (uses key (calls ++ [⟨op, r⟩])) s' := by
  rw [uses_append]
  rcases hexec with ⟨rfl, error, rfl⟩ | ⟨rfl, rfl⟩
  · have hnone : uses key [(⟨op, .error error⟩ : (op : GrantOp) × op.Result)] = [] := by
      cases op <;> rfl
    rw [hnone, List.append_nil]
    exact h
  · cases op with
    | storeGrant namespaceId grant => exact (List.append_nil _).symm ▸ h.of_usage_eq rfl
    | getUsage namespaceId grantId => exact (List.append_nil _).symm ▸ h
    | tryConsume namespaceId grantId maximumUses =>
      by_cases hkey : key = ⟨namespaceId, grantId⟩
      · subst hkey
        obtain rfl : maximumUses = m :=
          hbound maximumUses _ (List.mem_append_right _ List.mem_cons_self)
        have huse := h.tryConsume
        simpa [uses, useOf, GrantOp.answer] using huse
      · have hnone : uses key [(⟨.tryConsume namespaceId grantId maximumUses,
            .ok (GrantOp.answer (.tryConsume namespaceId grantId maximumUses) s).1⟩ :
            (op : GrantOp) × op.Result)] = [] := by
          simp [uses, useOf, hkey]
        rw [hnone, List.append_nil]
        exact h.of_usage_eq (tryConsume_other hkey)

theorem BoundedBy.of_append {calls' : GrantCalls} (h : BoundedBy key m (calls ++ calls')) :
    BoundedBy key m calls :=
  fun maximumUses result hmem => h maximumUses result (List.mem_append_left _ hmem)

/-- In every run the row of a grant counts the attempts to use it. -/
theorem counted_of_calls (h : Calls GrantOp.Exec s calls s') (hunused : s.usage key = none)
    (hbound : BoundedBy key m calls) : Counted key m (uses key calls) s' := by
  induction h with
  | nil =>
    refine ⟨by simp [hunused, uses], ?_⟩
    intro n hn
    rw [hunused] at hn
    cases hn
  | call hcalls hexec hok ih => exact (ih hbound.of_append).call hexec hbound

/-- Ids without lone surrogates are bound as they are. -/
theorem calls_of_bound (h : Calls GrantOp.BoundExec s calls s')
    (hids : ∀ op r, ⟨op, r⟩ ∈ calls → op.WellFormed) : Calls GrantOp.Exec s calls s' := by
  induction h with
  | nil => exact .nil
  | @call past s s' op r hcalls hexec hok ih =>
    have hop : op.WellFormed := hids op r (List.mem_append_right _ List.mem_cons_self)
    exact (ih fun op r hmem => hids op r (List.mem_append_left _ hmem)).call (hexec.exec hop) hok

theorem Counted.eq_min_iff (h : Counted key m allowed s) :
    (allowed.count true = min allowed.length m ∧
        getUsage key.namespaceId key.grantId s = min allowed.length m) ↔
      1 ≤ m ∨ allowed.length = 0 := by
  unfold getUsage
  cases hused : s.usage ⟨key.namespaceId, key.grantId⟩ with
  | none =>
    have hnil := h.unused.1 hused
    subst hnil
    simp
  | some used =>
    obtain ⟨hcount, hmax⟩ := h.used used hused
    have hne : allowed ≠ [] := by
      intro hnil
      have hnone : s.usage key = none := h.unused.2 hnil
      rw [hnone] at hused
      cases hused
    have hlen : 0 < allowed.length := List.length_pos_iff.2 hne
    rw [Option.getD_some]
    omega

variable {Req α : Type} {program : Req → Prog GrantOp GrantOp.Result α}
  {history : List (Event Req GrantOp.Result α)} {c : Config Req GrantOp.Result α GrantState}

/-- However processes interleave, a grant with a bound is used up to its bound, where no id has lone
surrogates. -/
theorem grant_bounded_iff (hrun : Run GrantOp.BoundExec program s history c)
    (hids : ∀ op r, ⟨op, r⟩ ∈ Interleave.calls history → op.WellFormed)
    (hnamespace : IsWellFormed key.namespaceId) (hid : IsWellFormed key.grantId)
    (hunused : s.usage key = none) (hbound : BoundedBy key m (Interleave.calls history)) :
    ((uses key (Interleave.calls history)).count true =
          min (uses key (Interleave.calls history)).length m ∧
        Sqlite.getUsage key.namespaceId key.grantId c.store =
          min (uses key (Interleave.calls history)).length m) ↔
      1 ≤ m ∨ (uses key (Interleave.calls history)).length = 0 := by
  have hnamespace : bindString key.namespaceId = key.namespaceId := hnamespace
  have hid : bindString key.grantId = key.grantId := hid
  rw [Sqlite.getUsage, hnamespace, hid]
  exact (counted_of_calls (calls_of_bound (Run.calls hrun) hids) hunused hbound).eq_min_iff

/-! A grant of the Router. -/

def GrantState.empty : GrantState := ⟨fun _ => none, fun _ => none⟩

def routerGrant : GrantKey := ⟨js "counterparty", js "grant-router"⟩

/-- One attempt after the other, each answered. -/
theorem run_attempts (maximumUses n : ℕ) :
    ∃ (history : List (Event GrantOp GrantOp.Result Unit))
      (c : Config GrantOp GrantOp.Result Unit GrantState),
      Run GrantOp.BoundExec oneCall .empty history c ∧
        (uses routerGrant (Interleave.calls history)).length = n ∧
        ∀ op r, ⟨op, r⟩ ∈ Interleave.calls history →
          op = .tryConsume routerGrant.namespaceId routerGrant.grantId maximumUses := by
  have hcalls : ∃ calls s, Calls GrantOp.BoundExec .empty calls s ∧
      (uses routerGrant calls).length = n ∧ ∀ op r, ⟨op, r⟩ ∈ calls →
        op = .tryConsume routerGrant.namespaceId routerGrant.grantId maximumUses := by
    induction n with
    | zero => exact ⟨[], .empty, .nil, rfl, fun op r hmem => absurd hmem List.not_mem_nil⟩
    | succ n ih =>
      obtain ⟨calls, s, hcalls, hlength, honly⟩ := ih
      refine ⟨_, _, hcalls.answered
        (.tryConsume routerGrant.namespaceId routerGrant.grantId maximumUses) trivial, ?_, ?_⟩
      · rw [uses_append, List.length_append, hlength]
        rfl
      · intro op r hmem
        rcases List.mem_append.1 hmem with hmem | hmem
        · exact honly op r hmem
        · exact congrArg Sigma.fst (List.mem_singleton.1 hmem)
  obtain ⟨calls, s, hcalls, hlength, honly⟩ := hcalls
  obtain ⟨history, hrun, rfl⟩ := hcalls.exists_run
  exact ⟨history, _, hrun.mono (fun _ _ _ _ hexec => hexec) fun _ _ _ _ => trivial, hlength, honly⟩

theorem boundedBy_attempts {maximumUses : ℕ} {calls : GrantCalls}
    (h : ∀ op r, ⟨op, r⟩ ∈ calls →
      op = .tryConsume routerGrant.namespaceId routerGrant.grantId maximumUses) :
    BoundedBy routerGrant maximumUses calls := by
  intro m result hmem
  have hop := h _ result hmem
  injection hop

theorem isWellFormed_routerGrant :
    IsWellFormed routerGrant.namespaceId ∧ IsWellFormed routerGrant.grantId := by decide

/-- Of three attempts with the bound 2 two are allowed. -/
theorem grant_bounded_iff_twice : ∃ (history : List (Event GrantOp GrantOp.Result Unit))
    (c : Config GrantOp GrantOp.Result Unit GrantState),
    Run GrantOp.BoundExec oneCall .empty history c ∧
      (uses routerGrant (Interleave.calls history)).length = 3 ∧
      (uses routerGrant (Interleave.calls history)).count true = 2 ∧
      Sqlite.getUsage routerGrant.namespaceId routerGrant.grantId c.store = 2 := by
  obtain ⟨history, c, hrun, hlength, honly⟩ := run_attempts 2 3
  have hids : ∀ op r, ⟨op, r⟩ ∈ Interleave.calls history → op.WellFormed := by
    intro op r hmem
    rw [honly op r hmem]
    exact isWellFormed_routerGrant
  have hmin := (grant_bounded_iff hrun hids isWellFormed_routerGrant.1 isWellFormed_routerGrant.2 rfl
    (boundedBy_attempts honly)).2 (.inl (by decide))
  rw [hlength] at hmin
  exact ⟨history, c, hrun, hlength, hmin⟩

/-- A grant with the bound 0 is used once. -/
theorem grant_exceeded : ¬∀ (m : ℕ) (history : List (Event GrantOp GrantOp.Result Unit))
    (c : Config GrantOp GrantOp.Result Unit GrantState),
    Run GrantOp.BoundExec oneCall .empty history c →
    BoundedBy routerGrant m (Interleave.calls history) →
    (uses routerGrant (Interleave.calls history)).count true =
      min (uses routerGrant (Interleave.calls history)).length m := by
  intro h
  have hempty : Calls GrantOp.BoundExec .empty [] .empty := .nil
  have hused := hempty.answered (.tryConsume routerGrant.namespaceId routerGrant.grantId 0) trivial
  obtain ⟨history, hrun, hcalls⟩ := hused.exists_run
  have hbound : BoundedBy routerGrant 0 (Interleave.calls history) := by
    intro m result hmem
    rw [hcalls] at hmem
    cases List.mem_singleton.1 hmem
    rfl
  have hmin := h 0 history _ (hrun.mono (fun _ _ _ _ hexec => hexec) fun _ _ _ _ => trivial) hbound
  rw [hcalls] at hmin
  revert hmin
  decide

end Counterparty.Arena
