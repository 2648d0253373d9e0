import Counterparty.Arena.Resend
import Counterparty.Arena.Retries

/-! Orders whose response is saved: whatever handles them from then on looks the response up, and does
nothing else. -/
namespace Counterparty.Arena

open Json Interleave

variable {sha256 : Text → Text} {ledger : Ledger} {order : Order} {history : List ArenaEvent}
  {c : ArenaConfig} {req req₀ : ArenaRequest} {response : JsJson} {answer : Except Thrown JsJson}

/-- What is saved stays stored. -/
theorem stored_of_saved (hrun : ArenaRun sha256 ledger history c)
    (hsaved : .called req₀ (.saveResponse order.1 order.2 response) (.ok ()) ∈ history) :
    Stored c.store.responses order := by
  induction hrun with
  | init => cases hsaved
  | @step history c c' j e hrun hstep hok ih =>
    rcases List.mem_append.1 hsaved with hsaved | hsaved
    · have hstored := ih hsaved
      rcases hstep.store_cases with hsame | ⟨op, r, hexec⟩
      · exact hsame ▸ hstored
      · exact hstored.exec hexec
    · cases List.mem_singleton.1 hsaved
      cases hstep with
      | call hhandler hexec => exact stored_of_save (arena_good hrun) hhandler hexec

/-- What a handler answers when it has looked the response up: the one that was found, or that the
request is turned down, when the look-up failed. -/
def LookedUp (answer : Except Thrown JsJson) : Except StoreError (Option JsJson) → Prop
  | .ok (some response) => answer = .ok response
  | .ok none => False
  | .error _ => ∃ response, answer = .ok response ∧ HasState "REJECTED" response

variable (sha256) in
/-- The look-up is all that the handler of a valid request has to do. -/
theorem processRequest_lookup (hvalid : validateInput req.parsed = none) : ∃ next,
    processRequest sha256 req = .call (.cachedResponse (req.order sha256).1 (req.order sha256).2) next ∧
      ∀ r, r ≠ .ok none → ∃ answer, next r = .done answer ∧ LookedUp answer r := by
  rw [processRequest, hvalid]
  refine ⟨_, rfl, ?_⟩
  intro r hr
  cases r with
  | error e => exact ⟨_, rfl, _, rfl, (hasState_serviceResponse _ _).2 rfl⟩
  | ok cached =>
    cases cached with
    | some response => exact ⟨_, rfl, rfl⟩
    | none => exact absurd rfl hr

variable (sha256) in
theorem processRequest_invalid {reason : String} (hinvalid : validateInput req.parsed = some reason) :
    ∃ response, processRequest sha256 req = .done (.ok response) ∧
      HasState "INVALID_REQUEST" response := by
  rw [processRequest, hinvalid]
  exact ⟨_, rfl, (hasState_serviceResponse _ _).2 rfl⟩

section Traces

variable {E : Trace ArenaOp.Exec (processRequest sha256) (.initial ledger)} {h a b k : ℕ}

/-- From the save on the order is stored. -/
theorem stored_of_past (hsaved : .called req₀ (.saveResponse order.1 order.2 response) (.ok ()) ∈ E.past a)
    (hak : a ≤ k) (hk : k ≤ E.length) : Stored (E.config k).store.responses order :=
  stored_of_saved (E.run hk) ((E.past_prefix hak).subset hsaved)

/-- As long as a handler that is started after the save only calls, all it does is to look the response
up. -/
theorem looked_up_at (hsaved : .called req₀ (.saveResponse (req.order sha256).1 (req.order sha256).2
      response) (.ok ()) ∈ E.past a)
    (hstate : (E.config k).handlers h = some (req, processRequest sha256 req)) (hak : a ≤ k)
    (hkb : k ≤ b) (hb : b < E.length) (hactor : E.actor b = h) (hcalls : E.CallsOnly h k b) :
    ∃ r answer, E.event b = .called req (.cachedResponse (req.order sha256).1 (req.order sha256).2) r ∧
      (E.config (b + 1)).handlers h = some (req, .done answer) ∧ LookedUp answer r ∧
      ∀ found, r = .ok (some found) →
        Produced sha256 (E.past b) (req.order sha256) (stringify found) := by
  obtain ⟨i, op, next, r, hprogram, hki, hib, hi, hevent, hexec, hafter⟩ :=
    E.next_called hstate hkb hb hactor hcalls
  cases hvalid : validateInput req.parsed with
  | some reason =>
    obtain ⟨response, hdone, -⟩ := processRequest_invalid sha256 hvalid
    rw [hdone] at hprogram
    cases hprogram
  | none =>
    obtain ⟨next', hlookup, hnext⟩ := processRequest_lookup sha256 hvalid
    rw [hlookup] at hprogram
    cases hprogram
    have hrun : ArenaRun sha256 ledger (E.past i) (E.config i) := E.run (by omega)
    have hstored := stored_of_past hsaved (hak.trans hki) (by omega : i ≤ E.length)
    obtain ⟨-, fails, hr⟩ := hexec
    obtain ⟨answer, hdone, hanswer⟩ := hnext r (hr ▸ cachedResponse_of_stored hstored)
    rw [hdone] at hafter
    rcases Nat.lt_or_eq_of_le hib with hlt | rfl
    · exact absurd (hcalls.mono (by omega)) (E.not_call_of_done hafter hlt hb hactor)
    · refine ⟨r, answer, hevent, hafter, hanswer, ?_⟩
      rintro found rfl
      exact produced_of_cached (arena_good hrun).inv hr.symm

/-- Once a response to an order is saved, a handler that is started later, in whatever process and
however the one that saved it ended, verifies and claims no payment and executes no turn for the order:
all it ever calls is one look-up of the response. It answers what the look-up comes back with, a response
of an executed turn of the order unless the look-up fails. -/
theorem saved_order_looked_up (E : Trace ArenaOp.Exec (processRequest sha256) (.initial ledger))
    (hsaved : .called req₀ (.saveResponse order.1 order.2 response) (.ok ()) ∈ E.past a)
    (ha : a < E.length) (hactor : E.actor a = h) (hstarted : E.event a = .started req)
    (horder : req.order sha256 = order) :
    (∀ b, a < b → b < E.length → E.actor b = h → E.CallsOnly h (a + 1) b →
      (∃ r, E.event b = .called req (.cachedResponse order.1 order.2) r) ∧
        ∀ k, a < k → k < b → E.actor k ≠ h) ∧
    ∀ b answer, E.Answers h a b req answer →
      (validateInput req.parsed ≠ none ∧ (∃ response, answer = .ok response ∧
        HasState "INVALID_REQUEST" response) ∧ ∀ k, a < k → k < b → E.actor k ≠ h) ∨
      ∃ k r, a < k ∧ k < b ∧ E.actor k = h ∧
        E.event k = .called req (.cachedResponse order.1 order.2) r ∧ LookedUp answer r ∧
        ∀ found, r = .ok (some found) → Produced sha256 (E.past k) order (stringify found) := by
  subst horder
  have hstep := E.step a ha
  rw [hactor, hstarted] at hstep
  have hstate := hstep.started.2
  refine ⟨?_, ?_⟩
  · intro b hab hb hbactor hcalls
    obtain ⟨r, answer, hevent, -⟩ := looked_up_at hsaved hstate (Nat.le_succ a) hab hb hbactor hcalls
    refine ⟨⟨r, hevent⟩, ?_⟩
    -- an earlier call would have been the look-up, and this one none
    intro k hak hkb hk
    obtain ⟨r', answer', -, hdone, -⟩ := looked_up_at hsaved hstate (Nat.le_succ a) hak
      (hkb.trans hb) hk fun i hi hik => hcalls i hi (hik.trans hkb.le)
    exact E.not_call_of_done hdone hkb hb hbactor (hcalls.mono (by omega))
  · intro b answer hanswers
    cases hvalid : validateInput req.parsed with
    | some reason =>
      obtain ⟨response, hinvalid, hsays⟩ := processRequest_invalid sha256 hvalid
      rw [hinvalid] at hstate
      obtain ⟨rfl, hnone⟩ := hanswers.of_done hstate (Nat.lt_succ_self a) hanswers.lt
      exact .inl ⟨by simp, ⟨response, rfl, hsays⟩, hnone⟩
    | none =>
      obtain ⟨next, hlookup, -⟩ := processRequest_lookup sha256 hvalid
      obtain ⟨k, hak, hkb, hk, hcalls⟩ :=
        hanswers.of_call (hlookup ▸ hstate) (Nat.lt_succ_self a) hanswers.lt
      obtain ⟨r, answer', hevent, hdone, hlooked, hproduced⟩ :=
        looked_up_at hsaved hstate (Nat.le_succ a) hak (hkb.trans hanswers.lt_length) hk hcalls
      obtain ⟨rfl, -⟩ := hanswers.of_done hdone (by omega) hkb
      exact .inr ⟨k, r, hak, hkb, hk, hevent, hlooked, hproduced⟩

end Traces

theorem order_resent (req : ArenaRequest) (messageId : JsString) :
    (req.resent messageId).order sha256 = req.order sha256 := rfl

theorem valid_resent (req : ArenaRequest) (messageId : JsString) :
    validateInput (req.resent messageId).parsed = validateInput req.parsed := rfl

/-- The order is handled, and sent again in a message of its own. -/
theorem saved_order_looked_up_again :
    ∃ (E : Trace ArenaOp.Exec (processRequest id) (.initial orderLedger)) (answer : Except Thrown JsJson)
      (r : Except StoreError (Option JsJson)) (found : JsJson),
      E.Answers 0 7 9 ((orderWith .null .null).resent (js "msg_2")) answer ∧
      E.event 8 = .called ((orderWith .null .null).resent (js "msg_2")) (.cachedResponse
        ((orderWith .null .null).order id).1 ((orderWith .null .null).order id).2) r ∧
      LookedUp answer r ∧ r = .ok (some found) ∧
      Produced id (E.past 8) ((orderWith .null .null).order id) (stringify found) := by
  have hvalid : validateInput ((orderWith .null .null).resent (js "msg_2")).parsed = none :=
    (valid_resent _ _).trans (payable_orderWith .null .null).valid
  have htwice := handlesTwice hvalid (order_resent _ _)
  have hanswers : (handledTwice ((orderWith .null .null).resent (js "msg_2"))).Answers 0 7 9
      ((orderWith .null .null).resent (js "msg_2")) (.ok (written (orderResponse "trace-1"))) := by
    refine ⟨⟨rfl, htwice.started⟩, ⟨rfl, htwice.again⟩, by decide, by decide, ?_⟩
    intro k h7 h9 _
    obtain rfl : k = 8 := by omega
    exact ⟨_, _, _, htwice.lookedUp⟩
  have hsaved := List.mem_map_of_mem (f := (handledTwice
    ((orderWith .null .null).resent (js "msg_2"))).event) (List.mem_range.2 (by decide : 5 < 7))
  rw [htwice.saved] at hsaved
  obtain ⟨-, hlooked⟩ := saved_order_looked_up _ hsaved (by decide : 7 < 10) rfl htwice.started
    (order_resent _ _)
  rcases hlooked 9 _ hanswers with ⟨hinvalid, -⟩ | ⟨k, r, h7, h9, -, hevent, hanswer, hproduced⟩
  · exact absurd hvalid hinvalid
  · obtain rfl : k = 8 := by omega
    have hr : r = .ok (some (written (orderResponse "trace-1"))) := by
      have hcalled := hevent.symm.trans htwice.lookedUp
      cases hcalled
      rfl
    exact ⟨_, _, r, _, hanswers, hevent, hanswer, hr, hproduced _ hr⟩

end Counterparty.Arena
