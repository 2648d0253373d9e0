import Counterparty.DeliveryAudit
import Counterparty.Evidence
import Counterparty.Service

/-! Replays: which deliveries were on record before their call, and which are said to be. -/
namespace Counterparty

open Json Interleave

variable {H : Host} {J : JsonSchema} {faults : Faults} {st st' : Store} {latencyMs : ℕ}
  {req : DeliveryVerificationRequest} {probes : List ProbeResult}

/-! Reachable stores. -/

/-- The states that calls of the store's methods lead to, whatever they are given. -/
inductive Reachable (H : Host) : Store → Prop
  | empty : Reachable H .empty
  | op {st : Store} (h : Reachable H st) (op : StoreOp) (faults : Faults) :
      Reachable H (op.exec H faults st).2
  | observation {st : Store} (h : Reachable H st) (d : Delivery) (faults : Faults) :
      Reachable H (recordObservation H faults d st).2

/-- Whatever the service comes to is reachable. -/
theorem reachable_of_serving {history : List (Event ServiceRequest StoreOp.Ret Served)}
    {c : Config ServiceRequest StoreOp.Ret Served Store} (h : Serving H J history c) :
    Reachable H c.store := by
  have hall (req : ServiceRequest) : (serve H J req).Performs fun _ => True := by
    generalize serve H J req = program
    induction program with
    | done a => trivial
    | call op next ih => exact ⟨trivial, ih⟩
  refine h.invariant hall .empty ?_
  rintro op st r st' - hst ⟨faults, hexec⟩
  have hreached := hst.op op faults
  rw [hexec] at hreached
  exact hreached

/-- The ids of the observations were drawn before. -/
def IdsDrawn (H : Host) (st : Store) : Prop :=
  ∀ r ∈ st.db.observations.rows, ∃ k < st.draws, r.id = H.uuid4 k

theorem IdsDrawn.mono (h : IdsDrawn H st) (hobs : st'.db.observations = st.db.observations)
    (hdraws : st.draws ≤ st'.draws) : IdsDrawn H st' := by
  intro r hr
  obtain ⟨k, hk, hid⟩ := h r (hobs ▸ hr)
  exact ⟨k, by omega, hid⟩

theorem IdsDrawn.attempt (h : IdsDrawn H st) {r : Observation} {updated : Bool}
    (hattempt : Attempt st.db.observations st'.db.observations r updated)
    (hid : r.id = H.uuid4 st.draws) (hdraws : st.draws < st'.draws) : IdsDrawn H st' := by
  cases updated with
  | false => exact h.mono (hattempt.suppressed rfl).1 hdraws.le
  | true =>
    intro r' hr'
    rw [(hattempt.written rfl).1, List.mem_append, List.mem_singleton] at hr'
    rcases hr' with hr' | rfl
    · obtain ⟨k, hk, hid'⟩ := h r' hr'
      exact ⟨k, by omega, hid'⟩
    · exact ⟨st.draws, hdraws, hid⟩

theorem IdsDrawn.exec {op : StoreOp} {r : op.Ret} (h : IdsDrawn H st) (hexec : op.Exec H st r st') :
    IdsDrawn H st' := by
  cases hexec.effect with
  | kept _ hdb hdraws => exact h.mono (by rw [hdb]) hdraws
  | logged hl => exact h.mono hl.observations_eq hl.draws_lt.le
  | @verified v _ _ hv =>
    by_cases hcounts : v.Counts
    · exact h.attempt (hv.attempt hcounts) rfl hv.draws_lt
    · exact h.mono (hv.skipped hcounts).2 hv.draws_lt.le
  | canaried hp => exact h.mono hp.observations_eq hp.draws_lt.le

theorem Reachable.idsDrawn (h : Reachable H st) : IdsDrawn H st := by
  induction h with
  | empty => exact fun r hr => absurd hr List.not_mem_nil
  | op _ op faults ih => exact ih.exec ⟨faults, rfl⟩
  | @observation st _ d faults ih =>
    cases hcall : recordObservation H faults d st with
    | mk result st' =>
      cases result with
      | error e =>
        obtain ⟨hdb, hdraws⟩ := recordObservation_error hcall
        exact ih.mono (by rw [hdb]) hdraws
      | ok updated =>
        have hd := (recordObservation_ok hcall).2
        exact ih.attempt hd.attempt rfl hd.draws_lt

/-! Replays. -/

/-- An observation on record has the delivery's id, or its provider and evidence. -/
def OnRecordBefore (H : Host) (st : Store) (req : DeliveryVerificationRequest) : Prop :=
  ∃ r ∈ st.db.observations.rows, r.deliveryId = req.deliveryId ∨
    (r.serviceId = req.providerId ∧ r.evidenceHash = req.evidenceHash H)

/-- Ids are fresh, so a delivery clashes with what is on record for what it says only. -/
theorem onRecordBefore_iff (h : IdsDrawn H st) : OnRecordBefore H st req ↔
    ∃ r ∈ st.db.observations.rows,
      Observation.Clash r ((req.verification H latencyMs probes).row H st.draws) := by
  constructor
  · rintro ⟨r, hr, hsame⟩
    exact ⟨r, hr, .inr hsame⟩
  · rintro ⟨r, hr, hid | hsame⟩
    · obtain ⟨k, hk, hdrawn⟩ := h r hr
      have hdraw := H.uuid4_injective (hdrawn.symm.trans hid)
      omega
    · exact ⟨r, hr, hsame⟩

/-- The status is true of the call: a decided delivery that was on record before. -/
def TruthfulStatus (H : Host) (st : Store) (req : DeliveryVerificationRequest)
    (state : EvidenceState) (replaySuppressed : Bool) : Prop :=
  replaySuppressed = true ↔ (state = .pass ∨ state = .fail) ∧ OnRecordBefore H st req

theorem decisive_value {state : EvidenceState} :
    decisive state.value ↔ state = .pass ∨ state = .fail := by
  cases state <;> decide

theorem field_replaySuppressed (v : Verification) (updated : Bool) :
    field (v.payload updated) "replay_suppressed" =
      some (.bool (decide (decisive v.outcome ∧ ¬updated))) := by
  rw [field, Verification.payload, lookup_put_self]

/-- A decided delivery is not counted for being on record, or for want of a contract. -/
theorem updated_iff (hids : IdsDrawn H st) {event : AuditEvent} {updated : Bool}
    (hr : recordVerification H faults (req.verification H latencyMs probes) st =
      (.ok (event, updated), st')) (hstate : aggregateState probes ≠ .inconclusive) :
    updated = true ↔
      (req.expectedSchema ≠ none ∧ req.assertions ≠ []) ∧ ¬OnRecordBefore H st req := by
  have hv := recordVerification_ok hr
  have hcounts : (req.verification H latencyMs probes).Counts ↔
      req.expectedSchema ≠ none ∧ req.assertions ≠ [] := by
    rw [counts_iff]
    tauto
  by_cases hc : req.expectedSchema ≠ none ∧ req.assertions ≠ []
  · rw [(hv.attempt (hcounts.2 hc)).updated_iff, onRecordBefore_iff hids]
    exact (and_iff_right hc).symm
  · rw [(hv.skipped (fun h => hc (hcounts.1 h))).1]
    simp [hc]

/-- Without a schema or without assertions a delivery is decided only by a failure. -/
theorem decided_iff_fails (hp : deliveryProbes J req = .ok probes)
    (hbare : ¬(req.expectedSchema ≠ none ∧ req.assertions ≠ [])) :
    (aggregateState probes = .pass ∨ aggregateState probes = .fail) ↔ Fails J req := by
  rw [aggregateState_fail_iff, verdict_fail_iff hp]
  refine or_iff_right fun hpass => hbare ?_
  obtain ⟨asserted, contradiction, ha, -, cited, rfl, -⟩ := deliveryProbes_eq hp
  have hall := aggregateState_pass_iff.1 hpass
  obtain ⟨schema, hschema, -⟩ := schemaProbe_pass_iff.1 (hall _ List.mem_cons_self)
  have hasserted := hall asserted (by simp)
  refine ⟨by simp [hschema], ((assertionsProbe_state ha).2.2.1 hasserted).1⟩

theorem truthfulStatus_iff (hids : IdsDrawn H st) {event : AuditEvent} {updated : Bool}
    (hp : deliveryProbes J req = .ok probes)
    (hr : recordVerification H faults (req.verification H latencyMs probes) st =
      (.ok (event, updated), st')) :
    TruthfulStatus H st req (aggregateState probes)
        (decide ((aggregateState probes = .pass ∨ aggregateState probes = .fail) ∧ ¬updated)) ↔
      (req.expectedSchema ≠ none ∧ req.assertions ≠ []) ∨ ¬Fails J req ∨
        OnRecordBefore H st req := by
  rw [TruthfulStatus, decide_eq_true_eq, and_congr_right_iff]
  by_cases hstate : aggregateState probes = .inconclusive
  · -- an undecided delivery has no failure, or is eligible
    refine iff_of_true (fun h => by simp [hstate] at h) (.inr (.inl fun hfails => ?_))
    rw [← verdict_fail_iff hp, ← aggregateState_fail_iff, hstate] at hfails
    cases hfails
  have hdecided : aggregateState probes = .pass ∨ aggregateState probes = .fail := by
    cases hs : aggregateState probes with
    | pass => exact .inl rfl
    | fail => exact .inr rfl
    | inconclusive => exact absurd hs hstate
  rw [forall_prop_of_true hdecided, updated_iff hids hr hstate]
  by_cases hc : req.expectedSchema ≠ none ∧ req.assertions ≠ []
  · simp [hc]
  · have hfails := (decided_iff_fails hp hc).1 hdecided
    simp only [hc, false_and, not_false_eq_true, true_iff, hfails, not_true_eq_false, false_or]

/-- The status, in the answer and on record, is true unless a failure without a contract is new. -/
theorem replay_status_iff (hreach : Reachable H st) {response : DeliveryResponse}
    (h : (verifyDelivery H J latencyMs req).run H faults st = (.ok response, st')) :
    ∃ (event : AuditEvent) (payload : PyDict) (recorded : Bool),
      st'.db.auditEvents.rows = st.db.auditEvents.rows ++ [event.row] ∧
      response.auditReceipt = event.hash ∧ event.payload = .obj payload ∧
      field payload "replay_suppressed" = some (.bool recorded) ∧
      (TruthfulStatus H st req response.state response.replaySuppressed ∧
          TruthfulStatus H st req response.state recorded ↔
        (req.expectedSchema ≠ none ∧ req.assertions ≠ []) ∨ ¬Fails J req ∨
          OnRecordBefore H st req) := by
  obtain ⟨probes, event, hp, hr, hstate, hsuppressed, hreceipt⟩ := verifyDelivery_ok h
  obtain ⟨hevent, hrows⟩ := (recordVerification_ok hr).appended
  refine ⟨event, _, _, hrows, hreceipt, by rw [hevent]; rfl, field_replaySuppressed _ _, ?_⟩
  have houtcome : decisive (req.verification H latencyMs probes).outcome ↔
      aggregateState probes = .pass ∨ aggregateState probes = .fail := decisive_value
  simp only [hsuppressed, hstate, houtcome, and_self]
  exact truthfulStatus_iff hreach.idsDrawn hp hr

theorem replay_status_acknowledged : ∃ (response : DeliveryResponse) (st' : Store),
    (verifyDelivery (.sample zeroHash) .sample 0 acknowledged).run (.sample zeroHash)
      (fun _ => false) .empty = (.ok response, st') ∧
      TruthfulStatus (.sample zeroHash) .empty acknowledged response.state
        response.replaySuppressed := by
  obtain ⟨response, st', hrun⟩ := returns_on_empty (answerable_acknowledged _)
  obtain ⟨event, payload, recorded, -, -, -, -, hiff⟩ := replay_status_iff .empty hrun
  exact ⟨response, st', hrun, (hiff.2 (.inl ⟨by simp [acknowledged], by simp [acknowledged]⟩)).1⟩

/-- A first delivery that fails without a schema is said to be a replay. -/
theorem first_delivery_suppressed : ∃ (response : DeliveryResponse) (st' : Store),
    Reachable (.sample zeroHash) .empty ∧
    (verifyDelivery (.sample zeroHash) .sample 0 renamed).run (.sample zeroHash)
      (fun _ => false) .empty = (.ok response, st') ∧
      ¬TruthfulStatus (.sample zeroHash) .empty renamed response.state
        response.replaySuppressed := by
  obtain ⟨response, st', hrun⟩ := returns_on_empty (answerable_renamed _)
  obtain ⟨probes, event, hp, hr, hstate, hsuppressed, -⟩ := verifyDelivery_ok hrun
  refine ⟨response, st', .empty, hrun, ?_⟩
  rw [hsuppressed, hstate, truthfulStatus_iff Reachable.empty.idsDrawn hp hr]
  rintro (⟨hschema, -⟩ | hfails | ⟨r, hr, -⟩)
  · exact hschema rfl
  · exact hfails fails_renamed
  · exact List.not_mem_nil hr

end Counterparty
