import Counterparty.DeliverySpec
import Counterparty.Service

/-! Reputation read off the audit chain: the evidence tables hold a row for every event that says so. -/
namespace Counterparty

open Json Interleave

variable {H : Host} {J : JsonSchema} {st st' : Store}

/-! What an audit event says. -/

/-- `json.loads(payload_json)["name"]`, when there is one. -/
def AuditRow.entry (r : AuditRow) (name : String) : Option PyJson :=
  match loads r.payloadJson with
  | some (.obj fields) => field fields name
  | _ => none

def holdsText (s : String) : Option PyJson → Bool
  | some (.str t) => t = PyStr.ofString s
  | _ => false

def holdsTrue : Option PyJson → Bool
  | some (.bool b) => b
  | _ => false

/-- A verified delivery of the seller, of that task type and outcome, that was counted. -/
def AuditRow.CountsDelivery (s taskType o : String) (r : AuditRow) : Prop :=
  r.eventType = "verify_delivery" ∧ holdsText s (r.entry "provider_id") ∧
    holdsText taskType (r.entry "task_type") ∧ holdsText o (r.entry "state") ∧
    holdsTrue (r.entry "reputation_updated")

instance (s taskType o : String) : DecidablePred (AuditRow.CountsDelivery s taskType o) :=
  fun _ => inferInstanceAs (Decidable (_ ∧ _ ∧ _ ∧ _ ∧ _))

/-- A canary of the seller, with that outcome, that was counted. -/
def AuditRow.CountsCanary (s o : String) (r : AuditRow) : Prop :=
  r.eventType = "protocol_probe" ∧ holdsText s (r.entry "provider_id") ∧
    holdsText o (r.entry "state") ∧ holdsTrue (r.entry "protocol_reputation_updated")

instance (s o : String) : DecidablePred (AuditRow.CountsCanary s o) :=
  fun _ => inferInstanceAs (Decidable (_ ∧ _ ∧ _ ∧ _))

/-- Every tally of the evidence tables can be read off the audit table. -/
structure Reconstructible (db : Db) : Prop where
  deliveries : ∀ s taskType o,
    db.observations.rows.countP
        (fun r => r.serviceId = s ∧ r.taskType = taskType ∧ r.outcome = o) =
      db.auditEvents.rows.countP fun r => r.CountsDelivery s taskType o
  canaries : ∀ s o,
    db.protocolObservations.rows.countP (fun r => r.serviceId = s ∧ r.outcome = o) =
      db.auditEvents.rows.countP fun r => r.CountsCanary s o

/-! Operations that describe in their payload what they do to the tables. -/

structure Verification.Described (v : Verification) : Prop where
  plain : ∀ updated, Plain (.obj (v.payload updated))
  provider : field v.auditPayload "provider_id" = some (pyText v.serviceId)
  taskType : field v.auditPayload "task_type" = some (pyText v.taskType)
  state : field v.auditPayload "state" = some (pyText v.outcome)

structure ProtocolCanary.Described (p : ProtocolCanary) : Prop where
  plain : ∀ updated, Plain (.obj (p.payload updated))
  provider : field p.auditPayload "provider_id" = some (pyText p.serviceId)
  state : field p.auditPayload "state" = some (pyText p.outcome)

def StoreOp.Described : StoreOp → Prop
  | .reputation _ _ | .protocolReputation _ => True
  | .appendAudit eventType _ => eventType ≠ "verify_delivery" ∧ eventType ≠ "protocol_probe"
  | .recordVerification v => v.Described
  | .recordProtocolObservation p => p.Described

theorem entry_eq {r : AuditRow} {payload : PyDict} (hplain : Plain (.obj payload))
    (h : r.payloadJson = dumps false (.obj payload)) (name : String) :
    r.entry name = (field payload name).map sortKeys := by
  have hkeys : (payload.map Prod.fst).Nodup := by
    cases hplain with
    | obj hkeys _ _ => exact hkeys
  rw [AuditRow.entry, h, loads_dumps false hplain, sortKeys_obj]
  simp only [field]
  rw [lookup_map, lookup_sortFields hkeys]

theorem holdsText_map {s t : String} : holdsText s ((some (pyText t)).map sortKeys) ↔ t = s := by
  simp only [Option.map_some, pyText, sortKeys, holdsText, decide_eq_true_eq]
  exact ofString_injective.eq_iff

theorem Verification.Described.countsDelivery_iff {v : Verification} (hv : v.Described)
    {updated : Bool} {r : AuditRow} (htype : r.eventType = "verify_delivery")
    (hpayload : r.payloadJson = dumps false (.obj (v.payload updated))) {s taskType o : String} :
    r.CountsDelivery s taskType o ↔
      v.serviceId = s ∧ v.taskType = taskType ∧ v.outcome = o ∧ updated = true := by
  have hentry := entry_eq (hv.plain updated) hpayload
  have hflag : field (v.payload updated) "reputation_updated" = some (.bool updated) := by
    rw [Verification.payload, field_put (by decide)]
    exact lookup_put_self
  have hother : ∀ name, name ≠ "replay_suppressed" → name ≠ "reputation_updated" →
      field (v.payload updated) name = field v.auditPayload name := by
    intro name h h'
    rw [Verification.payload, field_put h, field_put h']
  rw [AuditRow.CountsDelivery, hentry, hentry, hentry, hentry, hflag,
    hother _ (by decide) (by decide), hother _ (by decide) (by decide),
    hother _ (by decide) (by decide), hv.provider, hv.taskType, hv.state, holdsText_map,
    holdsText_map, holdsText_map]
  simp [htype, sortKeys, holdsTrue]

theorem ProtocolCanary.Described.countsCanary_iff {p : ProtocolCanary} (hp : p.Described)
    {updated : Bool} {r : AuditRow} (htype : r.eventType = "protocol_probe")
    (hpayload : r.payloadJson = dumps false (.obj (p.payload updated))) {s o : String} :
    r.CountsCanary s o ↔ p.serviceId = s ∧ p.outcome = o ∧ updated = true := by
  have hentry := entry_eq (hp.plain updated) hpayload
  have hflag : field (p.payload updated) "protocol_reputation_updated" = some (.bool updated) := by
    rw [ProtocolCanary.payload, field_put (by decide)]
    exact lookup_put_self
  have hother : ∀ name, name ≠ "replay_suppressed" → name ≠ "protocol_reputation_updated" →
      field (p.payload updated) name = field p.auditPayload name := by
    intro name h h'
    rw [ProtocolCanary.payload, field_put h, field_put h']
  rw [AuditRow.CountsCanary, hentry, hentry, hentry, hflag, hother _ (by decide) (by decide),
    hother _ (by decide) (by decide), hp.provider, hp.state, holdsText_map, holdsText_map]
  simp [htype, sortKeys, holdsTrue]

/-! What the endpoints store. -/

theorem described_verification (latencyMs : ℕ) (req : DeliveryVerificationRequest)
    (probes : List ProbeResult) : (req.verification H latencyMs probes).Described where
  plain := plain_verification latencyMs req probes
  provider := by simp [DeliveryVerificationRequest.verification, field_dict, List.lookup_cons]
  taskType := by simp [DeliveryVerificationRequest.verification, field_dict, List.lookup_cons]
  state := by simp [DeliveryVerificationRequest.verification, field_dict, List.lookup_cons]

theorem described_canary (req : ProbeObservationRequest) (probes : List ProbeResult) :
    (req.canary H probes).Described where
  plain := plain_canary req probes
  provider := by simp [ProbeObservationRequest.canary, field_dict, List.lookup_cons]
  state := by simp [ProbeObservationRequest.canary, field_dict, List.lookup_cons]

/-- Whatever an endpoint writes, its payload describes. -/
theorem StoreOp.Issued.described {op : StoreOp} (h : op.Issued H) : op.Described := by
  cases h with
  | reputation s taskType => trivial
  | protocolReputation s => trivial
  | snapshot req rep protocolRep => exact ⟨by decide, by decide⟩
  | execution req execution => exact ⟨by decide, by decide⟩
  | verification latencyMs req probes => exact described_verification latencyMs req probes
  | canary req probes => exact described_canary req probes

/-! What one operation does to the three tables. -/

theorem AuditRow.not_countsDelivery {r : AuditRow} {s taskType o : String}
    (h : r.eventType ≠ "verify_delivery") : ¬r.CountsDelivery s taskType o :=
  fun hr => h hr.1

theorem AuditRow.not_countsCanary {r : AuditRow} {s o : String}
    (h : r.eventType ≠ "protocol_probe") : ¬r.CountsCanary s o :=
  fun hr => h hr.1

/-- An event about neither kind of evidence leaves what can be read off the chain. -/
theorem Reconstructible.append {n : ℕ} {eventType : String} {payload : PyDict} {event : AuditEvent}
    {db db' : Db} (h : Reconstructible db) (ha : Appended H n eventType payload db db' event)
    (hobs : db'.observations = db.observations)
    (hprotocol : db'.protocolObservations = db.protocolObservations)
    (hdelivery : ∀ s taskType o, ¬event.row.CountsDelivery s taskType o)
    (hcanary : ∀ s o, ¬event.row.CountsCanary s o) : Reconstructible db' := by
  constructor
  · intro s taskType o
    rw [hobs, ha.rows_eq, h.deliveries, countP_snoc, if_neg (hdelivery s taskType o), add_zero]
  · intro s o
    rw [hprotocol, ha.rows_eq, h.canaries, countP_snoc, if_neg (hcanary s o), add_zero]

theorem Verified.reconstructible {v : Verification} {event : AuditEvent} {updated : Bool}
    (h : Reconstructible st.db) (hv : Verified H v st st' event updated) (hd : v.Described) :
    Reconstructible st'.db := by
  have htype : event.row.eventType = "verify_delivery" := by
    rw [hv.appended.event_eq]
    rfl
  have hpayload : event.row.payloadJson = dumps false (.obj (v.payload updated)) := by
    rw [hv.appended.event_eq]
    rfl
  have hcanary : ∀ s o, ¬event.row.CountsCanary s o := fun s o =>
    AuditRow.not_countsCanary (by rw [htype]; decide)
  have hcounts : ∀ s taskType o, event.row.CountsDelivery s taskType o ↔
      v.serviceId = s ∧ v.taskType = taskType ∧ v.outcome = o ∧ updated = true :=
    fun s taskType o => hd.countsDelivery_iff htype hpayload
  cases updated with
  | false =>
    have hobs : st'.db.observations = st.db.observations := by
      by_cases hc : v.Counts
      · exact ((hv.attempt hc).suppressed rfl).1
      · exact (hv.skipped hc).2
    refine h.append hv.appended hobs hv.protocol_eq ?_ hcanary
    simp [hcounts]
  | true =>
    have hc : v.Counts := by
      by_contra hc
      exact Bool.noConfusion (hv.skipped hc).1
    have hrows := ((hv.attempt hc).written rfl).1
    constructor
    · intro s taskType o
      rw [hrows, hv.appended.rows_eq, countP_snoc, countP_snoc, h.deliveries]
      congr 1
      exact if_congr (by simp [hcounts, Verification.row]) rfl rfl
    · intro s o
      rw [hv.protocol_eq, hv.appended.rows_eq, h.canaries, countP_snoc, if_neg (hcanary s o),
        add_zero]

theorem Canaried.reconstructible {p : ProtocolCanary} {event : AuditEvent} {updated : Bool}
    (h : Reconstructible st.db) (hp : Canaried H p st st' event updated) (hd : p.Described) :
    Reconstructible st'.db := by
  have htype : event.row.eventType = "protocol_probe" := by
    rw [hp.appended.event_eq]
    rfl
  have hpayload : event.row.payloadJson = dumps false (.obj (p.payload updated)) := by
    rw [hp.appended.event_eq]
    rfl
  have hdelivery : ∀ s taskType o, ¬event.row.CountsDelivery s taskType o := fun s taskType o =>
    AuditRow.not_countsDelivery (by rw [htype]; decide)
  have hcounts : ∀ s o, event.row.CountsCanary s o ↔
      p.serviceId = s ∧ p.outcome = o ∧ updated = true :=
    fun s o => hd.countsCanary_iff htype hpayload
  cases updated with
  | false =>
    refine h.append hp.appended hp.observations_eq (hp.attempt.suppressed rfl).1 hdelivery ?_
    simp [hcounts]
  | true =>
    have hrows := (hp.attempt.written rfl).1
    constructor
    · intro s taskType o
      rw [hp.observations_eq, hp.appended.rows_eq, h.deliveries, countP_snoc,
        if_neg (hdelivery s taskType o), add_zero]
    · intro s o
      rw [hrows, hp.appended.rows_eq, countP_snoc, countP_snoc, h.canaries]
      congr 1
      exact if_congr (by simp [hcounts, ProtocolCanary.row]) rfl rfl

theorem StoreOp.Exec.reconstructible {op : StoreOp} {r : op.Ret} (hop : op.Described)
    (h : Reconstructible st.db) (hexec : op.Exec H st r st') : Reconstructible st'.db := by
  cases hexec.effect with
  | kept _ hdb _ =>
    rw [hdb]
    exact h
  | @logged eventType payload event hl =>
    have htype : event.row.eventType = eventType := by
      rw [hl.appended.event_eq]
      rfl
    refine h.append hl.appended hl.observations_eq hl.protocol_eq ?_ ?_
    · intro s taskType o
      exact AuditRow.not_countsDelivery (htype ▸ hop.1)
    · intro s o
      exact AuditRow.not_countsCanary (htype ▸ hop.2)
  | verified hv => exact hv.reconstructible h hop
  | canaried hp => exact hp.reconstructible h hop

theorem StoreOp.Exec.unchanged {op : StoreOp} {r : op.Ret} (hexec : op.Exec H st r st')
    (hraises : op.Raises r) : st'.db = st.db := by
  cases hexec.effect with
  | kept _ hdb _ => exact hdb
  | logged | verified | canaried =>
    obtain ⟨e, he⟩ := hraises
    cases he

theorem StoreOp.Exec.one_event {op : StoreOp} {r : op.Ret} (hexec : op.Exec H st r st')
    (hwrites : op.Writes) (hreturns : ¬op.Raises r) :
    ∃ row, st'.db.auditEvents.rows = st.db.auditEvents.rows ++ [row] := by
  cases hexec.effect with
  | kept hquiet _ _ => exact (hreturns (hquiet hwrites)).elim
  | logged hl => exact ⟨_, hl.appended.rows_eq⟩
  | verified hv => exact ⟨_, hv.appended.rows_eq⟩
  | canaried hp => exact ⟨_, hp.appended.rows_eq⟩

/-- In every state of every run each tally of the evidence tables is the number of audit events that
report it; an operation that raises leaves the tables, and a write that returns adds one event. -/
theorem reputation_reconstructible (H : Host) (J : JsonSchema)
    (history : List (Event ServiceRequest StoreOp.Ret Served))
    (c : Config ServiceRequest StoreOp.Ret Served Store) (h : Serving H J history c) :
    (∀ s taskType o,
      c.store.db.observations.rows.countP
          (fun r => r.serviceId = s ∧ r.taskType = taskType ∧ r.outcome = o) =
        c.store.db.auditEvents.rows.countP fun r => r.CountsDelivery s taskType o) ∧
    (∀ s o,
      c.store.db.protocolObservations.rows.countP (fun r => r.serviceId = s ∧ r.outcome = o) =
        c.store.db.auditEvents.rows.countP fun r => r.CountsCanary s o) ∧
    ∀ (op : StoreOp) (r : op.Ret) (st' : Store), op.Exec H c.store r st' →
      (op.Raises r → st'.db = c.store.db) ∧
        (op.Writes → ¬op.Raises r →
          ∃ row, st'.db.auditEvents.rows = c.store.db.auditEvents.rows ++ [row]) := by
  have hinv : Reconstructible c.store.db := by
    apply h.invariant (I := fun st => Reconstructible st.db) (performs_serve H J)
    · constructor <;> intros <;> rfl
    · intro op st r st' hop hst hexec
      exact hexec.reconstructible hop.described hst
  refine ⟨hinv.deliveries, hinv.canaries, ?_⟩
  intro op r st' hexec
  exact ⟨hexec.unchanged, hexec.one_event⟩

/-- A failed delivery under a contract, served on an empty store. -/
theorem reconstructible_failed_delivery : ∃ history c,
    Serving (.sample zeroHash) .sample history c ∧
      c.store.db.observations.rows.length = 1 ∧
      c.store.db.auditEvents.rows.countP (fun r => r.CountsDelivery "seller" "general" "FAIL") = 1 := by
  let answer : (op : StoreOp) → Store → op.Ret × Store :=
    fun op st => op.exec (.sample zeroHash) (fun _ => false) st
  have hanswer : ∀ op st, StoreOp.Exec (.sample zeroHash) op st (answer op st).1 (answer op st).2 :=
    fun op st => ⟨_, rfl⟩
  obtain ⟨n, calls, hcalls⟩ := Prog.exists_advance answer
    (serve (.sample zeroHash) .sample (.verifyDelivery 0 unspecified)) .empty
  have hrun := Run.serve_alone hanswer (.init : Serving (.sample zeroHash) .sample [] _) hcalls
  refine ⟨_, _, hrun, ?_, ?_⟩
  · decide +kernel
  · rw [← (reputation_reconstructible _ _ _ _ hrun).1]
    decide +kernel

end Counterparty
