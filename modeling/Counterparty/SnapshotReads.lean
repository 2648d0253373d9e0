import Mathlib.Order.Lattice
import Mathlib.Tactic.IntervalCases
import Counterparty.DeliverySpec
import Counterparty.Library.Trace
import Counterparty.Service

/-! Trust snapshots among other clients: which committed states the two tallies of one are from. -/
namespace Counterparty

open Interleave

variable {H : Host} {J : JsonSchema} {st st' : Store} {s taskType : String}

/-! Tallies grow. -/

theorem BayesianReputation.pair_injective : Function.Injective
    fun r : BayesianReputation => (r.successes, r.failures) := by
  rintro ⟨s, f⟩ ⟨s', f'⟩ h
  cases h
  rfl

/-- More successes, and more failures. -/
instance : PartialOrder BayesianReputation := PartialOrder.lift _ BayesianReputation.pair_injective

/-- The deliveries that a snapshot of the seller counts. -/
def Store.deliveryTally (st : Store) (s taskType : String) : BayesianReputation :=
  (reputation st.db s taskType).1

/-- The canaries that a snapshot of the seller counts. -/
def Store.canaryTally (st : Store) (s : String) : BayesianReputation :=
  (protocolReputation st.db s).1

theorem deliveryTally_le (h : st.db.observations.rows <+: st'.db.observations.rows) :
    st.deliveryTally s taskType ≤ st'.deliveryTally s taskType := by
  have hsub := h.sublist.filter fun r => decide (r.CountsFor s taskType)
  exact ⟨hsub.countP_le, hsub.countP_le⟩

theorem canaryTally_le
    (h : st.db.protocolObservations.rows <+: st'.db.protocolObservations.rows) :
    st.canaryTally s ≤ st'.canaryTally s := by
  have hsub := h.sublist.filter fun r => decide (r.serviceId = s)
  exact ⟨hsub.countP_le, hsub.countP_le⟩

theorem Attempt.rows_grow {R : Type} {Clash : R → R → Prop} {table table' : Table Clash} {r : R}
    {updated : Bool} (h : Attempt table table' r updated) : table.rows <+: table'.rows := by
  cases updated with
  | false =>
    rw [(h.suppressed rfl).1]
  | true =>
    rw [(h.written rfl).1]
    exact List.prefix_append _ _

/-- No operation takes evidence back, and none adds to both kinds. -/
theorem StoreOp.Exec.tallies {op : StoreOp} {r : op.Ret} (h : op.Exec H st r st') :
    (st.db.observations.rows <+: st'.db.observations.rows ∧
        st'.db.protocolObservations = st.db.protocolObservations) ∨
      (st'.db.observations = st.db.observations ∧
        st.db.protocolObservations.rows <+: st'.db.protocolObservations.rows) := by
  cases h.effect with
  | kept _ hdb _ =>
    rw [hdb]
    exact .inl ⟨List.prefix_rfl, rfl⟩
  | logged hl => exact .inl ⟨by rw [hl.observations_eq], hl.protocol_eq⟩
  | @verified v _ _ hv =>
    refine .inl ⟨?_, hv.protocol_eq⟩
    by_cases hcounts : v.Counts
    · exact (hv.attempt hcounts).rows_grow
    · rw [(hv.skipped hcounts).2]
  | canaried hp => exact .inr ⟨hp.observations_eq, hp.attempt.rows_grow⟩

variable {E : Trace (StoreOp.Exec H) (serve H J) Store.empty} {h a b k : ℕ}
  {req : TrustSnapshotRequest} {payload : PyDict} {result : Except StoreError AuditEvent}

/-- One step keeps one of the tallies and does not lower the other. -/
theorem tallies_step (hk : k < E.length) (s taskType : String) :
    (E.config k).store.deliveryTally s taskType ≤ (E.config (k + 1)).store.deliveryTally s taskType ∧
      (E.config k).store.canaryTally s ≤ (E.config (k + 1)).store.canaryTally s ∧
      ((E.config (k + 1)).store.deliveryTally s taskType = (E.config k).store.deliveryTally s taskType ∨
        (E.config (k + 1)).store.canaryTally s = (E.config k).store.canaryTally s) := by
  rcases (E.step k hk).store_cases with hsame | ⟨op, r, hexec⟩
  · rw [hsame]
    exact ⟨le_rfl, le_rfl, .inl rfl⟩
  · have hdelivery {t t' : Store} (h : t'.db.observations = t.db.observations) :
        t'.deliveryTally s taskType = t.deliveryTally s taskType := by
      simp only [Store.deliveryTally, reputation, h]
    have hcanary {t t' : Store} (h : t'.db.protocolObservations = t.db.protocolObservations) :
        t'.canaryTally s = t.canaryTally s := by
      simp only [Store.canaryTally, protocolReputation, h]
    rcases hexec.tallies with ⟨hgrows, hsame⟩ | ⟨hsame, hgrows⟩
    · exact ⟨deliveryTally_le hgrows, (hcanary hsame).ge, .inr (hcanary hsame)⟩
    · exact ⟨(hdelivery hsame).ge, canaryTally_le hgrows, .inl (hdelivery hsame)⟩

/-! What a snapshot does. -/

/-- Two reads and an append, on which the answer depends. -/
theorem serve_trustSnapshot (H : Host) (J : JsonSchema) (req : TrustSnapshotRequest) :
    ∃ respond : BayesianReputation × Option ℤ → BayesianReputation × Option ℤ → AuditEvent →
        TrustSnapshotResponse,
      (serve H J (.trustSnapshot req) =
        .call (.reputation req.serviceId req.taskType) fun rep =>
          .call (.protocolReputation req.serviceId) fun protocolRep =>
            .call (.appendAudit "trust_snapshot" (snapshotPayload H req rep.1 protocolRep.1))
              fun event => .done (((event.map (respond rep protocolRep)).mapError .store).map
                .snapshot)) ∧
      ∀ rep protocolRep event, (respond rep protocolRep event).evidence = rep ∧
        (respond rep protocolRep event).protocolEvidence = protocolRep :=
  ⟨_, rfl, fun _ _ _ => ⟨rfl, rfl⟩⟩

/-- A handler serves one snapshot: it starts at one step, and appends the audit event at another. -/
structure Snapshotting (E : Trace (StoreOp.Exec H) (serve H J) Store.empty) (h a b : ℕ)
    (req : TrustSnapshotRequest) (payload : PyDict) (result : Except StoreError AuditEvent) :
    Prop where
  started : E.actor a = h ∧ E.event a = .started (.trustSnapshot req)
  appended : E.actor b = h ∧
    E.event b = .called (.trustSnapshot req) (.appendAudit "trust_snapshot" payload) result
  lt : a < b
  lt_length : b < E.length
  calls : E.CallsOnly h (a + 1) b

/-- The reads of a snapshot, in their order, and what is made of them. -/
theorem Snapshotting.reads (hs : Snapshotting E h a b req payload result) :
    ∃ i j, a < i ∧ i < j ∧ j < b ∧ E.actor i = h ∧ E.actor j = h ∧
      E.event i = .called (.trustSnapshot req) (.reputation req.serviceId req.taskType)
        (reputation (E.config i).store.db req.serviceId req.taskType) ∧
      E.event j = .called (.trustSnapshot req) (.protocolReputation req.serviceId)
        (protocolReputation (E.config j).store.db req.serviceId) ∧
      payload = snapshotPayload H req
        ((E.config i).store.deliveryTally req.serviceId req.taskType)
        ((E.config j).store.canaryTally req.serviceId) ∧
      ∀ event, result = .ok event → ∃ response,
        (E.config (b + 1)).handlers h =
          some (.trustSnapshot req, .done (.ok (.snapshot response))) ∧
        response.evidence.1 = (E.config i).store.deliveryTally req.serviceId req.taskType ∧
        response.protocolEvidence.1 = (E.config j).store.canaryTally req.serviceId := by
  obtain ⟨⟨hstart, hstarted⟩, ⟨hactor, happended⟩, hab, hb, hcalls⟩ := hs
  obtain ⟨respond, hprogram, hrespond⟩ := serve_trustSnapshot H J req
  have hbegin := E.step a (by omega)
  rw [hstart, hstarted] at hbegin
  have hready := hbegin.started.2
  rw [hprogram] at hready
  obtain ⟨i, rep, hai, hib, hi, hevent, ⟨faults, hread⟩, hstate⟩ :=
    E.next_call hready (by omega) hb hactor hcalls
  -- the step of the append is a later one
  have hne : i ≠ b := by
    rintro rfl
    rw [happended] at hevent
    cases hevent
  obtain ⟨j, protocolRep, hij, hjb, hj, hevent', ⟨faults', hread'⟩, hstate'⟩ :=
    E.next_call hstate (by omega) hb hactor (hcalls.mono (by omega))
  have hne' : j ≠ b := by
    rintro rfl
    rw [happended] at hevent'
    cases hevent'
  obtain ⟨b', event, hjb', hbb', hb', hevent'', -, hstate''⟩ :=
    E.next_call hstate' (by omega) hb hactor (hcalls.mono (by omega))
  have hlast : b' = b := by
    by_contra hearlier
    exact E.not_call_of_done hstate'' (by omega) hb hactor (hcalls.mono (by omega))
  subst hlast
  obtain ⟨rfl, -⟩ := Prod.mk.inj hread
  obtain ⟨rfl, -⟩ := Prod.mk.inj hread'
  rw [happended] at hevent''
  cases hevent''
  refine ⟨i, j, by omega, by omega, by omega, hi, hj, hevent, hevent', rfl, ?_⟩
  rintro event rfl
  obtain ⟨hevidence, hprotocol⟩ := hrespond
    (reputation (E.config i).store.db req.serviceId req.taskType)
    (protocolReputation (E.config j).store.db req.serviceId) event
  exact ⟨_, hstate'', congrArg Prod.fst hevidence, congrArg Prod.fst hprotocol⟩

/-- Each tally of a snapshot is held by a committed state between its start and its audit event,
the deliveries by no later one than the canaries; one such state holds both unless, at a moment
between the two reads, deliveries had been added and canaries were still to be added. -/
theorem snapshot_consistent_iff (hs : Snapshotting E h a b req payload result) :
    ∃ i j, a < i ∧ i < j ∧ j < b ∧
      payload = snapshotPayload H req
        ((E.config i).store.deliveryTally req.serviceId req.taskType)
        ((E.config j).store.canaryTally req.serviceId) ∧
      (∀ event, result = .ok event → ∃ response,
        (E.config (b + 1)).handlers h =
          some (.trustSnapshot req, .done (.ok (.snapshot response))) ∧
        response.evidence.1 = (E.config i).store.deliveryTally req.serviceId req.taskType ∧
        response.protocolEvidence.1 = (E.config j).store.canaryTally req.serviceId) ∧
      ((∃ k, a ≤ k ∧ k ≤ b + 1 ∧
          (E.config k).store.deliveryTally req.serviceId req.taskType =
            (E.config i).store.deliveryTally req.serviceId req.taskType ∧
          (E.config k).store.canaryTally req.serviceId =
            (E.config j).store.canaryTally req.serviceId) ↔
        ¬∃ m, i ≤ m ∧ m ≤ j ∧
          (E.config m).store.deliveryTally req.serviceId req.taskType ≠
            (E.config i).store.deliveryTally req.serviceId req.taskType ∧
          (E.config m).store.canaryTally req.serviceId ≠
            (E.config j).store.canaryTally req.serviceId) := by
  obtain ⟨i, j, hai, hij, hjb, -, -, -, -, hpayload, hanswer⟩ := hs.reads
  have hlength := hs.lt_length
  have hstep (k : ℕ) (hk : k < b + 1) :=
    tallies_step (E := E) (k := k) (by omega) req.serviceId req.taskType
  exact ⟨i, j, hai, hij, hjb, hpayload, hanswer,
    exists_both_iff (fun k _ hk => (hstep k hk).1) (fun k _ hk => (hstep k hk).2.1)
      (fun k _ hk => (hstep k hk).2.2) hai.le hij.le (by omega)⟩

/-! A delivery and a canary between the reads. -/

/-- A host that tells digests of different kinds of audit records apart. -/
def Host.byKind : Host :=
  { Host.sample zeroHash with sha256 := fun t => String.ofList ((t.take 30).map Char.ofNat) }

def emptyReply : ProbeObservationRequest := ⟨"probe", "seller", "nonce-one", .obj [], 0⟩

def sellerSnapshot : TrustSnapshotRequest := ⟨"seller", "general"⟩

/-- Between the reads of a snapshot, a delivery of the seller and then a canary are recorded. -/
def betweenReads : ℕ → ℕ × ServiceRequest
  | 0 | 1 | 6 | 7 => (0, .trustSnapshot sellerSnapshot)
  | 2 | 3 => (1, .verifyDelivery 0 unspecified)
  | _ => (2, .probeObservation emptyReply)

theorem exec_byKind (op : StoreOp) (st : Store) :
    StoreOp.Exec .byKind op st (op.exec .byKind (fun _ => false) st).1
      (op.exec .byKind (fun _ => false) st).2 := ⟨_, rfl⟩

noncomputable def readsApart : Trace (StoreOp.Exec .byKind) (serve .byKind .sample) Store.empty :=
  .ofSchedule _ exec_byKind .empty betweenReads 8

theorem actor_readsApart {k : ℕ} (hk : k < 8) (hactor : readsApart.actor k = 0) :
    k = 0 ∨ k = 1 ∨ k = 6 ∨ k = 7 := by
  revert hactor
  change (betweenReads k).1 = 0 → _
  interval_cases k <;> simp [betweenReads]

/-- The event that the snapshot appends. -/
noncomputable def mixedPayload : PyDict :=
  snapshotPayload .byKind sellerSnapshot
    ((readsApart.config 1).store.deliveryTally "seller" "general")
    ((readsApart.config 6).store.canaryTally "seller")

noncomputable def mixedEvent : Except StoreError AuditEvent :=
  (appendAudit .byKind (fun _ => false) "trust_snapshot" mixedPayload (readsApart.config 7).store).1

theorem snapshotting_readsApart :
    Snapshotting readsApart 0 0 7 sellerSnapshot mixedPayload mixedEvent := by
  obtain ⟨respond, hprogram, -⟩ := serve_trustSnapshot .byKind .sample sellerSnapshot
  have hstarted : (readsApart.config 1).handlers 0 =
      some (.trustSnapshot sellerSnapshot, serve .byKind .sample (.trustSnapshot sellerSnapshot)) :=
    (readsApart.step 0 (by decide)).started.2
  rw [hprogram] at hstarted
  obtain ⟨hfirst, hread⟩ := Trace.ofSchedule_call (k := 1) hstarted
  have hother {k : ℕ} (hk : k < 8) (hactor : readsApart.actor k ≠ 0) :
      (readsApart.config (k + 1)).handlers 0 = (readsApart.config k).handlers 0 :=
    (readsApart.step k hk).handlers_of_ne hactor.symm
  have hwaiting : (readsApart.config 6).handlers 0 = (readsApart.config 2).handlers 0 :=
    (hother (by decide) (by decide)).trans ((hother (by decide) (by decide)).trans
      ((hother (by decide) (by decide)).trans (hother (by decide) (by decide))))
  obtain ⟨hsecond, hread'⟩ := Trace.ofSchedule_call (k := 6) (hwaiting.trans hread)
  obtain ⟨hthird, -⟩ := Trace.ofSchedule_call (k := 7) hread'
  refine ⟨⟨rfl, rfl⟩, ⟨rfl, hthird⟩, by decide, by decide, ?_⟩
  intro k hk hk' hactor
  rcases actor_readsApart (by omega) hactor with rfl | rfl | rfl | rfl
  · omega
  · exact ⟨_, _, _, hfirst⟩
  · exact ⟨_, _, _, hsecond⟩
  · exact ⟨_, _, _, hthird⟩

theorem mixedEvent_ok : mixedEvent.toBool = true := by decide +kernel

/-- The snapshot reports the deliveries of one state and the canaries of another; no state on the
way held both. -/
theorem snapshot_inconsistent : ¬∀ (H : Host) (J : JsonSchema)
    (E : Trace (StoreOp.Exec H) (serve H J) Store.empty) (h a b : ℕ) (req : TrustSnapshotRequest)
    (payload : PyDict) (result : Except StoreError AuditEvent) (response : TrustSnapshotResponse),
    Snapshotting E h a b req payload result →
    (E.config (b + 1)).handlers h = some (.trustSnapshot req, .done (.ok (.snapshot response))) →
    ∃ k, a ≤ k ∧ k ≤ b + 1 ∧
      (E.config k).store.deliveryTally req.serviceId req.taskType = response.evidence.1 ∧
      (E.config k).store.canaryTally req.serviceId = response.protocolEvidence.1 := by
  intro hall
  obtain ⟨i, j, hi, hij, hj, hactor, hactor', -, -, -, hanswer⟩ := snapshotting_readsApart.reads
  obtain rfl : i = 1 := by
    rcases actor_readsApart (by omega) hactor with rfl | rfl | rfl | rfl <;> omega
  obtain rfl : j = 6 := by
    rcases actor_readsApart (by omega) hactor' with rfl | rfl | rfl | rfl <;> omega
  have hok : ∃ event, mixedEvent = .ok event := by
    have htrue := mixedEvent_ok
    cases h : mixedEvent with
    | error e =>
      rw [h] at htrue
      cases htrue
    | ok event => exact ⟨event, rfl⟩
  obtain ⟨event, hevent⟩ := hok
  obtain ⟨response, hserved, hevidence, hprotocol⟩ := hanswer event hevent
  obtain ⟨k, -, hk, hboth⟩ := hall .byKind .sample readsApart 0 0 7 sellerSnapshot mixedPayload
    mixedEvent response snapshotting_readsApart hserved
  rw [hevidence, hprotocol] at hboth
  have hnone : ∀ k ≤ 8,
      ¬((readsApart.config k).store.deliveryTally "seller" "general" =
          (readsApart.config 1).store.deliveryTally "seller" "general" ∧
        (readsApart.config k).store.canaryTally "seller" =
          (readsApart.config 6).store.canaryTally "seller") := by
    decide +kernel
  exact hnone k hk hboth

/-- The same snapshot: the two reads are of different states, and what they found is audited. -/
theorem snapshot_consistent_readsApart : ∃ i j, i < j ∧ mixedPayload = snapshotPayload .byKind
    sellerSnapshot ((readsApart.config i).store.deliveryTally "seller" "general")
      ((readsApart.config j).store.canaryTally "seller") := by
  obtain ⟨i, j, -, hij, -, hpayload, -⟩ := snapshot_consistent_iff snapshotting_readsApart
  exact ⟨i, j, hij, hpayload⟩

end Counterparty
