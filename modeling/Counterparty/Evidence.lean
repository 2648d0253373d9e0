import Counterparty.StorageSpec

/-! Recording calls against a first-writer-wins history: what is counted is counted once. -/
namespace Counterparty

/-- A call of one of the three recording methods. -/
inductive Call
  | verification (v : Verification)
  | delivery (d : Delivery)
  | canary (p : ProtocolCanary)

/-- A call and what it returned: whether reputation was updated. -/
abbrev Log := List (Call × Except StoreError Bool)

def Call.exec (H : Host) (faults : Faults) (st : Store) : Call → Except StoreError Bool × Store
  | .verification v =>
    let (r, st') := recordVerification H faults v st
    (r.map Prod.snd, st')
  | .delivery d => recordObservation H faults d st
  | .canary p =>
    let (r, st') := recordProtocolObservation H faults p st
    (r.map Prod.snd, st')

/-- A call with an outcome that its method takes, and a latency that SQLite can hold. -/
def Call.Valid : Call → Prop
  | .verification v =>
    (decisive v.outcome ∨ v.outcome = "INCONCLUSIVE") ∧ ∀ latency ∈ v.latencyMs, isInteger latency
  | .delivery d => decisive d.outcome ∧ ∀ latency ∈ d.latencyMs, isInteger latency
  | .canary p => decisive p.outcome ∧ isInteger p.latencyMs

/-- Sequences of calls on an empty store, in the order of their transactions. -/
inductive Recorded (H : Host) : Log → Store → Prop
  | empty : Recorded H [] .empty
  | call {log : Log} {st : Store} (hlog : Recorded H log st) (c : Call) (faults : Faults) :
      Recorded H (log ++ [(c, (c.exec H faults st).1)]) (c.exec H faults st).2

/-! The abstract history. -/

def Delivery.Same (d d' : Delivery) : Prop :=
  d.deliveryId = d'.deliveryId ∨ d.serviceId = d'.serviceId ∧ d.evidenceHash = d'.evidenceHash

/-- What identifies a canary and what it says. -/
structure Canary where
  probeId : String
  serviceId : String
  outcome : String
  evidenceHash : String

def Canary.Same (c c' : Canary) : Prop :=
  c.probeId = c'.probeId ∨ c.serviceId = c'.serviceId ∧ c.evidenceHash = c'.evidenceHash

def Verification.delivery (v : Verification) : Delivery :=
  ⟨v.deliveryId, v.serviceId, v.taskType, v.outcome, v.evidenceHash, v.latencyMs⟩

def ProtocolCanary.canary (p : ProtocolCanary) : Canary :=
  ⟨p.probeId, p.serviceId, p.outcome, p.evidenceHash⟩

def deliveryOf : Call × Except StoreError Bool → Option Delivery
  | (.verification v, .ok true) => some v.delivery
  | (.delivery d, .ok true) => some d
  | _ => none

def canaryOf : Call × Except StoreError Bool → Option Canary
  | (.canary p, .ok true) => some p.canary
  | _ => none

/-- The delivery calls that returned `updated=True`, in order. -/
def Log.deliveries (log : Log) : List Delivery := log.filterMap deliveryOf

/-- The canary calls that returned `updated=True`, in order. -/
def Log.canaries (log : Log) : List Canary := log.filterMap canaryOf

/-! The tables hold the history. -/

def Observation.delivery (r : Observation) : Delivery :=
  ⟨r.deliveryId, r.serviceId, r.taskType, r.outcome, r.evidenceHash, r.latencyMs⟩

def ProtocolObservation.canary (r : ProtocolObservation) : Canary :=
  ⟨r.probeId, r.serviceId, r.outcome, r.evidenceHash⟩

structure Tallied (H : Host) (log : Log) (st : Store) : Prop where
  deliveries : st.db.observations.rows.map Observation.delivery = log.deliveries
  canaries : st.db.protocolObservations.rows.map ProtocolObservation.canary = log.canaries
  observationIds : ∀ r ∈ st.db.observations.rows, ∃ k < st.draws, r.id = H.uuid4 k
  canaryIds : ∀ r ∈ st.db.protocolObservations.rows, ∃ k < st.draws, r.id = H.uuid4 k

variable {H : Host} {faults : Faults} {log : Log} {st st' : Store}

/-- The ids are fresh, so rows clash exactly when the deliveries are the same. -/
theorem Tallied.clash_iff (h : Tallied H log st) {r : Observation}
    (hid : r.id = H.uuid4 st.draws) :
    (∃ r' ∈ st.db.observations.rows, Observation.Clash r' r) ↔
      ∃ d ∈ log.deliveries, d.Same r.delivery := by
  rw [← h.deliveries]
  constructor
  · rintro ⟨r', hr', hclash | hclash⟩
    · obtain ⟨k, hk, hid'⟩ := h.observationIds r' hr'
      have := H.uuid4_injective (hid'.symm.trans (hclash.trans hid))
      omega
    · exact ⟨_, List.mem_map_of_mem hr', hclash⟩
  · rintro ⟨d, hd, hsame⟩
    obtain ⟨r', hr', rfl⟩ := List.mem_map.1 hd
    exact ⟨r', hr', .inr hsame⟩

theorem Tallied.clash_canary_iff (h : Tallied H log st) {r : ProtocolObservation}
    (hid : r.id = H.uuid4 st.draws) :
    (∃ r' ∈ st.db.protocolObservations.rows, ProtocolObservation.Clash r' r) ↔
      ∃ c ∈ log.canaries, c.Same r.canary := by
  rw [← h.canaries]
  constructor
  · rintro ⟨r', hr', hclash | hclash⟩
    · obtain ⟨k, hk, hid'⟩ := h.canaryIds r' hr'
      have := H.uuid4_injective (hid'.symm.trans (hclash.trans hid))
      omega
    · exact ⟨_, List.mem_map_of_mem hr', hclash⟩
  · rintro ⟨c, hc, hsame⟩
    obtain ⟨r', hr', rfl⟩ := List.mem_map.1 hc
    exact ⟨r', hr', .inr hsame⟩

theorem Attempt.updated_iff {R : Type} {Clash : R → R → Prop} {t t' : Table Clash} {r : R}
    {updated : Bool} (h : Attempt t t' r updated) :
    updated = true ↔ ¬∃ r' ∈ t.rows, Clash r' r := by
  cases updated with
  | true => simpa using (h.written rfl).2
  | false => simpa using (h.suppressed rfl).2

/-- A call that leaves both tables alone and updates nothing. -/
theorem Tallied.unchanged (h : Tallied H log st) {e : Call × Except StoreError Bool}
    (hd : deliveryOf e = none) (hc : canaryOf e = none)
    (hobs : st'.db.observations = st.db.observations)
    (hprotocol : st'.db.protocolObservations = st.db.protocolObservations)
    (hdraws : st.draws ≤ st'.draws) : Tallied H (log ++ [e]) st' := by
  refine ⟨?_, ?_, ?_, ?_⟩
  · rw [hobs, h.deliveries]
    simp [Log.deliveries, hd]
  · rw [hprotocol, h.canaries]
    simp [Log.canaries, hc]
  · intro r hr
    obtain ⟨k, hk, hid⟩ := h.observationIds r (hobs ▸ hr)
    exact ⟨k, by omega, hid⟩
  · intro r hr
    obtain ⟨k, hk, hid⟩ := h.canaryIds r (hprotocol ▸ hr)
    exact ⟨k, by omega, hid⟩

/-- A delivery call that offers a row to the observations. -/
theorem Tallied.offered (h : Tallied H log st) {r : Observation} {updated : Bool}
    {e : Call × Except StoreError Bool} (hid : r.id = H.uuid4 st.draws)
    (hattempt : Attempt st.db.observations st'.db.observations r updated)
    (hd : deliveryOf e = if updated then some r.delivery else none) (hc : canaryOf e = none)
    (hprotocol : st'.db.protocolObservations = st.db.protocolObservations)
    (hdraws : st.draws < st'.draws) : Tallied H (log ++ [e]) st' := by
  cases updated with
  | false => exact h.unchanged hd hc (hattempt.suppressed rfl).1 hprotocol hdraws.le
  | true =>
    have hrows := (hattempt.written rfl).1
    refine ⟨?_, ?_, ?_, ?_⟩
    · rw [hrows, List.map_append, h.deliveries]
      simp [Log.deliveries, hd]
    · rw [hprotocol, h.canaries]
      simp [Log.canaries, hc]
    · intro r' hr'
      rw [hrows, List.mem_append, List.mem_singleton] at hr'
      rcases hr' with hr' | rfl
      · obtain ⟨k, hk, hid'⟩ := h.observationIds r' hr'
        exact ⟨k, by omega, hid'⟩
      · exact ⟨st.draws, hdraws, hid⟩
    · intro r' hr'
      obtain ⟨k, hk, hid'⟩ := h.canaryIds r' (hprotocol ▸ hr')
      exact ⟨k, by omega, hid'⟩

theorem Tallied.probed (h : Tallied H log st) {r : ProtocolObservation} {updated : Bool}
    {e : Call × Except StoreError Bool} (hid : r.id = H.uuid4 st.draws)
    (hattempt : Attempt st.db.protocolObservations st'.db.protocolObservations r updated)
    (hc : canaryOf e = if updated then some r.canary else none) (hd : deliveryOf e = none)
    (hobs : st'.db.observations = st.db.observations)
    (hdraws : st.draws < st'.draws) : Tallied H (log ++ [e]) st' := by
  cases updated with
  | false => exact h.unchanged hd hc hobs (hattempt.suppressed rfl).1 hdraws.le
  | true =>
    have hrows := (hattempt.written rfl).1
    refine ⟨?_, ?_, ?_, ?_⟩
    · rw [hobs, h.deliveries]
      simp [Log.deliveries, hd]
    · rw [hrows, List.map_append, h.canaries]
      simp [Log.canaries, hc]
    · intro r' hr'
      obtain ⟨k, hk, hid'⟩ := h.observationIds r' (hobs ▸ hr')
      exact ⟨k, by omega, hid'⟩
    · intro r' hr'
      rw [hrows, List.mem_append, List.mem_singleton] at hr'
      rcases hr' with hr' | rfl
      · obtain ⟨k, hk, hid'⟩ := h.canaryIds r' hr'
        exact ⟨k, by omega, hid'⟩
      · exact ⟨st.draws, hdraws, hid⟩

theorem Tallied.raised (h : Tallied H log st) (c : Call) {e : StoreError} (hdb : st'.db = st.db)
    (hdraws : st.draws ≤ st'.draws) : Tallied H (log ++ [(c, .error e)]) st' :=
  h.unchanged (by cases c <;> rfl) (by cases c <;> rfl) (by rw [hdb]) (by rw [hdb]) hdraws

/-- Every call keeps the tables in step with the history. -/
theorem Tallied.call (h : Tallied H log st) (c : Call) (faults : Faults) :
    Tallied H (log ++ [(c, (c.exec H faults st).1)]) (c.exec H faults st).2 := by
  cases c with
  | verification v =>
    cases hcall : recordVerification H faults v st with
    | mk result st' =>
      simp only [Call.exec, hcall]
      cases result with
      | error e =>
        obtain ⟨hdb, hdraws⟩ := recordVerification_error hcall
        exact h.raised _ hdb hdraws
      | ok p =>
        obtain ⟨event, updated⟩ := p
        have hv := recordVerification_ok hcall
        by_cases hcounts : v.Counts
        · refine h.offered rfl (hv.attempt hcounts) ?_ rfl hv.protocol_eq hv.draws_lt
          cases updated <;> rfl
        · obtain ⟨rfl, hobs⟩ := hv.skipped hcounts
          exact h.unchanged rfl rfl hobs hv.protocol_eq hv.draws_lt.le
  | delivery d =>
    cases hcall : recordObservation H faults d st with
    | mk result st' =>
      simp only [Call.exec, hcall]
      cases result with
      | error e =>
        obtain ⟨hdb, hdraws⟩ := recordObservation_error hcall
        exact h.raised _ hdb hdraws
      | ok updated =>
        obtain ⟨-, hd⟩ := recordObservation_ok hcall
        refine h.offered rfl hd.attempt ?_ rfl hd.protocol_eq hd.draws_lt
        cases updated <;> rfl
  | canary p =>
    cases hcall : recordProtocolObservation H faults p st with
    | mk result st' =>
      simp only [Call.exec, hcall]
      cases result with
      | error e =>
        obtain ⟨hdb, hdraws⟩ := recordProtocolObservation_error hcall
        exact h.raised _ hdb hdraws
      | ok q =>
        obtain ⟨event, updated⟩ := q
        obtain ⟨-, hp⟩ := recordProtocolObservation_ok hcall
        refine h.probed rfl hp.attempt ?_ rfl hp.observations_eq hp.draws_lt
        cases updated <;> rfl

theorem tallied_of_recorded (h : Recorded H log st) : Tallied H log st := by
  induction h with
  | empty => exact ⟨rfl, rfl, by simp [Store.empty, Table.empty], by simp [Store.empty, Table.empty]⟩
  | call _ c faults ih => exact ih.call c faults

/-- Where a call stands in a run, and the run up to it. -/
theorem Recorded.split (h : Recorded H log st) {pre post : Log} {c : Call}
    {r : Except StoreError Bool} (hlog : log = pre ++ (c, r) :: post) :
    ∃ st₀ faults, Recorded H pre st₀ ∧ (c.exec H faults st₀).1 = r := by
  induction h generalizing post with
  | empty => simp at hlog
  | @call log st hrun c' faults ih =>
    rcases List.eq_nil_or_concat post with rfl | ⟨post', x, rfl⟩
    · obtain ⟨rfl, hlast⟩ := List.append_inj' hlog rfl
      simp only [List.cons.injEq, Prod.mk.injEq, and_true] at hlast
      obtain ⟨rfl, rfl⟩ := hlast
      exact ⟨st, faults, hrun, rfl⟩
    · refine ih (?_ : log = pre ++ (c, r) :: post')
      rw [List.concat_eq_append, ← List.cons_append, ← List.append_assoc] at hlog
      exact (List.append_inj' hlog rfl).1

/-! The tallies. -/

theorem reputation_eq (h : Tallied H log st) (s t : String) :
    (reputation st.db s t).1 =
      ⟨log.deliveries.countP fun d =>
          d.serviceId = s ∧ (d.taskType = t ∨ d.taskType = "general") ∧ d.outcome = "PASS",
        log.deliveries.countP fun d =>
          d.serviceId = s ∧ (d.taskType = t ∨ d.taskType = "general") ∧ d.outcome = "FAIL"⟩ := by
  have hcounts : ∀ r : Observation, r.CountsFor s t ↔
      r.serviceId = s ∧ (r.taskType = t ∨ r.taskType = "general") := by
    intro r
    unfold Observation.CountsFor
    by_cases ht : t = "general" <;> simp [ht]
  have htally : ∀ o : String,
      (st.db.observations.rows.filter fun r => r.CountsFor s t).countP (fun r => r.outcome = o) =
        log.deliveries.countP fun d =>
          d.serviceId = s ∧ (d.taskType = t ∨ d.taskType = "general") ∧ d.outcome = o := by
    intro o
    rw [List.countP_filter, ← h.deliveries, List.countP_map]
    congr 1
    funext r
    simp only [Function.comp_apply, hcounts, Observation.delivery, ← Bool.decide_and]
    exact decide_eq_decide.2 (by tauto)
  simp only [reputation, htally]

theorem protocolReputation_eq (h : Tallied H log st) (s : String) :
    (protocolReputation st.db s).1 =
      ⟨log.canaries.countP fun c => c.serviceId = s ∧ c.outcome = "PASS",
        log.canaries.countP fun c => c.serviceId = s ∧ c.outcome = "FAIL"⟩ := by
  have htally : ∀ o : String,
      (st.db.protocolObservations.rows.filter fun r => r.serviceId = s).countP
          (fun r => r.outcome = o) =
        log.canaries.countP fun c => c.serviceId = s ∧ c.outcome = o := by
    intro o
    rw [List.countP_filter, ← h.canaries, List.countP_map]
    congr 1
    funext r
    simp only [Function.comp_apply, ProtocolObservation.canary, ← Bool.decide_and]
    exact decide_eq_decide.2 (by tauto)
  simp only [protocolReputation, htally]

theorem verification_updated_iff (h : Tallied H log st) {v : Verification} {updated : Bool}
    (hexec : ((Call.verification v).exec H faults st).1 = .ok updated) :
    updated = true ↔
      v.reputationEligible = true ∧ decisive v.outcome ∧ ∀ d ∈ log.deliveries, ¬d.Same v.delivery := by
  cases hcall : recordVerification H faults v st with
  | mk result st' =>
    simp only [Call.exec, hcall] at hexec
    cases result with
    | error e => cases hexec
    | ok p =>
      obtain ⟨event, updated'⟩ := p
      cases hexec
      have hv := recordVerification_ok hcall
      by_cases hcounts : v.Counts
      · have hsame := h.clash_iff (r := v.row H st.draws) rfl
        rw [(hv.attempt hcounts).updated_iff, hsame, not_exists]
        simp only [not_and]
        exact ⟨fun hnew => ⟨hcounts.1, hcounts.2, hnew⟩, fun hall => hall.2.2⟩
      · have hskip := (hv.skipped hcounts).1
        simp only [hskip, Bool.false_eq_true, false_iff]
        exact fun hall => hcounts ⟨hall.1, hall.2.1⟩

theorem delivery_updated_iff (h : Tallied H log st) {d : Delivery} {updated : Bool}
    (hexec : ((Call.delivery d).exec H faults st).1 = .ok updated) :
    updated = true ↔ decisive d.outcome ∧ ∀ d' ∈ log.deliveries, ¬d'.Same d := by
  cases hcall : recordObservation H faults d st with
  | mk result st' =>
    simp only [Call.exec, hcall] at hexec
    subst hexec
    obtain ⟨hdecisive, hd⟩ := recordObservation_ok hcall
    have hsame := h.clash_iff (r := d.row H st.draws) rfl
    rw [hd.attempt.updated_iff, hsame, not_exists]
    simp only [not_and]
    exact ⟨fun hnew => ⟨hdecisive, hnew⟩, fun hall => hall.2⟩

theorem canary_updated_iff (h : Tallied H log st) {p : ProtocolCanary} {updated : Bool}
    (hexec : ((Call.canary p).exec H faults st).1 = .ok updated) :
    updated = true ↔ ∀ c ∈ log.canaries, ¬c.Same p.canary := by
  cases hcall : recordProtocolObservation H faults p st with
  | mk result st' =>
    simp only [Call.exec, hcall] at hexec
    cases result with
    | error e => cases hexec
    | ok q =>
      obtain ⟨event, updated'⟩ := q
      cases hexec
      obtain ⟨-, hp⟩ := recordProtocolObservation_ok hcall
      have hsame := h.clash_canary_iff (r := p.row H st.draws) rfl
      rw [hp.attempt.updated_iff, hsame, not_exists]
      simp only [not_and]
      exact Iff.rfl

theorem Call.Valid.returns {c : Call} (hc : c.Valid) (hcommits : Commits H faults st) :
    ∃ updated, (c.exec H faults st).1 = .ok updated := by
  cases c with
  | verification v =>
    obtain ⟨event, updated, st', hcall⟩ := hcommits.verification hc.1 hc.2
    exact ⟨updated, by simp only [Call.exec, hcall, Except.map]⟩
  | delivery d =>
    obtain ⟨updated, st', hcall⟩ := hcommits.observation hc.1 hc.2
    exact ⟨updated, by simp only [Call.exec, hcall]⟩
  | canary p =>
    obtain ⟨event, updated, st', hcall⟩ := hcommits.canary hc.1 hc.2
    exact ⟨updated, by simp only [Call.exec, hcall, Except.map]⟩

/-- The two tables refine the first-writer-wins history: in every sequence of calls, a call that
returns updates reputation exactly when it is the first of its kind, every valid call returns when
the database commits, and the tallies count exactly the updated calls of their kind. -/
theorem exactly_once_evidence (h : Recorded H log st) :
    (∀ pre post v updated, log = pre ++ (.verification v, .ok updated) :: post →
      (updated = true ↔ v.reputationEligible = true ∧ decisive v.outcome ∧
        ∀ d ∈ Log.deliveries pre, ¬d.Same v.delivery)) ∧
    (∀ pre post d updated, log = pre ++ (.delivery d, .ok updated) :: post →
      (updated = true ↔ decisive d.outcome ∧ ∀ d' ∈ Log.deliveries pre, ¬d'.Same d)) ∧
    (∀ pre post p updated, log = pre ++ (.canary p, .ok updated) :: post →
      (updated = true ↔ ∀ c ∈ Log.canaries pre, ¬c.Same p.canary)) ∧
    (∀ (c : Call) (faults : Faults), c.Valid → Commits H faults st →
      ∃ updated, (c.exec H faults st).1 = .ok updated) ∧
    (∀ s t, (reputation st.db s t).1 =
      ⟨log.deliveries.countP fun d =>
          d.serviceId = s ∧ (d.taskType = t ∨ d.taskType = "general") ∧ d.outcome = "PASS",
        log.deliveries.countP fun d =>
          d.serviceId = s ∧ (d.taskType = t ∨ d.taskType = "general") ∧ d.outcome = "FAIL"⟩) ∧
    ∀ s, (protocolReputation st.db s).1 =
      ⟨log.canaries.countP fun c => c.serviceId = s ∧ c.outcome = "PASS",
        log.canaries.countP fun c => c.serviceId = s ∧ c.outcome = "FAIL"⟩ := by
  refine ⟨?_, ?_, ?_, fun c faults hc hcommits => hc.returns hcommits,
    reputation_eq (tallied_of_recorded h), protocolReputation_eq (tallied_of_recorded h)⟩
  · intro pre post v updated hlog
    obtain ⟨st₀, faults, hpre, hexec⟩ := h.split hlog
    exact verification_updated_iff (tallied_of_recorded hpre) hexec
  · intro pre post d updated hlog
    obtain ⟨st₀, faults, hpre, hexec⟩ := h.split hlog
    exact delivery_updated_iff (tallied_of_recorded hpre) hexec
  · intro pre post p updated hlog
    obtain ⟨st₀, faults, hpre, hexec⟩ := h.split hlog
    exact canary_updated_iff (tallied_of_recorded hpre) hexec

/-- A host whose digests tell records of different lengths apart. -/
def lengthHost : Host :=
  { Host.sample zeroHash with sha256 := fun t => String.ofList (List.replicate t.length 'h') }

/-- A delivery that passes, the same evidence again, and a canary. -/
def sales : List Call :=
  [.verification ⟨"delivery-1", "seller", "general", "PASS", "evidence", some 40, [], true⟩,
    .delivery ⟨"delivery-2", "seller", "general", "FAIL", "evidence", none⟩,
    .canary ⟨"probe-1", "seller", "PASS", "evidence", 30, []⟩]

/-- Calls that meet no fault, one after the other. -/
def execAll (H : Host) : List Call → Log × Store → Log × Store
  | [], run => run
  | c :: cs, run => execAll H cs (run.1 ++ [(c, (c.exec H (fun _ => false) run.2).1)],
      (c.exec H (fun _ => false) run.2).2)

theorem recorded_execAll {cs : List Call} {run : Log × Store} (h : Recorded H run.1 run.2) :
    Recorded H (execAll H cs run).1 (execAll H cs run).2 := by
  induction cs generalizing run with
  | nil => exact h
  | cons c cs ih => exact ih (h.call c _)

theorem exactly_once_delivery :
    let run := execAll lengthHost sales ([], .empty)
    run.1.map Prod.snd = [.ok true, .ok false, .ok true] ∧
      (reputation run.2.db "seller" "general").1 = ⟨1, 0⟩ ∧
      (protocolReputation run.2.db "seller").1 = ⟨1, 0⟩ ∧
      ∃ updated, ((Call.canary ⟨"probe-2", "seller", "FAIL", "other", 30, []⟩).exec lengthHost
        (fun _ => false) .empty).1 = .ok updated := by
  have hrecorded : Recorded lengthHost (execAll lengthHost sales ([], .empty)).1
      (execAll lengthHost sales ([], .empty)).2 := recorded_execAll .empty
  have h := exactly_once_evidence hrecorded
  have hvalid : (Call.canary ⟨"probe-2", "seller", "FAIL", "other", 30, []⟩).Valid := by
    refine ⟨?_, ?_⟩ <;> decide
  refine ⟨by decide +kernel, ?_, ?_, ?_⟩
  · exact (h.2.2.2.2.1 "seller" "general").trans (by decide +kernel)
  · exact (h.2.2.2.2.2 "seller").trans (by decide +kernel)
  · exact (exactly_once_evidence .empty).2.2.2.1 _ _ hvalid (commits_empty _)

end Counterparty
