import Counterparty.Library.OrderStatistic
import Counterparty.BestExecution
import Counterparty.Memory

/-! The latencies that a snapshot reports: no minority of the measurements decides them. -/
namespace Counterparty

open Interleave OrderStatistic

variable {H : Host} {J : JsonSchema} {st st' : Store}

/-! The median. -/

theorem median_eq_none_iff {latencies : List ℤ} : median latencies = none ↔ latencies = [] := by
  have hnil : latencies.insertionSort (· ≤ ·) = [] ↔ latencies = [] := by
    rw [← List.length_eq_zero_iff, List.length_insertionSort, List.length_eq_zero_iff]
  rw [median]
  split_ifs with hnone hodd
  · exact iff_of_true rfl (hnil.1 hnone)
  · have hlength := List.length_pos_iff.2 hnone
    rw [List.getElem?_eq_none_iff, ← hnil]
    exact iff_of_false (by omega) hnone
  · exact iff_of_false not_false fun h => hnone (hnil.2 h)

theorem isMedian_median {latencies : List ℤ} {m : ℤ} (h : median latencies = some m) :
    IsMedian latencies m := by
  have hsorted : (latencies.insertionSort (· ≤ ·)).Pairwise (· ≤ ·) := List.pairwise_insertionSort _ _
  apply IsMedian.perm _ (List.perm_insertionSort (· ≤ ·) latencies)
  rw [median] at h
  generalize latencies.insertionSort (· ≤ ·) = s at h hsorted
  split_ifs at h with hnone hodd
  · obtain ⟨hmid, rfl⟩ := List.getElem?_eq_some_iff.1 h
    exact isMedian_of_middle hsorted le_rfl (by omega) hmid hmid (by omega) le_rfl le_rfl
  · have hlength := List.length_pos_iff.2 hnone
    have hlow : s.length / 2 - 1 < s.length := by omega
    have hhigh : s.length / 2 < s.length := by omega
    have hle : s[s.length / 2 - 1] ≤ s[s.length / 2] := getElem_le_getElem hsorted (by omega) hhigh
    obtain rfl := Option.some.inj h
    rw [List.getD_eq_getElem?_getD, List.getD_eq_getElem?_getD, List.getElem?_eq_getElem hlow,
      List.getElem?_eq_getElem hhigh, Option.getD_some, Option.getD_some]
    exact isMedian_of_middle hsorted (Nat.sub_le _ _) (by omega) hlow hhigh (by omega) (by omega) (by omega)

/-! What is measured. -/

/-- A call that records a delivery of the seller, for the type of task or a general one, with such a
latency. -/
def StoreOp.measuresDelivery (s taskType : String) (p : ℤ → Bool) : (op : StoreOp) → op.Ret → Bool
  | .recordVerification v, .ok (_, updated) =>
    updated ∧ Concerns s taskType v.serviceId v.taskType ∧ v.latencyMs.any p
  | _, _ => false

def StoreOp.measuresCanary (s : String) (p : ℤ → Bool) : (op : StoreOp) → op.Ret → Bool
  | .recordProtocolObservation q, .ok (_, updated) => updated ∧ q.serviceId = s ∧ p q.latencyMs
  | _, _ => false

/-- The latencies that a tally of the seller's deliveries goes by. -/
def Db.deliveryLatencies (db : Db) (s taskType : String) : List ℤ :=
  (db.observations.rows.filter fun r => r.CountsFor s taskType).filterMap Observation.latencyMs

def Db.canaryLatencies (db : Db) (s : String) : List ℤ :=
  (db.protocolObservations.rows.filter fun r => r.serviceId = s).map ProtocolObservation.latencyMs

theorem deliveryLatencies_exec {s taskType : String} {p : ℤ → Bool} {op : StoreOp} {r : op.Ret}
    (h : op.Exec H st r st') : (st'.db.deliveryLatencies s taskType).countP p =
      (st.db.deliveryLatencies s taskType).countP p + (op.measuresDelivery s taskType p r).toNat := by
  rw [Db.deliveryLatencies, observations_exec h, List.filter_append, List.filterMap_append,
    List.countP_append]
  congr 1
  cases op with
  | recordVerification v =>
    rcases r with e | ⟨event, _ | _⟩
    · rfl
    · rfl
    · have hlatency : (v.row H st.draws).latencyMs = v.latencyMs := rfl
      by_cases hconcerns : Concerns s taskType v.serviceId v.taskType
      · cases hsome : v.latencyMs <;>
          simp [StoreOp.delivered, StoreOp.measuresDelivery, Verification.row_countsFor, hconcerns, hlatency,
            hsome, Bool.toNat, Bool.cond_eq_ite]
      · simp [StoreOp.delivered, StoreOp.measuresDelivery, Verification.row_countsFor, hconcerns]
  | _ => rfl

theorem canaryLatencies_exec {s : String} {p : ℤ → Bool} {op : StoreOp} {r : op.Ret}
    (h : op.Exec H st r st') : (st'.db.canaryLatencies s).countP p =
      (st.db.canaryLatencies s).countP p + (op.measuresCanary s p r).toNat := by
  rw [Db.canaryLatencies, protocolObservations_exec h, List.filter_append, List.map_append,
    List.countP_append]
  congr 1
  cases op with
  | recordProtocolObservation q =>
    rcases r with e | ⟨event, _ | _⟩
    · rfl
    · rfl
    · have hrow : (q.row H st.draws).serviceId = q.serviceId ∧
          (q.row H st.draws).latencyMs = q.latencyMs := ⟨rfl, rfl⟩
      by_cases hseller : q.serviceId = s
      · simp [StoreOp.canaried, StoreOp.measuresCanary, hrow, hseller, Bool.toNat, Bool.cond_eq_ite]
      · simp [StoreOp.canaried, StoreOp.measuresCanary, hrow, hseller]
  | _ => rfl

/-! The counters. -/

section Counters

variable (H : Host) (J : JsonSchema)

/-- The deliveries of the seller with such a latency. -/
def deliveryLatencyCounter (s taskType : String) (p : ℤ → Bool) :
    Counter (StoreOp.Exec H) (serve H J) Store.empty where
  value st := (st.db.deliveryLatencies s taskType).countP p
  counts := StoreOp.measuresDelivery s taskType p
  tells _ _ := false
  value_start := rfl
  value_exec := deliveryLatencies_exec
  affords _ := Tariff.affords_counting (fun _ _ => Nat.zero_le _) _ _

def canaryLatencyCounter (s : String) (p : ℤ → Bool) :
    Counter (StoreOp.Exec H) (serve H J) Store.empty where
  value st := (st.db.canaryLatencies s).countP p
  counts := StoreOp.measuresCanary s p
  tells _ _ := false
  value_start := rfl
  value_exec := canaryLatencies_exec
  affords _ := Tariff.affords_counting (fun _ _ => Nat.zero_le _) _ _

end Counters

/-- How many deliveries of the seller were recorded with such a latency. -/
def measuredDeliveries (past : List ServiceEvent) (s taskType : String) (p : ℤ → Bool) : ℕ :=
  past.countP (Counter.countedIn (StoreOp.measuresDelivery s taskType p))

def measuredCanaries (past : List ServiceEvent) (s : String) (p : ℤ → Bool) : ℕ :=
  past.countP (Counter.countedIn (StoreOp.measuresCanary s p))

/-! Every row is measured. -/

/-- Every row counts as a success or a failure, and every delivery has a latency. -/
structure Measured (db : Db) : Prop where
  deliveries : ∀ r ∈ db.observations.rows, decisive r.outcome ∧ r.latencyMs.isSome
  canaries : ∀ r ∈ db.protocolObservations.rows, decisive r.outcome

theorem Measured.exec {op : StoreOp} {r : op.Ret} (h : Measured st.db) (hissued : op.Issued H)
    (hexec : op.Exec H st r st') : Measured st'.db := by
  cases hexec.effect with
  | kept _ hdb _ =>
    rw [hdb]
    exact h
  | logged hl => exact ⟨hl.observations_eq ▸ h.deliveries, hl.protocol_eq ▸ h.canaries⟩
  | @verified v _ _ hv =>
    refine ⟨?_, hv.protocol_eq ▸ h.canaries⟩
    by_cases hcounts : v.Counts
    · apply (hv.attempt hcounts).forall_rows h.deliveries
      cases hissued with
      | verification latencyMs req probes => exact ⟨hcounts.2, rfl⟩
    · rw [(hv.skipped hcounts).2]
      exact h.deliveries
  | canaried hp =>
    refine ⟨hp.observations_eq ▸ h.deliveries, hp.attempt.forall_rows h.canaries ?_⟩
    cases hissued with
    | canary req probes => exact outcome_closedState _

theorem measured_of_serving {history : List ServiceEvent}
    {c : Config ServiceRequest StoreOp.Ret Served Store} (h : Serving H J history c) :
    Measured c.store.db := by
  have hempty : Measured Store.empty.db := ⟨nofun, nofun⟩
  apply h.invariant (I := fun st => Measured st.db) (performs_serve H J) hempty
  intro op st r st' hop hst hexec
  exact hst.exec hop hexec

theorem countP_decisive {R : Type} {outcome : R → String} {rows : List R}
    (h : ∀ r ∈ rows, decisive (outcome r)) :
    rows.countP (fun r => outcome r = "PASS") + rows.countP (fun r => outcome r = "FAIL") =
      rows.length := by
  rw [List.length_eq_countP_add_countP (fun r => decide (outcome r = "PASS"))]
  congr 1
  apply List.countP_congr
  intro r hr
  rcases h r hr with hpass | hfail
  · simp [hpass]
  · simp [hfail]

theorem Measured.observations_deliveries {db : Db} (h : Measured db) (s taskType : String) :
    (reputation db s taskType).1.observations = (db.deliveryLatencies s taskType).length := by
  have hrows : ∀ r ∈ db.observations.rows.filter fun r => r.CountsFor s taskType,
      decisive r.outcome ∧ r.latencyMs.isSome := fun r hr => h.deliveries r (List.mem_of_mem_filter hr)
  rw [Db.deliveryLatencies, List.length_filterMap_eq_countP,
    List.countP_eq_length.2 fun r hr => (hrows r hr).2]
  exact countP_decisive fun r hr => (hrows r hr).1

theorem Measured.observations_canaries {db : Db} (h : Measured db) (s : String) :
    (protocolReputation db s).1.observations = (db.canaryLatencies s).length := by
  rw [Db.canaryLatencies, List.length_map]
  exact countP_decisive fun r hr => h.canaries r (List.mem_of_mem_filter hr)

/-! What is reported. -/

/-- The latency of a tally goes by the majority of what it tallies, for what was measured so far: with
fewer than half below a bound it is not below it, with fewer than half above one it is not above it. -/
structure ByMajority (measured : (ℤ → Bool) → ℕ) (tally : BayesianReputation × Option ℤ) : Prop where
  none_iff : tally.2 = none ↔ tally.1.observations = 0
  low : ∀ latency ∈ tally.2, ∀ lo, 2 * measured (· < lo) < tally.1.observations → lo ≤ latency
  high : ∀ latency ∈ tally.2, ∀ hi, 2 * measured (hi < ·) < tally.1.observations → latency ≤ hi

theorem byMajority_median {measured : (ℤ → Bool) → ℕ} {rep : BayesianReputation} {latencies : List ℤ}
    (hlength : rep.observations = latencies.length) (hmeasured : ∀ p, latencies.countP p ≤ measured p) :
    ByMajority measured (rep, median latencies) := by
  refine ⟨?_, ?_, ?_⟩
  · rw [median_eq_none_iff, hlength, List.length_eq_zero_iff]
  · intro latency hlatency lo hfew
    apply (isMedian_median hlatency).le_of_few
    have hle := hmeasured fun y => decide (y < lo)
    change 2 * measured _ < rep.observations at hfew
    omega
  · intro latency hlatency hi hfew
    apply (isMedian_median hlatency).ge_of_few
    have hle := hmeasured fun y => decide (hi < y)
    change 2 * measured _ < rep.observations at hfew
    omega

section Traces

variable {E : Trace (StoreOp.Exec H) (serve H J) Store.empty} {h a b : ℕ}

/-- The latencies that a snapshot reports are no minority's: whoever runs the service with whatever
clients, to move a reported latency out of a range takes half of the deliveries or canaries tallied. -/
theorem latency_by_majority {req : TrustSnapshotRequest} {response : TrustSnapshotResponse}
    (hanswers : E.Answers h a b (.trustSnapshot req) (.ok (.snapshot response))) :
    ByMajority (measuredDeliveries (E.past b) req.serviceId req.taskType) response.evidence ∧
      ByMajority (measuredCanaries (E.past b) req.serviceId) response.protocolEvidence := by
  have hlength := hanswers.lt_length
  obtain ⟨i, j, hai, hib, haj, hjb, hevidence, hprotocol⟩ := snapshot_readBetween hanswers
  have hmeasured : ∀ k < b, Measured (E.config k).store.db := fun k hk =>
    measured_of_serving (E.run (by omega))
  rw [hevidence, hprotocol]
  constructor
  · apply byMajority_median ((hmeasured i hib).observations_deliveries _ _)
    intro p
    exact ((deliveryLatencyCounter H J _ _ p).found_between hai.le hib.le hlength.le).2
  · apply byMajority_median ((hmeasured j hjb).observations_canaries _)
    intro p
    exact ((canaryLatencyCounter H J _ p).found_between haj.le hjb.le hlength.le).2

end Traces

theorem latency_by_majority_acknowledged :
    ∃ (E : Trace (StoreOp.Exec AnyPayload.injectiveHost) (serve AnyPayload.injectiveHost .sample)
        Store.empty) (a b : ℕ) (response : TrustSnapshotResponse),
      E.Answers 0 a b (.trustSnapshot sellerSnapshot) (.ok (.snapshot response)) ∧
      ByMajority (measuredDeliveries (E.past b) "seller" "general") response.evidence ∧
      ByMajority (measuredCanaries (E.past b) "seller") response.protocolEvidence := by
  obtain ⟨E, a, b, -, response, -, hanswers⟩ := exists_snapshot_answered
  exact ⟨E, a, b, response, hanswers, latency_by_majority hanswers⟩

end Counterparty
