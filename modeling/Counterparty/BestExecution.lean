import Counterparty.Agreement
import Counterparty.Service
import Counterparty.VerificationSpec

/-! Best execution in either mode and any arithmetic: whom it recommends, whom it ranks, and where it
sends a buyer that it recommends nobody to. -/
namespace Counterparty

open Json Ranking Interleave

variable {A : Arithmetic} {H : Host} {J : JsonSchema} {faults faults' : Faults} {st st' : Store}
  {db : Db} {mode : Mode} {taskType : String} {candidate : CandidateRequest}
  {req req' : BestExecutionRequest}

/-! What is asked of an answer. -/

/-- The tiers that a mode routes to. -/
def Mode.Routes : Mode → EvidenceTier → Prop
  | .safe, tier => tier = .verified ∨ tier = .provisional
  | .explore, tier => tier ≠ .rejected

instance : (mode : Mode) → DecidablePred mode.Routes
  | .safe => fun _ => inferInstanceAs (Decidable (_ ∨ _))
  | .explore => fun _ => inferInstanceAs (Decidable (_ ≠ _))

/-- Within the budget, with a tier that the mode routes to. -/
def Db.Eligible (db : Db) (req : BestExecutionRequest) (candidate : CandidateRequest) : Prop :=
  candidate.priceCredits ≤ req.budgetCredits ∧
    req.mode.Routes (db.score req.mode req.taskType candidate).evidenceTier

/-- The eligible candidate of greatest utility, with the greatest id among those of that utility. -/
def Arithmetic.Best (A : Arithmetic) (db : Db) (req : BestExecutionRequest)
    (candidate : CandidateRequest) : Prop :=
  candidate ∈ req.candidates ∧ db.Eligible req candidate ∧
    ∀ other ∈ req.candidates, db.Eligible req other →
      RankedBefore (A.ranked db req candidate) (A.ranked db req other)

/-- What the answer has to say of the candidates, in a state of the database. -/
structure BestAnswer (A : Arithmetic) (H : Host) (db : Db) (req : BestExecutionRequest)
    (result : PyDict) : Prop where
  pass_iff : field result "state" = some (pyText "PASS") ↔
    ∃ candidate ∈ req.candidates, db.Eligible req candidate
  recommended_iff : ∀ serviceId, field result "recommended" = some (pyText serviceId) ↔
    ∃ candidate, A.Best db req candidate ∧ candidate.serviceId = serviceId
  ranked : ∃ order : List CandidateRequest,
    order.Perm (req.candidates.filter fun c => c.priceCredits ≤ req.budgetCredits) ∧
    order.Pairwise (fun c d => RankedBefore (A.ranked db req c) (A.ranked db req d)) ∧
    field result "ranked" = some (.arr (order.map fun c => scoreRow H (A.ranked db req c)))
  targets : ∀ action targets, field result "next_action" = some (.obj action) →
    field action "targets" = some (.arr targets) →
    ∀ target ∈ targets, ∃ candidate ∈ req.candidates,
      candidate.priceCredits ≤ req.budgetCredits ∧
      (db.score req.mode req.taskType candidate).evidenceTier = .unproven ∧
      target = pyText candidate.serviceId

/-- The response without its audit receipt. -/
def BestExecutionResponse.body (response : BestExecutionResponse) : PyDict :=
  response.result.filter fun f => f.1 ≠ PyStr.ofString "audit_receipt"

/-- A ranked score that the mode may recommend. -/
def Routed (mode : Mode) (x : CandidateScore × ℚ) : Prop :=
  x.2 > -1e8 ∧ mode.Routes x.1.evidenceTier

instance : DecidablePred (Routed mode) := fun _ => inferInstanceAs (Decidable (_ ∧ _))

theorem routed_ranked_iff :
    Routed req.mode (A.ranked db req candidate) ↔ db.Eligible req candidate := by
  rw [Routed, Db.Eligible, ← A.score_evidenceTier]
  exact and_congr A.viable_iff Iff.rfl

theorem chooseExecution_explore_iff {ranked : Ranked} {winner : CandidateScore × ℚ} :
    (∃ viable, chooseExecution .explore ranked = .recommended winner viable) ↔
      (ranked.filter fun x => Routed .explore x).head? = some winner := by
  have hrouted : ranked.filter (fun x => Routed .explore x) =
      (ranked.filter fun x => x.2 > -1e8).filter fun x => x.1.evidenceTier ≠ .rejected := by
    rw [List.filter_filter]
    refine List.filter_congr fun x _ => ?_
    rw [← Bool.decide_and, decide_eq_decide, Routed, Mode.Routes, and_comm]
  rw [hrouted, chooseExecution]
  generalize ranked.filter (fun x => x.2 > -1e8) = viable
  by_cases hviable : viable = []
  · simp [hviable]
  · rw [if_neg hviable]
    cases viable.filter fun x => x.1.evidenceTier ≠ .rejected with
    | nil => simp
    | cons first rest => simp

/-- Each mode recommends the first ranked score that it may recommend, if there is one. -/
theorem chooseExecution_recommended_iff {ranked : Ranked} {winner : CandidateScore × ℚ} :
    (∃ viable, chooseExecution mode ranked = .recommended winner viable) ↔
      (ranked.filter fun x => Routed mode x).head? = some winner := by
  cases mode with
  | safe => exact chooseExecution_safe_iff
  | explore => exact chooseExecution_explore_iff

/-- The scores that an answer lists. -/
def Execution.ranked : Execution → Ranked
  | .unaffordable => []
  | .rejected ranked | .unready ranked _ | .recommended _ ranked => ranked

theorem recommends_iff : (∃ winner viable, A.decide db req = .recommended winner viable) ↔
    ∃ candidate ∈ req.candidates, db.Eligible req candidate := by
  simp only [Arithmetic.decide, chooseExecution_recommended_iff]
  rw [rank_eq]
  constructor
  · rintro ⟨winner, hhead⟩
    obtain ⟨hmem, hrouted⟩ := List.mem_filter.1 (List.mem_of_mem_head? hhead)
    obtain ⟨candidate, hcandidate, rfl⟩ := List.mem_map.1 ((List.mem_insertionSort _).1 hmem)
    exact ⟨candidate, hcandidate, routed_ranked_iff.1 (of_decide_eq_true hrouted)⟩
  · rintro ⟨candidate, hcandidate, heligible⟩
    have hin : A.ranked db req candidate ∈ ((req.candidates.map (A.ranked db req)).insertionSort
        RankedBefore).filter fun x => Routed req.mode x :=
      List.mem_filter.2 ⟨(List.mem_insertionSort _).2 (List.mem_map_of_mem hcandidate),
        decide_eq_true (routed_ranked_iff.2 heligible)⟩
    exact ⟨_, List.head?_eq_some_head (List.ne_nil_of_mem hin)⟩

/-- The receipt overwrites nothing that the answer says. -/
theorem BestAnswer.put {result : PyDict} (h : BestAnswer A H db req result) (receipt : String) :
    BestAnswer A H db req (put (PyStr.ofString "audit_receipt") (pyText receipt) result) := by
  have hfield (name : String) (hname : name ≠ "audit_receipt") :
      field (Json.put (PyStr.ofString "audit_receipt") (pyText receipt) result) name =
        field result name := field_put hname
  constructor
  · rw [hfield "state" (by decide)]
    exact h.pass_iff
  · intro serviceId
    rw [hfield "recommended" (by decide)]
    exact h.recommended_iff serviceId
  · rw [hfield "ranked" (by decide)]
    exact h.ranked
  · intro action targets haction
    rw [hfield "next_action" (by decide)] at haction
    exact h.targets action targets haction

/-! Runs of the endpoint. -/

/-- No row took less than no time. -/
structure Timed (db : Db) : Prop where
  observations : ∀ r ∈ db.observations.rows, ∀ latency ∈ r.latencyMs, 0 ≤ latency
  protocolObservations : ∀ r ∈ db.protocolObservations.rows, 0 ≤ r.latencyMs

/-- The operation records no latency below zero. -/
def StoreOp.Timed : StoreOp → Prop
  | .reputation _ _ | .protocolReputation _ | .appendAudit _ _ => True
  | .recordVerification v => ∀ latency ∈ v.latencyMs, 0 ≤ latency
  | .recordProtocolObservation p => 0 ≤ p.latencyMs

theorem Attempt.forall_rows {R : Type} {Clash : R → R → Prop} {table table' : Table Clash} {r : R}
    {updated : Bool} {P : R → Prop} (h : Attempt table table' r updated)
    (hrows : ∀ r' ∈ table.rows, P r') (hr : P r) : ∀ r' ∈ table'.rows, P r' := by
  cases updated with
  | false =>
    rw [(h.suppressed rfl).1]
    exact hrows
  | true =>
    rw [(h.written rfl).1]
    intro r' hr'
    rcases List.mem_append.1 hr' with hr' | hr'
    · exact hrows r' hr'
    · exact List.mem_singleton.1 hr' ▸ hr

theorem Timed.exec {op : StoreOp} {r : op.Ret} (h : Timed st.db) (hop : op.Timed)
    (hexec : op.Exec H st r st') : Timed st'.db := by
  cases hexec.effect with
  | kept _ hdb _ =>
    rw [hdb]
    exact h
  | logged hl => exact ⟨hl.observations_eq ▸ h.observations, hl.protocol_eq ▸ h.protocolObservations⟩
  | @verified v _ _ hv =>
    refine ⟨?_, hv.protocol_eq ▸ h.protocolObservations⟩
    by_cases hcounts : v.Counts
    · exact (hv.attempt hcounts).forall_rows h.observations hop
    · rw [(hv.skipped hcounts).2]
      exact h.observations
  | canaried hp =>
    exact ⟨hp.observations_eq ▸ h.observations, hp.attempt.forall_rows h.protocolObservations hop⟩

theorem median_nonneg {latencies : List ℤ} (h : ∀ latency ∈ latencies, 0 ≤ latency) :
    ∀ latency ∈ median latencies, 0 ≤ latency := by
  have hsorted : ∀ latency ∈ latencies.insertionSort (· ≤ ·), 0 ≤ latency :=
    fun latency hmem => h latency ((List.mem_insertionSort _).1 hmem)
  have hnth (i : ℕ) : 0 ≤ (latencies.insertionSort (· ≤ ·)).getD i 0 := by
    rw [List.getD_eq_getElem?_getD]
    cases hi : (latencies.insertionSort (· ≤ ·))[i]? with
    | none => exact le_rfl
    | some latency => exact hsorted latency (List.mem_of_getElem? hi)
  intro latency hlatency
  rw [median] at hlatency
  split_ifs at hlatency with hnone hodd
  · cases hlatency
  · exact hsorted latency (List.mem_of_getElem? hlatency)
  · obtain rfl := Option.mem_some.1 hlatency
    exact Int.ediv_nonneg (add_nonneg (hnth _) (hnth _)) (by norm_num)

theorem candidateLatency_nonneg {observed protocol : Option ℤ}
    (hobserved : ∀ latency ∈ observed, 0 ≤ latency) (hprotocol : ∀ latency ∈ protocol, 0 ≤ latency) :
    0 ≤ candidateLatency candidate observed protocol := by
  have hor {a : Option ℤ} {b : ℤ} (ha : ∀ latency ∈ a, 0 ≤ latency) (hb : 0 ≤ b) :
      0 ≤ orElseNonzero a b := by
    cases a with
    | none => exact hb
    | some n =>
      rw [orElseNonzero]
      split_ifs
      · exact hb
      · exact ha n rfl
  rw [candidateLatency]
  cases candidate.latencyMs with
  | some latency => exact Int.natCast_nonneg latency
  | none => exact hor hobserved (hor hprotocol (by norm_num))

theorem Timed.valid (h : Timed db) (A : Arithmetic) (mode : Mode) (taskType : String)
    (candidate : CandidateRequest) : (A.score db mode taskType candidate).Valid := by
  rw [A.score_valid_iff]
  apply candidateLatency_nonneg
  · apply median_nonneg
    intro latency hlatency
    obtain ⟨r, hr, hsome⟩ := List.mem_filterMap.1 hlatency
    exact h.observations r (List.mem_of_mem_filter hr) latency hsome
  · apply median_nonneg
    intro latency hlatency
    obtain ⟨r, hr, rfl⟩ := List.mem_map.1 hlatency
    exact h.protocolObservations r (List.mem_of_mem_filter hr)

theorem Timed.score_valid (h : Timed db) (mode : Mode) (taskType : String)
    (candidate : CandidateRequest) : (db.score mode taskType candidate).Valid := by
  rw [← Arithmetic.rational_score]
  exact h.valid .rational mode taskType candidate

/-- The service records what a clock and a request model can give. -/
theorem StoreOp.Issued.timed {op : StoreOp} (h : op.Issued H) : op.Timed := by
  cases h with
  | reputation s taskType => trivial
  | protocolReputation s => trivial
  | snapshot req rep protocolRep => trivial
  | execution req execution => trivial
  | verification latencyMs req probes =>
    rintro _ ⟨⟩
    exact Int.natCast_nonneg latencyMs
  | canary req probes => exact Int.natCast_nonneg req.latencyMs

theorem timed_of_serving {history : List (Event ServiceRequest StoreOp.Ret Served)}
    {c : Config ServiceRequest StoreOp.Ret Served Store} (h : Serving H J history c) :
    Timed c.store.db := by
  have hempty : Timed Store.empty.db := ⟨nofun, nofun⟩
  apply h.invariant (I := fun st => Timed st.db) (performs_serve H J) hempty
  intro op st r st' hop hst hexec
  exact hst.exec hop.timed hexec

/-! The contract. -/

end Counterparty
