import Counterparty.Library.Ranking
import Counterparty.Arithmetic

/-! Whom safe routing recommends, and what a trust snapshot says of that seller in the same state,
whatever arithmetic both are computed in. -/
namespace Counterparty

open BayesianReputation Ranking

variable {A : Arithmetic} {H : Host} {faults : Faults} {st st' : Store} {db : Db} {mode : Mode}
  {taskType : String} {rep protocolRep : BayesianReputation} {candidate : CandidateRequest}
  {req : BestExecutionRequest}

/-! The recommendation. -/

/-- A ranked score that safe mode may recommend. -/
def EvidenceReady (x : CandidateScore × ℚ) : Prop :=
  x.2 > -1e8 ∧ (x.1.evidenceTier = .verified ∨ x.1.evidenceTier = .provisional)

instance : DecidablePred EvidenceReady := fun _ => inferInstanceAs (Decidable (_ ∧ _))

theorem filter_evidenceReady (ranked : Ranked) :
    ((ranked.filter fun x => x.2 > -1e8).filter fun x => x.1.evidenceTier ≠ .rejected).filter
      (fun x => x.1.evidenceTier = .verified ∨ x.1.evidenceTier = .provisional) =
    ranked.filter fun x => EvidenceReady x := by
  rw [List.filter_filter, List.filter_filter]
  refine List.filter_congr fun x _ => ?_
  rw [← Bool.decide_and, ← Bool.decide_and, decide_eq_decide, EvidenceReady]
  cases x.1.evidenceTier <;> simp

/-- Safe mode recommends the first ranked score that is ready, if there is one. -/
theorem chooseExecution_safe_iff {ranked : Ranked} {winner : CandidateScore × ℚ} :
    (∃ viable, chooseExecution .safe ranked = .recommended winner viable) ↔
      (ranked.filter fun x => EvidenceReady x).head? = some winner := by
  rw [← filter_evidenceReady, chooseExecution]
  generalize ranked.filter (fun x => x.2 > -1e8) = viable
  by_cases hviable : viable = []
  · simp [hviable]
  · rw [if_neg hviable]
    cases hrouteable : viable.filter fun x => x.1.evidenceTier ≠ .rejected with
    | nil => simp
    | cons first rest =>
      cases hready : (first :: rest).filter
        (fun x => x.1.evidenceTier = .verified ∨ x.1.evidenceTier = .provisional) with
      | nil => simp
      | cons ready others => simp

theorem RankedBefore.total (x y : CandidateScore × ℚ) : RankedBefore x y ∨ RankedBefore y x := by
  unfold RankedBefore
  rcases lt_trichotomy x.2 y.2 with h | h | h
  · exact .inr (.inl h)
  · rcases String.le_total x.1.serviceId y.1.serviceId with hid | hid
    · exact .inr (.inr ⟨h, hid⟩)
    · exact .inl (.inr ⟨h.symm, hid⟩)
  · exact .inl (.inl h)

theorem RankedBefore.trans {x y z : CandidateScore × ℚ} (hxy : RankedBefore x y)
    (hyz : RankedBefore y z) : RankedBefore x z := by
  rcases hxy with hxy | ⟨hxy, hid⟩
  · rcases hyz with hyz | ⟨hyz, -⟩
    · exact .inl (hyz.trans hxy)
    · exact .inl (hyz ▸ hxy)
  · rcases hyz with hyz | ⟨hyz, hid'⟩
    · exact .inl (hxy ▸ hyz)
    · exact .inr ⟨hyz.trans hxy, String.le_trans hid' hid⟩

theorem RankedBefore.refl (x : CandidateScore × ℚ) : RankedBefore x x := .inr ⟨rfl, String.le_refl _⟩

/-- Scores that each rank before the other are of one seller. -/
theorem RankedBefore.antisymm {x y : CandidateScore × ℚ} (hxy : RankedBefore x y)
    (hyx : RankedBefore y x) : x.1.serviceId = y.1.serviceId := by
  rcases hxy with hxy | ⟨hxy, hid⟩
  · rcases hyx with hyx | ⟨hyx, -⟩
    · exact absurd hxy (lt_asymm hyx)
    · exact absurd hyx.symm hxy.ne
  · rcases hyx with hyx | ⟨-, hid'⟩
    · exact absurd hxy.symm hyx.ne
    · exact String.le_antisymm hid' hid

instance : Std.Total RankedBefore := ⟨RankedBefore.total⟩

instance : IsTrans (CandidateScore × ℚ) RankedBefore := ⟨fun _ _ _ => RankedBefore.trans⟩

/-- How a candidate of a request is ranked in a state of the database. -/
def Arithmetic.ranked (A : Arithmetic) (db : Db) (req : BestExecutionRequest)
    (candidate : CandidateRequest) : CandidateScore × ℚ :=
  (A.score db req.mode req.taskType candidate,
    A.utility (A.score db req.mode req.taskType candidate) req.budgetCredits req.mode)

theorem rank_eq (A : Arithmetic) (db : Db) (req : BestExecutionRequest) :
    A.rank (req.candidates.map (A.score db req.mode req.taskType)) req.budgetCredits req.mode =
      (req.candidates.map (A.ranked db req)).insertionSort RankedBefore := by
  rw [Arithmetic.rank, List.map_map]
  rfl

/-- Candidates are told apart by their ids. -/
theorem distinguishes_ranked (A : Arithmetic) (db : Db) (req : BestExecutionRequest) :
    Distinguishes RankedBefore (req.candidates.map (A.ranked db req)) := by
  intro x hx y hy hxy hyx
  obtain ⟨c, hc, rfl⟩ := List.mem_map.1 hx
  obtain ⟨d, hd, rfl⟩ := List.mem_map.1 hy
  have hid : c.serviceId = d.serviceId := hxy.antisymm hyx
  rw [List.inj_on_of_nodup_map req.candidates_must_be_unique hc hd hid]

/-- The first of the scores that are kept is that of the candidate that ranks before the others. -/
theorem head?_filter_rank {P : CandidateScore × ℚ → Prop} [DecidablePred P]
    {Q : CandidateRequest → Prop} (h : ∀ c, P (A.ranked db req c) ↔ Q c)
    {winner : CandidateScore × ℚ} :
    ((A.rank (req.candidates.map (A.score db req.mode req.taskType)) req.budgetCredits
        req.mode).filter fun x => P x).head? = some winner ↔
      ∃ candidate, (candidate ∈ req.candidates ∧ Q candidate ∧ ∀ other ∈ req.candidates,
        Q other → RankedBefore (A.ranked db req candidate) (A.ranked db req other)) ∧
          A.ranked db req candidate = winner := by
  have hdistinct := (distinguishes_ranked A db req).filter fun x => decide (P x)
  rw [rank_eq, filter_insertionSort (distinguishes_ranked A db req), head?_insertionSort hdistinct]
  constructor
  · rintro ⟨hwinner, hfirst⟩
    obtain ⟨hmem, hkept⟩ := List.mem_filter.1 hwinner
    obtain ⟨candidate, hcandidate, rfl⟩ := List.mem_map.1 hmem
    refine ⟨candidate, ⟨hcandidate, (h candidate).1 (of_decide_eq_true hkept), ?_⟩, rfl⟩
    intro other hother hQ
    exact hfirst _ (List.mem_filter.2
      ⟨List.mem_map_of_mem hother, decide_eq_true ((h other).2 hQ)⟩)
  · rintro ⟨candidate, ⟨hcandidate, hQ, hfirst⟩, rfl⟩
    refine ⟨List.mem_filter.2
      ⟨List.mem_map_of_mem hcandidate, decide_eq_true ((h candidate).2 hQ)⟩, ?_⟩
    intro x hx
    obtain ⟨hmem, hkept⟩ := List.mem_filter.1 hx
    obtain ⟨other, hother, rfl⟩ := List.mem_map.1 hmem
    exact hfirst other hother ((h other).1 (of_decide_eq_true hkept))

/-- Within the budget, and with a delivery on record or no more failed canaries than passed ones. -/
def Db.Ready (db : Db) (req : BestExecutionRequest) (candidate : CandidateRequest) : Prop :=
  candidate.priceCredits ≤ req.budgetCredits ∧
    (0 < (reputation db candidate.serviceId req.taskType).1.observations ∨
      0 < (protocolReputation db candidate.serviceId).1.observations ∧
        (protocolReputation db candidate.serviceId).1.failures ≤
          (protocolReputation db candidate.serviceId).1.successes)

/-- No candidate that is ready ranks before this one. -/
def Arithmetic.Leads (A : Arithmetic) (db : Db) (req : BestExecutionRequest)
    (candidate : CandidateRequest) : Prop :=
  candidate ∈ req.candidates ∧ db.Ready req candidate ∧
    ∀ other ∈ req.candidates, db.Ready req other →
      RankedBefore (A.ranked db req candidate) (A.ranked db req other)

theorem evidenceReady_iff : EvidenceReady (A.ranked db req candidate) ↔ db.Ready req candidate := by
  rw [EvidenceReady, Db.Ready, Arithmetic.ranked]
  refine and_congr A.viable_iff ?_
  simp only [Arithmetic.score, Arithmetic.candidateScore, Arithmetic.assess]
  by_cases hrep : 0 < (reputation db candidate.serviceId req.taskType).1.observations
  · simp [hrep]
  · by_cases hcanary : 0 < (protocolReputation db candidate.serviceId).1.observations
    · by_cases hfailed : (protocolReputation db candidate.serviceId).1.failures >
          (protocolReputation db candidate.serviceId).1.successes
      · simp [hrep, hcanary, hfailed]
      · simp [hrep, hcanary, hfailed, not_lt.1 hfailed]
    · simp [hrep, hcanary]

/-- What safe mode recommends is a candidate that leads, and one that leads is recommended. -/
theorem recommended_iff (hsafe : req.mode = .safe) {winner : CandidateScore × ℚ} :
    (∃ viable, A.decide db req = .recommended winner viable) ↔
      ∃ candidate, A.Leads db req candidate ∧ A.ranked db req candidate = winner := by
  have hkept : ((A.rank (req.candidates.map (A.score db req.mode req.taskType)) req.budgetCredits
        req.mode).filter fun x => EvidenceReady x).head? = some winner ↔
      ∃ candidate, A.Leads db req candidate ∧ A.ranked db req candidate = winner :=
    head?_filter_rank fun _ => evidenceReady_iff
  rw [← hkept, Arithmetic.decide, hsafe]
  exact chooseExecution_safe_iff

/-! The two answers. -/

/-- In this state, the snapshot of whomever the request is recommended says anything but AVOID. -/
def Arithmetic.Agrees (A : Arithmetic) (H : Host) (st : Store) (req : BestExecutionRequest) : Prop :=
  ∀ faults response st' winner viable,
    (A.bestExecution H req).run H faults st = (.ok response, st') →
    response.execution = .recommended winner viable →
    ∀ faults' snapshot st'',
      (A.trustSnapshot H ⟨winner.1.serviceId, req.taskType⟩).run H faults' st =
        (.ok snapshot, st'') →
      snapshot.verdict ≠ .avoid

/-- No delivery of the seller counts for the task type, or those that do score 55. -/
def Arithmetic.Clears (A : Arithmetic) (db : Db) (s taskType : String) : Prop :=
  (reputation db s taskType).1.observations = 0 ∨ 55 ≤ A.score100 (reputation db s taskType).1

instance (s : String) : Decidable (A.Clears db s taskType) := inferInstanceAs (Decidable (_ ∨ _))

/-- The requests ask about the same sellers in the same mode; all that they say of the sellers, and
the budget, may differ. -/
structure SameSellers (req req' : BestExecutionRequest) : Prop where
  mode : req'.mode = req.mode
  taskType : req'.taskType = req.taskType
  sellers : req'.candidates.map (·.serviceId) = req.candidates.map (·.serviceId)

theorem verdict_of_ready (h : db.Ready req candidate) :
    A.verdict db candidate.serviceId req.taskType ≠ .avoid ↔
      A.Clears db candidate.serviceId req.taskType := by
  rw [Arithmetic.verdict, ne_eq, A.snapshotVerdict_avoid_iff, Arithmetic.Clears]
  by_cases hrep : (reputation db candidate.serviceId req.taskType).1.observations = 0
  · rcases h.2 with hsome | ⟨-, hpassed⟩
    · omega
    · simp [hrep, hpassed]
  · simp [hrep]

theorem agrees_of_clears (hsafe : req.mode = .safe)
    (h : ∀ c ∈ req.candidates, c.priceCredits ≤ req.budgetCredits →
      A.Clears st.db c.serviceId req.taskType) : A.Agrees H st req := by
  intro faults response st' winner viable hresponse hrecommended faults' snapshot st'' hsnapshot
  rw [(A.bestExecution_ok hresponse).1] at hrecommended
  obtain ⟨candidate, ⟨hmem, hready, -⟩, rfl⟩ := (recommended_iff hsafe).1 ⟨viable, hrecommended⟩
  rw [A.trustSnapshot_verdict hsnapshot]
  exact (verdict_of_ready hready).2 (h candidate hmem hready.1)

theorem zero_latency_le : ∀ l ∈ some 0, l ≤ 300000 := by simp

/-- The sellers of the request, one of them for nothing and all others at a price over the budget. -/
def BestExecutionRequest.onlyFree (req : BestExecutionRequest) (seller : String) :
    BestExecutionRequest :=
  let offer (c : CandidateRequest) : CandidateRequest :=
    { c with
      priceCredits := if c.serviceId = seller then 0 else 100
      latencyMs := some 0
      price_le := by split_ifs <;> decide
      latency_le := zero_latency_le }
  { req with
    budgetCredits := 1
    candidates := req.candidates.map offer
    budget_pos := by decide
    budget_le := by decide
    candidates_ne := by simpa using req.candidates_ne
    candidates_length := by simpa using req.candidates_length
    candidates_must_be_unique := by
      rw [List.map_map]
      exact req.candidates_must_be_unique }

theorem sameSellers_onlyFree (req : BestExecutionRequest) (seller : String) :
    SameSellers req (req.onlyFree seller) where
  mode := rfl
  taskType := rfl
  sellers := by
    rw [BestExecutionRequest.onlyFree, List.map_map]
    rfl

theorem mem_onlyFree {seller : String} {c : CandidateRequest}
    (h : c ∈ (req.onlyFree seller).candidates) :
    c.priceCredits = (if c.serviceId = seller then 0 else 100) ∧ c.latencyMs = some 0 := by
  obtain ⟨d, -, rfl⟩ := List.mem_map.1 h
  exact ⟨rfl, rfl⟩

/-- A seller with deliveries is recommended when no other is within the budget. -/
theorem exists_leads_onlyFree {seller : String}
    (hmem : seller ∈ req.candidates.map (·.serviceId))
    (hrep : (reputation db seller req.taskType).1.observations ≠ 0) :
    ∃ candidate, A.Leads db (req.onlyFree seller) candidate ∧ candidate.serviceId = seller := by
  rw [← (sameSellers_onlyFree req seller).sellers] at hmem
  obtain ⟨candidate, hcandidate, rfl⟩ := List.mem_map.1 hmem
  have hprice := (mem_onlyFree hcandidate).1
  rw [if_pos rfl] at hprice
  refine ⟨candidate, ⟨hcandidate, ⟨by rw [hprice]; exact Nat.zero_le _, .inl ?_⟩, ?_⟩, rfl⟩
  · exact Nat.pos_of_ne_zero hrep
  · intro other hother hready
    have hsame : other.serviceId = candidate.serviceId := by
      by_contra hne
      have hover := (mem_onlyFree hother).1
      rw [if_neg hne] at hover
      have hwithin : other.priceCredits ≤ 1 := hready.1
      omega
    rw [List.inj_on_of_nodup_map (req.onlyFree candidate.serviceId).candidates_must_be_unique
      hother hcandidate hsame]
    exact .refl _

/-- Safe routing agrees with the snapshots of the sellers it recommends where no seller within the
budget has deliveries that score less than 55; and a state in which it agrees with them whatever
the sellers charge and promise is one in which no seller asked about has. -/
theorem recommendation_agrees_iff (A : Arithmetic) (H : Host) (st : Store)
    {req : BestExecutionRequest} (hsafe : req.mode = .safe) :
    ((∀ c ∈ req.candidates, c.priceCredits ≤ req.budgetCredits →
        A.Clears st.db c.serviceId req.taskType) → A.Agrees H st req) ∧
    ∀ faults, Commits H faults st →
      ((∀ offer, SameSellers req offer → A.Agrees H st offer) ↔
        ∀ c ∈ req.candidates, A.Clears st.db c.serviceId req.taskType) := by
  refine ⟨agrees_of_clears hsafe, fun faults hcommits => ⟨?_, ?_⟩⟩
  · intro hagrees c hc
    by_contra hlow
    have hrep : (reputation st.db c.serviceId req.taskType).1.observations ≠ 0 :=
      fun hnone => hlow (.inl hnone)
    have hfree : (req.onlyFree c.serviceId).mode = .safe := hsafe
    obtain ⟨candidate, hleads, hid⟩ : ∃ candidate, A.Leads st.db (req.onlyFree c.serviceId) candidate ∧
        candidate.serviceId = c.serviceId :=
      exists_leads_onlyFree (List.mem_map_of_mem hc) hrep
    obtain ⟨viable, hdecided⟩ := (recommended_iff hfree).2 ⟨candidate, hleads, rfl⟩
    have hvalid : ∀ c' ∈ (req.onlyFree c.serviceId).candidates,
        (A.score st.db req.mode req.taskType c').Valid := by
      intro c' hc'
      rw [A.score_valid_iff]
      simp [Arithmetic.score, Arithmetic.candidateScore, candidateLatency, (mem_onlyFree hc').2]
    obtain ⟨response, st', hresponse⟩ := A.bestExecution_returns hcommits hvalid
    obtain ⟨snapshot, st'', hsnapshot⟩ :=
      A.trustSnapshot_returns hcommits ⟨candidate.serviceId, req.taskType⟩
    have hverdict := hagrees _ (sameSellers_onlyFree req c.serviceId) faults response st' _ viable
      hresponse ((A.bestExecution_ok hresponse).1.trans hdecided) faults snapshot st'' hsnapshot
    rw [A.trustSnapshot_verdict hsnapshot] at hverdict
    have hclears := (verdict_of_ready hleads.2.1).1 hverdict
    rw [hid] at hclears
    exact hlow hclears
  · intro hclears offer hsame
    apply agrees_of_clears (hsame.mode.trans hsafe)
    intro c hc _
    have hseller : c.serviceId ∈ req.candidates.map (·.serviceId) :=
      hsame.sellers ▸ List.mem_map_of_mem hc
    obtain ⟨c', hc', hid⟩ := List.mem_map.1 hseller
    rw [hsame.taskType, ← hid]
    exact hclears c' hc'

/-- One candidate, who has failed one delivery. -/
def onlyNewcomer : BestExecutionRequest :=
  { task := "task"
    budgetCredits := 100
    candidates := [newcomer]
    budget_pos := by decide
    budget_le := by decide
    candidates_ne := by decide
    candidates_length := by decide
    candidates_must_be_unique := by decide }

def Store.failedOnce : Store := ⟨.failedOnce, 0⟩

theorem commits_failedOnce (H : Host) : Commits H (fun _ => false) .failedOnce :=
  ⟨fun _ => rfl, by simp [Store.failedOnce, Db.failedOnce, Store.empty, Table.empty]⟩

theorem onlyNewcomer_returns (A : Arithmetic) : ∃ response st',
    (A.bestExecution (.sample zeroHash) onlyNewcomer).run (.sample zeroHash) (fun _ => false)
      .failedOnce = (.ok response, st') := by
  apply A.bestExecution_returns (commits_failedOnce _)
  intro c hc
  rw [List.mem_singleton.1 hc, A.score_valid_iff]
  exact Int.natCast_nonneg 1000

theorem newcomer_leads (A : Arithmetic) : A.Leads Db.failedOnce onlyNewcomer newcomer := by
  refine ⟨List.mem_singleton_self _, ⟨by decide, .inl (by decide)⟩, ?_⟩
  intro other hother _
  rw [List.mem_singleton.1 hother]
  exact .refl _

theorem newcomer_avoided : Arithmetic.double.verdict Db.failedOnce "seller" "general" = .avoid := by
  decide +kernel

/-- Safe routing recommends a seller whose only delivery failed; its snapshot says AVOID. -/
theorem failed_seller_recommended : ∃ response st' winner viable snapshot st'',
    (Arithmetic.double.bestExecution (.sample zeroHash) onlyNewcomer).run (.sample zeroHash)
      (fun _ => false) .failedOnce = (.ok response, st') ∧
    response.execution = .recommended winner viable ∧ winner.1.serviceId = "seller" ∧
    (Arithmetic.double.trustSnapshot (.sample zeroHash) ⟨"seller", "general"⟩).run (.sample zeroHash)
      (fun _ => false) .failedOnce = (.ok snapshot, st'') ∧
    snapshot.verdict = .avoid := by
  obtain ⟨response, st', hresponse⟩ := onlyNewcomer_returns Arithmetic.double
  obtain ⟨viable, hchosen⟩ :=
    (recommended_iff rfl).2 ⟨newcomer, newcomer_leads Arithmetic.double, rfl⟩
  obtain ⟨snapshot, st'', hsnapshot⟩ := Arithmetic.double.trustSnapshot_returns
    (commits_failedOnce (.sample zeroHash)) ⟨"seller", "general"⟩
  refine ⟨response, st', Arithmetic.double.ranked .failedOnce onlyNewcomer newcomer, viable, snapshot,
    st'', hresponse, ?_, ?_, hsnapshot, ?_⟩
  · rw [(Arithmetic.double.bestExecution_ok hresponse).1]
    exact hchosen
  · rfl
  · rw [Arithmetic.double.trustSnapshot_verdict hsnapshot]
    exact newcomer_avoided

/-- Three deliveries of the seller, all of which passed. -/
def Store.passedThrice : Store :=
  let delivery (n : ℕ) (id deliveryId : String) : Observation :=
    ⟨id, deliveryId, "seller", "general", "PASS", none, deliveryId, n⟩
  ⟨{ Store.empty.db with observations :=
      ⟨[delivery 0 "a" "delivery-1", delivery 1 "b" "delivery-2", delivery 2 "c" "delivery-3"],
        by decide⟩ }, 0⟩

theorem recommendation_disagrees_newcomer :
    Arithmetic.double.Agrees (.sample zeroHash) .passedThrice onlyNewcomer ∧
    ¬∀ offer, SameSellers onlyNewcomer offer →
      Arithmetic.double.Agrees (.sample zeroHash) .failedOnce offer := by
  obtain ⟨hagrees, -⟩ :=
    recommendation_agrees_iff .double (.sample zeroHash) .passedThrice
      (rfl : onlyNewcomer.mode = .safe)
  obtain ⟨-, hiff⟩ :=
    recommendation_agrees_iff .double (.sample zeroHash) .failedOnce (rfl : onlyNewcomer.mode = .safe)
  constructor
  · apply hagrees
    intro c hc _
    rw [List.mem_singleton.1 hc]
    exact .inr (by decide +kernel)
  · rw [hiff _ (commits_failedOnce _)]
    intro hclears
    have hseller := hclears newcomer (List.mem_singleton_self _)
    revert hseller
    decide +kernel

end Counterparty
