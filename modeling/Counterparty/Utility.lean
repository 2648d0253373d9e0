import Counterparty.BestExecution

/-! What a utility can be worth, and what a faster delivery does to it. -/
namespace Counterparty

open Ranking

variable {db db' : Db} {mode : Mode} {taskType serviceId : String} {budget : ℕ} {c : CandidateScore}
  {scores : List CandidateScore} {candidate : CandidateRequest} {r r' : Observation}

/-! Ranges. -/

/-- What the ranking relies on: scores within their bounds, utilities that stay far above the one
that marks a price over the budget, and a filter that tells the two apart. -/
structure InRange (budget : ℕ) (mode : Mode) (scores : List CandidateScore) : Prop where
  valid : ∀ c ∈ scores, c.Valid
  affordable : ∀ c ∈ scores, c.priceCredits ≤ budget →
    -0.38 ≤ utility c budget mode ∧ utility c budget mode ≤ 1
  unaffordable : ∀ c ∈ scores, budget < c.priceCredits → utility c budget mode = -1e9
  viable : ((rank scores budget mode).filter fun x => x.2 > -1e8) =
    (rank scores budget mode).filter fun x => x.1.priceCredits ≤ budget

theorem utility_range (h : c.Valid) (hprice : c.priceCredits ≤ budget) :
    -0.38 ≤ utility c budget mode ∧ utility c budget mode ≤ 1 := by
  obtain ⟨htrust, htrust', hconfidence, hconfidence', hfit, hfit', hlatency⟩ := h
  have hlatency0 : (0 : ℚ) ≤ c.latencyMs / 300000 := by
    have : (0 : ℚ) ≤ c.latencyMs := by exact_mod_cast hlatency
    positivity
  have hslow : min (1 : ℚ) (c.latencyMs / 300000) ≤ 1 := min_le_left _ _
  have hfast : 0 ≤ min (1 : ℚ) (c.latencyMs / 300000) := le_min zero_le_one hlatency0
  have hshare : (0 : ℚ) ≤ c.priceCredits / (max budget 1 : ℕ) := by positivity
  have hcheap : max (0 : ℚ) (1 - c.priceCredits / (max budget 1 : ℕ)) ≤ 1 :=
    max_le zero_le_one (by linarith)
  have hdear : 0 ≤ max (0 : ℚ) (1 - c.priceCredits / (max budget 1 : ℕ)) := le_max_left _ _
  rw [utility, if_neg (not_lt.2 hprice)]
  cases mode <;> simp only [Mode.uncertaintyWeight] <;> constructor <;> linarith

theorem utility_over (hprice : budget < c.priceCredits) : utility c budget mode = -1e9 :=
  if_pos hprice

theorem mem_rank {x : CandidateScore × ℚ} (h : x ∈ rank scores budget mode) :
    x.1 ∈ scores ∧ x.2 = utility x.1 budget mode := by
  obtain ⟨c, hc, rfl⟩ := List.mem_map.1 ((List.mem_insertionSort _).1 h)
  exact ⟨hc, rfl⟩

theorem inRange_of_valid (h : ∀ c ∈ scores, c.Valid) : InRange budget mode scores where
  valid := h
  affordable c hc hprice := utility_range (h c hc) hprice
  unaffordable _ _ hprice := utility_over hprice
  viable := by
    refine List.filter_congr fun x hx => ?_
    obtain ⟨hmem, hutility⟩ := mem_rank hx
    rw [decide_eq_decide, hutility]
    rcases Nat.lt_or_ge budget x.1.priceCredits with hprice | hprice
    · rw [utility_over hprice]
      exact ⟨fun hlow => absurd hlow (by norm_num), fun hle => absurd hprice (not_lt.2 hle)⟩
    · have hlow : -0.38 ≤ utility x.1 budget mode := (utility_range (h x.1 hmem) hprice).1
      exact ⟨fun _ => hprice, fun _ => lt_of_lt_of_le (by norm_num) hlow⟩

/-- Over all tallies, and over every state whose latencies are not negative: a request always gets
its scores, and they and their utilities are in range. -/
theorem scores_in_range (H : Host) (faults : Faults) (st : Store) (req : BestExecutionRequest)
    (htimed : Timed st.db) :
    (∀ s f : ℕ,
      0 ≤ BayesianReputation.conservativeScore100 ⟨s, f⟩ ∧
      BayesianReputation.conservativeScore100 ⟨s, f⟩ ≤ BayesianReputation.score100 ⟨s, f⟩ ∧
      BayesianReputation.score100 ⟨s, f⟩ ≤ 100 ∧
      0 ≤ BayesianReputation.confidence ⟨s, f⟩ ∧
      BayesianReputation.confidence ⟨s, f⟩ ≤ 0.99) ∧
    ∃ scores, (scoreCandidates req.mode req.taskType req.candidates).run H faults st =
        (.ok scores, st) ∧
      scores.map CandidateScore.serviceId = req.candidates.map CandidateRequest.serviceId ∧
      InRange req.budgetCredits req.mode scores := by
  refine ⟨fun s f => ⟨BayesianReputation.conservativeScore100_nonneg _,
    BayesianReputation.conservativeScore100_le_score100 _, BayesianReputation.score100_le _,
    BayesianReputation.confidence_nonneg _, BayesianReputation.confidence_le _⟩,
    req.candidates.map (st.db.score req.mode req.taskType), ?_, ?_, ?_⟩
  · rw [scoreCandidates_run, if_pos fun c _ => htimed.score_valid req.mode req.taskType c]
  · rw [List.map_map]
    rfl
  · refine inRange_of_valid fun c hc => ?_
    obtain ⟨candidate, -, rfl⟩ := List.mem_map.1 hc
    exact htimed.score_valid req.mode req.taskType candidate

theorem scores_in_range_newcomer :
    ∃ scores, (scoreCandidates onlyNewcomer.mode onlyNewcomer.taskType
        onlyNewcomer.candidates).run (.sample zeroHash) (fun _ => false) .empty =
        (.ok scores, .empty) ∧
      scores.map CandidateScore.serviceId = ["seller"] ∧
      InRange onlyNewcomer.budgetCredits onlyNewcomer.mode scores :=
  (scores_in_range (.sample zeroHash) (fun _ => false) .empty onlyNewcomer ⟨nofun, nofun⟩).2

/-! Latencies. -/

/-- The row, or for a row that counts for the seller and the task type also the row with a smaller
latency in place of the recorded one. -/
def Observation.SpedUp (serviceId taskType : String) (r r' : Observation) : Prop :=
  r' = r ∨ r.CountsFor serviceId taskType ∧ ∃ latency latency', r.latencyMs = some latency ∧
    0 ≤ latency' ∧ latency' < latency ∧ r' = { r with latencyMs := some latency' }

/-- The second state differs only in that some of the seller's deliveries were faster. -/
structure Db.SpedUp (serviceId taskType : String) (db db' : Db) : Prop where
  observations : List.Forall₂ (Observation.SpedUp serviceId taskType)
    db.observations.rows db'.observations.rows
  protocolObservations : db'.protocolObservations = db.protocolObservations
  auditEvents : db'.auditEvents = db.auditEvents

theorem median_mono {l l' : List ℤ} (h : List.Forall₂ (· ≤ ·) l l') :
    Option.Rel (· ≤ ·) (median l) (median l') := by
  have hsorted := forall₂_insertionSort h
  rw [median, median]
  generalize l.insertionSort (· ≤ ·) = s at hsorted ⊢
  generalize l'.insertionSort (· ≤ ·) = s' at hsorted ⊢
  have hlength := hsorted.length_eq
  have hget (i : ℕ) : Option.Rel (· ≤ ·) s[i]? s'[i]? := by
    rcases Nat.lt_or_ge i s.length with hi | hi
    · rw [List.getElem?_eq_getElem hi, List.getElem?_eq_getElem (hlength ▸ hi)]
      exact .some (hsorted.get hi (hlength ▸ hi))
    · rw [List.getElem?_eq_none hi, List.getElem?_eq_none (hlength ▸ hi)]
      exact .none
  have hgetD (i : ℕ) : s.getD i 0 ≤ s'.getD i 0 := by
    have hi := hget i
    rw [List.getD_eq_getElem?_getD, List.getD_eq_getElem?_getD]
    generalize s[i]? = a at hi ⊢
    generalize s'[i]? = b at hi ⊢
    cases hi with
    | some hle => exact hle
    | none => exact le_rfl
  have hnil : s = [] ↔ s' = [] := by
    rw [← List.length_eq_zero_iff, ← List.length_eq_zero_iff, hlength]
  simp only [← hlength, ← hnil]
  split_ifs
  · exact .none
  · exact hget _
  · exact .some (Int.ediv_le_ediv (by norm_num) (add_le_add (hgetD _) (hgetD _)))

theorem Observation.SpedUp.latency_le (h : r.SpedUp serviceId taskType r') :
    Option.Rel (· ≤ ·) r'.latencyMs r.latencyMs := by
  rcases h with rfl | ⟨-, latency, latency', hlatency, -, hless, rfl⟩
  · cases r'.latencyMs with
    | none => exact .none
    | some latency => exact .some le_rfl
  · rw [hlatency]
    exact .some hless.le

theorem Observation.SpedUp.outcome_eq (h : r.SpedUp serviceId taskType r') :
    r'.outcome = r.outcome := by
  rcases h with rfl | ⟨-, latency, latency', -, -, -, rfl⟩ <;> rfl

theorem Observation.SpedUp.countsFor_iff {s t : String} (h : r.SpedUp serviceId taskType r') :
    r'.CountsFor s t ↔ r.CountsFor s t := by
  rcases h with rfl | ⟨-, latency, latency', -, -, -, rfl⟩ <;> exact Iff.rfl

theorem reputation_spedUp (h : Db.SpedUp serviceId taskType db db') :
    (reputation db' serviceId taskType).1 = (reputation db serviceId taskType).1 ∧
      Option.Rel (· ≤ ·) (reputation db' serviceId taskType).2
        (reputation db serviceId taskType).2 := by
  have hrows : List.Forall₂ (Observation.SpedUp serviceId taskType)
      (db.observations.rows.filter fun r => r.CountsFor serviceId taskType)
      (db'.observations.rows.filter fun r => r.CountsFor serviceId taskType) := by
    refine List.rel_filter (fun r r' hr => ?_) h.observations
    simp only [decide_eq_true_iff]
    exact hr.countsFor_iff.symm
  simp only [reputation]
  generalize (db.observations.rows.filter fun r => r.CountsFor serviceId taskType) = rows at hrows ⊢
  generalize (db'.observations.rows.filter fun r => r.CountsFor serviceId taskType) = rows' at hrows ⊢
  have houtcomes : rows'.map Observation.outcome = rows.map Observation.outcome := by
    have hsame : List.Forall₂ (· = ·) (rows'.map Observation.outcome)
        (rows.map Observation.outcome) :=
      List.rel_map (fun _ _ hr => Observation.SpedUp.outcome_eq hr) hrows.flip
    rwa [List.forall₂_eq_eq_eq] at hsame
  have hcount (outcome : String) : rows'.countP (fun r => r.outcome = outcome) =
      rows.countP fun r => r.outcome = outcome := by
    have hmap (l : List Observation) : l.countP (fun r => r.outcome = outcome) =
        (l.map Observation.outcome).countP fun o => o = outcome := by
      rw [List.countP_map]
      rfl
    rw [hmap, hmap, houtcomes]
  refine ⟨by rw [hcount, hcount], median_mono ?_⟩
  exact List.rel_filterMap (fun _ _ hr => Observation.SpedUp.latency_le hr) hrows.flip

/-- The latency a candidate is held to when no delivery has one to offer. -/
def Db.fallbackLatency (db : Db) (serviceId : String) : ℤ :=
  orElseNonzero (protocolReputation db serviceId).2 1000

theorem score_spedUp (h : Db.SpedUp candidate.serviceId taskType db db')
    (hlatency : candidate.latencyMs = none) :
    db'.score mode taskType candidate =
      { db.score mode taskType candidate with
        latencyMs := orElseNonzero (reputation db' candidate.serviceId taskType).2
          (db.fallbackLatency candidate.serviceId) } := by
  have hprotocol : protocolReputation db' candidate.serviceId =
      protocolReputation db candidate.serviceId := by
    rw [protocolReputation, protocolReputation, h.protocolObservations]
  simp only [Db.score, candidateScore, candidateLatency, hlatency, hprotocol,
    (reputation_spedUp h).1, Db.fallbackLatency]

/-- A latency costs utility up to five minutes; from there on it makes no difference. -/
theorem utility_latency_le_iff (hprice : c.priceCredits ≤ budget) (latency : ℤ) :
    utility c budget mode ≤ utility { c with latencyMs := latency } budget mode ↔
      latency ≤ c.latencyMs ∨ 300000 ≤ c.latencyMs := by
  have hpenalty : utility c budget mode ≤ utility { c with latencyMs := latency } budget mode ↔
      min 1 ((latency : ℚ) / 300000) ≤ min 1 ((c.latencyMs : ℚ) / 300000) := by
    simp only [utility, gt_iff_lt, not_lt.2 hprice, if_false]
    constructor <;> intro h <;> linarith
  have hcast : (300000 : ℚ) ≤ c.latencyMs ↔ 300000 ≤ c.latencyMs := by exact_mod_cast Iff.rfl
  rw [hpenalty, le_min_iff, and_iff_right (min_le_left _ _), min_le_iff, ← hcast,
    ← Int.cast_le (R := ℚ)]
  constructor
  · rintro (hcap | hle)
    · exact .inr (by linarith)
    · exact .inl (by linarith)
  · rintro (hle | hcap)
    · exact .inr (by linarith)
    · exact .inl (by linarith)

/-- What is passed over for a fallback is a median of zero. -/
theorem orElseNonzero_le_iff {observed observed' : Option ℤ} {fallback : ℤ}
    (h : Option.Rel (· ≤ ·) observed' observed) (hvalid : 0 ≤ orElseNonzero observed' fallback) :
    orElseNonzero observed' fallback ≤ orElseNonzero observed fallback ∨
        300000 ≤ orElseNonzero observed fallback ↔
      ∀ latency, observed = some latency → observed' = some 0 →
        latency = 0 ∨ fallback ≤ latency ∨ 300000 ≤ latency := by
  cases h with
  | none => simp
  | @some latency' latency hle =>
    simp only [orElseNonzero, Option.some.injEq, forall_eq'] at hvalid ⊢
    by_cases hzero' : latency' = 0
    · by_cases hzero : latency = 0
      · simp [hzero', hzero]
      · simp [hzero', hzero]
    · rw [if_neg hzero'] at hvalid ⊢
      have hzero : latency ≠ 0 := by omega
      simp [hzero', hzero, hle]

/-- Over any two states of which the second has some of the seller's deliveries faster: the seller
keeps its utility just where its price is over the budget, or where its median does not fall to
zero, or where the fallback that a zero is passed over for is no slower than the median was. -/
theorem faster_keeps_utility_iff (h : Db.SpedUp candidate.serviceId taskType db db')
    (hlatency : candidate.latencyMs = none) (hvalid : (db'.score mode taskType candidate).Valid) :
    utility (db.score mode taskType candidate) budget mode ≤
        utility (db'.score mode taskType candidate) budget mode ↔
      budget < candidate.priceCredits ∨
        ∀ latency, (reputation db candidate.serviceId taskType).2 = some latency →
          (reputation db' candidate.serviceId taskType).2 = some 0 →
          latency = 0 ∨ db.fallbackLatency candidate.serviceId ≤ latency ∨ 300000 ≤ latency := by
  have hbuilt := hvalid.2.2.2.2.2.2
  rw [score_spedUp h hlatency] at hbuilt ⊢
  rcases Nat.lt_or_ge budget candidate.priceCredits with hprice | hprice
  · have hover : utility (db.score mode taskType candidate) budget mode = -1e9 :=
      utility_over hprice
    rw [hover, utility_over hprice]
    exact ⟨fun _ => .inl hprice, fun _ => le_rfl⟩
  · have hobserved : (db.score mode taskType candidate).latencyMs =
        orElseNonzero (reputation db candidate.serviceId taskType).2
          (db.fallbackLatency candidate.serviceId) := by
      simp only [Db.score, candidateScore, candidateLatency, hlatency, Db.fallbackLatency]
    have hkept : (db.score mode taskType candidate).priceCredits ≤ budget := hprice
    rw [utility_latency_le_iff hkept, hobserved, orElseNonzero_le_iff (reputation_spedUp h).2 hbuilt,
      or_iff_right (not_lt.2 hprice)]

/-! A database that holds one passed delivery. -/

def Db.deliveredIn (latency : ℤ) : Db :=
  { Store.empty.db with
    observations :=
      ⟨[⟨"id", "delivery", "seller", "general", "PASS", some latency, "evidence", 0⟩],
        List.pairwise_singleton _ _⟩ }

/-- The newcomer, submitted without a latency. -/
def unhurried : CandidateRequest :=
  ⟨"seller", 10, 0.5, none, newcomer.price_le, newcomer.taskFit_nonneg, newcomer.taskFit_le, by decide⟩

theorem spedUp_deliveredIn {latency latency' : ℤ} (h : 0 ≤ latency') (hless : latency' < latency) :
    Db.SpedUp "seller" "general" (.deliveredIn latency) (.deliveredIn latency') :=
  ⟨.cons (.inr ⟨⟨rfl, rfl⟩, latency, latency', rfl, h, hless, rfl⟩) .nil, rfl, rfl⟩

theorem valid_deliveredIn {latency : ℤ} (h : 0 ≤ latency) (mode : Mode) :
    ((Db.deliveredIn latency).score mode "general" unhurried).Valid := by
  have hnone : ∀ r ∈ (Db.deliveredIn latency).protocolObservations.rows, 0 ≤ r.latencyMs := by
    rintro _ ⟨⟩
  refine Timed.score_valid ⟨?_, hnone⟩ mode "general" unhurried
  intro r hr
  obtain rfl := List.mem_singleton.1 hr
  rintro _ ⟨⟩
  exact h

theorem faster_keeps_utility_unhurried :
    utility ((Db.deliveredIn 5).score .safe "general" unhurried) 100 .safe ≤
      utility ((Db.deliveredIn 3).score .safe "general" unhurried) 100 .safe :=
  (faster_keeps_utility_iff (spedUp_deliveredIn (by norm_num) (by norm_num)) rfl
    (valid_deliveredIn (by norm_num) .safe)).2 (.inr fun _ _ hzero => absurd hzero (by decide))

/-- Delivered in no time at all, the same work is worth less than delivered in five milliseconds. -/
theorem faster_loses_utility :
    Db.SpedUp "seller" "general" (.deliveredIn 5) (.deliveredIn 0) ∧
      unhurried.latencyMs = none ∧
      ((Db.deliveredIn 0).score .safe "general" unhurried).Valid ∧
      utility ((Db.deliveredIn 0).score .safe "general" unhurried) 100 .safe <
        utility ((Db.deliveredIn 5).score .safe "general" unhurried) 100 .safe := by
  have hsped : Db.SpedUp "seller" "general" (.deliveredIn 5) (.deliveredIn 0) :=
    spedUp_deliveredIn le_rfl (by norm_num)
  refine ⟨hsped, rfl, valid_deliveredIn le_rfl .safe, ?_⟩
  have hscore : (Db.deliveredIn 0).score .safe "general" unhurried =
      { (Db.deliveredIn 5).score .safe "general" unhurried with latencyMs := 1000 } :=
    score_spedUp hsped rfl
  rw [hscore, ← not_le, utility_latency_le_iff (by decide)]
  decide

end Counterparty
