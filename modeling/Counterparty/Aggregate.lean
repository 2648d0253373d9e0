import Counterparty.VerificationSpec

/-! The verdict that probes add up to, as a meet of their states with a score and a confidence. -/
namespace Counterparty

open Rounding

variable {probes probes' : List ProbeResult} {p : ProbeResult}

/-- The score is in the range that the model of a probe result declares. -/
def ProbeResult.Bounded (p : ProbeResult) : Prop := ∀ score ∈ p.score, 0 ≤ score ∧ score ≤ 1

/-- The share of the probes that carry a score. -/
def scoredShare (probes : List ProbeResult) : ℚ :=
  (probes.countP fun p => p.score.isSome) / probes.length

/-- What a verdict over probes has to be. -/
structure SoundMeet (probes : List ProbeResult) : Prop where
  pass_iff : (aggregate probes).1 = .pass ↔ probes ≠ [] ∧ ∀ p ∈ probes, p.state = .pass
  fail_iff : (aggregate probes).1 = .fail ↔ ∃ p ∈ probes, p.state = .fail
  inconclusive_iff : (aggregate probes).1 = .inconclusive ↔
    ¬(probes ≠ [] ∧ ∀ p ∈ probes, p.state = .pass) ∧ ¬∃ p ∈ probes, p.state = .fail
  perm : ∀ probes', probes.Perm probes' → aggregate probes' = aggregate probes
  append : probes ≠ [] → ∀ p, (aggregate probes).1 ≠ .pass → (aggregate (probes ++ [p])).1 ≠ .pass
  score : 0 ≤ (aggregate probes).2.1 ∧ (aggregate probes).2.1 ≤ 1
  confidence : 0 ≤ (aggregate probes).2.2 ∧ (aggregate probes).2.2 ≤ 1
  confidence_le : (aggregate probes).2.2 ≤ roundDigits 4 (scoredShare probes)

theorem aggregateState_perm (h : probes.Perm probes') :
    aggregateState probes' = aggregateState probes := by
  have hany (q : ProbeResult → Bool) : probes'.any q = probes.any q := (h.any_eq).symm
  rw [aggregateState, aggregateState, hany, hany]

/-- Every part of the verdict is a sum or a count over the probes. -/
theorem aggregate_perm (h : probes.Perm probes') : aggregate probes' = aggregate probes := by
  have hscored := h.filterMap ProbeResult.score
  have hnil : (probes'.filterMap ProbeResult.score = []) =
      (probes.filterMap ProbeResult.score = []) := by
    rw [← List.length_eq_zero_iff, ← List.length_eq_zero_iff, hscored.length_eq]
  have hnone : (probes' = []) = (probes = []) := by
    rw [← List.length_eq_zero_iff, ← List.length_eq_zero_iff, h.length_eq]
  simp only [aggregate, aggregateState_perm h, hnil, hnone, hscored.sum_eq, hscored.length_eq,
    h.length_eq]

theorem aggregateState_append_ne_pass (h : aggregateState probes ≠ .pass) (p : ProbeResult) :
    aggregateState (probes ++ [p]) ≠ .pass := by
  rw [ne_eq, aggregateState_pass_iff] at h ⊢
  exact fun hall => h fun q hq => hall q (List.mem_append_left _ hq)

/-- The mean of numbers between zero and one is between zero and one. -/
theorem mean_unit {scores : List ℚ} (h : ∀ score ∈ scores, 0 ≤ score ∧ score ≤ 1) :
    0 ≤ (if scores = [] then 0 else scores.sum / scores.length) ∧
      (if scores = [] then 0 else scores.sum / scores.length) ≤ 1 := by
  split_ifs with hnil
  · exact ⟨le_rfl, zero_le_one⟩
  · have hpos : (0 : ℚ) < scores.length := by exact_mod_cast List.length_pos_iff.2 hnil
    have hsum : scores.sum ≤ scores.length := by
      simpa using List.sum_le_card_nsmul scores 1 fun score hs => (h score hs).2
    exact ⟨div_nonneg (List.sum_nonneg fun score hs => (h score hs).1) hpos.le,
      (div_le_one hpos).2 hsum⟩

theorem coverage_eq (hne : probes ≠ []) : (if probes = [] then (0 : ℚ) else
    (probes.filterMap ProbeResult.score).length / probes.length) = scoredShare probes := by
  rw [if_neg hne, scoredShare, List.length_filterMap_eq_countP]

theorem scoredShare_unit (probes : List ProbeResult) :
    0 ≤ scoredShare probes ∧ scoredShare probes ≤ 1 := by
  rw [scoredShare]
  refine ⟨by positivity, div_le_one_of_le₀ ?_ (by positivity)⟩
  exact_mod_cast List.countP_le_length

theorem scores_bounded (h : ∀ p ∈ probes, p.Bounded) :
    ∀ score ∈ probes.filterMap ProbeResult.score, 0 ≤ score ∧ score ≤ 1 := by
  intro score hscore
  obtain ⟨p, hp, hsome⟩ := List.mem_filterMap.1 hscore
  exact h p hp score hsome

theorem aggregate_score (h : ∀ p ∈ probes, p.Bounded) :
    0 ≤ (aggregate probes).2.1 ∧ (aggregate probes).2.1 ≤ 1 := by
  have hmean := mean_unit (scores_bounded h)
  exact roundDigits_unit 4 hmean.1 hmean.2

/-- Before rounding, the confidence is at most the share that is scored, whatever the state. -/
theorem aggregate_confidence (hne : probes ≠ []) (h : ∀ p ∈ probes, p.Bounded) :
    ∃ confidence, (aggregate probes).2.2 = roundDigits 4 confidence ∧ 0 ≤ confidence ∧
      confidence ≤ scoredShare probes := by
  have hmean := mean_unit (scores_bounded h)
  have hshare := scoredShare_unit probes
  refine ⟨_, rfl, ?_⟩
  rw [coverage_eq hne]
  cases aggregateState probes with
  | pass => exact ⟨le_min hmean.1 hshare.1, min_le_right _ _⟩
  | fail => exact ⟨hshare.1, le_rfl⟩
  | inconclusive => constructor <;> linarith

/-- Over every list of probes: the verdict is the meet of their states just where there are any. -/
theorem sound_meet_iff (probes : List ProbeResult) (h : ∀ p ∈ probes, p.Bounded) :
    SoundMeet probes ↔ probes ≠ [] := by
  constructor
  · rintro hsound rfl
    exact (hsound.pass_iff.1 rfl).1 rfl
  · intro hne
    obtain ⟨confidence, heq, hlow, hhigh⟩ := aggregate_confidence hne h
    have hshare := scoredShare_unit probes
    refine ⟨?_, aggregateState_fail_iff, ?_, fun _ => aggregate_perm, ?_, aggregate_score h, ?_, ?_⟩
    · rw [and_iff_right hne]
      exact aggregateState_pass_iff
    · rw [and_iff_right hne, ← aggregateState_pass_iff, ← aggregateState_fail_iff]
      change aggregateState probes = _ ↔ _
      cases aggregateState probes <;> simp
    · exact fun _ p hstate => aggregateState_append_ne_pass hstate p
    · rw [heq]
      exact roundDigits_unit 4 hlow (hhigh.trans hshare.2)
    · rw [heq]
      exact roundDigits_mono 4 hhigh

/-- One probe passed, the other could not decide and has no score. -/
def undecided : List ProbeResult :=
  [⟨"schema", .pass, some 1, "Output satisfies JSON Schema 2020-12", []⟩,
    ⟨"citations", .inconclusive, none, "No citations supplied", []⟩]

theorem sound_meet_undecided : SoundMeet undecided := by
  refine (sound_meet_iff undecided ?_).2 (List.cons_ne_nil _ _)
  simp [undecided, ProbeResult.Bounded]

/-- Without any probe the verdict is a pass. -/
theorem aggregate_nothing : (aggregate []).1 = .pass ∧ ¬SoundMeet [] :=
  ⟨rfl, fun hsound => (hsound.pass_iff.1 rfl).1 rfl⟩

end Counterparty
