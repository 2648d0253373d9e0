import Counterparty.DeliverySpec

/-! The audit record of a delivery: whether the probe states it keeps bear out its verdict. -/
namespace Counterparty

open Json

variable {H : Host} {J : JsonSchema} {faults : Faults} {st st' : Store} {latencyMs : ℕ}
  {req : DeliveryVerificationRequest} {probes : List ProbeResult} {state : EvidenceState}

/-! The states that are kept. -/

/-- A probe with the state, and none of its name after it. -/
def Shows (state : EvidenceState) : List ProbeResult → Prop
  | [] => False
  | p :: probes => (p.state = state ∧ ∀ q ∈ probes, q.probe ≠ p.probe) ∨ Shows state probes

/-- What a record keeps of its probes. -/
def keptStates (probes : List ProbeResult) : PyDict :=
  ofEntries (probes.map fun p => (PyStr.ofString p.probe, pyText p.state.value))

theorem value_injective : Function.Injective fun state : EvidenceState => pyText state.value := by
  intro s s' h
  have hstring := ofString_injective (Json.str.inj h)
  cases s <;> cases s' <;> first | rfl | exact absurd hstring (by decide)

theorem mem_keptStates_cons {p : ProbeResult} {f : PyStr × PyJson} : f ∈ keptStates (p :: probes) ↔
    (f = (PyStr.ofString p.probe, pyText p.state.value) ∧ ∀ q ∈ probes, q.probe ≠ p.probe) ∨
      f ∈ keptStates probes := by
  rw [keptStates, List.map_cons, mem_ofEntries_cons]
  simp [ofString_injective.eq_iff, keptStates]

/-- The map of probe states keeps the last state under each name. -/
theorem kept_iff :
    (∃ f ∈ keptStates probes, f.2 = pyText state.value) ↔ Shows state probes := by
  induction probes with
  | nil => simp [keptStates, ofEntries, Shows]
  | cons p probes ih =>
    simp only [mem_keptStates_cons, or_and_right, exists_or, ih, Shows, and_assoc, exists_eq_left,
      value_injective.eq_iff]
    rw [and_comm]

theorem Shows.exists (h : Shows state probes) : ∃ p ∈ probes, p.state = state := by
  induction probes with
  | nil => exact h.elim
  | cons p probes ih =>
    rcases h with ⟨hp, -⟩ | h
    · exact ⟨p, List.mem_cons_self, hp⟩
    · obtain ⟨q, hq, hs⟩ := ih h
      exact ⟨q, List.mem_cons_of_mem _ hq, hs⟩

theorem shows_snoc {p : ProbeResult} (hname : ∀ q ∈ probes, q.probe ≠ p.probe) :
    Shows state (probes ++ [p]) ↔ Shows state probes ∨ p.state = state := by
  induction probes with
  | nil => simp [Shows]
  | cons q probes ih =>
    have hq := hname q List.mem_cons_self
    rw [List.cons_append, Shows, Shows, ih fun q' hq' => hname q' (List.mem_cons_of_mem _ hq'),
      or_assoc]
    simp [or_imp, forall_and, hq.symm]

/-- The rule of `aggregate`, on the states that a record keeps. -/
def ByRule (states : PyDict) : EvidenceState → Prop
  | .fail => ∃ f ∈ states, f.2 = pyText "FAIL"
  | .inconclusive =>
    (¬∃ f ∈ states, f.2 = pyText "FAIL") ∧ ∃ f ∈ states, f.2 = pyText "INCONCLUSIVE"
  | .pass => (¬∃ f ∈ states, f.2 = pyText "FAIL") ∧ ¬∃ f ∈ states, f.2 = pyText "INCONCLUSIVE"

/-- The record's verdict is what its probe states add up to. -/
def BornOut (payload : PyDict) : Prop :=
  ∃ state states, field payload "state" = some (pyText state.value) ∧
    field payload "probe_states" = some (.obj states) ∧ ByRule states state

/-! The names of the probes. -/

theorem probe_schemaProbe (J : JsonSchema) (output : PyJson) (schema : Option PyDict) :
    (schemaProbe J output schema).probe = "schema" := by
  unfold schemaProbe
  split
  · rfl
  · rfl
  · split
    · rfl
    · dsimp only
      split_ifs <;> rfl

theorem probe_injectionProbe (output : PyJson) :
    (injectionProbe output).probe = "prompt_manipulation" := by
  unfold injectionProbe
  split_ifs <;> rfl

theorem probe_citationsProbe (urls : List HttpUrl) : (citationsProbe urls).probe = "citations" := by
  unfold citationsProbe
  split_ifs <;> rfl

theorem state_citationsProbe (urls : List HttpUrl) :
    (citationsProbe urls).state = .inconclusive := by
  unfold citationsProbe
  split_ifs <;> rfl

theorem probe_assertionsProbe {output : PyJson} {assertions : List Assertion} {p : ProbeResult}
    (h : assertionsProbe output assertions = .ok p) : p.probe = "assertions" := by
  unfold assertionsProbe at h
  split_ifs at h
  · cases h
    rfl
  · cases hf : assertionFailures output assertions with
    | error e =>
      rw [hf] at h
      cases h
    | ok failures =>
      rw [hf] at h
      simp only [bind, Except.bind] at h
      split_ifs at h
      · cases h
        rfl
      · cases h
        rfl

theorem probe_contradictionProbe {output : PyJson} {p : ProbeResult}
    (h : contradictionProbe output = .ok p) : p.probe = "self_consistency" := by
  cases output with
  | obj fields =>
    unfold contradictionProbe at h
    dsimp only at h
    split_ifs at h
    · cases h
      rfl
    · cases hr : inNoneOrEmpty (field fields "reason") with
      | error e =>
        rw [hr] at h
        cases h
      | ok b =>
        rw [hr] at h
        cases b <;> cases h <;> rfl
    · cases h
      rfl
  | null | bool | num | str | arr =>
    cases h
    rfl

/-- No independent check has the name. -/
def Untaken (req : DeliveryVerificationRequest) (name : String) : Prop :=
  ∀ check ∈ req.independentChecks, check.probe ≠ name

/-- The probes of a delivery, in the order in which their states are recorded. -/
theorem deliveryProbes_eq (h : deliveryProbes J req = .ok probes) : ∃ asserted contradiction,
    assertionsProbe req.output req.assertions = .ok asserted ∧
    contradictionProbe req.output = .ok contradiction ∧
    ∃ cited, probes = schemaProbe J req.output req.expectedSchema :: asserted ::
        injectionProbe req.output :: contradiction ::
          (req.independentChecks.map IndependentCheck.result ++ cited) ∧
      ((req.citedUrls ≠ [] ∧ Untaken req "citations" ∧ cited = [citationsProbe req.citedUrls]) ∨
        (¬(req.citedUrls ≠ [] ∧ Untaken req "citations") ∧ cited = [])) := by
  unfold deliveryProbes contractProbes at h
  cases ha : assertionsProbe req.output req.assertions with
  | error e =>
    rw [ha] at h
    cases h
  | ok asserted =>
    cases hc : contradictionProbe req.output with
    | error e =>
      rw [ha, hc] at h
      cases h
    | ok contradiction =>
      rw [ha, hc] at h
      refine ⟨asserted, contradiction, rfl, rfl, ?_⟩
      by_cases hcited : req.citedUrls ≠ [] ∧ Untaken req "citations"
      · have hok := (if_pos hcited).symm.trans h
        cases hok
        exact ⟨[citationsProbe req.citedUrls], by simp, .inl ⟨hcited.1, hcited.2, rfl⟩⟩
      · have hok := (if_neg hcited).symm.trans h
        cases hok
        exact ⟨[], by simp, .inr ⟨hcited, rfl⟩⟩

/-! Verdicts, and what a record shows of them. -/

/-- Some probe or independent check decides against the delivery. -/
def Fails (J : JsonSchema) (req : DeliveryVerificationRequest) : Prop :=
  ContractFails J req.output req.expectedSchema req.assertions ∨
    ∃ check ∈ req.independentChecks, check.state = .fail

/-- Some probe or independent check is left undecided. -/
def Undecided (J : JsonSchema) (req : DeliveryVerificationRequest) : Prop :=
  ¬UsableSchema J req.expectedSchema ∨ req.assertions = [] ∨
    (∃ check ∈ req.independentChecks, check.state = .inconclusive) ∨
    (req.citedUrls ≠ [] ∧ Untaken req "citations")

/-- An independent check with the state, and none of its name after it. -/
def CheckShows (req : DeliveryVerificationRequest) (state : EvidenceState) : Prop :=
  ∃ before check after, req.independentChecks = before ++ check :: after ∧ check.state = state ∧
    ∀ later ∈ after, later.probe ≠ check.probe

/-- A failure whose name no later check takes. -/
def FailureShows (J : JsonSchema) (req : DeliveryVerificationRequest) : Prop :=
  (UsableSchema J req.expectedSchema ∧ ¬SchemaHolds J req.output req.expectedSchema ∧
      Untaken req "schema") ∨
    ((∃ a ∈ req.assertions, ¬a.Holds req.output) ∧ Untaken req "assertions") ∨
    (Marked req.output ∧ Untaken req "prompt_manipulation") ∨
    (SelfContradictory req.output ∧ Untaken req "self_consistency") ∨ CheckShows req .fail

/-- Something undecided whose name no later check takes. -/
def DoubtShows (J : JsonSchema) (req : DeliveryVerificationRequest) : Prop :=
  (¬UsableSchema J req.expectedSchema ∧ Untaken req "schema") ∨
    (req.assertions = [] ∧ Untaken req "assertions") ∨ CheckShows req .inconclusive ∨
    (req.citedUrls ≠ [] ∧ Untaken req "citations")

theorem shows_results {checks : List IndependentCheck} :
    Shows state (checks.map IndependentCheck.result) ↔ ∃ before check after,
      checks = before ++ check :: after ∧ check.state = state ∧
        ∀ later ∈ after, later.probe ≠ check.probe := by
  induction checks with
  | nil => simp [Shows]
  | cons check checks ih =>
    rw [List.map_cons, Shows, ih]
    constructor
    · rintro (⟨hs, hlast⟩ | ⟨before, found, after, rfl, hs, hlast⟩)
      · exact ⟨[], check, checks, rfl, hs, fun later hlater =>
          hlast later.result (List.mem_map_of_mem hlater)⟩
      · exact ⟨check :: before, found, after, rfl, hs, hlast⟩
    · rintro ⟨before, found, after, heq, hs, hlast⟩
      cases before with
      | nil =>
        cases heq
        refine .inl ⟨hs, fun q hq => ?_⟩
        obtain ⟨later, hlater, rfl⟩ := List.mem_map.1 hq
        exact hlast later hlater
      | cons first before =>
        cases heq
        exact .inr ⟨before, found, after, rfl, hs, hlast⟩

/-- A built-in probe is shown unless an independent check has its name; the citations, which come
last, are probed only when none has theirs. -/
theorem shows_iff {asserted contradiction : ProbeResult} {cited : List ProbeResult}
    (ha : assertionsProbe req.output req.assertions = .ok asserted)
    (hc : contradictionProbe req.output = .ok contradiction)
    (hcited : (req.citedUrls ≠ [] ∧ Untaken req "citations" ∧
        cited = [citationsProbe req.citedUrls]) ∨
      (¬(req.citedUrls ≠ [] ∧ Untaken req "citations") ∧ cited = [])) :
    Shows state (schemaProbe J req.output req.expectedSchema :: asserted ::
        injectionProbe req.output :: contradiction ::
          (req.independentChecks.map IndependentCheck.result ++ cited)) ↔
      ((schemaProbe J req.output req.expectedSchema).state = state ∧ Untaken req "schema") ∨
        (asserted.state = state ∧ Untaken req "assertions") ∨
        ((injectionProbe req.output).state = state ∧ Untaken req "prompt_manipulation") ∨
        (contradiction.state = state ∧ Untaken req "self_consistency") ∨
        CheckShows req state ∨
        (.inconclusive = state ∧ req.citedUrls ≠ [] ∧ Untaken req "citations") := by
  have hrest : Shows state (req.independentChecks.map IndependentCheck.result ++ cited) ↔
      CheckShows req state ∨
        (.inconclusive = state ∧ req.citedUrls ≠ [] ∧ Untaken req "citations") := by
    rcases hcited with ⟨hurls, huntaken, rfl⟩ | ⟨hnone, rfl⟩
    · rw [shows_snoc, shows_results, state_citationsProbe]
      · simp [CheckShows, hurls, huntaken]
      · intro q hq
        obtain ⟨check, hcheck, rfl⟩ := List.mem_map.1 hq
        rw [probe_citationsProbe]
        exact huntaken check hcheck
    · rw [List.append_nil, shows_results]
      simp [CheckShows, hnone]
  have hnames : ∀ q ∈ cited, q.probe = "citations" := by
    rcases hcited with ⟨-, -, rfl⟩ | ⟨-, rfl⟩
    · simp [probe_citationsProbe]
    · simp
  have huntaken : ∀ name, name ≠ "citations" →
      ((∀ q ∈ req.independentChecks.map IndependentCheck.result ++ cited, q.probe ≠ name) ↔
        Untaken req name) := by
    intro name hname
    rw [List.forall_mem_append, List.forall_mem_map]
    refine and_iff_left fun q hq => ?_
    rw [hnames q hq]
    exact hname.symm
  simp only [Shows, List.forall_mem_cons, probe_schemaProbe, probe_assertionsProbe ha,
    probe_injectionProbe, probe_contradictionProbe hc, hrest]
  rw [huntaken _ (by decide), huntaken _ (by decide), huntaken _ (by decide),
    huntaken _ (by decide)]
  simp

theorem contradictionProbe_decided {output : PyJson} {p : ProbeResult}
    (h : contradictionProbe output = .ok p) : p.state ≠ .inconclusive := by
  obtain ⟨hfail, hpass⟩ := contradictionProbe_state h
  intro hs
  by_cases hc : SelfContradictory output
  · rw [hfail.2 hc] at hs
    cases hs
  · rw [hpass.2 hc] at hs
    cases hs

theorem injectionProbe_decided (output : PyJson) :
    (injectionProbe output).state ≠ .inconclusive := by
  intro hs
  by_cases hm : Marked output
  · rw [injectionProbe_fail_iff.2 hm] at hs
    cases hs
  · rw [injectionProbe_pass_iff.2 hm] at hs
    cases hs

theorem shows_fail_iff (h : deliveryProbes J req = .ok probes) :
    Shows .fail probes ↔ FailureShows J req := by
  obtain ⟨asserted, contradiction, ha, hc, cited, rfl, hcited⟩ := deliveryProbes_eq h
  rw [shows_iff ha hc hcited, schemaProbe_fail_iff, (assertionsProbe_state ha).2.1,
    injectionProbe_fail_iff, (contradictionProbe_state hc).1, FailureShows]
  simp [and_assoc]

theorem shows_inconclusive_iff (h : deliveryProbes J req = .ok probes) :
    Shows .inconclusive probes ↔ DoubtShows J req := by
  obtain ⟨asserted, contradiction, ha, hc, cited, rfl, hcited⟩ := deliveryProbes_eq h
  rw [shows_iff ha hc hcited, schemaProbe_inconclusive_iff, (assertionsProbe_state ha).1,
    DoubtShows]
  simp [injectionProbe_decided, contradictionProbe_decided hc]

theorem verdict_fail_iff (h : deliveryProbes J req = .ok probes) :
    (∃ p ∈ probes, p.state = .fail) ↔ Fails J req := by
  rcases deliveryProbes_cases J req with ⟨⟨e, he⟩, -⟩ | ⟨probes', hp, -, hfail, -⟩
  · rw [he] at h
    cases h
  · obtain rfl := Except.ok.inj (hp.symm.trans h)
    exact hfail

theorem verdict_inconclusive_iff (h : deliveryProbes J req = .ok probes) :
    (∃ p ∈ probes, p.state = .inconclusive) ↔ Undecided J req := by
  obtain ⟨asserted, contradiction, ha, hc, cited, rfl, hcited⟩ := deliveryProbes_eq h
  have hlast : (∃ p ∈ cited, p.state = .inconclusive) ↔
      req.citedUrls ≠ [] ∧ Untaken req "citations" := by
    rcases hcited with ⟨hurls, huntaken, rfl⟩ | ⟨hnone, rfl⟩
    · simp [state_citationsProbe, hurls, huntaken]
    · simp [hnone]
  simp only [List.exists_mem_cons_iff, List.mem_append, or_and_right, exists_or, hlast,
    schemaProbe_inconclusive_iff, (assertionsProbe_state ha).1, injectionProbe_decided,
    contradictionProbe_decided hc, List.mem_map, exists_exists_and_eq_and, IndependentCheck.result,
    false_or, Undecided]

/-! The record. -/

theorem field_payload {name : String} {v : Verification} {updated : Bool}
    (hreplay : name ≠ "replay_suppressed") (hupdated : name ≠ "reputation_updated") :
    field (v.payload updated) name = field v.auditPayload name := by
  rw [Verification.payload, field_put hreplay, field_put hupdated]

theorem field_state (updated : Bool) :
    field ((req.verification H latencyMs probes).payload updated) "state" =
      some (pyText (aggregateState probes).value) := by
  apply (field_payload (by decide) (by decide)).trans
  apply (field_dict _ _).trans
  rfl

theorem field_probeStates (updated : Bool) :
    field ((req.verification H latencyMs probes).payload updated) "probe_states" =
      some (.obj (keptStates probes)) := by
  apply (field_payload (by decide) (by decide)).trans
  apply (field_dict _ _).trans
  rfl

theorem bornOut_iff (updated : Bool) :
    BornOut ((req.verification H latencyMs probes).payload updated) ↔
      ByRule (keptStates probes) (aggregateState probes) := by
  rw [BornOut, field_state, field_probeStates]
  constructor
  · rintro ⟨state, states, hstate, hstates, hrule⟩
    rw [Option.some.injEq, value_injective.eq_iff] at hstate
    rw [Option.some.injEq, Json.obj.injEq] at hstates
    rw [hstate, hstates]
    exact hrule
  · exact fun hrule => ⟨_, _, rfl, rfl, hrule⟩

/-- A record bears its verdict out when a deciding state is left under its name. -/
theorem bornOut_verification_iff (hp : deliveryProbes J req = .ok probes) (updated : Bool) :
    BornOut ((req.verification H latencyMs probes).payload updated) ↔
      (Fails J req → FailureShows J req) ∧ (¬Fails J req → Undecided J req → DoubtShows J req) := by
  have hfails := verdict_fail_iff hp
  have hundecided := verdict_inconclusive_iff hp
  have hkept (state : EvidenceState) :
      (∃ f ∈ keptStates probes, f.2 = pyText state.value) ↔ Shows state probes := kept_iff
  have hfailShows : (∃ f ∈ keptStates probes, f.2 = pyText "FAIL") ↔ FailureShows J req :=
    (hkept .fail).trans (shows_fail_iff hp)
  have hdoubtShows : (∃ f ∈ keptStates probes, f.2 = pyText "INCONCLUSIVE") ↔ DoubtShows J req :=
    (hkept .inconclusive).trans (shows_inconclusive_iff hp)
  have hfailed : FailureShows J req → Fails J req := by
    rw [← shows_fail_iff hp, ← hfails]
    exact Shows.exists
  have hdoubted : DoubtShows J req → Undecided J req := by
    rw [← shows_inconclusive_iff hp, ← hundecided]
    exact Shows.exists
  rw [bornOut_iff]
  cases hstate : aggregateState probes with
  | fail =>
    have hfail : Fails J req := hfails.1 (aggregateState_fail_iff.1 hstate)
    rw [ByRule, hfailShows]
    refine ⟨fun hs => ⟨fun _ => hs, fun hno => absurd hfail hno⟩, ?_⟩
    rintro ⟨hs, -⟩
    exact hs hfail
  | inconclusive =>
    obtain ⟨hno, hinc⟩ := aggregateState_inconclusive_iff.1 hstate
    rw [hfails] at hno
    rw [hundecided] at hinc
    rw [ByRule, hfailShows, hdoubtShows]
    refine ⟨fun hs => ⟨fun hf => absurd hf hno, fun _ _ => hs.2⟩, ?_⟩
    rintro ⟨-, hs⟩
    exact ⟨fun hf => hno (hfailed hf), hs hno hinc⟩
  | pass =>
    have hall := aggregateState_pass_iff.1 hstate
    have hno : ¬Fails J req := by
      rw [← hfails]
      rintro ⟨p, hp, hs⟩
      rw [hall p hp] at hs
      cases hs
    have hdecided : ¬Undecided J req := by
      rw [← hundecided]
      rintro ⟨p, hp, hs⟩
      rw [hall p hp] at hs
      cases hs
    rw [ByRule, hfailShows, hdoubtShows]
    refine iff_of_true ⟨fun hf => hno (hfailed hf), fun hd => hdecided (hdoubted hd)⟩ ?_
    exact ⟨fun hf => absurd hf hno, fun _ hu => absurd hu hdecided⟩

/-- An answered delivery leaves a record, and its receipt. -/
theorem recorded_delivery {response : DeliveryResponse}
    (h : (verifyDelivery H J latencyMs req).run H faults st = (.ok response, st')) :
    ∃ (probes : List ProbeResult) (event : AuditEvent), deliveryProbes J req = .ok probes ∧
      st'.db.auditEvents.rows = st.db.auditEvents.rows ++ [event.row] ∧
      response.auditReceipt = event.hash ∧ event.eventType = "verify_delivery" ∧
      event.payload =
        .obj ((req.verification H latencyMs probes).payload response.reputationUpdated) := by
  obtain ⟨probes, event, hp, hr, -, -, hreceipt⟩ := verifyDelivery_ok h
  obtain ⟨hevent, hrows⟩ := (recordVerification_ok hr).appended
  exact ⟨probes, event, hp, hrows, hreceipt, by rw [hevent]; rfl, by rw [hevent]; rfl⟩

/-- The recorded verdict follows from the recorded states exactly when the names that later checks
take leave a deciding one. -/
theorem record_borne_out_iff {response : DeliveryResponse}
    (h : (verifyDelivery H J latencyMs req).run H faults st = (.ok response, st')) :
    ∃ (event : AuditEvent) (payload : PyDict),
      st'.db.auditEvents.rows = st.db.auditEvents.rows ++ [event.row] ∧
      response.auditReceipt = event.hash ∧ event.eventType = "verify_delivery" ∧
      event.payload = .obj payload ∧
      (BornOut payload ↔ (Fails J req → FailureShows J req) ∧
        (¬Fails J req → Undecided J req → DoubtShows J req)) := by
  obtain ⟨probes, event, hp, hrows, hreceipt, htype, hpayload⟩ := recorded_delivery h
  exact ⟨event, _, hrows, hreceipt, htype, hpayload, bornOut_verification_iff hp _⟩

theorem returns_on_empty (h : req.Answerable (.sample zeroHash)) :
    ∃ response st', (verifyDelivery (.sample zeroHash) .sample 0 req).run (.sample zeroHash)
      (fun _ => false) .empty = (.ok response, st') := by
  obtain ⟨response, st', hrun, -⟩ := h.returns (commits_empty (.sample zeroHash)) .sample
    (by decide : 0 < 2 ^ 63)
  exact ⟨response, st', hrun⟩

theorem record_borne_out_acknowledged : ∃ (response : DeliveryResponse) (st' : Store)
    (event : AuditEvent) (payload : PyDict),
    (verifyDelivery (.sample zeroHash) .sample 0 acknowledged).run (.sample zeroHash)
      (fun _ => false) .empty = (.ok response, st') ∧ response.auditReceipt = event.hash ∧
      event.payload = .obj payload ∧
      (BornOut payload ↔ (Fails .sample acknowledged → FailureShows .sample acknowledged) ∧
        (¬Fails .sample acknowledged → Undecided .sample acknowledged →
          DoubtShows .sample acknowledged)) := by
  obtain ⟨response, st', hrun⟩ := returns_on_empty (answerable_acknowledged _)
  obtain ⟨event, payload, -, hreceipt, -, hpayload, hiff⟩ := record_borne_out_iff hrun
  exact ⟨response, st', event, payload, hrun, hreceipt, hpayload, hiff⟩

/-- An assertion fails, and a passed check is named after the assertions. -/
def renamed : DeliveryVerificationRequest :=
  { deliveryId := "delivery"
    providerId := "seller"
    task := "task"
    output := .obj []
    assertions := [⟨"/ack", .exists, .null⟩]
    independentChecks :=
      [{ probe := "assertions", state := .pass, reason := "The links were opened" }] }

theorem answerable_renamed (H : Host) : renamed.Answerable H := by
  refine ⟨?_, ⟨?_, ?_⟩, ?_⟩
  · rintro (⟨a, ha, hraise⟩ | ⟨fields, hfields, ⟨hword, -⟩, -⟩)
    · rw [List.mem_singleton.1 ha] at hraise
      exact not_pathRaises (by decide) hraise
    · obtain rfl := Json.obj.inj hfields
      revert hword
      decide
  · intro a ha
    rw [List.mem_singleton.1 ha]
    exact H.dumps_shallow _ rfl
  · intro check hcheck
    rw [List.mem_singleton.1 hcheck]
    exact List.forall_mem_nil _
  · exact H.dumps_shallow _ (by decide +kernel)

theorem fails_renamed : Fails .sample renamed := by
  refine .inl (.inr (.inl ⟨⟨"/ack", .exists, .null⟩, by simp [renamed], ?_⟩))
  rintro ⟨actual, hpath, -⟩
  have hmissing : resolvePath renamed.output (PyStr.ofString "/ack") = .ok none := rfl
  rw [hmissing] at hpath
  cases hpath

theorem not_failureShows_renamed : ¬FailureShows .sample renamed := by
  have htaken : ¬Untaken renamed "assertions" := fun h => h _ (List.mem_singleton_self _) rfl
  rintro (⟨⟨schema, hschema, -⟩, -⟩ | ⟨-, huntaken⟩ | ⟨hmarked, -⟩ |
    ⟨⟨fields, hfields, ⟨hword, -⟩ | ⟨⟨hword, -⟩, -⟩⟩, -⟩ | ⟨before, check, after, heq, hstate, -⟩)
  · cases hschema
  · exact htaken huntaken
  · revert hmarked
    unfold Marked
    decide +kernel
  · obtain rfl := Json.obj.inj hfields
    revert hword
    decide
  · obtain rfl := Json.obj.inj hfields
    revert hword
    decide
  · have hmem : check ∈ renamed.independentChecks := heq ▸ by simp
    rw [List.mem_singleton.1 hmem] at hstate
    cases hstate

/-- The delivery fails, and no failure is on record. -/
theorem renamed_not_borne_out : ∃ (response : DeliveryResponse) (st' : Store) (event : AuditEvent)
    (payload : PyDict),
    (verifyDelivery (.sample zeroHash) .sample 0 renamed).run (.sample zeroHash)
      (fun _ => false) .empty = (.ok response, st') ∧
      st'.db.auditEvents.rows = Store.empty.db.auditEvents.rows ++ [event.row] ∧
      response.auditReceipt = event.hash ∧ event.payload = .obj payload ∧ ¬BornOut payload := by
  obtain ⟨response, st', hrun⟩ := returns_on_empty (answerable_renamed _)
  obtain ⟨probes, event, hp, hrows, hreceipt, -, hpayload⟩ := recorded_delivery hrun
  refine ⟨response, st', event, _, hrun, hrows, hreceipt, hpayload, ?_⟩
  rw [bornOut_verification_iff hp]
  exact fun h => not_failureShows_renamed (h.1 fails_renamed)

end Counterparty
