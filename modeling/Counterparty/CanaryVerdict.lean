import Counterparty.ContractEquality
import Counterparty.Provenance

/-! Canary verdicts: what a reply has to be to pass, in any run of the service. -/
namespace Counterparty

open Json Interleave

variable {H : Host} {J : JsonSchema} {req : ProbeObservationRequest}

/-- `{"type": "object", "properties": {name: {"const": value}, ...}, "required": [name, ...]}` -/
def constsSchema (entries : List (String × PyJson)) : PyDict :=
  dict [("type", pyText "object"),
    ("properties", .obj (dict (entries.map fun e => (e.1, .obj (constSchema e.2))))),
    ("required", .arr (entries.map fun e => pyText e.1))]

/-- What JSON Schema says of an object whose properties are constant texts and booleans, all of them
required: the schema is valid, and met by the objects that hold just these values under the names. -/
def JsonSchema.ReadsConsts (J : JsonSchema) : Prop :=
  ∀ (entries : List (String × PyJson)) (output : PyJson), (entries.map Prod.fst).Nodup →
    (∀ e ∈ entries, (∃ s, e.2 = .str s) ∨ ∃ b, e.2 = .bool b) →
    J.Valid (constsSchema entries) ∧ (J.Satisfies (constsSchema entries) output ↔
      ∃ fields, output = .obj fields ∧ ∀ e ∈ entries, field fields e.1 = some e.2)

/-- The reply is an object that repeats the nonce and acknowledges with `true`. -/
def ProbeObservationRequest.Echoed (req : ProbeObservationRequest) : Prop :=
  ∃ fields, req.output = .obj fields ∧
    field fields "counterparty_probe_id" = some (pyText req.nonce) ∧ field fields "ack" = some (.bool true)

/-- It also carries no marker of manipulation and does not contradict itself. -/
def ProbeObservationRequest.Genuine (req : ProbeObservationRequest) : Prop :=
  req.Echoed ∧ ¬Marked req.output ∧ ¬SelfContradictory req.output

/-! The contract of a canary. -/

theorem JsonSchema.ReadsConsts.canary (hJ : J.ReadsConsts) (req : ProbeObservationRequest) :
    J.Valid req.expectedSchema ∧ (J.Satisfies req.expectedSchema req.output ↔ req.Echoed) := by
  obtain ⟨hvalid, hsatisfies⟩ := hJ [("counterparty_probe_id", pyText req.nonce), ("ack", .bool true)]
    req.output (by simp) (by
      intro e he
      rcases List.mem_cons.1 he with rfl | he
      · exact .inl ⟨_, rfl⟩
      · rw [List.mem_singleton.1 he]
        exact .inr ⟨true, rfl⟩)
  refine ⟨hvalid, hsatisfies.trans ?_⟩
  simp only [List.forall_mem_cons, List.not_mem_nil, false_implies, implies_true, and_true]
  rfl

theorem usableSchema_canary (hJ : J.ReadsConsts) : UsableSchema J (some req.expectedSchema) :=
  ⟨_, rfl, List.cons_ne_nil _ _, (hJ.canary req).1⟩

theorem schemaHolds_canary_iff (hJ : J.ReadsConsts) :
    SchemaHolds J req.output (some req.expectedSchema) ↔ req.Echoed := by
  obtain ⟨hvalid, hsatisfies⟩ := hJ.canary req
  rw [← hsatisfies]
  constructor
  · rintro ⟨s, hs, -, -, hsat⟩
    exact Option.some.inj hs ▸ hsat
  · exact fun hsat => ⟨_, rfl, List.cons_ne_nil _ _, hvalid, hsat⟩

theorem resolvePath_field {fields : PyDict} {path name : String} {value : PyJson}
    (hparts : pathParts (PyStr.ofString path) = [PyStr.ofString name])
    (hpath : ¬(PyStr.ofString path = [] ∨ PyStr.ofString path = slash))
    (hfield : field fields name = some value) :
    resolvePath (.obj fields) (PyStr.ofString path) = .ok (some value) := by
  rw [field] at hfield
  rw [resolvePath, if_neg hpath, hparts, walk, hfield]
  rfl

theorem pathParts_probeId : pathParts (PyStr.ofString "/counterparty_probe_id") =
    [PyStr.ofString "counterparty_probe_id"] := by decide

theorem probeId_ne : ¬(PyStr.ofString "/counterparty_probe_id" = [] ∨
    PyStr.ofString "/counterparty_probe_id" = slash) := by decide

/-- What satisfies the schema satisfies the assertions. -/
theorem ProbeObservationRequest.Echoed.holds (h : req.Echoed) :
    ∀ a ∈ req.assertions, a.Holds req.output := by
  obtain ⟨fields, houtput, hnonce, hack⟩ := h
  intro a ha
  rw [houtput]
  rcases List.mem_cons.1 ha with rfl | ha
  · refine ⟨pyText req.nonce, resolvePath_field pathParts_probeId probeId_ne hnonce, ?_⟩
    simp [pyText, pyEq]
  · rw [List.mem_singleton.1 ha]
    exact ⟨.bool true, resolvePath_field (by decide) (by decide) hack, rfl⟩

theorem passes_iff_genuine (hJ : J.ReadsConsts) : req.Passes J ↔ req.Genuine := by
  rw [ProbeObservationRequest.Passes, ContractHolds, schemaHolds_canary_iff hJ]
  constructor
  · rintro ⟨hechoed, -, hrest⟩
    exact ⟨hechoed, hrest⟩
  · rintro ⟨hechoed, hrest⟩
    exact ⟨hechoed, ⟨List.cons_ne_nil _ _, hechoed.holds⟩, hrest⟩

/-- With the contract of a canary, what does not fail passes. -/
theorem genuine_of_not_fails (hJ : J.ReadsConsts)
    (h : ¬ContractFails J req.output (some req.expectedSchema) req.assertions) : req.Genuine := by
  simp only [ContractFails, not_or] at h
  obtain ⟨hschema, -, hmarked, hcontradictory⟩ := h
  refine ⟨?_, hmarked, hcontradictory⟩
  rw [← schemaHolds_canary_iff hJ]
  by_contra hfails
  exact hschema ⟨usableSchema_canary hJ, hfails⟩

theorem aggregateState_canary (hJ : J.ReadsConsts) {probes : List ProbeResult}
    (h : canaryProbes J req = .ok probes) :
    (aggregateState probes = .pass ∧ req.Genuine) ∨ (aggregateState probes = .fail ∧ ¬req.Genuine) := by
  rcases contractProbes_cases J req.output (some req.expectedSchema) req.assertions with
    ⟨⟨e, he⟩, -⟩ | ⟨probes', hprobes', -, hfail, hpass⟩
  · rw [canaryProbes, he] at h
    cases h
  · obtain rfl := Except.ok.inj (h.symm.trans hprobes')
    have hgenuine := hpass.trans (passes_iff_genuine hJ)
    by_cases hfails : ContractFails J req.output (some req.expectedSchema) req.assertions
    · have hstate := aggregateState_fail_iff.2 (hfail.2 hfails)
      refine .inr ⟨hstate, fun h => ?_⟩
      rw [aggregateState_pass_iff.2 (hgenuine.2 h)] at hstate
      cases hstate
    · have h := genuine_of_not_fails hJ hfails
      exact .inl ⟨aggregateState_pass_iff.2 (hgenuine.2 h), h⟩

/-! Runs. -/

/-- A canary is answered by what its probes came to, and they come to whether its reply is genuine. -/
theorem answered_canary {history : List ServiceEvent}
    {c : Config ServiceRequest StoreOp.Ret Served Store} (hJ : J.ReadsConsts)
    (hrun : Serving H J history c) {response : ProbeResponse}
    (hanswer : .returned (.probeObservation req) (.ok (.probe response)) ∈ history) :
    (response.state = .pass ↔ req.Genuine) ∧ (response.state = .fail ↔ ¬req.Genuine) ∧
      ∃ probes, canaryProbes J req = .ok probes ∧ aggregateState probes = response.state := by
  obtain ⟨probes, hprobes, hstate⟩ := (provenance_of_serving hrun).answers _ _ hanswer _ rfl
  rcases aggregateState_canary hJ hprobes with ⟨hpass, hgenuine⟩ | ⟨hfail, hfake⟩
  · rw [hpass] at hstate
    have hstate : response.state = .pass := hstate
    simp [hstate, hgenuine, hprobes, hpass]
  · rw [hfail] at hstate
    have hstate : response.state = .fail := hstate
    simp [hstate, hfake, hprobes, hfail]

/-- In every run, a canary is answered PASS exactly when its reply is genuine and FAIL otherwise; the
probes decide it themselves, so nothing is left to fail closed; and what counts for a seller as a passing
canary is a genuine reply of that seller. -/
theorem canary_verdict {history : List ServiceEvent} {c : Config ServiceRequest StoreOp.Ret Served Store}
    (hJ : J.ReadsConsts) (hrun : Serving H J history c) :
    (∀ req response, .returned (.probeObservation req) (.ok (.probe response)) ∈ history →
      (response.state = .pass ↔ req.Genuine) ∧ (response.state = .fail ↔ ¬req.Genuine) ∧
        ∃ probes, canaryProbes J req = .ok probes ∧ aggregateState probes = response.state) ∧
    ∀ r ∈ c.store.db.protocolObservations.rows, r.outcome = "PASS" →
      ∃ req, r.probeId = req.probeId ∧ r.serviceId = req.providerId ∧ req.Genuine ∧
        CanaryCounted H J history req .pass := by
  refine ⟨fun req response hanswer => answered_canary hJ hrun hanswer, ?_⟩
  intro r hr hpassed
  have hjustified : Justified H J history c.store.db := (provenance_of_serving hrun).inv
  obtain ⟨⟨req, state⟩, hheld⟩ := hjustified.canaries r hr
  have hstate : state = .pass := (value_eq_iff state).1.1 (hheld.outcome_eq.symm.trans hpassed)
  subst hstate
  rcases hheld.counted.deserved with ⟨-, hpasses⟩ | ⟨hfail, -⟩
  · exact ⟨req, hheld.probeId_eq, hheld.serviceId_eq, (passes_iff_genuine hJ).1 hpasses, hheld.counted⟩
  · cases hfail

/-! A validator that knows just these contracts, and a canary that passes it. -/

def constMet (fields : PyDict) (property : PyStr × PyJson) : Bool :=
  match property.2, fields.lookup property.1 with
  | .obj schema, some actual => (field schema "const").all (jsonEq actual ·)
  | _, _ => false

def constsMet (schema : PyDict) (output : PyJson) : Bool :=
  match output, field schema "properties" with
  | .obj fields, some (.obj properties) => properties.all (constMet fields)
  | _, _ => false

def JsonSchema.consts : JsonSchema where
  Valid _ := True
  Satisfies schema output := constsMet schema output = true
  checkSchema _ := none
  iterErrors schema output :=
    if constsMet schema output then [] else [⟨[], PyStr.ofString "is not the constant"⟩]
  checkSchema_eq_none := JsonSchema.checks_any
  iterErrors_eq_nil := by simp

theorem jsonEq_const {actual v : PyJson} (h : (∃ s, v = .str s) ∨ ∃ b, v = .bool b) :
    jsonEq actual v = true ↔ actual = v := by
  rcases h with ⟨s, rfl⟩ | ⟨b, rfl⟩
  · cases actual <;> simp [jsonEq]
  · cases actual <;> simp [jsonEq]

theorem constMet_iff {fields : PyDict} {name : String} {v : PyJson}
    (h : (∃ s, v = .str s) ∨ ∃ b, v = .bool b) :
    constMet fields (PyStr.ofString name, .obj (constSchema v)) = true ↔ field fields name = some v := by
  rw [constMet, field]
  cases fields.lookup (PyStr.ofString name) with
  | none => simp
  | some actual => simp [constSchema, field_dict, jsonEq_const h]

theorem readsConsts_consts : JsonSchema.consts.ReadsConsts := by
  intro entries output hnodup hconst
  refine ⟨trivial, ?_⟩
  have hproperties : field (constsSchema entries) "properties" =
      some (.obj (dict (entries.map fun e => (e.1, .obj (constSchema e.2))))) := by
    simp [constsSchema, field_dict, List.lookup_cons]
  change constsMet (constsSchema entries) output = true ↔ _
  cases output with
  | obj fields =>
    simp only [constsMet, hproperties, dict, List.map_map, List.all_map, List.all_eq_true, Json.obj.injEq, exists_eq_left',
      Function.comp_apply]
    exact forall₂_congr fun e he => constMet_iff (hconst e he)
  | null | bool | num | str | arr => simp [constsMet]

theorem genuine_echoedReply : echoedReply.Genuine := by
  refine ⟨⟨_, rfl, rfl, rfl⟩, ?_, ?_⟩
  · unfold Marked
    decide +kernel
  · rintro ⟨fields, hfields, ⟨hword, -⟩ | ⟨⟨hword, -⟩, -⟩⟩
    all_goals
      obtain rfl := Json.obj.inj hfields
      revert hword
      decide

/-- The canary is answered, and passes. -/
theorem canary_verdict_echoed : ∃ history c response,
    Serving (.sample zeroHash) .consts history c ∧
      .returned (.probeObservation echoedReply) (.ok (.probe response)) ∈ history ∧
      response.state = .pass := by
  obtain ⟨response, st, hresponse, -⟩ := (answerable_echoedReply (.sample zeroHash)).returns
    (commits_empty (.sample zeroHash)) .consts (by decide)
  have hserved : (serve (.sample zeroHash) .consts (.probeObservation echoedReply)).run
      (.sample zeroHash) (fun _ => false) .empty = (.ok (.probe response), st) := by
    rw [serve, Endpoint.run_bind, hresponse]
    rfl
  obtain ⟨events, hrun, hreturned⟩ := exists_served .init hserved
  have hmem := List.mem_append_right [] hreturned
  exact ⟨_, _, response, hrun, hmem,
    ((canary_verdict readsConsts_consts hrun).1 _ _ hmem).1.2 genuine_echoedReply⟩

end Counterparty
