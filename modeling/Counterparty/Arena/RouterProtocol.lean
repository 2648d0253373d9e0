import Counterparty.Arena.RouterDriver

/-! The calls the Router makes, whatever it is fed. -/
namespace Counterparty.Arena

open Json Session

variable {request : AgentTurnRequest} {probeId nonce : JsString} {s s' : RouterState} {fed : Fed}
  {c : ToolCall} {inputs : List Fed}

/-! What each phase can decide. -/

def ToolCall.content (c : ToolCall) : JsString × JsObject := (c.tool, c.arguments)

/-- What the Router calls its service with. -/
def serviceContent (request : AgentTurnRequest) : JsString × JsObject :=
  (calledTool request, (serviceInput request).getD [])

/-- What the Router asks of the Probe. -/
def probeContent (probeId nonce serviceId : JsString) : JsString × JsObject :=
  (js "messages.request", probeArguments probeId nonce serviceId)

/-- What the Router records of an observation. -/
def recordContent (probeId nonce serviceId : JsString) (output : JsObject) (latency : JsNumber) :
    JsString × JsObject :=
  (js "counterparty.record_probe", recordArguments probeId nonce serviceId output latency)

/-- A reply of the Probe in state `OBSERVED` with the ids of the canary, an output that is an object
and a latency that is a non-negative integer. -/
structure Observed (probeId nonce serviceId : JsString) (output : JsObject) (latency : JsNumber)
    (observed : JsObject) : Prop where
  state_eq : property "state" observed = some (jsText "OBSERVED")
  probe_id_eq : property "probe_id" observed = some (.str probeId)
  provider_id_eq : property "provider_id" observed = some (.str serviceId)
  nonce_eq : property "nonce" observed = some (.str nonce)
  output_eq : property "output" observed = some (.obj output)
  latency_eq : property "latency_ms" observed = some (.num latency)
  isInteger : isInteger latency
  isNonNegative : isNonNegative latency

theorem observed_of_valid {observed output : JsObject} {serviceId : JsString} {latency : JsNumber}
    (h : validObservation probeId nonce observed serviceId = some (output, latency)) :
    Observed probeId nonce serviceId output latency observed := by
  unfold validObservation at h
  split at h
  · rename_i output' latency' houtput hlatency
    split_ifs at h with hvalid
    cases h
    obtain ⟨hstate, hprobe, hprovider, hnonce, hinteger, hnonneg⟩ := hvalid
    exact ⟨stringOf_eq_some hstate, stringOf_eq_some hprobe, stringOf_eq_some hprovider,
      stringOf_eq_some hnonce, asObject_eq_some houtput, hlatency, hinteger, hnonneg⟩
  · cases h

/-- The service is one of the three, its tool is visible, and it has an input. -/
structure Admitted (request : AgentTurnRequest) : Prop where
  visible : calledTool request ∈ request.tools
  priced : ∃ service, (service, ServiceTool.named (calledTool request)) ∈ SERVICE_TO_TOOL
  input_eq : ∃ input, serviceInput request = some input

/-- What a snapshot can be told about the canary: that there is no result, or what was recorded. -/
def FreshProbe (s : RouterState) (fed : Fed) (probe : JsObject) : Prop :=
  property "state" probe = some (jsText "INCONCLUSIVE") ∨
    s.phase = .awaitRecord ∧ fed.2 = .toolResult ⟨js "succeeded", some (.obj probe)⟩

/-- The steps of the session. -/
inductive RouterStep (request : AgentTurnRequest) (probeId nonce : JsString) (s : RouterState)
    (fed : Fed) : Decision ToolCall Ending × RouterState → Prop
  | stop (o : Ending) : RouterStep request probeId nonce s fed (.stop o, s)
  | probe {c : ToolCall} {id : JsString} (hphase : s.phase = .start) (hadmitted : Admitted request)
      (hid : serviceId request = some id) (hcontent : c.content = probeContent probeId nonce id) :
      RouterStep request probeId nonce s fed (.call c, ⟨.awaitProbe, s.freshProbe⟩)
  | record {c : ToolCall} {id : JsString} {output observed : JsObject} {latency : JsNumber}
      (hphase : s.phase = .awaitProbe) (hid : serviceId request = some id)
      (hfed : fed.2 = .toolResult ⟨js "succeeded", some (.obj observed)⟩)
      (hobserved : Observed probeId nonce id output latency observed)
      (hcontent : c.content = recordContent probeId nonce id output latency) :
      RouterStep request probeId nonce s fed (.call c, ⟨.awaitRecord, s.freshProbe⟩)
  | serve {c : ToolCall} {fresh : Option JsObject} (hphase : s.phase ≠ .awaitService)
      (hadmitted : s.phase = .start → Admitted request) (hcontent : c.content = serviceContent request)
      (hfresh : ∀ probe, fresh = some probe → s.freshProbe = some probe ∨ FreshProbe s fed probe) :
      RouterStep request probeId nonce s fed (.call c, ⟨.awaitService, fresh⟩)

theorem mem_of_serviceTool {service tool : JsString} (h : serviceTool service = some (.named tool)) :
    (service, ServiceTool.named tool) ∈ SERVICE_TO_TOOL := by
  obtain ⟨before, after, heq, -⟩ := List.lookup_eq_some_iff.1 h
  have hmem : (service, ServiceTool.named tool) ∈
      SERVICE_TO_TOOL ++ objectPrototype.map (Prod.map id ServiceTool.inherited) := by
    rw [heq]
    simp
  rcases List.mem_append.1 hmem with hmem | hmem
  · exact hmem
  · obtain ⟨p, -, hp⟩ := List.mem_map.1 hmem
    cases hp

theorem admitted_of_available {input : JsObject} (h : toolAvailable request)
    (hinput : serviceInput request = some input) : Admitted request := by
  unfold toolAvailable at h
  cases htool : toolName request with
  | none => simp [htool] at h
  | some t =>
    cases t with
    | inherited value => simp [htool, ServiceTool.names] at h
    | named tool =>
      have hcalled : calledTool request = tool := by simp [calledTool, htool, ServiceTool.text]
      obtain ⟨service, -, hservice⟩ := Option.bind_eq_some_iff.1 htool
      refine ⟨?_, ⟨service, ?_⟩, input, hinput⟩
      · rw [hcalled]
        simpa [htool, ServiceTool.names] using h
      · rw [hcalled]
        exact mem_of_serviceTool hservice

theorem inconclusive_state (reason : String) :
    property "state" (inconclusive reason) = some (jsText "INCONCLUSIVE") := rfl

theorem inconclusiveStatus_state (reason : String) (status : JsString) :
    property "state" (inconclusiveStatus reason status) = some (jsText "INCONCLUSIVE") := rfl

theorem serve_inconclusive {stamp : Stamp} {probe : JsObject} (hphase : s.phase ≠ .awaitService)
    (hadmitted : s.phase = .start → Admitted request)
    (hprobe : property "state" probe = some (jsText "INCONCLUSIVE")) :
    RouterStep request probeId nonce s fed (serviceCall request stamp (some probe)) := by
  refine .serve hphase hadmitted rfl ?_
  rintro _ ⟨rfl⟩
  exact .inr (.inl hprobe)

theorem step_start (hphase : s.phase = .start) :
    RouterStep request probeId nonce s fed (routerStart request probeId nonce s fed.1) := by
  have hne : s.phase ≠ .awaitService := by simp [hphase]
  unfold routerStart
  split
  · rename_i tool input htool hinput
    by_cases havailable : toolAvailable request
    · have hadmitted := admitted_of_available havailable hinput
      rw [if_neg (not_not_intro havailable)]
      split
      · rename_i id hprobe hid
        exact .probe hphase hadmitted hid rfl
      · by_cases htrust : isTrustSnapshot request
        · rw [if_pos htrust]
          exact serve_inconclusive hne (fun _ => hadmitted) (inconclusive_state _)
        · rw [if_neg htrust]
          exact .serve hne (fun _ => hadmitted) rfl fun probe h => .inl h
    · rw [if_pos havailable]
      split_ifs
      · exact .stop _
      · exact .stop _
  · exact .stop _

theorem step_probe {result : ToolResult} (hphase : s.phase = .awaitProbe)
    (hfed : fed.2 = .toolResult result) :
    RouterStep request probeId nonce s fed (afterProbe request probeId nonce s fed.1 result) := by
  have hne : s.phase ≠ .awaitService := by simp [hphase]
  have hstart : s.phase = .start → Admitted request := by simp [hphase]
  unfold afterProbe
  split_ifs with hstatus
  · split
    · rename_i id output latency hvalid
      obtain ⟨id', hid, hvalid⟩ := Option.bind_eq_some_iff.1 hvalid
      obtain ⟨valid, hvalid, hpair⟩ := Option.map_eq_some_iff.1 hvalid
      cases hpair
      obtain ⟨observed, hobserved, hvalid⟩ := Option.bind_eq_some_iff.1 hvalid
      refine .record hphase hid ?_ (observed_of_valid hvalid) rfl
      rw [hfed, ← hstatus, ← asObject_eq_some hobserved]
    · exact serve_inconclusive hne hstart (inconclusive_state _)
  · exact serve_inconclusive hne hstart (inconclusiveStatus_state _ _)

theorem step_record {result : ToolResult} (hphase : s.phase = .awaitRecord)
    (hfed : fed.2 = .toolResult result) :
    RouterStep request probeId nonce s fed (afterRecord request fed.1 result) := by
  have hne : s.phase ≠ .awaitService := by simp [hphase]
  have hstart : s.phase = .start → Admitted request := by simp [hphase]
  unfold afterRecord
  split_ifs with hstatus
  · cases hrecorded : asObject result.output with
    | none => exact serve_inconclusive hne hstart rfl
    | some probe =>
      refine .serve hne hstart rfl ?_
      rintro _ ⟨rfl⟩
      refine .inr (.inr ⟨hphase, ?_⟩)
      rw [hfed, ← hstatus, Option.getD_some, ← asObject_eq_some hrecorded]
  · exact serve_inconclusive hne hstart (inconclusiveStatus_state _ _)

theorem afterService_stops (request : AgentTurnRequest) (s : RouterState) (result : ToolResult) :
    ∃ o, afterService request s result = (.stop o, s) := by
  unfold afterService
  split_ifs
  · exact ⟨_, rfl⟩
  · split <;> exact ⟨_, rfl⟩

/-- Everything a step can do. -/
theorem router_step (request : AgentTurnRequest) (probeId nonce : JsString) (s : RouterState) (fed : Fed) :
    RouterStep request probeId nonce s fed (routerNext request probeId nonce s fed) := by
  unfold routerNext
  split
  · rename_i hphase
    exact step_start hphase
  · exact .stop _
  · rename_i result hphase hfed
    exact step_probe hphase hfed
  · rename_i result hphase hfed
    exact step_record hphase hfed
  · rename_i result hphase hfed
    obtain ⟨o, ho⟩ := afterService_stops request s result
    rw [ho]
    exact .stop o

theorem step_of_call (h : routerNext request probeId nonce s fed = (.call c, s')) :
    RouterStep request probeId nonce s fed (.call c, s') := h ▸ router_step request probeId nonce s fed

/-! The whole session. -/

section Shape

variable (request : AgentTurnRequest) (probeId nonce : JsString)

/-- A call of the service. -/
def Serves (step : Fed × ToolCall) : Prop := step.2.content = serviceContent request

/-- A message to the Probe. -/
def Probes (id : JsString) (step : Fed × ToolCall) : Prop :=
  step.2.content = probeContent probeId nonce id

/-- A call of `record_probe` with what has just been observed. -/
def Records (id : JsString) (step : Fed × ToolCall) : Prop :=
  ∃ output latency observed, Observed probeId nonce id output latency observed ∧
    step.1.2 = .toolResult ⟨js "succeeded", some (.obj observed)⟩ ∧
    step.2.content = recordContent probeId nonce id output latency

/-- The sequences of calls, with the states they lead to. -/
inductive Sequence : List (Fed × ToolCall) → RouterState → Prop
  | nothing : Sequence [] .opened
  | served {a : Fed × ToolCall} {fresh : Option JsObject} (hadmitted : Admitted request)
      (ha : Serves request a) (hfresh : ∀ probe, fresh = some probe → FreshProbe .opened a.1 probe) :
      Sequence [a] ⟨.awaitService, fresh⟩
  | probed {a : Fed × ToolCall} {id : JsString} (hadmitted : Admitted request)
      (hid : serviceId request = some id) (ha : Probes probeId nonce id a) :
      Sequence [a] ⟨.awaitProbe, none⟩
  | probedServed {a b : Fed × ToolCall} {id : JsString} {fresh : Option JsObject}
      (hadmitted : Admitted request) (hid : serviceId request = some id)
      (ha : Probes probeId nonce id a) (hb : Serves request b)
      (hfresh : ∀ probe, fresh = some probe → FreshProbe ⟨.awaitProbe, none⟩ b.1 probe) :
      Sequence [a, b] ⟨.awaitService, fresh⟩
  | recorded {a b : Fed × ToolCall} {id : JsString} (hadmitted : Admitted request)
      (hid : serviceId request = some id) (ha : Probes probeId nonce id a)
      (hb : Records probeId nonce id b) : Sequence [a, b] ⟨.awaitRecord, none⟩
  | recordedServed {a b c : Fed × ToolCall} {id : JsString} {fresh : Option JsObject}
      (hadmitted : Admitted request) (hid : serviceId request = some id)
      (ha : Probes probeId nonce id a) (hb : Records probeId nonce id b) (hc : Serves request c)
      (hfresh : ∀ probe, fresh = some probe → FreshProbe ⟨.awaitRecord, none⟩ c.1 probe) :
      Sequence [a, b, c] ⟨.awaitService, fresh⟩

end Shape

variable {steps : List (Fed × ToolCall)}

/-- Every call goes on with the sequence. -/
theorem Sequence.call (h : Sequence request probeId nonce steps s)
    (hnext : routerNext request probeId nonce s fed = (.call c, s')) :
    Sequence request probeId nonce (steps ++ [(fed, c)]) s' := by
  have hstep := step_of_call hnext
  cases h with
  | nothing =>
    cases hstep with
    | probe _ hadmitted hid hcontent => exact .probed hadmitted hid hcontent
    | record hphase => cases hphase
    | serve _ hadmitted hcontent hfresh =>
      exact .served (hadmitted rfl) hcontent fun probe h => (hfresh probe h).resolve_left nofun
  | probed hadmitted hid ha =>
    cases hstep with
    | probe hphase => cases hphase
    | record _ hid' hfed hobserved hcontent =>
      cases hid.symm.trans hid'
      exact .recorded hadmitted hid ha ⟨_, _, _, hobserved, hfed, hcontent⟩
    | serve _ _ hcontent hfresh =>
      exact .probedServed hadmitted hid ha hcontent fun probe h => (hfresh probe h).resolve_left nofun
  | recorded hadmitted hid ha hb =>
    cases hstep with
    | probe hphase => cases hphase
    | record hphase => cases hphase
    | serve _ _ hcontent hfresh =>
      exact .recordedServed hadmitted hid ha hb hcontent
        fun probe h => (hfresh probe h).resolve_left nofun
  -- nothing is called after the service
  | served | probedServed | recordedServed =>
    cases hstep with
    | probe hphase => cases hphase
    | record hphase => cases hphase
    | serve hphase => exact absurd rfl hphase

theorem sequence_of_path (h : Path (routerNext request probeId nonce) .opened steps s) :
    Sequence request probeId nonce steps s := by
  induction h with
  | refl => exact .nothing
  | call _ hnext ih => exact ih.call hnext

theorem tool_of_admitted (h : Admitted request) : calledTool request ∈
    [js "counterparty.trust_snapshot", js "counterparty.verify_delivery",
      js "counterparty.best_execution"] := by
  obtain ⟨service, hservice⟩ := h.priced
  simp only [SERVICE_TO_TOOL, List.mem_cons, Prod.mk.injEq, ServiceTool.named.injEq, List.not_mem_nil,
    or_false] at hservice
  simp only [List.mem_cons, List.not_mem_nil, or_false]
  exact hservice.imp And.right (Or.imp And.right And.right)

theorem Serves.tool_eq {step : Fed × ToolCall} (h : Serves request step) :
    step.2.tool = calledTool request := congrArg Prod.fst h

theorem Serves.not_message {step : Fed × ToolCall} (h : Serves request step)
    (hadmitted : Admitted request) : step.2.tool ≠ js "messages.request" := by
  have hmem := tool_of_admitted hadmitted
  rw [← h.tool_eq] at hmem
  intro heq
  rw [heq] at hmem
  revert hmem
  decide

theorem Serves.not_record {step : Fed × ToolCall} (h : Serves request step)
    (hadmitted : Admitted request) : step.2.tool ≠ js "counterparty.record_probe" := by
  have hmem := tool_of_admitted hadmitted
  rw [← h.tool_eq] at hmem
  intro heq
  rw [heq] at hmem
  revert hmem
  decide

/-! What holds of every sequence. -/

theorem Sequence.length_le (h : Sequence request probeId nonce steps s) : steps.length ≤ 3 := by
  cases h <;> simp

/-- The tools called and their arguments are as far as the session came of one of three lists. -/
theorem Sequence.contents (h : Sequence request probeId nonce steps s) :
    steps.map (fun step => step.2.content) <+: [serviceContent request] ∨
    ∃ id, serviceId request = some id ∧
      (steps.map (fun step => step.2.content) <+:
          [probeContent probeId nonce id, serviceContent request] ∨
        ∃ output latency, steps.map (fun step => step.2.content) <+:
          [probeContent probeId nonce id, recordContent probeId nonce id output latency,
            serviceContent request]) := by
  cases h with
  | nothing => exact .inl (List.nil_prefix)
  | served _ ha _ =>
    refine .inl ?_
    rw [List.map_singleton, ha]
  | probed _ hid ha =>
    refine .inr ⟨_, hid, .inl ?_⟩
    rw [List.map_singleton, ha]
    exact List.prefix_append [_] [_]
  | probedServed _ hid ha hb =>
    refine .inr ⟨_, hid, .inl ?_⟩
    rw [List.map_cons, List.map_singleton, ha, hb]
  | recorded _ hid ha hb =>
    obtain ⟨output, latency, -, -, -, hcontent⟩ := hb
    refine .inr ⟨_, hid, .inr ⟨output, latency, ?_⟩⟩
    rw [List.map_cons, List.map_singleton, ha, hcontent]
    exact List.prefix_append [_, _] [_]
  | recordedServed _ hid ha hb hc =>
    obtain ⟨output, latency, -, -, -, hcontent⟩ := hb
    refine .inr ⟨_, hid, .inr ⟨output, latency, ?_⟩⟩
    rw [List.map_cons, List.map_cons, List.map_singleton, ha, hcontent, hc]

/-- A step is a call of the service, a message to the Probe, or the record that follows it. -/
theorem Sequence.mem (h : Sequence request probeId nonce steps s) {step : Fed × ToolCall}
    (hstep : step ∈ steps) : Admitted request ∧
      (Serves request step ∨ ∃ id, serviceId request = some id ∧
        (Probes probeId nonce id step ∨
          Records probeId nonce id step ∧ ∃ earlier later, Probes probeId nonce id earlier ∧
            steps = earlier :: step :: later)) := by
  cases h with
  | nothing => cases hstep
  | served hadmitted ha =>
    rcases List.mem_singleton.1 hstep with rfl
    exact ⟨hadmitted, .inl ha⟩
  | probed hadmitted hid ha =>
    rcases List.mem_singleton.1 hstep with rfl
    exact ⟨hadmitted, .inr ⟨_, hid, .inl ha⟩⟩
  | probedServed hadmitted hid ha hb =>
    rcases List.mem_pair.1 hstep with rfl | rfl
    · exact ⟨hadmitted, .inr ⟨_, hid, .inl ha⟩⟩
    · exact ⟨hadmitted, .inl hb⟩
  | recorded hadmitted hid ha hb =>
    rcases List.mem_pair.1 hstep with rfl | rfl
    · exact ⟨hadmitted, .inr ⟨_, hid, .inl ha⟩⟩
    · exact ⟨hadmitted, .inr ⟨_, hid, .inr ⟨hb, _, _, ha, rfl⟩⟩⟩
  | recordedServed hadmitted hid ha hb hc =>
    rcases List.mem_cons.1 hstep with rfl | hstep
    · exact ⟨hadmitted, .inr ⟨_, hid, .inl ha⟩⟩
    · rcases List.mem_pair.1 hstep with rfl | rfl
      · exact ⟨hadmitted, .inr ⟨_, hid, .inr ⟨hb, _, _, ha, rfl⟩⟩⟩
      · exact ⟨hadmitted, .inl hc⟩

theorem Probes.tool_eq {id : JsString} {step : Fed × ToolCall} (h : Probes probeId nonce id step) :
    step.2.tool = js "messages.request" := congrArg Prod.fst h

theorem Records.tool_eq {id : JsString} {step : Fed × ToolCall} (h : Records probeId nonce id step) :
    step.2.tool = js "counterparty.record_probe" := by
  obtain ⟨_, _, _, -, -, hcontent⟩ := h
  exact congrArg Prod.fst hcontent

theorem message_ne_record : js "messages.request" ≠ js "counterparty.record_probe" := by decide

/-- How a snapshot ends on the result of its service. -/
theorem ended_awaitService {fresh : Option JsObject} {o : Ending} {fields : JsObject}
    (h : (routerNext request probeId nonce ⟨.awaitService, fresh⟩ fed).1 = .stop o)
    (htrust : isTrustSnapshot request)
    (hfed : fed.2 = .toolResult ⟨js "succeeded", some (.obj fields)⟩) :
    o = .complete (some (.obj (put (js "fresh_probe")
      (.obj (fresh.getD [(js "state", jsText "INCONCLUSIVE")])) fields))) := by
  simp only [routerNext, hfed, afterService, ne_eq, not_true_eq_false, if_false, htrust, asObject,
    Counterparty.Arena.complete, Decision.stop.injEq] at h
  exact h.symm

/-- Without a result of the canary the snapshot is told that there is none. -/
theorem freshProbe_getD {fresh : Option JsObject}
    (h : ∀ probe, fresh = some probe → FreshProbe s fed probe) :
    FreshProbe s fed (fresh.getD [(js "state", jsText "INCONCLUSIVE")]) := by
  cases fresh with
  | none => exact .inl rfl
  | some probe => exact h probe rfl

/-- A snapshot that the service returned as an object is completed with its fields and the result of
the canary: that there is none, or what `record_probe` returned. -/
theorem Sequence.completed (h : Sequence request probeId nonce steps s) {o : Ending}
    {fields : JsObject} {step : Fed × ToolCall} (hlast : steps.getLast? = some step)
    (hserves : Serves request step) (hended : routerNext request probeId nonce s fed = (.stop o, s'))
    (htrust : isTrustSnapshot request)
    (hfed : fed.2 = .toolResult ⟨js "succeeded", some (.obj fields)⟩) :
    ∃ probe, o = .complete (some (.obj (put (js "fresh_probe") (.obj probe) fields))) ∧
      (property "state" probe = some (jsText "INCONCLUSIVE") ∨
        step.1.2 = .toolResult ⟨js "succeeded", some (.obj probe)⟩ ∧
        ∃ earlier recorded id, steps = [earlier, recorded, step] ∧ Records probeId nonce id recorded) := by
  have hdecided := congrArg Prod.fst hended
  cases h with
  | nothing => cases hlast
  | probed hadmitted _ ha =>
    cases hlast
    exact absurd ha.tool_eq (hserves.not_message hadmitted)
  | recorded hadmitted _ _ hb =>
    cases hlast
    exact absurd hb.tool_eq (hserves.not_record hadmitted)
  | served _ _ hfresh =>
    refine ⟨_, ended_awaitService hdecided htrust hfed, .inl ?_⟩
    exact (freshProbe_getD hfresh).resolve_right fun h => by cases h.1
  | probedServed _ _ _ _ hfresh =>
    refine ⟨_, ended_awaitService hdecided htrust hfed, .inl ?_⟩
    exact (freshProbe_getD hfresh).resolve_right fun h => by cases h.1
  | recordedServed _ _ _ hb _ hfresh =>
    cases hlast
    refine ⟨_, ended_awaitService hdecided htrust hfed, (freshProbe_getD hfresh).imp_right ?_⟩
    rintro ⟨-, hresult⟩
    exact ⟨hresult, _, _, _, rfl, hb⟩

/-- What the Router does in a session, whatever it is fed. -/
structure FollowsProtocol (request : AgentTurnRequest) (probeId nonce : JsString)
    (steps : List (Fed × ToolCall)) (ended : Option (Fed × Ending)) : Prop where
  /-- The calls are as far as the session came of one of three lists. -/
  contents : steps.map (fun step => step.2.content) <+: [serviceContent request] ∨
    ∃ id, serviceId request = some id ∧
      (steps.map (fun step => step.2.content) <+:
          [probeContent probeId nonce id, serviceContent request] ∨
        ∃ output latency, steps.map (fun step => step.2.content) <+:
          [probeContent probeId nonce id, recordContent probeId nonce id output latency,
            serviceContent request])
  length_le : steps.length ≤ 3
  /-- Messages go to the Probe. -/
  recipient : ∀ step ∈ steps, step.2.tool = js "messages.request" →
    property "recipient" step.2.arguments = some COUNTERPARTY_PROBE.json
  /-- What is recorded has just been observed, and nothing is recorded twice. -/
  recorded : ∀ step ∈ steps, step.2.tool = js "counterparty.record_probe" →
    ∃ id earlier later, serviceId request = some id ∧ steps = earlier :: step :: later ∧
      earlier.2.content = probeContent probeId nonce id ∧ Records probeId nonce id step ∧
      ∀ other ∈ later, other.2.tool ≠ js "counterparty.record_probe"
  /-- The tool of the service gets the input of the request. -/
  served : ∀ step ∈ steps, (∃ service, (service, ServiceTool.named step.2.tool) ∈ SERVICE_TO_TOOL) →
    step.2.tool ∈ request.tools ∧ serviceInput request = some step.2.arguments
  completed : ∀ fed o fields step, ended = some (fed, o) → steps.getLast? = some step →
    step.2.content = serviceContent request → isTrustSnapshot request →
    fed.2 = .toolResult ⟨js "succeeded", some (.obj fields)⟩ →
    ∃ probe, o = .complete (some (.obj (put (js "fresh_probe") (.obj probe) fields))) ∧
      (property "state" probe = some (jsText "INCONCLUSIVE") ∨
        step.1.2 = .toolResult ⟨js "succeeded", some (.obj probe)⟩ ∧
        ∃ earlier recorded id, steps = [earlier, recorded, step] ∧ Records probeId nonce id recorded)

theorem Sequence.recorded_once {earlier step : Fed × ToolCall} {later : List (Fed × ToolCall)}
    (h : Sequence request probeId nonce (earlier :: step :: later) s) {other : Fed × ToolCall}
    (hother : other ∈ later) : other.2.tool ≠ js "counterparty.record_probe" := by
  cases h with
  | probedServed => cases hother
  | recorded => cases hother
  | recordedServed hadmitted _ _ _ hc _ =>
    rcases List.mem_singleton.1 hother with rfl
    exact hc.not_record hadmitted

/-- The service tool is called with the input of the request. -/
theorem Serves.admitted {step : Fed × ToolCall} (h : Serves request step)
    (hadmitted : Admitted request) :
    step.2.tool ∈ request.tools ∧ serviceInput request = some step.2.arguments := by
  refine ⟨h.tool_eq ▸ hadmitted.visible, ?_⟩
  obtain ⟨input, hinput⟩ := hadmitted.input_eq
  have harguments : step.2.arguments = (serviceInput request).getD [] := congrArg Prod.snd h
  rw [harguments, hinput, Option.getD_some]

theorem tool_of_service {service tool : JsString}
    (h : (service, ServiceTool.named tool) ∈ SERVICE_TO_TOOL) :
    tool ≠ js "messages.request" ∧ tool ≠ js "counterparty.record_probe" := by
  have hall : ∀ p ∈ SERVICE_TO_TOOL, p.2.text ≠ js "messages.request" ∧
      p.2.text ≠ js "counterparty.record_probe" := by decide
  exact hall _ h

/-- Whatever the message asks for, whatever tools are visible and whatever the session is fed, the
Router follows its protocol, and the session ends by its fourth decision. -/
theorem router_follows_protocol (request : AgentTurnRequest) (probeId nonce : JsString)
    (inputs : List Fed) :
    FollowsProtocol request probeId nonce (issued (routerNext request probeId nonce) .opened inputs)
      (ending (routerNext request probeId nonce) .opened inputs) ∧
    (4 ≤ inputs.length → (ending (routerNext request probeId nonce) .opened inputs).isSome) := by
  obtain ⟨s, hpath, hending⟩ := exists_path (routerNext request probeId nonce) .opened inputs
  have hsequence := sequence_of_path hpath
  have hlength := hsequence.length_le
  refine ⟨⟨hsequence.contents, hlength, ?_, ?_, ?_, ?_⟩, fun h => ending_isSome (by omega)⟩
  · intro step hstep htool
    obtain ⟨hadmitted, hserves | ⟨id, -, hprobes | ⟨hrecords, -⟩⟩⟩ := hsequence.mem hstep
    · exact absurd htool (hserves.not_message hadmitted)
    · have harguments : step.2.arguments = probeArguments probeId nonce id := congrArg Prod.snd hprobes
      rw [harguments]
      rfl
    · exact absurd (htool.symm.trans hrecords.tool_eq) message_ne_record
  · intro step hstep htool
    obtain ⟨hadmitted, hserves | ⟨id, hid, hprobes | ⟨hrecords, earlier, later, hearlier, heq⟩⟩⟩ :=
      hsequence.mem hstep
    · exact absurd htool (hserves.not_record hadmitted)
    · exact absurd (hprobes.tool_eq.symm.trans htool) message_ne_record
    · rw [heq] at hsequence
      exact ⟨id, earlier, later, hid, heq, hearlier, hrecords, fun _ => hsequence.recorded_once⟩
  · rintro step hstep ⟨service, hservice⟩
    obtain ⟨hmessage, hrecord⟩ := tool_of_service hservice
    obtain ⟨hadmitted, hserves | ⟨id, -, hprobes | ⟨hrecords, -⟩⟩⟩ := hsequence.mem hstep
    · exact hserves.admitted hadmitted
    · exact absurd hprobes.tool_eq hmessage
    · exact absurd hrecords.tool_eq hrecord
  · intro fed o fields step hended hlast hserves htrust hfed
    obtain ⟨_, hnext⟩ := hending fed o hended
    exact hsequence.completed hlast hserves hnext htrust hfed

end Counterparty.Arena
