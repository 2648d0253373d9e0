import Counterparty.Arena.ProbeDriver
import Counterparty.Arena.RouterProtocol
import Counterparty.Arena.SharedNetCli

/-! Canaries from the Router's turn to the seat and back: the transport, the nested turn of the Probe,
and where a recorded output comes from. -/
namespace Counterparty.Arena

open Json Session

structure Envelope where
  id : JsString
  sender : Address
  receiver : Address
  payload : Option JsJson
  traceId : JsString

/-- `pendingReplies` -/
abbrev Pending := JsString → Option Envelope

/-! The transport. -/

/-- `messageTransport.deliver`; a random id is for the reply. -/
def deliver (cli : SharedNetCli) (run : CliRun) (uuid : JsString) (envelope : Envelope)
    (pending : Pending) : List Contact × Except JsString Unit × Pending :=
  if envelope.receiver = COUNTERPARTY_PROBE then ([], .ok (), pending)
  else
    match envelope.receiver, asObject envelope.payload with
    | .service serviceId, some payload =>
      match cli.sendCanary run serviceId payload with
      | (contacts, .error message) => (contacts, .error message, pending)
      | (contacts, .ok (_, observed)) =>
        (contacts, .ok (), Function.update pending envelope.id (some
          { id := uuid
            sender := envelope.receiver
            receiver := envelope.sender
            payload := some (.obj observed)
            traceId := envelope.traceId }))
    | .service _, none => ([], .error (js "seller canary payload must be a JSON object"), pending)
    | _, _ => ([], .error
      (js "Arena transport only supports the Counterparty Probe or a SharedNet seller seat"), pending)

/-- What `messageRequestRouter.resolveReply` does for a seat. -/
def resolveSeller (request : Envelope) (pending : Pending) : Except JsString Envelope × Pending :=
  match pending request.id with
  | none => (.error (js "SharedNet seller reply was not captured"), pending)
  | some reply => (.ok reply, Function.update pending request.id none)

/-- What it replies for the Probe, whose turn ended as given. -/
def probeReply (uuid : JsString) (request : Envelope) (status : JsString)
    (output : Option JsJson) : Envelope :=
  { id := uuid
    sender := COUNTERPARTY_PROBE
    receiver := request.sender
    payload :=
      if status = js "succeeded" then output
      else some (.obj [(js "state", jsText "INCONCLUSIVE"),
        (js "reason", .str (js "Probe turn ended " ++ status))])
    traceId := request.traceId }

/-! Turns on a kernel that passes on unchanged what it passes on. -/

/-- What a kernel answers the calls of an agent with, the seats that are contacted meanwhile. -/
abbrev Answering := Address → ToolCall → Pending → List Contact → Fed → Pending → Prop

/-- A turn of a driver: its calls, the seats contacted, and how it ended if it was not cut short. -/
def Driver.Runs (driver : Driver) (answer : ToolCall → Pending → List Contact → Fed → Pending → Prop)
    (fed : Fed) (pending : Pending) (steps : List (Fed × ToolCall)) (contacts : List Contact)
    (out : Option Ending) (pending' : Pending) : Prop :=
  Session.Turn driver.next answer driver.opened fed pending steps contacts out pending'

def Succeeded (fed : Fed) (output : Option JsJson) : Prop :=
  fed.2 = .toolResult ⟨js "succeeded", output⟩

/-- The envelope of a `messages.request`. -/
structure Envelops (actor : Address) (c : ToolCall) (envelope : Envelope) : Prop where
  tool_eq : c.tool = js "messages.request"
  sender_eq : envelope.sender = actor
  receiver_eq : property "recipient" c.arguments = some envelope.receiver.json
  payload_eq : envelope.payload = property "payload" c.arguments
  traceId_eq : envelope.traceId = c.traceId

/-- The envelope goes to the address that the call names. -/
theorem Envelops.receiver_of {actor address : Address} {c : ToolCall} {envelope : Envelope}
    (h : Envelops actor c envelope) (hrecipient : property "recipient" c.arguments = some address.json) :
    envelope.receiver = address :=
  Address.json_injective (Option.some.inj (h.receiver_eq.symm.trans hrecipient))

/-- The turn that the Probe is asked for. -/
structure Asks (envelope : Envelope) (request : AgentTurnRequest) : Prop where
  actor_eq : request.actor = COUNTERPARTY_PROBE
  payload_eq : request.payload = envelope.payload
  traceId_eq : request.traceId = envelope.traceId

/-- How a call can be answered. The kernel may refuse it, and a delivery may come to nothing, but what
succeeds was passed on unchanged: the envelope to the transport and to the resolver, and the payload of
the reply to the caller. Other handlers use the replies under their own ids meanwhile. -/
inductive AnswerOver (cli : SharedNetCli) (nested : Answering) (actor : Address) (c : ToolCall)
    (pending : Pending) : List Contact → Fed → Pending → Prop
  | refused {fed : Fed} {pending' : Pending} (h : ∀ output, ¬Succeeded fed output) :
      AnswerOver cli nested actor c pending [] fed pending'
  | invoked {fed : Fed} {pending' : Pending} (h : c.tool ≠ js "messages.request") :
      AnswerOver cli nested actor c pending [] fed pending'
  | undelivered {envelope : Envelope} {run : CliRun} {uuid : JsString} {contacts : List Contact}
      {result : Except JsString Unit} {fed : Fed} {pending₁ pending' : Pending}
      (henvelope : Envelops actor c envelope)
      (hdeliver : deliver cli run uuid envelope pending = (contacts, result, pending₁))
      (h : ∀ output, ¬Succeeded fed output) :
      AnswerOver cli nested actor c pending contacts fed pending'
  | seller {envelope reply : Envelope} {run : CliRun} {uuid : JsString} {contacts : List Contact}
      {fed : Fed} {pending₁ pending₂ pending₃ pending' : Pending}
      (henvelope : Envelops actor c envelope) (hreceiver : envelope.receiver ≠ COUNTERPARTY_PROBE)
      (hdeliver : deliver cli run uuid envelope pending = (contacts, .ok (), pending₁))
      (hothers : pending₂ envelope.id = pending₁ envelope.id)
      (hresolve : resolveSeller envelope pending₂ = (.ok reply, pending₃))
      (h : ∀ output, Succeeded fed output → output = reply.payload) :
      AnswerOver cli nested actor c pending contacts fed pending'
  | probe {envelope : Envelope} {run : CliRun} {uuid uuid' status : JsString}
      {request : AgentTurnRequest} {opening : Opening} {start fed : Fed}
      {steps : List (Fed × ToolCall)} {contacts contacts' : List Contact} {out : Option Ending}
      {final : Option JsJson} {pending₁ pending₂ pending₃ pending' : Pending}
      (henvelope : Envelops actor c envelope) (hreceiver : envelope.receiver = COUNTERPARTY_PROBE)
      (hdeliver : deliver cli run uuid envelope pending = (contacts, .ok (), pending₁))
      (hasks : Asks envelope request)
      (hturn : (openRole request opening).Runs (nested request.actor) start pending₂ steps contacts'
        out pending₃)
      (hstatus : status = js "succeeded" → out = some (.complete final))
      (h : ∀ output, Succeeded fed output → output = (probeReply uuid' envelope status final).payload) :
      AnswerOver cli nested actor c pending (contacts ++ contacts') fed pending'

/-- The answers in which turns are nested to a depth. -/
def KernelAnswers (cli : SharedNetCli) : ℕ → Answering
  | 0 => AnswerOver cli fun _ _ _ _ _ _ => False
  | depth + 1 => AnswerOver cli (KernelAnswers cli depth)

/-- The turn that the Arena service opens for a request. -/
def arenaTurn (turn : RouterTurn) (traceId : JsString) (tools : List JsString) : AgentTurnRequest where
  actor := COUNTERPARTY_ROUTER
  traceId := traceId
  payload := some (.obj [(js "service", .str turn.service), (js "input", .obj turn.input)])
  tools := tools

/-! Where an output comes from. -/

variable {cli : SharedNetCli} {nested : Answering} {actor : Address} {c : ToolCall}
  {envelope : Envelope} {run : CliRun} {uuid seat nonce probeId : JsString} {fed : Fed}
  {contacts : List Contact} {pending pending' : Pending} {result : Except JsString Unit}
  {payload output observed : JsObject}

/-- No seat but the one is contacted, and it is contacted once. -/
def OnlyContacts (seat : JsString) (contacts : List Contact) : Prop :=
  contacts.length ≤ 1 ∧ ∀ contact ∈ contacts, contact.targetSeat = seat

/-- An output that a message of the seat says, listed by the CLI after the seat was contacted. -/
def Authentic (seat nonce : JsString) (contacts : List Contact) (output : JsObject) : Prop :=
  ∃ contact ∈ contacts, ∃ message, contact.run.Lists message ∧ Acknowledges seat nonce message output

theorem onlyContacts_nil (seat : JsString) : OnlyContacts seat [] := ⟨Nat.zero_le _, nofun⟩

theorem deliver_probe (hreceiver : envelope.receiver = COUNTERPARTY_PROBE)
    (h : deliver cli run uuid envelope pending = (contacts, result, pending')) : contacts = [] := by
  rw [deliver, if_pos hreceiver] at h
  cases h
  rfl

theorem service_ne_probe (seat : JsString) : Address.service seat ≠ COUNTERPARTY_PROBE := nofun

/-- A delivery to a seat leaves what the seat said as the reply under the id of the envelope. -/
theorem deliver_seller (hreceiver : envelope.receiver = .service seat)
    (hpayload : envelope.payload = some (.obj payload))
    (hnonce : property "counterparty_probe_id" payload = some (.str nonce))
    (h : deliver cli run uuid envelope pending = (contacts, result, pending')) :
    OnlyContacts seat contacts ∧ (result = .ok () → ∃ reply output,
      pending' envelope.id = some reply ∧ reply.payload = some (.obj output) ∧
        Authentic seat nonce contacts output) := by
  have hne : envelope.receiver ≠ COUNTERPARTY_PROBE := by
    rw [hreceiver]
    exact service_ne_probe seat
  rw [deliver, if_neg hne, hreceiver, hpayload] at h
  simp only [asObject] at h
  split at h
  · rename_i contacts' message hsent
    cases h
    obtain ⟨hlength, htarget, -⟩ := sendCanary_spec hsent
    exact ⟨⟨hlength, htarget⟩, by simp⟩
  · rename_i contacts' message parsed hsent
    cases h
    obtain ⟨hlength, htarget, hreply⟩ := sendCanary_spec hsent
    refine ⟨⟨hlength, htarget⟩, fun _ => ⟨_, parsed, Function.update_self .., rfl, ?_⟩⟩
    obtain ⟨contact, hcontact, hlisted, nonce', hnonce', hack⟩ := hreply message parsed rfl
    rw [hnonce] at hnonce'
    cases hnonce'
    exact ⟨contact, hcontact, message, hlisted, hack⟩

/-- The Probe's call contacts the seat it names, and succeeds with what the seat says. -/
theorem answer_canary (h : AnswerOver cli nested actor c pending contacts fed pending')
    (htool : c.tool = js "messages.request") (harguments : c.arguments = canaryArguments seat nonce) :
    OnlyContacts seat contacts ∧ ∀ output, Succeeded fed output →
      ∃ said, output = some (.obj said) ∧ Authentic seat nonce contacts said := by
  have hreceiver : ∀ {envelope : Envelope}, Envelops actor c envelope →
      envelope.receiver = .service seat := fun henvelope =>
    henvelope.receiver_of (by rw [harguments]; rfl)
  have hpayload : ∀ {envelope : Envelope}, Envelops actor c envelope →
      envelope.payload = some (.obj (canaryPayload nonce)) := by
    intro envelope henvelope
    rw [henvelope.payload_eq, harguments]
    rfl
  cases h with
  | refused h => exact ⟨onlyContacts_nil seat, fun output hfed => absurd hfed (h output)⟩
  | invoked h => exact absurd htool h
  | undelivered henvelope hdeliver h =>
    obtain ⟨honly, -⟩ := deliver_seller (hreceiver henvelope) (hpayload henvelope) rfl hdeliver
    exact ⟨honly, fun output hfed => absurd hfed (h output)⟩
  | seller henvelope _ hdeliver hothers hresolve h =>
    obtain ⟨honly, hreply⟩ := deliver_seller (hreceiver henvelope) (hpayload henvelope) rfl hdeliver
    obtain ⟨reply, said, hstored, hsaid, hauthentic⟩ := hreply rfl
    rw [resolveSeller, hothers, hstored] at hresolve
    cases hresolve
    exact ⟨honly, fun output hfed => ⟨said, (h output hfed).trans hsaid, hauthentic⟩⟩
  | probe henvelope hprobe =>
    rw [hreceiver henvelope] at hprobe
    cases hprobe

/-! The turn of the Probe. -/

theorem observation_observed {request : AgentTurnRequest} {latency : ℤ} {said : Option JsJson}
    {measured : JsNumber} (h : Observed probeId nonce seat output measured
      (observation request latency said)) : said = some (.obj output) := by
  have houtput := h.output_eq
  cases said with
  | none => cases houtput
  | some said => exact houtput

theorem not_observed_of_state {measured : JsNumber}
    (h : property "state" observed = some (jsText "INCONCLUSIVE")) :
    ¬Observed probeId nonce seat output measured observed := by
  intro hobserved
  have hstate := h.symm.trans hobserved.state_eq
  exact absurd (Json.str.inj (Option.some.inj hstate)) (by decide)

section Probe

variable {request : AgentTurnRequest} {started : ℤ} {steps : List (Fed × ToolCall)}
  {out : Option Ending} {answer : ToolCall → Pending → List Contact → Fed → Pending → Prop}

theorem probeStart_cases (stamp : Stamp) (htarget : canaryTarget request = some seat)
    (hnonce : canaryNonce request = some nonce) :
    (∃ reason, probeStart request stamp = complete (inconclusive reason)) ∨
      probeStart request stamp = .call (callDecision request stamp (js "messages.request")
        (canaryArguments seat nonce)) := by
  unfold probeStart
  rw [htarget, hnonce]
  cases canaryProbeId request with
  | none => exact .inl ⟨_, rfl⟩
  | some id =>
    dsimp only
    split_ifs
    · exact .inl ⟨_, rfl⟩
    · exact .inr rfl

theorem probeNext_called (request : AgentTurnRequest) (started : ℤ) (fed : Fed) :
    (∃ reason, probeNext request started true fed = (complete (inconclusive reason), true)) ∨
      ∃ latency output, Succeeded fed output ∧
        probeNext request started true fed = (complete (observation request latency output), true) := by
  obtain ⟨stamp, ⟨status, output⟩ | type⟩ := fed
  · by_cases hstatus : status = js "succeeded"
    · subst hstatus
      exact .inr ⟨stamp.now - started, output, rfl, rfl⟩
    · refine .inl ⟨"Target service did not return a verifiable canary reply.", ?_⟩
      simp only [probeNext, not_true_eq_false, if_false, if_neg hstatus]
  · exact .inl ⟨_, rfl⟩

/-- What the Probe reports as observed is what the seat said to it. -/
theorem probe_turn
    (hanswer : ∀ {c pending contacts fed pending'}, answer c pending contacts fed pending' →
      c.tool = js "messages.request" → c.arguments = canaryArguments seat nonce →
      OnlyContacts seat contacts ∧ ∀ output, Succeeded fed output →
        ∃ said, output = some (.obj said) ∧ Authentic seat nonce contacts said)
    (htarget : canaryTarget request = some seat) (hnonce : canaryNonce request = some nonce)
    (h : Session.Turn (probeNext request started) answer false fed pending steps contacts out pending') :
    OnlyContacts seat contacts ∧ ∀ probeId observed output measured,
      out = some (.complete (some (.obj observed))) →
      Observed probeId nonce seat output measured observed → Authentic seat nonce contacts output := by
  have hstart : ∀ fed, probeNext request started false fed = (probeStart request fed.1, true) :=
    fun _ => rfl
  cases h with
  | cut => exact ⟨onlyContacts_nil seat, fun _ _ _ _ hout => by cases hout⟩
  | stop hnext =>
    refine ⟨onlyContacts_nil seat, ?_⟩
    intro probeId observed output measured hout hobserved
    rw [hstart, Option.some.inj hout] at hnext
    rcases probeStart_cases fed.1 htarget hnonce with ⟨reason, hreason⟩ | hcall
    · rw [hreason] at hnext
      cases hnext
      exact absurd hobserved (not_observed_of_state (inconclusive_state reason))
    · rw [hcall] at hnext
      cases hnext
  | @call _ s' _ i' c _ w' _ es es' steps out hnext hanswered hrest =>
    rw [hstart] at hnext
    rcases probeStart_cases fed.1 htarget hnonce with ⟨reason, hreason⟩ | hcall
    · rw [hreason] at hnext
      cases hnext
    · rw [hcall] at hnext
      cases hnext
      obtain ⟨honly, hsaid⟩ := hanswer hanswered rfl rfl
      cases hrest with
      | cut =>
        rw [List.append_nil]
        exact ⟨honly, fun _ _ _ _ hout => by cases hout⟩
      | stop hnext =>
        rw [List.append_nil]
        refine ⟨honly, ?_⟩
        intro probeId observed output measured hout hobserved
        rw [Option.some.inj hout] at hnext
        rcases probeNext_called request started i' with ⟨reason, hreason⟩ | ⟨latency, said, hfed, hcalled⟩
        · rw [hreason] at hnext
          cases hnext
          exact absurd hobserved (not_observed_of_state (inconclusive_state reason))
        · rw [hcalled] at hnext
          cases hnext
          obtain ⟨said', hsaid', hauthentic⟩ := hsaid said hfed
          cases (observation_observed hobserved).symm.trans hsaid'
          exact hauthentic
      | call hnext =>
        rcases probeNext_called request started i' with ⟨reason, hreason⟩ | ⟨latency, said, -, hcalled⟩
        · rw [hreason] at hnext
          cases hnext
        · rw [hcalled] at hnext
          cases hnext

end Probe

/-! The message to the Probe. -/

theorem body_of_asks {request : AgentTurnRequest} (hasks : Asks envelope request)
    (hpayload : envelope.payload = some (.obj payload)) : request.body = some payload := by
  rw [AgentTurnRequest.body, hasks.payload_eq, hpayload]
  rfl

/-- The Router's message to the Probe contacts the seat it names, and an observation that matches it
is what the seat says. -/
theorem answer_probe
    (hnested : ∀ {actor c pending contacts fed pending'}, nested actor c pending contacts fed pending' →
      c.tool = js "messages.request" → c.arguments = canaryArguments seat nonce →
      OnlyContacts seat contacts ∧ ∀ output, Succeeded fed output →
        ∃ said, output = some (.obj said) ∧ Authentic seat nonce contacts said)
    (h : AnswerOver cli nested actor c pending contacts fed pending')
    (htool : c.tool = js "messages.request")
    (harguments : c.arguments = probeArguments probeId nonce seat) :
    OnlyContacts seat contacts ∧ ∀ observed output measured, Succeeded fed (some (.obj observed)) →
      Observed probeId nonce seat output measured observed → Authentic seat nonce contacts output := by
  have hreceiver : ∀ {envelope : Envelope}, Envelops actor c envelope →
      envelope.receiver = COUNTERPARTY_PROBE := fun henvelope =>
    henvelope.receiver_of (by rw [harguments]; rfl)
  cases h with
  | refused h => exact ⟨onlyContacts_nil seat, fun _ _ _ hfed => absurd hfed (h _)⟩
  | invoked h => exact absurd htool h
  | undelivered henvelope hdeliver h =>
    rw [deliver_probe (hreceiver henvelope) hdeliver]
    exact ⟨onlyContacts_nil seat, fun _ _ _ hfed => absurd hfed (h _)⟩
  | seller henvelope hne => exact absurd (hreceiver henvelope) hne
  | @probe envelope _ _ uuid' status request opening start fed steps contacts contacts' out final
      _ _ _ pending' henvelope _ hdeliver hasks hturn hstatus h =>
    have hpayload : envelope.payload = some (.obj
        [(js "operation", jsText "trust_canary"), (js "target", (Address.service seat).json),
          (js "probe_id", .str probeId), (js "nonce", .str nonce)]) := by
      rw [henvelope.payload_eq, harguments]
      rfl
    have hbody := body_of_asks hasks hpayload
    have htarget : canaryTarget request = some seat := by
      rw [canaryTarget, hbody]
      rfl
    have hnonce : canaryNonce request = some nonce := by
      rw [canaryNonce, hbody]
      rfl
    rw [openRole_probe hasks.actor_eq] at hturn
    rw [deliver_probe (hreceiver henvelope) hdeliver, List.nil_append]
    obtain ⟨honly, hauthentic⟩ := probe_turn (fun h => hnested h) htarget hnonce hturn
    refine ⟨honly, ?_⟩
    intro observed output measured hfed hobserved
    have hreply := h _ hfed
    by_cases hsucceeded : status = js "succeeded"
    · rw [probeReply, if_pos hsucceeded] at hreply
      have hfinal : some (.obj observed) = final := hreply
      rw [← hfinal] at hstatus
      exact hauthentic probeId observed output measured (hstatus hsucceeded) hobserved
    · rw [probeReply, if_neg hsucceeded] at hreply
      cases hreply
      exact absurd hobserved (not_observed_of_state rfl)

/-- The turns nested in an answer are answered by the kernel as well. -/
theorem KernelAnswers.over {depth : ℕ}
    (h : KernelAnswers cli depth actor c pending contacts fed pending') :
    ∃ nested, AnswerOver cli nested actor c pending contacts fed pending' ∧
      ∀ {actor c pending contacts fed pending'}, nested actor c pending contacts fed pending' →
        ∃ depth, KernelAnswers cli depth actor c pending contacts fed pending' := by
  cases depth with
  | zero => exact ⟨_, h, fun h => h.elim⟩
  | succ depth => exact ⟨_, h, fun h => ⟨depth, h⟩⟩

theorem kernel_canary {depth : ℕ} (h : KernelAnswers cli depth actor c pending contacts fed pending')
    (htool : c.tool = js "messages.request") (harguments : c.arguments = canaryArguments seat nonce) :
    OnlyContacts seat contacts ∧ ∀ output, Succeeded fed output →
      ∃ said, output = some (.obj said) ∧ Authentic seat nonce contacts said := by
  obtain ⟨_, hanswered, -⟩ := h.over
  exact answer_canary hanswered htool harguments

theorem kernel_probe {depth : ℕ} (h : KernelAnswers cli depth actor c pending contacts fed pending')
    (htool : c.tool = js "messages.request")
    (harguments : c.arguments = probeArguments probeId nonce seat) :
    OnlyContacts seat contacts ∧ ∀ observed output measured, Succeeded fed (some (.obj observed)) →
      Observed probeId nonce seat output measured observed → Authentic seat nonce contacts output := by
  obtain ⟨_, hanswered, hnested⟩ := h.over
  refine answer_probe (fun h => ?_) hanswered htool harguments
  obtain ⟨_, h⟩ := hnested h
  exact kernel_canary h

theorem answer_invoked (h : AnswerOver cli nested actor c pending contacts fed pending')
    (htool : c.tool ≠ js "messages.request") : contacts = [] := by
  cases h with
  | refused => rfl
  | invoked => rfl
  | undelivered henvelope => exact absurd henvelope.tool_eq htool
  | seller henvelope => exact absurd henvelope.tool_eq htool
  | probe henvelope => exact absurd henvelope.tool_eq htool

theorem kernel_invoked {depth : ℕ} (h : KernelAnswers cli depth actor c pending contacts fed pending')
    (htool : c.tool ≠ js "messages.request") : contacts = [] := by
  obtain ⟨_, hanswered, -⟩ := h.over
  exact answer_invoked hanswered htool

/-! The turn of the Router. -/

section Router

variable {request : AgentTurnRequest} {depth : ℕ} {s : RouterState} {steps : List (Fed × ToolCall)}
  {out : Option Ending}

/-- Calls of other tools contact no seat. -/
theorem turn_invoked (h : Session.Turn (routerNext request probeId nonce) (KernelAnswers cli depth actor) s
      fed pending steps contacts out pending')
    (htools : ∀ step ∈ steps, step.2.tool ≠ js "messages.request") : contacts = [] := by
  induction h with
  | cut => rfl
  | stop => rfl
  | @call s s' fed fed' c w w' w'' es es' steps out hnext hanswered hrest ih =>
    rw [kernel_invoked hanswered (htools _ List.mem_cons_self),
      ih fun step hstep => htools step (List.mem_cons_of_mem _ hstep)]
    rfl

/-- In a turn that begins with a message to the Probe and goes on with other tools, only the seat is
contacted, and what is recorded is what it said. -/
theorem router_turn {earlier : Fed × ToolCall}
    (h : Session.Turn (routerNext request probeId nonce) (KernelAnswers cli depth actor) s fed pending
      (earlier :: steps) contacts out pending')
    (hearlier : Probes probeId nonce seat earlier)
    (htools : ∀ step ∈ steps, step.2.tool ≠ js "messages.request") :
    OnlyContacts seat contacts ∧ ∀ step later observed output measured, steps = step :: later →
      Succeeded step.1 (some (.obj observed)) →
      Observed probeId nonce seat output measured observed → Authentic seat nonce contacts output := by
  cases h with
  | @call _ s' _ fed' c _ w' _ es es' _ _ hnext hanswered hrest =>
    obtain ⟨honly, hauthentic⟩ := kernel_probe hanswered hearlier.tool_eq (congrArg Prod.snd hearlier)
    rw [turn_invoked hrest htools, List.append_nil]
    refine ⟨honly, ?_⟩
    rintro step later observed output measured rfl hfed hobserved
    cases hrest with
    | call => exact hauthentic observed output measured hfed hobserved

end Router

/-- Only the first call can be a message. -/
theorem Sequence.messages {request : AgentTurnRequest} {steps : List (Fed × ToolCall)}
    {s : RouterState} (h : Sequence request probeId nonce steps s) :
    (∀ step ∈ steps, step.2.tool ≠ js "messages.request") ∨
      ∃ seat earlier later, serviceId request = some seat ∧ steps = earlier :: later ∧
        Probes probeId nonce seat earlier ∧ ∀ step ∈ later, step.2.tool ≠ js "messages.request" := by
  have hrecord : ∀ {id : JsString} {step : Fed × ToolCall}, Records probeId nonce id step →
      step.2.tool ≠ js "messages.request" :=
    fun h htool => message_ne_record (htool.symm.trans h.tool_eq)
  cases h with
  | nothing => exact .inl nofun
  | served hadmitted ha =>
    refine .inl fun step hstep => ?_
    rw [List.mem_singleton.1 hstep]
    exact ha.not_message hadmitted
  | probed _ hid ha => exact .inr ⟨_, _, [], hid, rfl, ha, nofun⟩
  | probedServed hadmitted hid ha hb =>
    refine .inr ⟨_, _, _, hid, rfl, ha, fun step hstep => ?_⟩
    rw [List.mem_singleton.1 hstep]
    exact hb.not_message hadmitted
  | recorded _ hid ha hb =>
    refine .inr ⟨_, _, _, hid, rfl, ha, fun step hstep => ?_⟩
    rw [List.mem_singleton.1 hstep]
    exact hrecord hb
  | recordedServed hadmitted hid ha hb hc =>
    refine .inr ⟨_, _, _, hid, rfl, ha, fun step hstep => ?_⟩
    rcases List.mem_pair.1 hstep with rfl | rfl
    · exact hrecord hb
    · exact hc.not_message hadmitted

/-! A turn in which the seat answers. -/

section Answered

variable {request : AgentTurnRequest} {input : JsObject} {message : JsJson}

theorem start_asks (htool : toolAvailable request) (hinput : serviceInput request = some input)
    (hprobe : canActivelyProbe request) (hid : serviceId request = some seat) :
    routerNext request probeId nonce .opened fed =
      (.call (callDecision request fed.1 (js "messages.request")
        (probeArguments probeId nonce seat)), ⟨.awaitProbe, none⟩) := by
  cases hname : toolName request with
  | none => simp [toolAvailable, hname] at htool
  | some tool => simp [routerNext, routerStart, RouterState.opened, hname, hinput, htool, hprobe, hid]

theorem valid_of_observed {measured : JsNumber}
    (h : Observed probeId nonce seat output measured observed) :
    validObservation probeId nonce observed seat = some (output, measured) := by
  simp [validObservation, h.state_eq, h.probe_id_eq, h.provider_id_eq, h.nonce_eq, h.output_eq,
    h.latency_eq, h.isInteger, h.isNonNegative, asObject, stringOf, jsText]

theorem observed_records {measured : JsNumber} {fresh : Option JsObject}
    (hid : serviceId request = some seat) (hfed : Succeeded fed (some (.obj observed)))
    (h : Observed probeId nonce seat output measured observed) :
    routerNext request probeId nonce ⟨.awaitProbe, fresh⟩ fed =
      (.call (callDecision request fed.1 (js "counterparty.record_probe")
        (recordArguments probeId nonce seat output measured)), ⟨.awaitRecord, fresh⟩) := by
  have hresult : fed.2 = .toolResult ⟨js "succeeded", some (.obj observed)⟩ := hfed
  simp [routerNext, hresult, afterProbe, hid, asObject, valid_of_observed h]

theorem deliver_replied {message : JsJson} (uuid : JsString) (hpayload : envelope.payload = some (.obj payload))
    (hreceiver : envelope.receiver = .service seat)
    (hsent : cli.sendCanary run seat payload = (contacts, .ok (message, observed))) :
    ∃ pending' reply, deliver cli run uuid envelope pending = (contacts, .ok (), pending') ∧
      pending' envelope.id = some reply ∧ reply.payload = some (.obj observed) := by
  have hne : envelope.receiver ≠ COUNTERPARTY_PROBE := by
    rw [hreceiver]
    exact service_ne_probe seat
  rw [deliver, if_neg hne, hreceiver, hpayload]
  simp only [asObject, hsent]
  exact ⟨_, _, rfl, Function.update_self .., rfl⟩

/-- The Probe is answered with what the seat says. -/
theorem exists_answer {message : JsJson} (pending : Pending) (fed : Fed)
    (hsent : cli.sendCanary run seat (canaryPayload nonce) = (contacts, .ok (message, observed)))
    (htool : c.tool = js "messages.request") (harguments : c.arguments = canaryArguments seat nonce)
    (hfed : Succeeded fed (some (.obj observed))) :
    AnswerOver cli nested actor c pending contacts fed pending := by
  obtain ⟨envelope, henvelope, hreceiver, hpayload⟩ : ∃ envelope, Envelops actor c envelope ∧
      envelope.receiver = .service seat ∧ envelope.payload = some (.obj (canaryPayload nonce)) := by
    refine ⟨⟨[], actor, .service seat, some (.obj (canaryPayload nonce)), c.traceId⟩,
      ⟨htool, rfl, ?_, ?_, rfl⟩, rfl, rfl⟩
    · rw [harguments]
      rfl
    · rw [harguments]
      rfl
  have hne : envelope.receiver ≠ COUNTERPARTY_PROBE := by
    rw [hreceiver]
    exact service_ne_probe seat
  obtain ⟨pending₁, reply, hdeliver, hstored, hreply⟩ :=
    deliver_replied [] hpayload hreceiver hsent
  have hresolve : resolveSeller envelope pending₁ =
      (.ok reply, Function.update pending₁ envelope.id none) := by
    rw [resolveSeller, hstored]
  refine .seller henvelope hne hdeliver rfl hresolve ?_
  intro output houtput
  cases houtput.symm.trans hfed
  exact hreply.symm

theorem probeStart_calls (stamp : Stamp) (htarget : canaryTarget request = some seat)
    (hid : canaryProbeId request = some probeId) (hnonce : canaryNonce request = some nonce)
    (hlength : 8 ≤ nonce.length) (hoperation : isTrustCanary request)
    (htools : request.available "messages.request") : probeStart request stamp =
      .call (callDecision request stamp (js "messages.request") (canaryArguments seat nonce)) := by
  simp [probeStart, htarget, hid, hnonce, hoperation, htools, hlength]

theorem observed_observation (htarget : canaryTarget request = some seat)
    (hid : canaryProbeId request = some probeId) (hnonce : canaryNonce request = some nonce) :
    Observed probeId nonce seat observed (FloatFormat.binary64.ofRat 0)
      (observation request 0 (some (.obj observed))) := by
  refine ⟨rfl, ?_, ?_, ?_, rfl, rfl, by decide +kernel, by decide +kernel⟩
  · rw [observation, hid]
    rfl
  · rw [observation, htarget]
    rfl
  · rw [observation, hnonce]
    rfl

/-- A turn of the Probe in which it reports what the seat says. -/
theorem exists_probe_turn (pending : Pending) (stamp : Stamp)
    {answer : ToolCall → Pending → List Contact → Fed → Pending → Prop}
    (hanswer : ∀ {c fed}, c.tool = js "messages.request" → c.arguments = canaryArguments seat nonce →
      Succeeded fed (some (.obj observed)) → answer c pending contacts fed pending)
    (htarget : canaryTarget request = some seat) (hid : canaryProbeId request = some probeId)
    (hnonce : canaryNonce request = some nonce) (hlength : 8 ≤ nonce.length)
    (hoperation : isTrustCanary request) (htools : request.available "messages.request") :
    ∃ steps final measured, Session.Turn (probeNext request stamp.now) answer false
        (stamp, .other (js "start")) pending steps contacts
        (some (.complete (some (.obj final)))) pending ∧
      Observed probeId nonce seat observed measured final := by
  have hcall : probeNext request stamp.now false (stamp, .other (js "start")) =
      (.call (callDecision request stamp (js "messages.request") (canaryArguments seat nonce)), true) :=
    Prod.ext (probeStart_calls stamp htarget hid hnonce hlength hoperation htools) rfl
  have hstop : probeNext request stamp.now true
      (stamp, .toolResult ⟨js "succeeded", some (.obj observed)⟩) =
        (complete (observation request 0 (some (.obj observed))), true) := by
    simp [probeNext]
  have hfed : Succeeded (stamp, .toolResult ⟨js "succeeded", some (.obj observed)⟩)
      (some (.obj observed)) := rfl
  have hturn := Session.Turn.call hcall (hanswer rfl rfl hfed) (.stop hstop pending)
  rw [List.append_nil] at hturn
  exact ⟨_, _, _, hturn, observed_observation htarget hid hnonce⟩

/-- The turn that the Probe is asked for by the Router. -/
def askedTurn (request : AgentTurnRequest) (probeId nonce seat : JsString) : AgentTurnRequest where
  actor := COUNTERPARTY_PROBE
  traceId := request.traceId
  payload := property "payload" (probeArguments probeId nonce seat)
  tools := [js "messages.request"]

theorem askedTurn_available (request : AgentTurnRequest) (probeId nonce seat : JsString) :
    (askedTurn request probeId nonce seat).available "messages.request" := by
  simp [askedTurn, AgentTurnRequest.available]

/-- The Router is answered with what the Probe reports. -/
theorem exists_probe_answer {message : JsJson} (pending : Pending) (stamp : Stamp)
    (htool : c.tool = js "messages.request") (harguments : c.arguments = probeArguments probeId nonce seat)
    (htrace : c.traceId = request.traceId) (hlength : 8 ≤ nonce.length)
    (hsent : cli.sendCanary run seat (canaryPayload nonce) = (contacts, .ok (message, observed))) :
    ∃ final measured, Observed probeId nonce seat observed measured final ∧
      KernelAnswers cli 1 actor c pending contacts
        (stamp, .toolResult ⟨js "succeeded", some (.obj final)⟩) pending := by
  have hanswer : ∀ {c fed}, c.tool = js "messages.request" → c.arguments = canaryArguments seat nonce →
      Succeeded fed (some (.obj observed)) →
      KernelAnswers cli 0 COUNTERPARTY_PROBE c pending contacts fed pending :=
    fun htool harguments hfed => exists_answer pending _ hsent htool harguments hfed
  have htarget : canaryTarget (askedTurn request probeId nonce seat) = some seat := rfl
  have hid : canaryProbeId (askedTurn request probeId nonce seat) = some probeId := rfl
  have hnonce : canaryNonce (askedTurn request probeId nonce seat) = some nonce := rfl
  obtain ⟨steps, final, measured, hturn, hobserved⟩ := exists_probe_turn pending stamp hanswer htarget
    hid hnonce hlength rfl (askedTurn_available ..)
  refine ⟨final, measured, hobserved, ?_⟩
  have hpayload : property "payload" c.arguments =
      property "payload" (probeArguments probeId nonce seat) := by rw [harguments]
  obtain ⟨envelope, henvelope, hreceiver, hasks⟩ : ∃ envelope, Envelops actor c envelope ∧
      envelope.receiver = COUNTERPARTY_PROBE ∧
      Asks envelope (askedTurn request probeId nonce seat) := by
    refine ⟨⟨[], actor, COUNTERPARTY_PROBE, property "payload" c.arguments, c.traceId⟩,
      ⟨htool, rfl, ?_, rfl, rfl⟩, rfl, ⟨rfl, hpayload.symm, htrace.symm⟩⟩
    rw [harguments]
    rfl
  have hdeliver : deliver cli run [] envelope pending = ([], .ok (), pending) := if_pos hreceiver
  have hruns : (openRole (askedTurn request probeId nonce seat) ⟨[], [], stamp.now⟩).Runs
      (KernelAnswers cli 0 (askedTurn request probeId nonce seat).actor) (stamp, .other (js "start"))
      pending steps contacts (some (.complete (some (.obj final)))) pending := by
    rw [openRole_probe rfl]
    exact hturn
  have hreply : ∀ output,
      Succeeded (stamp, .toolResult ⟨js "succeeded", some (.obj final)⟩) output →
      output = (probeReply [] envelope (js "succeeded") (some (.obj final))).payload := by
    intro output houtput
    cases houtput
    rw [probeReply, if_pos rfl]
  exact AnswerOver.probe henvelope hreceiver hdeliver hasks hruns (fun _ => rfl) hreply

/-- A snapshot whose seat acknowledges the canary has a turn in which that is recorded. -/
theorem exists_recording {message : JsJson} {opening : Opening} (pending : Pending) (stamp : Stamp)
    (hactor : request.actor = COUNTERPARTY_ROUTER) (htool : toolAvailable request)
    (hprobe : canActivelyProbe request) (hinput : serviceInput request = some input)
    (hid : serviceId request = some seat) (hlength : 8 ≤ opening.nonce.length)
    (hsent : cli.sendCanary run seat (canaryPayload opening.nonce) =
      (contacts, .ok (message, observed))) :
    ∃ steps, (openRole request opening).Runs (KernelAnswers cli 1 COUNTERPARTY_ROUTER)
        (stamp, .other (js "start")) pending steps contacts none pending ∧
      ∃ step ∈ steps, step.2.tool = js "counterparty.record_probe" := by
  have hasked : routerNext request opening.probeId opening.nonce .opened (stamp, .other (js "start")) =
      (.call (callDecision request stamp (js "messages.request")
        (probeArguments opening.probeId opening.nonce seat)), ⟨.awaitProbe, none⟩) :=
    start_asks htool hinput hprobe hid
  obtain ⟨final, measured, hobserved, hanswer⟩ : ∃ final measured,
      Observed opening.probeId opening.nonce seat observed measured final ∧
      KernelAnswers cli 1 COUNTERPARTY_ROUTER (callDecision request stamp (js "messages.request")
        (probeArguments opening.probeId opening.nonce seat)) pending contacts
        (stamp, .toolResult ⟨js "succeeded", some (.obj final)⟩) pending :=
    exists_probe_answer pending stamp rfl rfl rfl hlength hsent
  have hrecorded : routerNext request opening.probeId opening.nonce ⟨.awaitProbe, none⟩
      (stamp, .toolResult ⟨js "succeeded", some (.obj final)⟩) =
      (.call (callDecision request stamp (js "counterparty.record_probe")
        (recordArguments opening.probeId opening.nonce seat observed measured)),
        ⟨.awaitRecord, none⟩) :=
    observed_records hid rfl hobserved
  have hrefused : KernelAnswers cli 1 COUNTERPARTY_ROUTER (callDecision request stamp
      (js "counterparty.record_probe")
      (recordArguments opening.probeId opening.nonce seat observed measured)) pending []
      (stamp, .other (js "none")) pending := .invoked message_ne_record.symm
  have hturn := Session.Turn.call hasked hanswer (.call hrecorded hrefused (.cut _ _ _))
  rw [List.append_nil, List.append_nil] at hturn
  rw [openRole_router hactor]
  exact ⟨_, hturn, _, List.mem_cons_of_mem _ List.mem_cons_self, rfl⟩

end Answered

/-- In a turn of the Arena service no seat is contacted but the one the buyer named, and that once;
and what is recorded as a canary is recorded for that seat, under the nonce of the turn, and is what a
message of that seat acknowledged it with. -/
theorem recorded_canary_authentic {depth : ℕ} {req : ArenaRequest} {traceId : JsString}
    {tools : List JsString} {opening : Opening} {steps : List (Fed × ToolCall)} {out : Option Ending}
    (hturn : (openRole (arenaTurn (routerTurn req) traceId tools) opening).Runs
      (KernelAnswers cli depth COUNTERPARTY_ROUTER) fed pending steps contacts out pending') :
    (∀ step ∈ steps, step.2.tool = js "counterparty.record_probe" → ∃ seat output,
      property "service_id" req.parsed.input = some (.str seat) ∧
      property "provider_id" step.2.arguments = some (.str seat) ∧
      property "nonce" step.2.arguments = some (.str opening.nonce) ∧
      property "output" step.2.arguments = some (.obj output) ∧
      Authentic seat opening.nonce contacts output) ∧
    contacts.length ≤ 1 ∧
    ∀ contact ∈ contacts,
      property "service_id" req.parsed.input = some (.str contact.targetSeat) := by
  rw [openRole_router rfl] at hturn
  obtain ⟨s, hpath⟩ := Session.Turn.exists_path hturn
  have hsequence := sequence_of_path hpath
  have hnamed : ∀ {seat : JsString}, serviceId (arenaTurn (routerTurn req) traceId tools) = some seat →
      property "service_id" req.parsed.input = some (.str seat) := fun h => stringOf_eq_some h
  rcases hsequence.messages with htools | ⟨seat, earlier, later, hseat, rfl, hearlier, htools⟩
  · rw [turn_invoked hturn htools]
    refine ⟨?_, Nat.zero_le _, nofun⟩
    intro step hstep htool
    obtain ⟨hadmitted, hserves | ⟨id, hid, hprobes | ⟨-, earlier, later, hearlier, heq⟩⟩⟩ :=
      hsequence.mem hstep
    · exact absurd htool (hserves.not_record hadmitted)
    · exact absurd (hprobes.tool_eq.symm.trans htool) message_ne_record
    · exact absurd hearlier.tool_eq (htools earlier (heq ▸ List.mem_cons_self))
  · obtain ⟨honly, hauthentic⟩ := router_turn hturn hearlier htools
    refine ⟨?_, honly.1, fun contact hcontact => ?_⟩
    · intro step hstep htool
      obtain ⟨hadmitted, hserves | ⟨id, hid, hprobes | ⟨hrecords, earlier', later', -, heq⟩⟩⟩ :=
        hsequence.mem hstep
      · exact absurd htool (hserves.not_record hadmitted)
      · exact absurd (hprobes.tool_eq.symm.trans htool) message_ne_record
      · obtain ⟨rfl, rfl⟩ := List.cons.inj heq
        rw [hseat] at hid
        cases hid
        obtain ⟨output, latency, observed, hobserved, hfed, hcontent⟩ := hrecords
        have harguments : step.2.arguments =
            recordArguments opening.probeId opening.nonce seat output latency :=
          congrArg Prod.snd hcontent
        rw [harguments]
        exact ⟨seat, output, hnamed hseat, rfl, rfl, rfl,
          hauthentic step later' observed output latency rfl hfed hobserved⟩
    · rw [honly.2 contact hcontact]
      exact hnamed hseat

/-- An order of a snapshot of the other seat. -/
def snapshotOrder : ArenaRequest where
  parsed :=
    { senderSeat := js "i_AAAAAAAAAA"
      sourceMessageId := js "msg_1"
      requestId := js "order-1"
      service := js "trust_snapshot"
      price := .credits 4
      input := [(js "service_id", jsText "i_BBBBBBBBBB")]
      paymentTxnId := some (js "txn_AAAAAAAAAA")
      senderSeat_seat := seatPattern_buyer
      requestId_pattern := requestIdPattern_order
      service_priced := priceOf_trustSnapshot
      input_keys := .obj (by simp) (fun _ _ => trivial) (by simp [jsText, Readable.str]) }
  process := ⟨js "p_AAAAAAAAAA", js "rom_1", js "rom_1"⟩

def snapshotTools : List JsString :=
  [js "messages.request", js "counterparty.record_probe", js "counterparty.trust_snapshot"]

/-- What the other seat says in the Room. -/
def acknowledgement : JsJson :=
  .obj [(js "sender", .obj [(js "member_id", jsText "i_BBBBBBBBBB")]),
    (js "content", jsText "\x7b\"counterparty_probe_id\":\"nonce-01\",\"ack\":true\x7d")]

def answeredRun : CliRun where
  say := .ok ()
  read _ _ := .ok (.obj [(js "items", .arr [acknowledgement])])
  polls := 1

/-- The other seat acknowledges the canary, and that is recorded. -/
theorem recorded_canary_authentic_snapshot : ∃ steps contacts, ∃ step ∈ steps,
    (openRole (arenaTurn (routerTurn snapshotOrder) (js "trace-1") snapshotTools)
      ⟨js "probe-01", js "nonce-01", 0⟩).Runs
        (KernelAnswers ⟨js "i_CCCCCCCCCC", 0⟩ 1 COUNTERPARTY_ROUTER)
        (⟨js "call-1", js "2026-01-01T00:00:00.000Z", 0⟩, .other (js "start")) (fun _ => none) steps
        contacts none (fun _ => none) ∧
    step.2.tool = js "counterparty.record_probe" ∧ ∃ seat output,
      property "service_id" snapshotOrder.parsed.input = some (.str seat) ∧
      property "output" step.2.arguments = some (.obj output) ∧
      Authentic seat (js "nonce-01") contacts output := by
  have hreplied : (canaryReply (js "i_BBBBBBBBBB") (js "nonce-01") acknowledgement).isSome := by
    decide +kernel
  obtain ⟨parsed, hparsed⟩ := Option.isSome_iff_exists.1 hreplied
  have hsent : ∃ contacts, SharedNetCli.sendCanary ⟨js "i_CCCCCCCCCC", 0⟩ answeredRun
      (js "i_BBBBBBBBBB") (canaryPayload (js "nonce-01")) = (contacts, .ok (acknowledgement, parsed)) :=
    sendCanary_replied (by decide) (by decide) rfl (by decide) rfl Nat.one_pos rfl hparsed
  obtain ⟨contacts, hsent⟩ := hsent
  have hrecorded : ∃ steps, (openRole (arenaTurn (routerTurn snapshotOrder) (js "trace-1")
      snapshotTools) ⟨js "probe-01", js "nonce-01", 0⟩).Runs
        (KernelAnswers ⟨js "i_CCCCCCCCCC", 0⟩ 1 COUNTERPARTY_ROUTER)
        (⟨js "call-1", js "2026-01-01T00:00:00.000Z", 0⟩, .other (js "start")) (fun _ => none) steps
        contacts none (fun _ => none) ∧
      ∃ step ∈ steps, step.2.tool = js "counterparty.record_probe" :=
    exists_recording (fun _ => none) _ rfl (by decide +kernel) (by decide +kernel) rfl rfl
      (by decide) hsent
  obtain ⟨steps, hturn, step, hstep, htool⟩ := hrecorded
  obtain ⟨seat, output, hseat, -, -, houtput, hauthentic⟩ :=
    (recorded_canary_authentic hturn).1 step hstep htool
  exact ⟨steps, contacts, step, hstep, hturn, htool, seat, output, hseat, houtput, hauthentic⟩

end Counterparty.Arena
