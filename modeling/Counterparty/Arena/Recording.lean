import Counterparty.CanaryVerdict
import Counterparty.ObservationModel
import Counterparty.Arena.Undeliverable

/-! A canary that the Router records, on its way to the backend: what is read of it, and what it is
judged by. -/
namespace Counterparty.Arena

open Json Session

/-! Plain texts. -/

/-- Characters of one unit, none of them a space. -/
def IsPlain (s : JsString) : Prop := ∀ u ∈ s, 33 ≤ u.val ∧ u.val ≤ 126

/-- A hyphen or a hexadecimal digit. -/
def isUuidUnit (u : CodeUnit) : Bool :=
  u.val == 45 || (48 ≤ u.val && u.val ≤ 57) || (97 ≤ u.val && u.val ≤ 102)

/-- What `crypto.randomUUID()` gives. -/
def IsUuid (s : JsString) : Prop := s.length = 36 ∧ s.all isUuidUnit

theorem IsUuid.isPlain {s : JsString} (h : IsUuid s) : IsPlain s := by
  intro u hu
  have hunit := List.all_eq_true.1 h.2 u hu
  simp only [isUuidUnit, Bool.or_eq_true, Bool.and_eq_true, beq_iff_eq, decide_eq_true_eq] at hunit
  omega

theorem isPlain_seat {s : JsString} (h : sharednetSeatPattern s) : IsPlain s := by
  intro u hu
  have := (seat_units h).2 u hu
  omega

section Plain

variable {s : JsString} (h : IsPlain s)

include h

theorem IsPlain.points {p : JsString} (hp : p ∈ points s) : ∃ u ∈ s, p = [u] := by
  have hmem : ∀ u ∈ p, u ∈ s := by
    intro u hu
    rw [← flatten_points s]
    exact List.mem_flatten.2 ⟨p, hp, hu⟩
  rcases mem_points hp with ⟨u, rfl⟩ | ⟨u, v, rfl, hu, -⟩
  · exact ⟨u, hmem u List.mem_cons_self, rfl⟩
  · have := h u (hmem u List.mem_cons_self)
    simp only [isHighSurrogate, Bool.and_eq_true, decide_eq_true_eq] at hu
    omega

theorem IsPlain.length_codePoints : (codePoints s).length = s.length := by
  have hone : ∀ p ∈ Arena.points s, p.length = 1 := by
    intro p hp
    obtain ⟨u, -, rfl⟩ := h.points hp
    rfl
  calc (codePoints s).length = (Arena.points s).length := List.length_map _
    _ = ((Arena.points s).map List.length).sum := by simp [List.map_congr_left hone]
    _ = s.length := by rw [← List.length_flatten, flatten_points]

theorem IsPlain.val_le {c : CodePoint} (hc : c ∈ codePoints s) : 33 ≤ c.val ∧ c.val ≤ 126 := by
  obtain ⟨p, hp, rfl⟩ := List.mem_map.1 hc
  obtain ⟨u, hu, rfl⟩ := h.points hp
  rw [val_pointOf_unit]
  exact h u hu

theorem IsPlain.stripped_codePoints : stripped (codePoints s) = codePoints s := by
  apply stripped_of_none
  intro c hc
  have := h.val_le hc
  simp only [isWhitespace, Bool.or_eq_false_iff, Bool.and_eq_false_iff, decide_eq_false_iff_not,
    beq_eq_false_iff_ne]
  omega

theorem IsPlain.scalar : Scalar (codePoints s) := by
  intro c hc
  have := h.val_le hc
  simp only [isHighSurrogate, isLowSurrogate, Bool.and_eq_false_iff, decide_eq_false_iff_not]
  omega

theorem IsPlain.isText {lo hi : ℕ} (hlo : lo ≤ s.length) (hhi : s.length ≤ hi) :
    IsText lo hi (.str s) := by
  refine ⟨s, rfl, h.scalar, ?_, ?_⟩
  · rw [h.stripped_codePoints, h.length_codePoints]
    exact hlo
  · rw [h.stripped_codePoints, h.length_codePoints]
    exact hhi

/-- It is read as it was written. -/
theorem IsPlain.ofString_string : PyStr.ofString (stripped (codePoints s)).string = codePoints s := by
  rw [h.stripped_codePoints, Counterparty.ofString_string h.scalar]

end Plain

/-! Seats. -/

/-- Only a seat is ever contacted. -/
def Contact.Seated (contact : Contact) : Prop := sharednetSeatPattern contact.targetSeat

theorem sendCanary_seated {cli : SharedNetCli} {run : CliRun} {targetSeat : JsString} {payload : JsObject} :
    ∀ contact ∈ (cli.sendCanary run targetSeat payload).1, contact.Seated := by
  intro contact hcontact
  unfold SharedNetCli.sendCanary at hcontact
  split at hcontact
  · cases hcontact
  · rename_i hseat
    split at hcontact
    · cases hcontact
    · split at hcontact
      · cases hcontact
      · rw [List.mem_singleton.1 hcontact]
        exact not_not.1 hseat

theorem deliver_seated {cli : SharedNetCli} {run : CliRun} {uuid : JsString} {envelope : Envelope}
    {pending : Pending} : ∀ contact ∈ (deliver cli run uuid envelope pending).1, contact.Seated := by
  intro contact hcontact
  unfold deliver at hcontact
  split at hcontact
  · cases hcontact
  · split at hcontact
    · split at hcontact
      · rename_i hsent
        apply sendCanary_seated
        rwa [hsent]
      · rename_i hsent
        apply sendCanary_seated
        rwa [hsent]
    · cases hcontact
    · cases hcontact

theorem AnswerOver.seated {cli : SharedNetCli} {nested : Answering} {actor : Address} {c : ToolCall}
    {pending pending' : Pending} {contacts : List Contact} {fed : Fed}
    (h : AnswerOver cli nested actor c pending contacts fed pending')
    (hnested : ∀ actor c pending contacts fed pending', nested actor c pending contacts fed pending' →
      ∀ contact ∈ contacts, contact.Seated) : ∀ contact ∈ contacts, contact.Seated := by
  have hdelivered : ∀ {run uuid envelope result pending₁} {contacts : List Contact},
      deliver cli run uuid envelope pending = (contacts, result, pending₁) →
      ∀ contact ∈ contacts, contact.Seated := by
    intro run uuid envelope result pending₁ contacts hdeliver contact hcontact
    apply deliver_seated
    rwa [hdeliver]
  cases h with
  | refused => exact nofun
  | invoked => exact nofun
  | undelivered henvelope hdeliver => exact hdelivered hdeliver
  | seller henvelope hreceiver hdeliver => exact hdelivered hdeliver
  | probe henvelope hreceiver hdeliver hasks hturn =>
    intro contact hcontact
    rcases List.mem_append.1 hcontact with hcontact | hcontact
    · exact hdelivered hdeliver contact hcontact
    · exact hturn.effects (hnested _) contact hcontact

theorem KernelAnswers.seated {cli : SharedNetCli} {depth : ℕ} {actor : Address} {c : ToolCall}
    {pending pending' : Pending} {contacts : List Contact} {fed : Fed}
    (h : KernelAnswers cli depth actor c pending contacts fed pending') :
    ∀ contact ∈ contacts, contact.Seated := by
  induction depth generalizing actor c pending contacts fed pending' with
  | zero => exact AnswerOver.seated h fun _ _ _ _ _ _ hnested => hnested.elim
  | succ depth ih => exact AnswerOver.seated h fun _ _ _ _ _ _ hnested => ih hnested

/-! The body. -/

section Body

variable {isPrintable : CodePoint → Bool} {texts : NumberTexts} {input said : JsObject}
  {probeId nonce seat : JsString} {latency : JsNumber}

/-- The reply is not too long for the backend. -/
def Bounded (isPrintable : CodePoint → Bool) (j : JsJson) : Prop := isBounded isPrintable (received j)

structure ObservationInput (isPrintable : CodePoint → Bool) (texts : NumberTexts) (input : JsObject) :
    Prop where
  keys : OnlyKeys ["probe_id", "provider_id", "nonce", "output", "latency_ms"] input
  probe_id : Has "probe_id" (IsText 1 200) input
  provider_id : Has "provider_id" (IsText 1 200) input
  nonce : Has "nonce" (IsText 8 200) input
  output : Has "output" (Bounded isPrintable) input
  latency_ms : Has "latency_ms" (IsInt texts 0 300000) input

theorem observation_accepted_iff :
    fits (ProbeObservationRequest.fields isPrintable texts) (received (.obj input)) ↔
      ObservationInput isPrintable texts input := by
  have hlatency : ∀ j, isInt texts (fun z => 0 ≤ z && z ≤ 300000) (received j) ↔
      IsInt texts 0 300000 j := fun _ => isInt_received (by simp) (by norm_num) (by norm_num)
  rw [received_obj]
  change fits _ (.obj (receivedEntries input)) ↔ _
  rw [fits_obj, onlyKeys_received ["probe_id", "provider_id", "nonce", "output", "latency_ms"] (by
    simp only [ProbeObservationRequest.fields, List.map_cons, List.map_nil]
    decide)]
  simp only [ProbeObservationRequest.fields, List.forall_mem_cons, List.not_mem_nil, false_implies,
    implies_true, and_true]
  rw [fits_has "probe_id" (by decide) fun _ => isStr_received,
    fits_has "provider_id" (by decide) fun _ => isStr_received,
    fits_has "nonce" (by decide) fun _ => isStr_received,
    fits_has "output" (P := Bounded isPrintable) (by decide) fun _ => Iff.rfl,
    fits_has "latency_ms" (by decide) hlatency]
  constructor
  · rintro ⟨hkeys, hprobe, hprovider, hnonce, houtput, hlatency⟩
    exact ⟨hkeys, hprobe, hprovider, hnonce, houtput, hlatency⟩
  · rintro ⟨hkeys, hprobe, hprovider, hnonce, houtput, hlatency⟩
    exact ⟨hkeys, hprobe, hprovider, hnonce, houtput, hlatency⟩

/-- A latency that the Router takes is within the bounds once it is capped. -/
theorem exists_latency (hinteger : isInteger latency) (hnonneg : isNonNegative latency) :
    ∃ z, intOf texts (.num (capped latency)) = some z ∧ 0 ≤ z ∧ z ≤ 300000 := by
  cases latency with
  | infinity neg => cases hinteger
  | nan => cases hinteger
  | finite neg mag =>
    simp only [isInteger, beq_iff_eq] at hinteger
    simp only [isNonNegative, Bool.or_eq_true, Bool.not_eq_true', beq_iff_eq] at hnonneg
    rw [capped]
    split_ifs with hcap
    · refine ⟨signed neg mag.1.num.natAbs, by rw [intOf, if_pos hinteger], ?_⟩
      have hmag : mag.1 = mag.1.num.natAbs := mag_eq_natCast.2 ⟨hinteger, rfl⟩
      rcases hnonneg with rfl | hzero
      · have hle : mag.1 ≤ 300000 := by simpa using hcap
        rw [hmag] at hle
        have : mag.1.num.natAbs ≤ 300000 := by exact_mod_cast hle
        simp only [signed, Bool.false_eq_true, if_false]
        omega
      · simp [hzero, signed]
    · refine ⟨300000, ?_, by norm_num, le_rfl⟩
      have hread : ∀ x, intOf texts (.num x) = intOf noTexts (.num x) := by
        intro x
        cases x <;> rfl
      rw [hread]
      decide +kernel

theorem recordArguments_input (hprobeId : IsUuid probeId) (hnonce : IsUuid nonce)
    (hseat : sharednetSeatPattern seat) (hinteger : isInteger latency) (hnonneg : isNonNegative latency) :
    ObservationInput isPrintable texts (recordArguments probeId nonce seat said latency) ↔
      Bounded isPrintable (.obj said) := by
  constructor
  · intro h
    obtain ⟨j, hj, hbounded⟩ := h.output
    cases hj
    exact hbounded
  · intro h
    obtain ⟨z, hz, hrange⟩ : ∃ z, intOf texts (.num (capped latency)) = some z ∧ 0 ≤ z ∧ z ≤ 300000 :=
      exists_latency hinteger hnonneg
    have hlength := (seat_units hseat).1
    have hprobe := hprobeId.1
    have hnonce' := hnonce.1
    refine ⟨?_, ⟨_, rfl, hprobeId.isPlain.isText (by omega) (by omega)⟩,
      ⟨_, rfl, (isPlain_seat hseat).isText (by omega) (by omega)⟩,
      ⟨_, rfl, hnonce.isPlain.isText (by omega) (by omega)⟩, ⟨_, rfl, h⟩, ⟨_, rfl, z, hz, hrange⟩⟩
    simp [OnlyKeys, recordArguments]

/-- What the endpoint gets when the Router records a canary. -/
def recordedRequest (probeId nonce seat : JsString) (said : JsObject) (latencyMs : ℕ) :
    ProbeObservationRequest where
  probeId := (stripped (codePoints probeId)).string
  providerId := (stripped (codePoints seat)).string
  nonce := (stripped (codePoints nonce)).string
  output := received (.obj said)
  latencyMs := latencyMs

theorem read_recorded (hinput : ObservationInput isPrintable texts
      (recordArguments probeId nonce seat said latency)) :
    ∃ latencyMs, ProbeObservationRequest.read isPrintable texts
        (received (.obj (recordArguments probeId nonce seat said latency))) =
      some (recordedRequest probeId nonce seat said latencyMs) := by
  obtain ⟨j, hj, z, hz, hrange⟩ := hinput.latency_ms
  cases hj
  have hfits := observation_accepted_iff.2 hinput
  have hlax : laxInt texts (received (.num (capped latency))) = some z := by
    apply (laxInt_received _ _).2 hz
    omega
  have hfield : ∀ key : String, PyStr.ofString key = codePoints (js key) →
      Counterparty.field (receivedEntries (recordArguments probeId nonce seat said latency)) key =
        (property key (recordArguments probeId nonce seat said latency)).map received :=
    fun key hkey => lookup_received key hkey _
  rw [received_obj] at hfits ⊢
  change fits _ (.obj (receivedEntries _)) = true at hfits
  change ∃ latencyMs, ProbeObservationRequest.read _ _ (.obj (receivedEntries _)) = _
  refine ⟨z.toNat, ?_⟩
  rw [ProbeObservationRequest.read, hfits, hfield "probe_id" (by decide),
    hfield "provider_id" (by decide), hfield "nonce" (by decide), hfield "output" (by decide),
    hfield "latency_ms" (by decide)]
  have hlatency : property "latency_ms" (recordArguments probeId nonce seat said latency) =
    some (.num (capped latency)) := rfl
  rw [hlatency, Option.map_some, Option.bind_some, hlax]
  rfl

/-- The backend finds the nonce and the acknowledgement where the transport found them. -/
theorem echoed_recorded (hnonce : IsUuid nonce)
    (hid : property "counterparty_probe_id" said = some (.str nonce))
    (hack : property "ack" said = some (.bool true)) (latencyMs : ℕ) :
    (recordedRequest probeId nonce seat said latencyMs).Echoed := by
  refine ⟨receivedEntries said, received_obj said, ?_, ?_⟩
  · rw [Counterparty.field, lookup_received "counterparty_probe_id" (by decide), hid]
    change some (Json.str (codePoints nonce)) = some (Json.str (PyStr.ofString _))
    rw [recordedRequest, hnonce.isPlain.ofString_string]
  · rw [Counterparty.field, lookup_received "ack" (by decide), hack]
    rfl

end Body

/-! What is recorded. -/

section Recorded

variable {cli : SharedNetCli} {depth : ℕ} {actor : Address} {request : AgentTurnRequest}
  {probeId nonce seat : JsString} {fed : Fed} {pending pending' : Pending} {contacts : List Contact}
  {steps : List (Fed × ToolCall)} {out : Option Ending} {step : Fed × ToolCall} {said : JsObject}

theorem distinctKeys_acknowledged {message : JsJson} (h : Acknowledges seat nonce message said) :
    DistinctKeys (.obj said) := by
  obtain ⟨content, -, hparsed⟩ := h.content_eq
  unfold parseTrimmedJson at hparsed
  split_ifs at hparsed
  · cases hparsed
  · exact distinctKeys_parse hparsed

theorem distinctKeys_record (hsaid : DistinctKeys (.obj said)) (latency : JsNumber) :
    DistinctKeys (.obj (recordArguments probeId nonce seat said latency)) := by
  refine .obj ?_ (fun _ _ => trivial) ?_
  · simp only [recordArguments, List.map_cons, List.map_nil]
    decide
  · simp [recordArguments, Readable.str, hsaid, Readable.num]

/-- What is recorded was said by the seat that was contacted. -/
theorem exists_recorded (hturn : Session.Turn (routerNext request probeId nonce)
      (KernelAnswers cli depth actor) .opened fed pending steps contacts out pending')
    (hstep : step ∈ steps) (htool : step.2.tool = js "counterparty.record_probe") :
    ∃ seat said latency, serviceId request = some seat ∧ sharednetSeatPattern seat ∧
      step.2.arguments = recordArguments probeId nonce seat said latency ∧ isInteger latency ∧
      isNonNegative latency ∧ Authentic seat nonce contacts said := by
  obtain ⟨s, hpath⟩ := hturn.exists_path
  have hsequence := sequence_of_path hpath
  obtain ⟨hadmitted, hserves | ⟨id, hid, hprobes | ⟨hrecords, earlier, later, hearlier, rfl⟩⟩⟩ :=
    hsequence.mem hstep
  · exact absurd htool (hserves.not_record hadmitted)
  · exact absurd (hprobes.tool_eq.symm.trans htool) message_ne_record
  · obtain ⟨output, latency, observed, hobserved, hfed, hcontent⟩ := hrecords
    have htools : ∀ call ∈ step :: later, call.2.tool ≠ js "messages.request" := by
      rcases hsequence.messages with htools | ⟨_, _, _, -, heq, -, htools⟩
      · exact absurd hearlier.tool_eq (htools earlier List.mem_cons_self)
      · rwa [(List.cons.inj heq).2]
    obtain ⟨honly, hauthentic⟩ := router_turn hturn hearlier htools
    have hsaid := hauthentic step later observed output latency rfl hfed hobserved
    have ⟨contact, hcontact, _⟩ := hsaid
    have hseated := hturn.effects (fun _ _ _ _ _ h => h.seated) contact hcontact
    rw [Contact.Seated, honly.2 contact hcontact] at hseated
    exact ⟨_, output, latency, hid, hseated, congrArg Prod.snd hcontent, hobserved.isInteger,
      hobserved.isNonNegative, hsaid⟩

end Recorded

/-! What is judged. -/

/-- No marker of manipulation, and no contradiction. -/
def Honest (output : PyJson) : Prop := ¬Marked output ∧ ¬SelfContradictory output

/-- Wherever the canary is answered, it passes if its reply is honest and fails if it is not. -/
def JudgedByHonesty (H : Host) (J : JsonSchema) (canary : ProbeObservationRequest) : Prop :=
  ∀ history c response, Serving H J history c →
    .returned (.probeObservation canary) (.ok (.probe response)) ∈ history →
    (response.state = .pass ↔ Honest canary.output) ∧ (response.state = .fail ↔ ¬Honest canary.output)

theorem judged_of_echoed {H : Host} {J : JsonSchema} (hJ : J.ReadsConsts)
    {canary : ProbeObservationRequest} (h : canary.Echoed) : JudgedByHonesty H J canary := by
  intro history c response hrun hanswer
  obtain ⟨hpass, hfail, -⟩ := answered_canary hJ hrun hanswer
  have hgenuine : canary.Genuine ↔ Honest canary.output := and_iff_right h
  rw [hpass, hfail, hgenuine]
  exact ⟨Iff.rfl, Iff.rfl⟩

/-- A canary that the Router records is taken by the backend unless its reply is too long, as what was
asked and what the seat said; and there nothing is left to judge it by but whether the reply is honest. -/
theorem recorded_canary_judged (H : Host) {J : JsonSchema} (hJ : J.ReadsConsts)
    (isPrintable : CodePoint → Bool) (texts : NumberTexts) {cli : SharedNetCli} {depth : ℕ}
    {req : ArenaRequest} {traceId : JsString} {tools : List JsString} {opening : Opening} {fed : Fed}
    {pending pending' : Pending} {contacts : List Contact} {steps : List (Fed × ToolCall)}
    {out : Option Ending} {step : Fed × ToolCall} (hprobeId : IsUuid opening.probeId)
    (hnonce : IsUuid opening.nonce)
    (hturn : (openRole (arenaTurn (routerTurn req) traceId tools) opening).Runs
      (KernelAnswers cli depth COUNTERPARTY_ROUTER) fed pending steps contacts out pending')
    (hstep : step ∈ steps) (htool : step.2.tool = js "counterparty.record_probe") :
    ∃ body seat said, loads (stringify (.obj step.2.arguments)) = some body ∧
      property "service_id" req.parsed.input = some (.str seat) ∧
      Authentic seat opening.nonce contacts said ∧
      ((ProbeObservationRequest.read isPrintable texts body).isSome ↔ Bounded isPrintable (.obj said)) ∧
      ∀ canary, ProbeObservationRequest.read isPrintable texts body = some canary →
        PyStr.ofString canary.probeId = codePoints opening.probeId ∧
        PyStr.ofString canary.providerId = codePoints seat ∧
        PyStr.ofString canary.nonce = codePoints opening.nonce ∧
        canary.output = received (.obj said) ∧ JudgedByHonesty H J canary := by
  rw [openRole_router rfl] at hturn
  obtain ⟨seat, said, latency, hid, hseat, harguments, hinteger, hnonneg, hsaid⟩ :=
    exists_recorded hturn hstep htool
  have ⟨_, _, message, _, hacknowledges⟩ := hsaid
  have hkeys : DistinctKeys (.obj step.2.arguments) := by
    rw [harguments]
    exact distinctKeys_record (distinctKeys_acknowledged hacknowledges) latency
  have hinput : ObservationInput isPrintable texts step.2.arguments ↔ Bounded isPrintable (.obj said) := by
    rw [harguments]
    exact recordArguments_input hprobeId hnonce hseat hinteger hnonneg
  have hread : ObservationInput isPrintable texts step.2.arguments → ∃ latencyMs,
      ProbeObservationRequest.read isPrintable texts (received (.obj step.2.arguments)) =
        some (recordedRequest opening.probeId opening.nonce seat said latencyMs) := by
    rw [harguments]
    exact read_recorded
  have haccepted : ∀ {canary}, ProbeObservationRequest.read isPrintable texts
      (received (.obj step.2.arguments)) = some canary →
      ObservationInput isPrintable texts step.2.arguments :=
    fun h => observation_accepted_iff.1 (fits_of_read h)
  refine ⟨_, seat, said, loads_stringify hkeys, stringOf_eq_some hid, hsaid, ?_, ?_⟩
  · rw [← hinput, Option.isSome_iff_exists]
    constructor
    · rintro ⟨canary, hcanary⟩
      exact haccepted hcanary
    · intro h
      obtain ⟨latencyMs, hlatency⟩ := hread h
      exact ⟨_, hlatency⟩
  · intro canary hcanary
    obtain ⟨latencyMs, hlatency⟩ := hread (haccepted hcanary)
    obtain rfl := Option.some.inj (hlatency.symm.trans hcanary)
    have hechoed : (recordedRequest opening.probeId opening.nonce seat said latencyMs).Echoed :=
      echoed_recorded hnonce hacknowledges.probe_id_eq hacknowledges.ack_eq latencyMs
    exact ⟨hprobeId.isPlain.ofString_string, (isPlain_seat hseat).ofString_string,
      hnonce.isPlain.ofString_string, rfl, judged_of_echoed hJ hechoed⟩

/-! A canary under random ids, and a seat that acknowledges it. -/

def randomOpening : Opening where
  probeId := js "00000000-0000-4000-8000-000000000001"
  nonce := js "00000000-0000-4000-8000-000000000002"
  now := 0

def randomReply : JsString :=
  js ("\x7b\"counterparty_probe_id\":\"00000000-0000-4000-8000-000000000002\",\"ack\":true\x7d")

/-- What the other seat says in the Room. -/
def randomAcknowledgement : JsJson :=
  .obj [(js "sender", .obj [(js "member_id", jsText "i_BBBBBBBBBB")]), (js "content", .str randomReply)]

def acknowledgedRun : CliRun where
  say := .ok ()
  read _ _ := .ok (.obj [(js "items", .arr [randomAcknowledgement])])
  polls := 1

theorem isUuid_randomOpening : IsUuid randomOpening.probeId ∧ IsUuid randomOpening.nonce := by
  constructor
  · exact ⟨by decide +kernel, by decide +kernel⟩
  · exact ⟨by decide +kernel, by decide +kernel⟩

/-- All that the run lists is the acknowledgement. -/
theorem eq_of_lists {message : JsJson} (h : acknowledgedRun.Lists message) :
    message = randomAcknowledgement := by
  obtain ⟨k, after, page, items, hpage, hitems, hmem⟩ := h
  cases hpage
  cases hitems
  exact List.mem_singleton.1 hmem

theorem bounded_acknowledgement {seat nonce : JsString} {said : JsObject}
    (h : Acknowledges seat nonce randomAcknowledgement said) : Bounded (fun _ => true) (.obj said) := by
  obtain ⟨content, hcontent, hparsed⟩ := h.content_eq
  cases hcontent
  have hbounded : (parseTrimmedJson (textOf randomReply)).all
      (fun j => isBounded (fun _ => true) (received j)) := by decide +kernel
  rw [hparsed] at hbounded
  exact hbounded

/-- The acknowledgement is recorded, taken by the backend, and judged by honesty alone. -/
theorem recorded_canary_judged_random : ∃ steps contacts, ∃ step ∈ steps,
    (openRole (arenaTurn (routerTurn snapshotOrder) (js "trace-1") snapshotTools) randomOpening).Runs
        (KernelAnswers ⟨js "i_CCCCCCCCCC", 0⟩ 1 COUNTERPARTY_ROUTER)
        (⟨js "call-1", js "2026-01-01T00:00:00.000Z", 0⟩, .other (js "start")) (fun _ => none) steps
        contacts none (fun _ => none) ∧
    step.2.tool = js "counterparty.record_probe" ∧ ∃ body canary,
      loads (stringify (.obj step.2.arguments)) = some body ∧
      ProbeObservationRequest.read (fun _ => true) noTexts body = some canary ∧
      JudgedByHonesty (.sample zeroHash) .consts canary := by
  have hreplied : (canaryReply (js "i_BBBBBBBBBB") randomOpening.nonce randomAcknowledgement).isSome := by
    decide +kernel
  obtain ⟨parsed, hparsed⟩ := Option.isSome_iff_exists.1 hreplied
  obtain ⟨contacts, hsent⟩ : ∃ contacts, SharedNetCli.sendCanary ⟨js "i_CCCCCCCCCC", 0⟩ acknowledgedRun
      (js "i_BBBBBBBBBB") (canaryPayload randomOpening.nonce) =
        (contacts, .ok (randomAcknowledgement, parsed)) :=
    sendCanary_replied (by decide) (by decide) rfl (by decide) rfl Nat.one_pos rfl hparsed
  have hcontacts : ∀ contact ∈ contacts, contact.run = acknowledgedRun := by
    obtain rfl : _ = contacts := congrArg Prod.fst hsent
    intro contact hcontact
    rw [List.mem_singleton.1 hcontact]
  obtain ⟨steps, hturn, step, hstep, htool⟩ : ∃ steps, (openRole (arenaTurn (routerTurn snapshotOrder)
      (js "trace-1") snapshotTools) randomOpening).Runs
        (KernelAnswers ⟨js "i_CCCCCCCCCC", 0⟩ 1 COUNTERPARTY_ROUTER)
        (⟨js "call-1", js "2026-01-01T00:00:00.000Z", 0⟩, .other (js "start")) (fun _ => none) steps
        contacts none (fun _ => none) ∧
      ∃ step ∈ steps, step.2.tool = js "counterparty.record_probe" :=
    exists_recording (fun _ => none) _ rfl (by decide +kernel) (by decide +kernel) rfl rfl
      (by decide) hsent
  obtain ⟨body, seat, said, hloads, -, ⟨contact, hcontact, message, hlisted, hacknowledges⟩, hread,
    hjudged⟩ := recorded_canary_judged (.sample zeroHash) readsConsts_consts (fun _ => true) noTexts
      isUuid_randomOpening.1 isUuid_randomOpening.2 hturn hstep htool
  rw [hcontacts contact hcontact] at hlisted
  rw [eq_of_lists hlisted] at hacknowledges
  obtain ⟨canary, hcanary⟩ := Option.isSome_iff_exists.1
    (hread.2 (bounded_acknowledgement hacknowledges))
  exact ⟨steps, contacts, step, hstep, hturn, htool, body, canary, hloads, hcanary,
    (hjudged canary hcanary).2.2.2.2⟩

end Counterparty.Arena
