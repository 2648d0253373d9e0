import Counterparty.App
import Counterparty.Library.Projection

/-! What the gate lets through, and what is left of the application behind it. -/
namespace Counterparty.App

open Json Interleave

variable {H : Host} {J : JsonSchema} {cfg : Config} {req : HttpRequest}

/-! The gate. -/

/-- The request carries the token of the configuration, which is long enough. -/
def Config.Trusts (cfg : Config) (req : HttpRequest) : Prop :=
  cfg.internalTokenValid = true ∧ req.internalToken = cfg.internalToken

instance (cfg : Config) : DecidablePred cfg.Trusts := fun _ => inferInstanceAs (Decidable (_ ∧ _))

/-- `response.status_code` -/
def HttpResponse.status : HttpResponse → ℕ
  | .refused status _ | .turnedDown status => status
  | .serverError => 500
  | _ => 200

theorem compareDigest_eq_true {a b : PyStr} (h : compareDigest a b = .ok true) : a = b := by
  unfold compareDigest at h
  split_ifs at h
  exact eq_of_beq (Except.ok.inj h)

theorem token_eq {supplied configured : Option PyStr} (hvalid : configured.any fun t => 32 ≤ t.length)
    (h : supplied.getD [] = configured.getD []) : supplied = configured := by
  cases configured with
  | none => cases hvalid
  | some token =>
    cases supplied with
    | some supplied => exact congrArg some h
    | none =>
      have hempty : token = [] := h.symm
      subst hempty
      simp at hvalid

/-- What is asked for a token is let through with the right one only, and else refused. -/
theorem checkToken_cases (hv1 : req.IsV1) (hauth : cfg.requireInternalAuth = true) :
    checkToken cfg req = .ok () ∧ cfg.Trusts req ∨
      ∃ response, checkToken cfg req = .error response ∧
        (response.status = 401 ∨ response.status = 500 ∨ response.status = 503) := by
  unfold checkToken
  rw [if_pos ⟨hv1, hauth⟩]
  by_cases hvalid : cfg.internalTokenValid
  · rw [if_neg (not_not_intro hvalid)]
    cases hsame : compareDigest (req.internalToken.getD []) (cfg.internalToken.getD []) with
    | error e => exact .inr ⟨_, rfl, .inr (.inl rfl)⟩
    | ok same =>
      cases same with
      | true => exact .inl ⟨rfl, hvalid, token_eq hvalid (compareDigest_eq_true hsame)⟩
      | false => exact .inr ⟨_, rfl, .inl rfl⟩
  · rw [if_pos hvalid]
    exact .inr ⟨_, rfl, .inr (.inr rfl)⟩

/-- The token is looked at before the length, and after the limit on lengths and the path are known. -/
theorem requestLimits_cases (hv1 : req.IsV1) (hauth : cfg.requireInternalAuth = true) :
    cfg.Trusts req ∨ ∃ response, requestLimits cfg req = .error response ∧
      (response.status = 401 ∨ response.status = 500 ∨ response.status = 503) := by
  unfold requestLimits
  cases cfg.maxBodyBytes with
  | none => exact .inr ⟨_, rfl, .inr (.inl rfl)⟩
  | some maxBytes =>
    unfold checkUrl
    split_ifs with hbad
    · exact .inr ⟨_, rfl, .inr (.inl rfl)⟩
    · rcases checkToken_cases hv1 hauth with ⟨-, htrusts⟩ | ⟨response, hresponse, hstatus⟩
      · exact .inl htrusts
      · exact .inr ⟨response, by rw [hresponse]; rfl, hstatus⟩

theorem checkToken_error {response : HttpResponse} (h : checkToken cfg req = .error response) :
    400 ≤ response.status := by
  by_cases hguarded : req.IsV1 ∧ cfg.requireInternalAuth = true
  · rcases checkToken_cases hguarded.1 hguarded.2 with ⟨hok, -⟩ | ⟨response', herror, hstatus⟩
    · rw [hok] at h
      cases h
    · cases h.symm.trans herror
      omega
  · rw [checkToken, if_neg hguarded] at h
    cases h

theorem checkLength_error {maxBytes : ℤ} {raw : PyStr} {response : HttpResponse}
    (h : checkLength maxBytes raw = .error response) : 400 ≤ response.status := by
  unfold checkLength at h
  split_ifs at h with hdigit
  cases hraw : contentLength raw with
  | error e =>
    rw [hraw] at h
    cases h
    decide
  | ok length =>
    rw [hraw] at h
    simp only [orServerError, bind, Except.bind] at h
    split_ifs at h
    cases h
    decide

/-- Whatever the gate does not let through is told so. -/
theorem requestLimits_error {response : HttpResponse} (h : requestLimits cfg req = .error response) :
    400 ≤ response.status := by
  unfold requestLimits at h
  cases hmax : cfg.maxBodyBytes with
  | none =>
    rw [hmax] at h
    cases h
    decide
  | some maxBytes =>
    rw [hmax] at h
    unfold checkUrl at h
    split_ifs at h with hbad
    · cases h
      decide
    · cases hchecked : checkToken cfg req with
      | error response' =>
        simp only [hchecked, bind, Except.bind] at h
        cases h
        exact checkToken_error hchecked
      | ok u =>
        simp only [hchecked, bind, Except.bind] at h
        exact checkLength_error h

/-! What the gate takes for the path. -/

/-- The Host header is an authority and nothing more. -/
def HttpRequest.HostPlain (req : HttpRequest) : Prop :=
  ∀ c ∈ (req.host.getD []).text, inAuthority c = true

instance (req : HttpRequest) : Decidable req.HostPlain := inferInstanceAs (Decidable (∀ c ∈ _, _))

/-- Behind a plain authority the gate sees the path that is routed. -/
theorem isV1_of_path (hplain : req.HostPlain) (hpath : codes "/v1/" <+: codes req.path) :
    req.IsV1 := by
  obtain ⟨rest, hrest⟩ := hpath
  have hv1 : ∀ c ∈ codes "/v1/", inPath c = true := by decide
  have hkept : (codes "/v1/").filter (fun c => !(codes "\t\n\r").contains c) = codes "/v1/" := by decide
  rw [HttpRequest.IsV1, HttpRequest.urlPath, HttpRequest.url, ← hrest, List.filter_append,
    List.filter_append, hkept, List.dropWhile_append_of_pos fun c hc => hplain c (List.mem_of_mem_filter hc)]
  change codes "/v1/" <+: List.takeWhile inPath (codes "/v1/" ++ _)
  rw [List.takeWhile_append_of_pos hv1]
  exact List.prefix_append _ _

theorem path_of_service {r : ServiceRequest} (h : req.routed = .service r) :
    codes "/v1/" <+: codes req.path := by
  have hat := req.routed_at
  rw [h] at hat
  cases r with
  | trustSnapshot _ =>
    have hpath : req.path = "/v1/trust-snapshot" := hat
    rw [hpath]
    decide
  | probeObservation _ =>
    have hpath : req.path = "/v1/probe-observation" := hat
    rw [hpath]
    decide
  | verifyDelivery _ _ =>
    have hpath : req.path = "/v1/verify-delivery" := hat
    rw [hpath]
    decide
  | bestExecution _ =>
    have hpath : req.path = "/v1/best-execution" := hat
    rw [hpath]
    decide

/-! The application as a front. -/

/-- What is passed on to the endpoints that write. -/
def admitted (cfg : Config) (req : HttpRequest) : Option ServiceRequest :=
  match requestLimits cfg req, req.routed with
  | .ok (), .service r => some r
  | _, _ => none

def readEndpoint : Routed → Reading
  | .health => health
  | .agentCard => .done .agentCard
  | .auditEvents limit => auditEvents limit
  | .auditReceipt receipt => auditReceipt receipt
  | .turnedDown status => .done (.turnedDown status)
  -- these write
  | .service _ => .done .serverError

def readOnly (cfg : Config) (req : HttpRequest) : Reading :=
  match requestLimits cfg req with
  | .ok () => readEndpoint req.routed
  | .error response => .done response

def front (cfg : Config) : Front ServiceRequest HttpRequest Served HttpResponse ReadOp.Ret where
  accepts := admitted cfg
  present _ := present
  reads := readOnly cfg

theorem app_eq (cfg : Config) (H : Host) (J : JsonSchema) :
    app cfg H J = (front cfg).program (serve H J) := by
  funext req
  unfold app Front.program front
  dsimp only
  cases hgate : requestLimits cfg req with
  | error response => simp only [admitted, readOnly, hgate, Prog.reading]
  | ok u => cases hrouted : req.routed <;>
      simp only [admitted, readOnly, hgate, hrouted, callNext, readEndpoint, Prog.reading]

theorem admitted_eq_some {r : ServiceRequest} (h : admitted cfg req = some r) :
    requestLimits cfg req = .ok () ∧ req.routed = .service r := by
  unfold admitted at h
  split at h
  · rename_i hgate hrouted
    exact ⟨hgate, hrouted.trans (congrArg _ (Option.some.inj h))⟩
  · cases h

/-- With the gate in place, what is passed on carries the token, if the gate sees where it goes. -/
theorem trusts_of_admitted {r : ServiceRequest} (h : admitted cfg req = some r)
    (hauth : cfg.requireInternalAuth = true) (hplain : req.HostPlain) : cfg.Trusts req := by
  obtain ⟨hgate, hrouted⟩ := admitted_eq_some h
  have hv1 := isV1_of_path hplain (path_of_service hrouted)
  rcases requestLimits_cases hv1 hauth with htrusts | ⟨response, herror, -⟩
  · exact htrusts
  · rw [hgate] at herror
    cases herror

/-- If the gate does not see it, it is passed on to whoever asks. -/
theorem admitted_of_hidden {r : ServiceRequest} {maxBytes : ℤ} (hrouted : req.routed = .service r)
    (hmax : cfg.maxBodyBytes = some maxBytes) (hurl : checkUrl cfg req = .ok ())
    (hlength : checkLength maxBytes (req.contentLength.getD []) = .ok ()) (hhidden : ¬req.IsV1) :
    admitted cfg req = some r := by
  have htoken : checkToken cfg req = .ok () := if_neg fun h => hhidden h.1
  have hgate : requestLimits cfg req = .ok () := by
    unfold requestLimits
    rw [hmax]
    dsimp only
    rw [hurl, htoken, hlength]
    rfl
  rw [admitted, hgate, hrouted]

/-! A snapshot that is asked for with the token. -/

def sampleToken : PyStr := List.replicate 32 97

def sampleConfig : Config := ⟨some sampleToken, true, some 262144, fun _ => false⟩

def snapshotPost : HttpRequest where
  path := "/v1/trust-snapshot"
  host := some (.ofString "127.0.0.1:8000")
  internalToken := some sampleToken
  contentLength := none
  routed := .service (.trustSnapshot ⟨"seller", "general"⟩)
  routed_at := rfl

theorem requestLimits_sample (htoken : req.internalToken = some sampleToken)
    (hlength : req.contentLength = none) : requestLimits sampleConfig req = .ok () := by
  have hchecked : checkToken sampleConfig req = .ok () := by
    unfold checkToken
    split_ifs with hguarded hvalid
    · rw [htoken]
      rfl
    · exact absurd (by decide) hvalid
    · rfl
  simp only [requestLimits, sampleConfig, hlength]
  change (checkToken sampleConfig req >>= fun _ => checkLength 262144 []) = .ok ()
  rw [hchecked]
  rfl

/-- The same request without the token, behind a Host header that ends the path before it begins. -/
example : ¬HttpRequest.IsV1
    { snapshotPost with host := some (.ofString "x?"), internalToken := none } := by decide

/-- The store without faults. -/
def quietAnswer (H : Host) (op : StoreOp) (st : Store) : op.Ret × Store :=
  op.exec H (fun _ => false) st

theorem exec_quietAnswer (H : Host) (op : StoreOp ⊕ ReadOp) (st : Store) :
    Exec H op st (frontAnswer (quietAnswer H) (ReadOp.read H) op st).1
      (frontAnswer (quietAnswer H) (ReadOp.read H) op st).2 :=
  frontExec_answer (fun _ _ => ⟨_, rfl⟩) _ op st

theorem eval_snapshotPost (H : Host) (J : JsonSchema) : ∃ served st,
    (app sampleConfig H J snapshotPost).eval (frontAnswer (quietAnswer H) (ReadOp.read H)) .empty =
      (.service served, st) := by
  obtain ⟨event, st, happend⟩ := (commits_empty H).appendAudit "trust_snapshot"
    (snapshotPayload H ⟨"seller", "general"⟩ (reputation Store.empty.db "seller" "general").1
      (protocolReputation Store.empty.db "seller").1)
  obtain ⟨response, hresponse⟩ := trustSnapshot_returns happend
  have hserved : (serve H J (.trustSnapshot ⟨"seller", "general"⟩)).eval (quietAnswer H) .empty =
      (.ok (.snapshot response), st) := by
    change Endpoint.run H (fun _ => false) _ _ = _
    rw [serve, Endpoint.run_bind, hresponse]
    rfl
  refine ⟨.snapshot response, st, ?_⟩
  rw [app, requestLimits_sample rfl rfl]
  change Prog.eval _ ((serve H J (.trustSnapshot ⟨"seller", "general"⟩)).passed >>= _) _ = _
  rw [Prog.eval_bind, eval_passed, hserved]
  rfl

/-- It is answered with a receipt. -/
theorem exists_snapshot_acknowledged (H : Host) (J : JsonSchema) :
    ∃ (E : Trace (Exec H) (app sampleConfig H J) Store.empty) (b : ℕ) (served : ServiceResponse)
      (st : Store), E.Answers 0 0 b snapshotPost (.service served) ∧
        E.config E.length = ⟨st, fun _ => none⟩ := by
  obtain ⟨served, st, heval⟩ := eval_snapshotPost H J
  obtain ⟨E, -, hlast, b, hanswers⟩ := Trace.exists_answers (exec_quietAnswer H)
    (Trace.nil (Exec H) (app sampleConfig H J) Store.empty snapshotPost) rfl 0 snapshotPost
  rw [heval] at hlast hanswers
  exact ⟨E, b, served, st, hanswers, hlast⟩

/-! Runs. -/

variable {history : List (Event HttpRequest (EitherRet StoreOp.Ret ReadOp.Ret) HttpResponse)}
  {c : Interleave.Config HttpRequest (EitherRet StoreOp.Ret ReadOp.Ret) HttpResponse Store}

theorem run_behind (hrun : Run (Exec H) (app cfg H J) Store.empty history c) :
    ∃ served c₀, Serving H J served c₀ ∧ (front cfg).Behind history served ∧
      (front cfg).Related c c₀ := by
  rw [app_eq] at hrun
  exact Front.run_behind hrun

/-- What a request that is passed on is answered is an answer of the service. -/
theorem answer_of_admitted {response : HttpResponse} {r : ServiceRequest}
    {served : List (Event ServiceRequest StoreOp.Ret Served)}
    (hbehind : (front cfg).Behind history served) (hreturned : .returned req response ∈ history)
    (hadmitted : admitted cfg req = some r) :
    ∃ result, .returned r result ∈ served ∧ response = present result := by
  obtain ⟨e, he, hshows⟩ := hbehind.exists_seen hreturned hadmitted
  cases hshows with
  | returned haccepts result =>
    cases haccepts.symm.trans hadmitted
    exact ⟨result, he, rfl⟩

/-- The response is none of the service's. -/
def HttpResponse.NotServed (response : HttpResponse) : Prop := ∀ served, response ≠ .service served

theorem HttpResponse.NotServed.of_status {response : HttpResponse} (h : 400 ≤ response.status) :
    response.NotServed := by
  rintro served rfl
  change 400 ≤ 200 at h
  omega

theorem ends_unlessRaised {α : Type} {result : Except StoreError α} {next : α → Reading}
    (h : ∀ a, (next a).Ends HttpResponse.NotServed) :
    (unlessRaised result next).Ends HttpResponse.NotServed := by
  cases result with
  | error e => exact .of_status (by decide)
  | ok a => exact h a

theorem ends_foundEvent (event : Option AuditEvent) :
    (foundEvent event).Ends HttpResponse.NotServed := by
  cases event with
  | none => exact .of_status (by decide)
  | some event =>
    intro valid
    apply ends_unlessRaised
    intro valid served hserved
    cases hserved

theorem ends_readEndpoint (routed : Routed) :
    (readEndpoint routed).Ends HttpResponse.NotServed := by
  cases routed with
  | health =>
    intro head served hserved
    cases hserved
  | agentCard =>
    intro served hserved
    cases hserved
  | service r => exact .of_status (by decide)
  | auditEvents limit =>
    intro valid
    apply ends_unlessRaised
    intro valid events
    apply ends_unlessRaised
    intro events served hserved
    cases hserved
  | auditReceipt receipt =>
    change (auditReceipt receipt).Ends _
    unfold auditReceipt
    split_ifs
    · intro event
      exact ends_unlessRaised ends_foundEvent
    · exact .of_status (by decide)
  | turnedDown status =>
    intro served hserved
    cases hserved

theorem ends_app (hnone : admitted cfg req = none) :
    (app cfg H J req).Ends HttpResponse.NotServed := by
  have hprogram : app cfg H J req = (readOnly cfg req).reading := by
    rw [app_eq, Front.program]
    have haccepts : (front cfg).accepts req = none := hnone
    rw [haccepts]
    rfl
  rw [hprogram]
  apply Prog.Ends.reading
  unfold readOnly
  cases hgate : requestLimits cfg req with
  | ok u => exact ends_readEndpoint req.routed
  | error response => exact .of_status (requestLimits_error hgate)

/-- Receipts are handed out for what is passed on only. -/
theorem exists_admitted {served : ServiceResponse}
    (hrun : Run (Exec H) (app cfg H J) Store.empty history c)
    (hreturned : .returned req (.service served) ∈ history) : ∃ r, admitted cfg req = some r := by
  cases hadmitted : admitted cfg req with
  | some r => exact ⟨r, rfl⟩
  | none =>
    have hends := hrun.returned
      (P := fun req p => admitted cfg req = none → p.Ends HttpResponse.NotServed)
      (fun req hnone => ends_app hnone) (fun req op next r h hnone => h hnone r) req _ hreturned
    exact absurd rfl (hends hadmitted served)

/-! Strangers. -/

/-- Only the state is read. -/
def IsRead : StoreOp ⊕ ReadOp → Prop
  | .inl _ => False
  | .inr _ => True

theorem performs_reading (p : Reading) : (p.reading : Responding).Performs IsRead := by
  induction p with
  | done response => trivial
  | call op next ih => exact ⟨trivial, ih⟩

/-- The request is for a path under `/v1/`. -/
def HttpRequest.UnderV1 (req : HttpRequest) : Prop := codes "/v1/" <+: codes req.path

instance (req : HttpRequest) : Decidable req.UnderV1 := inferInstanceAs (Decidable (_ <+: _))

/-- The request carries the token, or a Host header that is no authority. -/
def Config.MayPass (cfg : Config) (req : HttpRequest) : Prop := cfg.Trusts req ∨ ¬req.HostPlain

instance (cfg : Config) : DecidablePred cfg.MayPass := fun _ => inferInstanceAs (Decidable (_ ∨ _))

/-- What the request of a stranger is about: under `/v1/` it is refused, anywhere else it reads. -/
def Outside (cfg : Config) (req : HttpRequest) (p : Responding) : Prop :=
  ¬cfg.MayPass req →
    req.UnderV1 ∧ (∃ response, p = .done response ∧
      (response.status = 401 ∨ response.status = 500 ∨ response.status = 503)) ∨
    ¬req.UnderV1 ∧ p.Performs IsRead

theorem outside_app (hauth : cfg.requireInternalAuth = true) (req : HttpRequest) :
    Outside cfg req (app cfg H J req) := by
  intro hstranger
  obtain ⟨hstranger, hplain⟩ := not_or.1 hstranger
  have hplain := not_not.1 hplain
  by_cases hv1 : req.UnderV1
  · rcases requestLimits_cases (isV1_of_path hplain hv1) hauth with
      htrusts | ⟨response, hresponse, hstatus⟩
    · exact absurd htrusts hstranger
    · rw [app, hresponse]
      exact .inl ⟨hv1, response, rfl, hstatus⟩
  · refine .inr ⟨hv1, ?_⟩
    rw [app_eq, Front.program]
    cases hadmitted : (front cfg).accepts req with
    | none => exact performs_reading _
    | some r => exact absurd (trusts_of_admitted hadmitted hauth hplain) hstranger

theorem Outside.call {op : StoreOp ⊕ ReadOp} {next : EitherRet StoreOp.Ret ReadOp.Ret op → Responding}
    (h : Outside cfg req (.call op next)) (hstranger : ¬cfg.MayPass req) :
    IsRead op ∧ ¬req.UnderV1 ∧ ∀ r, (next r).Performs IsRead := by
  rcases h hstranger with ⟨-, response, hdone, -⟩ | ⟨hv1, hread, hnext⟩
  · cases hdone
  · exact ⟨hread, hv1, hnext⟩

theorem Outside.next {op : StoreOp ⊕ ReadOp} {next : EitherRet StoreOp.Ret ReadOp.Ret op → Responding}
    (h : Outside cfg req (.call op next)) (r : EitherRet StoreOp.Ret ReadOp.Ret op) :
    Outside cfg req (next r) := by
  intro hstranger
  obtain ⟨-, hv1, hnext⟩ := h.call hstranger
  exact .inr ⟨hv1, hnext r⟩

theorem IsRead.store_eq {op : StoreOp ⊕ ReadOp} {st st' : Store}
    {r : EitherRet StoreOp.Ret ReadOp.Ret op} (h : IsRead op) (hexec : Exec H op st r st') :
    st' = st := by
  cases op with
  | inl op => exact h.elim
  | inr op => exact hexec.2

/-- Strangers do not change what the others find. -/
theorem unwinding_mayPass (hauth : cfg.requireInternalAuth = true) :
    Unwinding (Exec H) (app cfg H J) Store.empty history cfg.MayPass fun _ s t => s = t where
  init := rfl
  quiet h _ := h
  own_call := by
    rintro past c i req op next r s _ hrun hhandler hexec - - rfl
    exact ⟨s, hexec, rfl⟩
  other_call := by
    rintro past c i req op next r s _ hrun hhandler hexec - hstranger rfl
    have houtside := hrun.handlers (P := Outside cfg) (outside_app hauth)
      (fun req op next r h => h.next r) i req _ hhandler
    exact (houtside.call hstranger).1.store_eq hexec

/-- With the gate in place, whoever sends a Host header that is an authority and does not have the token
is as good as absent: without his requests the run is still a run, to the same state and with the same
answers to everybody else; and he gets nothing but 401, 500 and 503 from what is under `/v1/`. -/
theorem strangers_shut_out (hauth : cfg.requireInternalAuth = true)
    (hrun : Run (Exec H) (app cfg H J) Store.empty history c) :
    Run (Exec H) (app cfg H J) Store.empty (history.filter fun e => cfg.MayPass e.request)
        ⟨c.store, ownHandlers cfg.MayPass c.handlers⟩ ∧
      ∀ req response, .returned req response ∈ history → req.UnderV1 → ¬cfg.MayPass req →
        response.status = 401 ∨ response.status = 500 ∨ response.status = 503 := by
  refine ⟨?_, ?_⟩
  · obtain ⟨t, hsame, hprojected⟩ := (unwinding_mayPass hauth).project hrun (List.Subset.refl _)
    rw [hsame]
    exact hprojected
  · intro req response hreturned hv1 hstranger
    have houtside := hrun.returned (P := Outside cfg) (outside_app hauth)
      (fun req op next r h => h.next r) req response hreturned
    rcases houtside hstranger with ⟨-, response', hdone, hstatus⟩ | ⟨hnot, -⟩
    · cases hdone
      exact hstatus
    · exact absurd hv1 hnot

/-- The same without a token. -/
def strangerPost : HttpRequest := { snapshotPost with internalToken := none }

theorem eval_strangerPost (H : Host) (J : JsonSchema) (st : Store) :
    (app sampleConfig H J strangerPost).eval (frontAnswer (quietAnswer H) (ReadOp.read H)) st =
      (.refused 401 "unauthorized ingress", st) := by
  have hgate : requestLimits sampleConfig strangerPost =
      .error (.refused 401 "unauthorized ingress") := rfl
  rw [app, hgate]
  rfl

/-- A stranger who comes after a snapshot. -/
theorem strangers_shut_out_unauthorized : ∃ history c,
    Run (Exec (.sample zeroHash)) (app sampleConfig (.sample zeroHash) .sample) Store.empty history c ∧
      .returned strangerPost (.refused 401 "unauthorized ingress") ∈ history ∧
      ¬sampleConfig.MayPass strangerPost ∧
      Run (Exec (.sample zeroHash)) (app sampleConfig (.sample zeroHash) .sample) Store.empty
        (history.filter fun e => sampleConfig.MayPass e.request)
        ⟨c.store, ownHandlers sampleConfig.MayPass c.handlers⟩ := by
  obtain ⟨E, -, -, st, -, hlast⟩ := exists_snapshot_acknowledged (.sample zeroHash) .sample
  obtain ⟨E', -, -, b, hanswers⟩ := E.exists_answers (exec_quietAnswer _) hlast 0 strangerPost
  rw [eval_strangerPost] at hanswers
  have hlength := hanswers.lt_length
  have hrun := E'.run (k := b + 1) (by omega)
  exact ⟨_, _, hrun, hanswers.mem, by decide, (strangers_shut_out rfl hrun).1⟩

end Counterparty.App
