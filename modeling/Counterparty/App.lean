import Counterparty.Library.Front
import Counterparty.PyValue
import Counterparty.Service

/-! The HTTP application: the gate before every endpoint, the endpoints that write, and those that
read. -/
namespace Counterparty

open Json Interleave

/-! What the endpoints read. -/

inductive ReadOp
  | verifyAudit
  | auditHead
  | getAuditEvent (receipt : String)
  | auditEvents (limit : ℤ)

@[reducible] def ReadOp.Ret : ReadOp → Type
  | .verifyAudit => Except StoreError Bool
  | .auditHead => AuditHead
  | .getAuditEvent _ => Except StoreError (Option AuditEvent)
  | .auditEvents _ => Except StoreError (List AuditEvent)

def ReadOp.read (H : Host) : (op : ReadOp) → Store → op.Ret
  | .verifyAudit, st => Counterparty.verifyAudit H st.db
  | .auditHead, st => Counterparty.auditHead st.db
  | .getAuditEvent receipt, st => Counterparty.getAuditEvent st.db receipt
  | .auditEvents limit, st => Counterparty.auditEvents st.db limit

namespace App

/-! Requests and responses. -/

/-- What FastAPI makes of a request: the endpoint it is for, with its parameters, or the status it is
turned down with. -/
inductive Routed
  | health
  | agentCard
  | service (req : ServiceRequest)
  | auditEvents (limit : ℤ)
  | auditReceipt (receipt : String)
  | turnedDown (status : ℕ)

/-- The paths of the endpoints, and the bounds of `Query(100, ge=1, le=1000)`. -/
def Routed.At (path : String) : Routed → Prop
  | .health => path = "/health"
  | .agentCard => path = "/.well-known/agent.json"
  | .service (.trustSnapshot _) => path = "/v1/trust-snapshot"
  | .service (.probeObservation _) => path = "/v1/probe-observation"
  | .service (.verifyDelivery _ _) => path = "/v1/verify-delivery"
  | .service (.bestExecution _) => path = "/v1/best-execution"
  | .auditEvents limit => path = "/v1/audit" ∧ 1 ≤ limit ∧ limit ≤ 1000
  | .auditReceipt receipt => path = "/v1/audit/" ++ receipt
  | .turnedDown _ => True

/-- A request with the headers that the application looks at. -/
structure HttpRequest where
  path : String
  host : Option PyStr
  internalToken : Option PyStr
  contentLength : Option PyStr
  routed : Routed
  routed_at : routed.At path

/-- What comes after `http://` in `request.url`: the Host header (the address of the server, without
one) and the path, from which `urlsplit` drops tabs and line ends. -/
def HttpRequest.url (req : HttpRequest) : Text :=
  ((req.host.getD []).text ++ codes req.path).filter fun c => !(codes "\t\n\r").contains c

/-- The authority ends where a path, a query or a fragment begins. -/
def inAuthority (c : ℕ) : Bool := !(codes "/?#").contains c

/-- A path ends where a query or a fragment begins. -/
def inPath (c : ℕ) : Bool := !(codes "?#").contains c

/-- `request.url.path` -/
def HttpRequest.urlPath (req : HttpRequest) : Text :=
  (req.url.dropWhile inAuthority).takeWhile inPath

/-- `request.url.path.startswith("/v1/")` -/
def HttpRequest.IsV1 (req : HttpRequest) : Prop := codes "/v1/" <+: req.urlPath

instance (req : HttpRequest) : Decidable req.IsV1 := inferInstanceAs (Decidable (_ <+: _))

structure HealthResponse where
  ok : Bool
  service : String
  version : String
  audit : AuditHead

inductive HttpResponse
  | health (response : HealthResponse)
  | agentCard
  | service (response : ServiceResponse)
  | auditEvents (valid : Bool) (events : List AuditEvent)
  | auditReceipt (valid : Bool) (event : AuditEvent)
  | refused (status : ℕ) (detail : String)
  | turnedDown (status : ℕ)
  | serverError

/-! The gate. -/

/-- What `create_app` is given, or finds in the environment. -/
structure Config where
  internalToken : Option PyStr
  requireInternalAuth : Bool
  /-- `int(os.getenv("COUNTERPARTY_MAX_BODY_BYTES", "262144"))`, unless it raises. -/
  maxBodyBytes : Option ℤ
  /-- The authorities that Python's `urlsplit` raises `ValueError` for. -/
  badAuthority : Text → Bool

def Config.internalTokenValid (cfg : Config) : Bool :=
  cfg.internalToken.any fun token => 32 ≤ token.length

/-- `hmac.compare_digest`, which takes no strings but ASCII. -/
def compareDigest (a b : PyStr) : Except PyError Bool :=
  if a.all (·.val < 128) && b.all (·.val < 128) then .ok (a == b) else .error .typeError

/-- `int(raw_len)`: no more than 4300 digits are converted. -/
def contentLength (raw : PyStr) : Except PyError ℕ :=
  if 4300 < raw.length then .error .valueError else raw.int

/-- What an exception that no endpoint handles is answered with. -/
def orServerError {ε α : Type} : Except ε α → Except HttpResponse α
  | .ok a => .ok a
  | .error _ => .error .serverError

/-- `request.url.path` raises at an authority that `urlsplit` raises for. -/
def checkUrl (cfg : Config) (req : HttpRequest) : Except HttpResponse Unit :=
  if cfg.badAuthority (req.url.takeWhile inAuthority) then .error .serverError else .ok ()

def checkToken (cfg : Config) (req : HttpRequest) : Except HttpResponse Unit :=
  if req.IsV1 ∧ cfg.requireInternalAuth then
    if ¬cfg.internalTokenValid then
      .error (.refused 503 "trusted SharedOS ingress is not securely configured")
    else do
      let same ← orServerError (compareDigest (req.internalToken.getD []) (cfg.internalToken.getD []))
      if same then .ok () else .error (.refused 401 "unauthorized ingress")
  else .ok ()

def checkLength (maxBytes : ℤ) (rawLen : PyStr) : Except HttpResponse Unit :=
  if rawLen.isDigit then do
    let length ← orServerError (contentLength rawLen)
    if maxBytes < length then .error (.refused 413 "request body too large") else .ok ()
  else .ok ()

/-- `request_limits`, before it calls the endpoint. -/
def requestLimits (cfg : Config) (req : HttpRequest) : Except HttpResponse Unit :=
  match cfg.maxBodyBytes with
  | none => .error .serverError
  | some maxBytes => do
    checkUrl cfg req
    checkToken cfg req
    checkLength maxBytes (req.contentLength.getD [])

/-! The endpoints that read. -/

abbrev Reading := Prog ReadOp ReadOp.Ret HttpResponse

/-- What is done with a result of the store, if it does not raise. -/
def unlessRaised {α : Type} (result : Except StoreError α) (next : α → Reading) : Reading :=
  match result with
  | .ok a => next a
  | .error _ => .done .serverError

def health : Reading :=
  .call .auditHead fun head => .done (.health ⟨true, "counterparty", "0.3.0", head⟩)

def auditEvents (limit : ℤ) : Reading :=
  .call .verifyAudit fun valid =>
    unlessRaised valid fun valid =>
      .call (.auditEvents limit) fun events =>
        unlessRaised events fun events => .done (.auditEvents valid events)

/-- `len(receipt) == 64 and all(c in "0123456789abcdef" for c in receipt.lower())` -/
def isReceipt (receipt : String) : Bool :=
  receipt.length == 64 && (lower (codes receipt)).all (codes "0123456789abcdef").contains

def foundEvent (event : Option AuditEvent) : Reading :=
  match event with
  | none => .done (.refused 404 "receipt not found")
  | some event =>
    .call .verifyAudit fun valid =>
      unlessRaised valid fun valid => .done (.auditReceipt valid event)

def auditReceipt (receipt : String) : Reading :=
  if isReceipt receipt then
    .call (.getAuditEvent receipt) fun event => unlessRaised event foundEvent
  else .done (.refused 400 "invalid receipt")

/-! The application. -/

def present : Served → HttpResponse
  | .ok response => .service response
  | .error _ => .serverError

abbrev Responding :=
  Prog (StoreOp ⊕ ReadOp) (EitherRet StoreOp.Ret ReadOp.Ret) HttpResponse

/-- `call_next(request)` -/
noncomputable def callNext (H : Host) (J : JsonSchema) : Routed → Responding
  | .health => health.reading
  | .agentCard => .done .agentCard
  | .service req => (serve H J req).passed >>= fun served => .done (present served)
  | .auditEvents limit => (auditEvents limit).reading
  | .auditReceipt receipt => (auditReceipt receipt).reading
  | .turnedDown status => .done (.turnedDown status)

noncomputable def app (cfg : Config) (H : Host) (J : JsonSchema) (req : HttpRequest) : Responding :=
  match requestLimits cfg req with
  | .ok () => callNext H J req.routed
  | .error response => .done response

/-- Runs of the application on an empty store, each method of the store one transaction or one read. -/
abbrev Exec (H : Host) := frontExec (StoreOp.Exec H) (ReadOp.read H)

end App

end Counterparty
