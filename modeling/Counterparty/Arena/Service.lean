import Counterparty.Library.Interleave
import Counterparty.Arena.Store

/-! Processing a service request: the cache, the ledger, the claim, the Router turn and the save, each
one step on what all the processes share. -/
namespace Counterparty.Arena

open Json

/-- What a handler takes from the process it runs in. -/
structure Process where
  payee : JsString
  roomId : JsString
  envRoomId : JsString

structure ArenaRequest where
  parsed : ParsedRequest
  process : Process

/-- How a SharedOS turn ended; its output is an object of JavaScript, whose keys are distinct. -/
structure Turn where
  traceId : JsString
  status : JsString
  output : JsJson
  output_keys : DistinctKeys output

def Turn.Succeeded (turn : Turn) : Prop := turn.status = js "succeeded"

instance : DecidablePred Turn.Succeeded := fun _ => inferInstanceAs (Decidable (_ = _))

/-- What the Router is asked to do. -/
structure RouterTurn where
  senderSeat : JsString
  sourceMessageId : JsString
  service : JsString
  input : JsObject
  roomId : JsString

inductive Thrown
  | store (e : StoreError)
  | turn (message : JsString)

/-! Operations. -/

inductive ArenaOp
  | cachedResponse (requestId : JsString) (fingerprint : Text)
  | verifyPayment (expected : ExpectedPayment)
  | claimPayment (input : Payment)
  | executeTurn (turn : RouterTurn)
  | saveResponse (requestId : JsString) (fingerprint : Text) (response : JsJson)

@[reducible] def ArenaOp.Ret : ArenaOp → Type
  | .cachedResponse _ _ => Except StoreError (Option JsJson)
  | .verifyPayment _ => Except JsString Bool
  | .claimPayment _ => Except StoreError PaymentClaim
  | .executeTurn _ => Except JsString Turn
  | .saveResponse _ _ _ => Except StoreError Unit

/-- The two tables, and the ledger behind the CLI. -/
structure ArenaState where
  ledger : Ledger
  payments : Payments
  responses : Responses

def ArenaState.initial (ledger : Ledger) : ArenaState := ⟨ledger, .empty, fun _ => none⟩

/-- Any statement may fail. The CLI may fail too, but lists nothing that is not on the ledger, to which
transfers are only ever added. -/
def ArenaOp.Exec (op : ArenaOp) (s : ArenaState) (r : op.Ret) (s' : ArenaState) : Prop :=
  match op with
  | .cachedResponse requestId fingerprint =>
    s' = s ∧ ∃ fails, r = Arena.cachedResponse fails requestId fingerprint s.responses
  | .verifyPayment expected =>
    (s' = s ∧ ∃ message, r = .error message) ∨
      ∃ (ledger : Ledger) (page : List LedgerItem), s.ledger.rows <+: ledger.rows ∧
        page.Sublist ledger.rows ∧ s' = { s with ledger := ledger } ∧
        r = .ok (Arena.verifyPayment expected page)
  | .claimPayment input =>
    ∃ faults pick, r = (Arena.claimPayment faults pick input s.payments).1 ∧
      s' = { s with payments := (Arena.claimPayment faults pick input s.payments).2 }
  | .executeTurn _ => s' = s
  | .saveResponse requestId fingerprint response =>
    ∃ fails, r = (Arena.saveResponse fails requestId fingerprint response s.responses).1 ∧
      s' = { s with responses := (Arena.saveResponse fails requestId fingerprint response s.responses).2 }

/-! Responses. -/

def jsText (s : String) : JsJson := .str (js s)

/-- The text of a code point sequence as a string. -/
def fromText (t : Text) : JsString := t.flatMap fun c => (toUnits c).getD []

/-- `${PRICES[service]}` -/
def Price.text : Price → JsString
  | .credits n => js (toString n)
  | .method name => js "function " ++ js name ++ js "() \x7b [native code] \x7d"
  | .prototype => js "[object Object]"

/-- `price_credits: PRICES[service]`; functions are left out of JSON. -/
def priceCredits : Price → JsObject
  | .credits n => [(js "price_credits", .num (Price.credits n).number)]
  | .method _ => []
  | .prototype => [(js "price_credits", .obj [])]

def responseBase (parsed : ParsedRequest) : JsObject :=
  [(js "request_id", .str parsed.requestId), (js "service", .str parsed.service)] ++
    priceCredits parsed.price

def serviceResponse (parsed : ParsedRequest) (state : String) (more : JsObject) : JsJson :=
  .obj ([(js "type", jsText "counterparty.service.response.v1")] ++ responseBase parsed ++
    [(js "state", jsText state)] ++ more)

def paymentRequired (parsed : ParsedRequest) (payee : JsString) : JsJson :=
  let memo := js "Counterparty " ++ parsed.service ++ js " " ++ parsed.requestId
  .obj ([(js "type", jsText "counterparty.payment_required.v1")] ++ responseBase parsed ++
    [(js "state", jsText "PAYMENT_REQUIRED"), (js "payee", .str payee), (js "memo", .str memo),
      (js "instruction", .str (js "sharednet pay " ++ payee ++ js " " ++ parsed.price.text ++
        js " --memo " ++ fromText (stringify (.str memo)) ++ js " --room"))])

def turnResult (turn : Turn) : JsJson :=
  if turn.Succeeded then turn.output
  else .obj [(js "state", jsText "INCONCLUSIVE"),
    (js "reason", .str (js "SharedOS turn ended " ++ turn.status))]

def turnResponse (parsed : ParsedRequest) (paymentTxnId : JsString) (turn : Turn) : JsJson :=
  .obj ([(js "type", jsText "counterparty.service.response.v1")] ++ responseBase parsed ++
    [(js "payment_txn_id", .str paymentTxnId),
      (js "state", jsText (if turn.Succeeded then "DELIVERED" else "INCONCLUSIVE")),
      (js "sharedos_status", .str turn.status), (js "trace_id", .str turn.traceId),
      (js "result", turnResult turn)])

/-! The program. -/

abbrev Procedure (α : Type) := Prog ArenaOp ArenaOp.Ret α

namespace Procedure

def cachedResponse (requestId : JsString) (fingerprint : Text) :
    Procedure (Except StoreError (Option JsJson)) :=
  Prog.perform (ArenaOp.cachedResponse requestId fingerprint)

def verifyPayment (expected : ExpectedPayment) : Procedure (Except JsString Bool) :=
  Prog.perform (ArenaOp.verifyPayment expected)

def claimPayment (input : Payment) : Procedure (Except StoreError PaymentClaim) :=
  Prog.perform (ArenaOp.claimPayment input)

def executeTurn (turn : RouterTurn) : Procedure (Except JsString Turn) :=
  Prog.perform (ArenaOp.executeTurn turn)

def saveResponse (requestId : JsString) (fingerprint : Text) (response : JsJson) :
    Procedure (Except StoreError Unit) :=
  Prog.perform (ArenaOp.saveResponse requestId fingerprint response)

end Procedure

abbrev Handler := Procedure (Except Thrown JsJson)

def expectedPayment (req : ArenaRequest) (txnId : JsString) : ExpectedPayment :=
  { txnId := txnId
    payerSeat := req.parsed.senderSeat
    payee := req.process.payee
    amount := req.parsed.price
    roomId := req.process.roomId
    requestId := req.parsed.requestId
    service := req.parsed.service }

def routerTurn (req : ArenaRequest) : RouterTurn :=
  { senderSeat := req.parsed.senderSeat
    sourceMessageId := req.parsed.sourceMessageId
    service := req.parsed.service
    input := req.parsed.input
    roomId := req.process.envRoomId }

section Program

variable (sha256 : Text → Text)

def paymentOf (req : ArenaRequest) (txnId : JsString) : Payment :=
  { txnId := txnId
    requestId := req.parsed.requestId
    fingerprint := requestFingerprint sha256 req.parsed
    service := req.parsed.service
    amount := req.parsed.price.number
    roomId := req.process.envRoomId }

def saveAndReturn (req : ArenaRequest) (txnId : JsString) (turn : Turn) : Handler := do
  let response := turnResponse req.parsed txnId turn
  match ← Procedure.saveResponse req.parsed.requestId (requestFingerprint sha256 req.parsed)
      response with
  | .error e => return .error (.store e)
  | .ok () => return .ok response

def executeAndSave (req : ArenaRequest) (txnId : JsString) : Handler := do
  match ← Procedure.executeTurn (routerTurn req) with
  | .error message => return .error (.turn message)
  | .ok turn =>
    if turn.Succeeded then saveAndReturn sha256 req txnId turn
    else return .ok (turnResponse req.parsed txnId turn)

def claimAndExecute (req : ArenaRequest) (txnId : JsString) : Handler := do
  match ← Procedure.claimPayment (paymentOf sha256 req txnId) with
  | .error e => return .error (.store e)
  | .ok .conflict =>
    return .ok (serviceResponse req.parsed "REJECTED"
      [(js "reason", jsText
        "That SharedNet payment or request_id is already bound to a different Counterparty request")])
  | .ok _ => executeAndSave sha256 req txnId

def verifyAndExecute (req : ArenaRequest) : Handler :=
  match req.parsed.paymentTxnId with
  | none => return .ok (paymentRequired req.parsed req.process.payee)
  | some txnId =>
    if ¬sharednetTxnPattern txnId then
      return .ok (serviceResponse req.parsed "PAYMENT_NOT_VERIFIED"
        [(js "reason", jsText "payment_txn_id is not a SharedNet txn_ id")])
    else do
      match ← Procedure.verifyPayment (expectedPayment req txnId) with
      | .error message =>
        return .ok (serviceResponse req.parsed "INCONCLUSIVE"
          [(js "reason", .str (js "SharedNet ledger unavailable: " ++ message))])
      | .ok false =>
        return .ok (serviceResponse req.parsed "PAYMENT_NOT_VERIFIED"
          [(js "reason", jsText
              "No matching room-visible ledger transfer was found from this requesting seat for this request, price and payee"),
            (js "expected_payee", .str req.process.payee)])
      | .ok true => claimAndExecute sha256 req txnId

def processRequest (req : ArenaRequest) : Handler :=
  match validateInput req.parsed with
  | some reason =>
    return .ok (serviceResponse req.parsed "INVALID_REQUEST" [(js "reason", jsText reason)])
  | none => do
    match ← Procedure.cachedResponse req.parsed.requestId
        (requestFingerprint sha256 req.parsed) with
    | .error _ =>
      return .ok (serviceResponse req.parsed "REJECTED"
        [(js "reason", jsText "request_id was already used for a different request")])
    | .ok (some cached) => return .ok cached
    | .ok none => verifyAndExecute sha256 req

end Program

abbrev ArenaEvent := Interleave.Event ArenaRequest ArenaOp.Ret (Except Thrown JsJson)

abbrev ArenaConfig := Interleave.Config ArenaRequest ArenaOp.Ret (Except Thrown JsJson) ArenaState

/-- Runs of any number of processes on one store that starts empty. -/
abbrev ArenaRun (sha256 : Text → Text) (ledger : Ledger) :
    List ArenaEvent → ArenaConfig → Prop :=
  Interleave.Run ArenaOp.Exec (processRequest sha256) (.initial ledger)

/-! What responses say. -/

/-- The response says how the request stands. -/
def HasState (state : String) (response : JsJson) : Prop :=
  ∃ fields, response = .obj fields ∧ isText state (property "state" fields)

/-- The response says that the result is delivered. -/
def Delivered (response : JsJson) : Prop :=
  ∃ fields, response = .obj fields ∧ isText "DELIVERED" (property "state" fields)

variable {parsed : ParsedRequest} {turn : Turn} {txnId : JsString} {state : String}

theorem hasState_iff {response : JsJson} {said : String}
    (hsaid : ∀ fields, response = .obj fields → property "state" fields = some (jsText said))
    (hobj : ∃ fields, response = .obj fields) : HasState state response ↔ js said = js state := by
  constructor
  · rintro ⟨fields, rfl, htext⟩
    simpa [hsaid fields rfl, isText, jsText] using htext
  · intro h
    obtain ⟨fields, rfl⟩ := hobj
    exact ⟨fields, rfl, by simp [hsaid fields rfl, isText, jsText, h]⟩

theorem hasState_serviceResponse (said : String) (more : JsObject) :
    HasState state (serviceResponse parsed said more) ↔ js said = js state := by
  refine hasState_iff ?_ ⟨_, rfl⟩
  rintro _ ⟨⟩
  rw [responseBase]
  cases parsed.price <;> rfl

theorem hasState_paymentRequired (payee : JsString) :
    HasState state (paymentRequired parsed payee) ↔ js "PAYMENT_REQUIRED" = js state := by
  refine hasState_iff ?_ ⟨_, rfl⟩
  rintro _ ⟨⟩
  rw [responseBase]
  cases parsed.price <;> rfl

theorem hasState_turnResponse : HasState state (turnResponse parsed txnId turn) ↔
    js (if turn.Succeeded then "DELIVERED" else "INCONCLUSIVE") = js state := by
  refine hasState_iff ?_ ⟨_, rfl⟩
  rintro _ ⟨⟩
  rw [responseBase]
  cases parsed.price <;> rfl

theorem delivered_serviceResponse (said : String) (more : JsObject) :
    Delivered (serviceResponse parsed said more) ↔ js said = js "DELIVERED" :=
  hasState_serviceResponse said more

theorem not_delivered_paymentRequired (payee : JsString) :
    ¬Delivered (paymentRequired parsed payee) :=
  (hasState_paymentRequired payee).not.2 (by decide)

theorem delivered_turnResponse : Delivered (turnResponse parsed txnId turn) ↔ turn.Succeeded := by
  refine hasState_turnResponse.trans ?_
  split_ifs with h
  · simp [h]
  · simp only [h, iff_false]
    decide

/-- It still says so after it was stored. -/
theorem HasState.written {response : JsJson} (h : HasState state response) :
    HasState state (written response) := by
  obtain ⟨fields, rfl, htext⟩ := h
  refine ⟨_, bindNum_obj .., ?_⟩
  change isText state (property "state" (fields.map fun f => (f.1, Arena.written f.2)))
  rw [property_map]
  cases hstate : property "state" fields with
  | none => simp [hstate, isText] at htext
  | some said =>
    rw [hstate] at htext
    cases said <;> first | exact htext | cases htext

theorem HasState.unique {state' : String} {response : JsJson} (h : HasState state response)
    (h' : HasState state' response) : js state = js state' := by
  obtain ⟨fields, rfl, htext⟩ := h
  obtain ⟨_, ⟨⟩, htext'⟩ := h'
  cases hsaid : property "state" fields with
  | none => simp [hsaid, isText] at htext
  | some said =>
    rw [hsaid] at htext htext'
    cases said with
    | str t =>
      simp only [isText, beq_iff_eq] at htext htext'
      exact htext.symm.trans htext'
    | _ => cases htext

theorem distinctKeys_null : DistinctKeys (.null : JsJson) := .null

theorem distinctKeys_str (s : JsString) : DistinctKeys (.str s : JsJson) := .str trivial

theorem distinctKeys_turnResult : DistinctKeys (turnResult turn) := by
  rw [turnResult]
  split_ifs with h
  · exact turn.output_keys
  · refine .obj ?_ (fun _ _ => trivial) ?_
    · simp only [List.map_cons, List.map_nil]
      decide
    · simp [jsText, distinctKeys_str]

theorem distinctKeys_priceCredits (price : Price) : DistinctKeys (.obj (priceCredits price)) := by
  cases price with
  | credits n => exact .obj (by simp [priceCredits]) (fun _ _ => trivial) (by simp [priceCredits, Readable.num])
  | method name => exact .obj List.nodup_nil nofun nofun
  | prototype =>
    have hempty : DistinctKeys (.obj [] : JsJson) := .obj List.nodup_nil nofun nofun
    exact .obj (by simp [priceCredits]) (fun _ _ => trivial) (by simp [priceCredits, hempty])

/-- A response that is stored can be read back. -/
theorem distinctKeys_turnResponse : DistinctKeys (turnResponse parsed txnId turn) := by
  have hprice := distinctKeys_priceCredits parsed.price
  rw [turnResponse, responseBase]
  cases hprice with
  | obj hkeys _ hfields =>
    refine .obj ?_ (fun _ _ => trivial) ?_
    · cases parsed.price <;>
        simp only [priceCredits, List.cons_append, List.nil_append, List.map_cons, List.map_nil] <;>
        decide
    · simp only [jsText, List.mem_append, List.mem_cons, List.not_mem_nil, or_false]
      rintro f ((rfl | (rfl | rfl) | hf) | rfl | rfl | rfl | rfl | rfl)
      all_goals first | exact distinctKeys_str _ | exact hfields f hf | exact distinctKeys_turnResult

/-! Requests that meet no fault. -/

/-- Nothing fails, the CLI lists the whole ledger, and turns end as given. -/
def ArenaOp.answer (turn : Turn) (op : ArenaOp) (s : ArenaState) : op.Ret × ArenaState :=
  match op with
  | .cachedResponse requestId fingerprint =>
    (Arena.cachedResponse false requestId fingerprint s.responses, s)
  | .verifyPayment expected => (.ok (Arena.verifyPayment expected s.ledger.rows), s)
  | .claimPayment input =>
    let (r, payments) := Arena.claimPayment (fun _ => false) 0 input s.payments
    (r, { s with payments := payments })
  | .executeTurn _ => (.ok turn, s)
  | .saveResponse requestId fingerprint response =>
    let (r, responses) := Arena.saveResponse false requestId fingerprint response s.responses
    (r, { s with responses := responses })

theorem exec_answer (turn : Turn) (op : ArenaOp) (s : ArenaState) :
    op.Exec s (op.answer turn s).1 (op.answer turn s).2 := by
  cases op with
  | cachedResponse requestId fingerprint => exact ⟨rfl, false, rfl⟩
  | verifyPayment expected =>
    exact .inr ⟨s.ledger, s.ledger.rows, List.prefix_rfl, List.Sublist.refl _, rfl, rfl⟩
  | claimPayment input => exact ⟨fun _ => false, 0, rfl, rfl⟩
  | executeTurn t => rfl
  | saveResponse requestId fingerprint response => exact ⟨false, rfl, rfl⟩

variable {sha256 : Text → Text} {req : ArenaRequest} {s : ArenaState}

/-- A valid request with the transaction that pays for it. -/
structure Payable (ledger : Ledger) (req : ArenaRequest) (txnId : JsString) : Prop where
  valid : validateInput req.parsed = none
  paymentTxnId_eq : req.parsed.paymentTxnId = some txnId
  pattern : sharednetTxnPattern txnId
  verified : verifyPayment (expectedPayment req txnId) ledger.rows

theorem advance_claim {claim : PaymentClaim} {payments : Payments} (h : Payable s.ledger req txnId)
    (hnone : s.responses req.parsed.requestId = none)
    (hclaim : claimPayment (fun _ => false) 0 (paymentOf sha256 req txnId) s.payments =
      (.ok claim, payments)) (hne : claim ≠ .conflict) :
    (processRequest sha256 req).advance (ArenaOp.answer turn) 3 s =
      (executeAndSave sha256 req txnId, { s with payments := payments },
        [⟨.cachedResponse req.parsed.requestId (requestFingerprint sha256 req.parsed), .ok none⟩,
          ⟨.verifyPayment (expectedPayment req txnId), .ok true⟩,
          ⟨.claimPayment (paymentOf sha256 req txnId), .ok claim⟩]) := by
  have hcached : Arena.cachedResponse false req.parsed.requestId
      (requestFingerprint sha256 req.parsed) s.responses = .ok none := by
    simp [Arena.cachedResponse, hnone]
  rw [processRequest, h.valid]
  simp only [Procedure.cachedResponse, Prog.perform_bind, Prog.advance, ArenaOp.answer, hcached]
  rw [verifyAndExecute, h.paymentTxnId_eq]
  simp only [h.pattern, not_true_eq_false, if_false, Procedure.verifyPayment, Prog.perform_bind,
    Prog.advance, ArenaOp.answer, h.verified, claimAndExecute, Procedure.claimPayment, hclaim]

theorem advance_execute (txnId : JsString) (h : turn.Succeeded) (hsame : ∀ row,
      s.responses req.parsed.requestId = some row →
        row.fingerprint = requestFingerprint sha256 req.parsed) :
    (executeAndSave sha256 req txnId).advance (ArenaOp.answer turn) 2 s =
      (.done (.ok (turnResponse req.parsed txnId turn)),
        { s with responses := Function.update s.responses req.parsed.requestId (some
          ⟨requestFingerprint sha256 req.parsed, stringify (turnResponse req.parsed txnId turn)⟩) },
        [⟨.executeTurn (routerTurn req), .ok turn⟩,
          ⟨.saveResponse req.parsed.requestId (requestFingerprint sha256 req.parsed)
            (turnResponse req.parsed txnId turn), .ok ()⟩]) := by
  have hsave : Arena.saveResponse false req.parsed.requestId (requestFingerprint sha256 req.parsed)
      (turnResponse req.parsed txnId turn) s.responses =
        (.ok (), Function.update s.responses req.parsed.requestId (some
          ⟨requestFingerprint sha256 req.parsed, stringify (turnResponse req.parsed txnId turn)⟩)) := by
    cases hrow : s.responses req.parsed.requestId with
    | none => simp [Arena.saveResponse, upsertResponse, hrow]
    | some row => simp [Arena.saveResponse, upsertResponse, hrow, hsame row hrow]
  simp only [executeAndSave, Procedure.executeTurn, Prog.perform_bind, Prog.advance, ArenaOp.answer,
    if_pos h, saveAndReturn, Procedure.saveResponse, hsave]
  rfl

theorem advance_cached (req : ArenaRequest) {row : StoredResponse} {response : JsJson}
    (hvalid : validateInput req.parsed = none) (hrow : s.responses req.parsed.requestId = some row)
    (hfingerprint : row.fingerprint = requestFingerprint sha256 req.parsed)
    (hread : parseJson row.responseJson = some response) :
    (processRequest sha256 req).advance (ArenaOp.answer turn) 1 s =
      (.done (.ok response), s,
        [⟨.cachedResponse req.parsed.requestId (requestFingerprint sha256 req.parsed),
          .ok (some response)⟩]) := by
  have hcached : Arena.cachedResponse false req.parsed.requestId
      (requestFingerprint sha256 req.parsed) s.responses = .ok (some response) := by
    simp [Arena.cachedResponse, hrow, hfingerprint, hread]
  rw [processRequest, hvalid]
  simp only [Procedure.cachedResponse, Prog.perform_bind, Prog.advance, ArenaOp.answer, hcached]
  rfl

/-- A request that is paid for is delivered when it is handled on its own. -/
theorem advance_paid (sha256 : Text → Text) (s : ArenaState) (h : Payable s.ledger req txnId)
    (hnumber : req.parsed.price.number ≠ .nan)
    (hpayments : s.payments = .empty) (hnone : s.responses req.parsed.requestId = none)
    (hsucceeded : turn.Succeeded) : ∃ payments, payments.rows = [paymentOf sha256 req txnId] ∧
      (processRequest sha256 req).advance (ArenaOp.answer turn) 5 s =
        (.done (.ok (turnResponse req.parsed txnId turn)),
          { s with
            payments := payments
            responses := Function.update s.responses req.parsed.requestId (some
              ⟨requestFingerprint sha256 req.parsed,
                stringify (turnResponse req.parsed txnId turn)⟩) },
          [⟨.cachedResponse req.parsed.requestId (requestFingerprint sha256 req.parsed), .ok none⟩,
            ⟨.verifyPayment (expectedPayment req txnId), .ok true⟩,
            ⟨.claimPayment (paymentOf sha256 req txnId), .ok .claimed⟩,
            ⟨.executeTurn (routerTurn req), .ok turn⟩,
            ⟨.saveResponse req.parsed.requestId (requestFingerprint sha256 req.parsed)
              (turnResponse req.parsed txnId turn), .ok ()⟩]) := by
  obtain ⟨payments, hclaim, hrows⟩ := claimPayment_first
    (show (paymentOf sha256 req txnId).amount ≠ .nan from hnumber)
  rw [← hpayments] at hclaim
  refine ⟨payments, hrows, ?_⟩
  rw [Prog.advance_add _ 3 2, advance_claim h hnone hclaim nofun]
  have hfirst : ∀ row, s.responses req.parsed.requestId = some row →
      row.fingerprint = requestFingerprint sha256 req.parsed := by
    rw [hnone]
    exact nofun
  have hexecute := advance_execute (s := { s with payments := payments }) txnId
    hsucceeded hfirst
  simp only [hexecute]
  rfl

end Counterparty.Arena
