import Counterparty.Arena.Isolation

/-! Quotes: a request without a payment is answered with one, and sent again with the payment. -/
namespace Counterparty.Arena

open Json Interleave

variable {sha256 : Text → Text} {req : ArenaRequest} {s : ArenaState} {m : ArenaMoment}
  {messageId txnId : JsString} {item : LedgerItem} {response : JsJson} {turn : Except JsString Turn}
  {pick : ℕ}

/-- Nothing fails but the turn, and the CLI lists the newest entries. -/
def ArenaOp.respond (turn : Except JsString Turn) (pick : ℕ) (op : ArenaOp) (s : ArenaState) :
    op.Ret × ArenaState :=
  match op with
  | .cachedResponse requestId fingerprint =>
    (Arena.cachedResponse false requestId fingerprint s.responses, s)
  | .verifyPayment expected => (.ok (Arena.verifyPayment expected (newest s.ledger)), s)
  | .claimPayment input =>
    let (r, payments) := Arena.claimPayment (fun _ => false) pick input s.payments
    (r, { s with payments := payments })
  | .executeTurn _ => (turn, s)
  | .saveResponse requestId fingerprint response =>
    let (r, responses) := Arena.saveResponse false requestId fingerprint response s.responses
    (r, { s with responses := responses })

/-- The same request in a message of its own, paid for. -/
def ArenaRequest.paidWith (req : ArenaRequest) (messageId txnId : JsString) : ArenaRequest :=
  { req with
    parsed := { req.parsed with sourceMessageId := messageId, paymentTxnId := some txnId } }

/-- `response.key` -/
def field (key : String) : JsJson → Option JsJson
  | .obj fields => property key fields
  | _ => none

/-- The transfer that the response asks for, made in the Room by the seat of the request. -/
structure PaysQuote (req : ArenaRequest) (response : JsJson) (txnId : JsString) (item : LedgerItem) :
    Prop where
  id_eq : item.id = some txnId
  pattern : sharednetTxnPattern txnId
  addressedTo_eq : item.addressedTo.map .str = field "payee" response
  amount_eq : ∃ amount, item.amount = some amount ∧
    field "price_credits" response = some (.num amount)
  memo_eq : item.memo.map .str = field "memo" response
  roomId_eq : item.roomId = some req.process.roomId
  byInstanceId_eq : item.byInstanceId = some req.parsed.senderSeat

/-- Neither answer that turns a paid request away. -/
def Honoured (a : Except Thrown JsJson) : Prop :=
  ∀ response, a = .ok response →
    ¬HasState "REJECTED" response ∧ ¬HasState "PAYMENT_NOT_VERIFIED" response

/-- Every row in the way of the payment is for the same request. -/
def Unopposed (payments : Payments) (input : Payment) : Prop :=
  ∀ row ∈ payments.rows, row.Clash input →
    row.requestId = input.requestId ∧ row.fingerprint = input.fingerprint

/-! What is answered. -/

theorem honoured_error (e : Thrown) : Honoured (.error e) := nofun

theorem honoured_turnResponse (parsed : ParsedRequest) (txnId : JsString) (turn : Turn) :
    Honoured (.ok (turnResponse parsed txnId turn)) := by
  rintro _ ⟨⟩
  rw [hasState_turnResponse, hasState_turnResponse]
  split_ifs <;> decide

theorem honoured_delivered (h : Delivered response) : Honoured (.ok response) := by
  rintro _ ⟨⟩
  constructor
  · intro hrejected
    exact absurd (HasState.unique h hrejected) (by decide)
  · intro hunverified
    exact absurd (HasState.unique h hunverified) (by decide)

/-- A response that is found says that the result is delivered. -/
theorem delivered_of_cached (hsound : Sound sha256 m) {fails : Bool} {requestId : JsString}
    {fingerprint : Text}
    (h : cachedResponse fails requestId fingerprint m.now.responses = .ok (some response)) :
    Delivered response := by
  obtain ⟨row, hrow, -, hread⟩ := cachedResponse_some h
  obtain ⟨req, txnId, turn, -, hsucceeded, -, htext⟩ := hsound.saved _ row hrow
  rw [htext, parseJson_stringify distinctKeys_turnResponse] at hread
  cases hread
  exact HasState.written (delivered_turnResponse.2 hsucceeded)

theorem ClaimOutcome.not_conflict {input : Payment} {t t' : Payments} {claim : PaymentClaim}
    (h : ClaimOutcome input t (.ok claim) t') (hopen : Unopposed t input) : claim ≠ .conflict := by
  generalize hresult : (.ok claim : Except StoreError PaymentClaim) = result at h
  cases h with
  | threw e => cases hresult
  | @found existing hrow hclash =>
    cases hresult
    rw [Payment.claim, if_pos (hopen existing hrow hclash)]
    intro h
    cases h
  | claimed hrows hnew =>
    cases hresult
    intro h
    cases h

theorem honoured_executeAndSave (answer : (op : ArenaOp) → ArenaState → op.Ret × ArenaState)
    (txnId : JsString) (s : ArenaState) :
    Honoured ((executeAndSave sha256 req txnId).eval answer s).1 := by
  rw [executeAndSave, Procedure.executeTurn, Prog.perform_bind, Prog.eval_call]
  cases (answer (.executeTurn (routerTurn req)) s).1 with
  | error message => exact honoured_error _
  | ok turn =>
    dsimp only
    split_ifs
    · rw [saveAndReturn, Procedure.saveResponse, Prog.perform_bind, Prog.eval_call]
      generalize (answer (ArenaOp.saveResponse ..) _).1 = r
      cases r with
      | error e => exact honoured_error _
      | ok u => exact honoured_turnResponse _ _ _
    · exact honoured_turnResponse _ _ _

/-! The quote. -/

theorem cachedResponse_none {fails : Bool} {requestId : JsString} {fingerprint : Text} {t : Responses}
    (h : cachedResponse fails requestId fingerprint t = .ok none) : t requestId = none := by
  unfold cachedResponse at h
  split_ifs at h
  cases hrow : t requestId with
  | none => rfl
  | some row =>
    rw [hrow] at h
    dsimp only at h
    split_ifs at h
    cases hread : parseJson row.responseJson with
    | none =>
      rw [hread] at h
      cases h
    | some response =>
      rw [hread] at h
      cases h

/-- A quote is given for a valid request under an id without a response. -/
theorem quote_cases {past : List ArenaEvent} (hsound : Sound sha256 ⟨past, s⟩)
    (hunpaid : req.parsed.paymentTxnId = none)
    (hquote : ((processRequest sha256 req).eval (ArenaOp.respond turn pick) s).1 = .ok response)
    (hstate : HasState "PAYMENT_REQUIRED" response) :
    validateInput req.parsed = none ∧ s.responses req.parsed.requestId = none ∧
      response = paymentRequired req.parsed req.process.payee := by
  unfold processRequest at hquote
  cases hvalid : validateInput req.parsed with
  | some reason =>
    rw [hvalid] at hquote
    cases hquote
    exact absurd ((hasState_serviceResponse _ _).1 hstate) (by decide)
  | none =>
    rw [hvalid] at hquote
    simp only [Procedure.cachedResponse, Prog.perform_bind, Prog.eval_call, ArenaOp.respond] at hquote
    cases hcached : cachedResponse false req.parsed.requestId (requestFingerprint sha256 req.parsed)
        s.responses with
    | error e =>
      rw [hcached] at hquote
      cases hquote
      exact absurd ((hasState_serviceResponse _ _).1 hstate) (by decide)
    | ok cached =>
      rw [hcached] at hquote
      cases cached with
      | some cached =>
        cases hquote
        have hdelivered := delivered_of_cached hsound hcached
        exact absurd (HasState.unique hdelivered hstate) (by decide)
      | none =>
        dsimp only at hquote
        rw [verifyAndExecute, hunpaid] at hquote
        cases hquote
        exact ⟨rfl, cachedResponse_none hcached, rfl⟩

theorem field_paymentRequired (parsed : ParsedRequest) (payee : JsString) :
    field "payee" (paymentRequired parsed payee) = some (.str payee) ∧
      field "memo" (paymentRequired parsed payee) =
        some (.str (js "Counterparty " ++ parsed.service ++ js " " ++ parsed.requestId)) ∧
      ∀ amount, field "price_credits" (paymentRequired parsed payee) = some (.num amount) →
        ∃ n, parsed.price = .credits n ∧ amount = (Price.credits n).number := by
  rw [paymentRequired, responseBase]
  cases parsed.price with
  | credits n =>
    refine ⟨rfl, rfl, ?_⟩
    rintro _ ⟨⟩
    exact ⟨n, rfl, rfl⟩
  | method name =>
    refine ⟨rfl, rfl, ?_⟩
    rintro _ ⟨⟩
  | prototype =>
    refine ⟨rfl, rfl, ?_⟩
    rintro _ ⟨⟩

/-- The transfer that a quote asks for matches what the paid request is checked against. -/
theorem matches_of_paysQuote
    (h : PaysQuote req (paymentRequired req.parsed req.process.payee) txnId item) :
    ledgerPaymentMatches item (expectedPayment (req.paidWith messageId txnId) txnId) := by
  obtain ⟨hpayee, hmemo, hprice⟩ := field_paymentRequired req.parsed req.process.payee
  obtain ⟨amount, hamount, hquoted⟩ := h.amount_eq
  obtain ⟨n, hcredits, rfl⟩ := hprice amount hquoted
  have hto : item.addressedTo = some req.process.payee := by
    have h := h.addressedTo_eq.trans hpayee
    simpa using h
  have hsaid : item.memo =
      some (js "Counterparty " ++ req.parsed.service ++ js " " ++ req.parsed.requestId) := by
    have h := h.memo_eq.trans hmemo
    simpa using h
  have hid : req.parsed.requestId <:+:
      js "Counterparty " ++ req.parsed.service ++ js " " ++ req.parsed.requestId :=
    (List.suffix_append _ _).isInfix
  have hservice : req.parsed.service <:+:
      js "Counterparty " ++ req.parsed.service ++ js " " ++ req.parsed.requestId :=
    ⟨js "Counterparty ", js " " ++ req.parsed.requestId, by simp⟩
  generalize js "Counterparty " ++ req.parsed.service ++ js " " ++ req.parsed.requestId = memo
    at hsaid hid hservice
  simp [ledgerPaymentMatches, expectedPayment, ArenaRequest.paidWith, amountMatches, h.id_eq, hamount,
    hcredits, hto, hsaid, h.roomId_eq, h.byInstanceId_eq, hid, hservice]

/-! The paid request. -/

/-- A paid request whose transfer is listed comes to its claim. -/
theorem eval_paidWith (hvalid : validateInput req.parsed = none)
    (hnone : s.responses req.parsed.requestId = none) (hpattern : sharednetTxnPattern txnId)
    (hverified : verifyPayment (expectedPayment (req.paidWith messageId txnId) txnId)
      (newest s.ledger)) :
    (processRequest sha256 (req.paidWith messageId txnId)).eval (ArenaOp.respond turn pick) s =
      (claimAndExecute sha256 (req.paidWith messageId txnId) txnId).eval
        (ArenaOp.respond turn pick) s := by
  have hcached : cachedResponse false (req.paidWith messageId txnId).parsed.requestId
      (requestFingerprint sha256 (req.paidWith messageId txnId).parsed) s.responses = .ok none := by
    have hnone' : s.responses (req.paidWith messageId txnId).parsed.requestId = none := hnone
    simp [cachedResponse, hnone']
  have hvalid' : validateInput (req.paidWith messageId txnId).parsed = none := hvalid
  have htxn : (req.paidWith messageId txnId).parsed.paymentTxnId = some txnId := rfl
  rw [processRequest, hvalid']
  simp only [Procedure.cachedResponse, Prog.perform_bind, Prog.eval_call, ArenaOp.respond, hcached]
  rw [verifyAndExecute, htxn]
  simp only [hpattern, not_true_eq_false, if_false, Procedure.verifyPayment, Prog.perform_bind,
    Prog.eval_call, ArenaOp.respond, hverified]

/-- An id that is taken by another request is found in the way. -/
theorem claimPayment_conflict {input row : Payment} {t : Payments} (hrow : row ∈ t.rows)
    (hid : row.requestId = input.requestId) (hfingerprint : row.fingerprint ≠ input.fingerprint)
    (hunused : ∀ row ∈ t.rows, row.txnId ≠ input.txnId) :
    claimPayment (fun _ => false) pick input t = (.ok .conflict, t) := by
  cases hexisting : existingPayment pick input t with
  | none => exact absurd (.inr hid) (existingPayment_none hexisting row hrow)
  | some existing =>
    obtain ⟨hrow', hclash⟩ := existingPayment_some hexisting
    have hid' : existing.requestId = input.requestId :=
      hclash.resolve_left (hunused existing hrow')
    have hsame : existing = row :=
      Table.eq_of_clash Payment.Clash.symm hrow' hrow (.inr (hid'.trans hid.symm))
    subst hsame
    simp [claimPayment, atomically, claimPaymentTx, hexisting, Payment.claim, hfingerprint]

theorem eval_conflict {row : Payment} (hrow : row ∈ s.payments.rows)
    (hid : row.requestId = req.parsed.requestId)
    (hfingerprint : row.fingerprint ≠ requestFingerprint sha256 req.parsed)
    (hunused : ∀ row ∈ s.payments.rows, row.txnId ≠ txnId) :
    ∃ a, ((claimAndExecute sha256 req txnId).eval (ArenaOp.respond turn pick) s).1 = .ok a ∧
      HasState "REJECTED" a := by
  have hconflict : claimPayment (fun _ => false) pick (paymentOf sha256 req txnId) s.payments =
      (.ok .conflict, s.payments) := claimPayment_conflict hrow hid hfingerprint hunused
  rw [claimAndExecute, Procedure.claimPayment, Prog.perform_bind, Prog.eval_call]
  simp only [ArenaOp.respond, hconflict]
  exact ⟨_, rfl, (hasState_serviceResponse _ _).2 rfl⟩

/-- A payment by an unused transaction is turned down exactly when the id is taken by another
request. -/
theorem honoured_claim_iff (hunused : ∀ row ∈ s.payments.rows, row.txnId ≠ txnId) :
    Honoured ((claimAndExecute sha256 req txnId).eval (ArenaOp.respond turn pick) s).1 ↔
      ∀ row ∈ s.payments.rows, row.requestId = req.parsed.requestId →
        row.fingerprint = requestFingerprint sha256 req.parsed := by
  constructor
  · intro h row hrow hid
    by_contra hfingerprint
    obtain ⟨a, ha, hrejected⟩ := eval_conflict hrow hid hfingerprint hunused
    exact (h a ha).1 hrejected
  · intro h
    rw [claimAndExecute, Procedure.claimPayment, Prog.perform_bind, Prog.eval_call]
    simp only [ArenaOp.respond]
    have houtcome := claimPayment_outcome (fun _ => false) pick (paymentOf sha256 req txnId) s.payments
    have hopen : Unopposed s.payments (paymentOf sha256 req txnId) := by
      intro row hrow hclash
      have hid : row.requestId = req.parsed.requestId := hclash.resolve_left (hunused row hrow)
      exact ⟨hid, h row hrow hid⟩
    cases hclaim : (claimPayment (fun _ => false) pick (paymentOf sha256 req txnId) s.payments).1 with
    | error e => exact honoured_error _
    | ok claim =>
      rw [hclaim] at houtcome
      cases claim with
      | conflict => exact absurd rfl (houtcome.not_conflict hopen)
      | claimed => exact honoured_executeAndSave _ txnId _
      | sameRequest => exact honoured_executeAndSave _ txnId _

/-- A quoted payment that is made is honoured exactly when no other request has been paid for under
the id of the quote. -/
theorem quote_honoured_iff {ledger₀ ledger : Ledger} {history : List ArenaEvent} {c : ArenaConfig}
    {turn' : Except JsString Turn} {pick' : ℕ} (hrun : ArenaRun sha256 ledger₀ history c)
    (hpayee : sharednetAddressPattern req.process.payee)
    (hunpaid : req.parsed.paymentTxnId = none)
    (hquote : ((processRequest sha256 req).eval (ArenaOp.respond turn pick) c.store).1 = .ok response)
    (hstate : HasState "PAYMENT_REQUIRED" response) (hpays : PaysQuote req response txnId item)
    (hunused : ∀ row ∈ c.store.payments.rows, row.txnId ≠ txnId) (hlisted : item ∈ newest ledger) :
    Honoured ((processRequest sha256 (req.paidWith messageId txnId)).eval (ArenaOp.respond turn' pick')
        { c.store with ledger := ledger }).1 ↔
      ∀ row ∈ c.store.payments.rows, row.requestId = req.parsed.requestId →
        row.fingerprint = requestFingerprint sha256 req.parsed := by
  obtain ⟨hvalid, hnone, rfl⟩ := quote_cases (arena_good hrun).inv hunpaid hquote hstate
  have hverified : verifyPayment (expectedPayment (req.paidWith messageId txnId) txnId)
      (newest ledger) := by
    rw [verifyPayment_newest hlisted hpays.id_eq hpays.pattern req.parsed.senderSeat_seat hpayee]
    exact matches_of_paysQuote hpays
  have hstore : { c.store with ledger := ledger }.responses req.parsed.requestId = none := hnone
  rw [eval_paidWith hvalid hstore hpays.pattern hverified]
  exact honoured_claim_iff hunused

/-- The order before it is paid for. -/
def unpaidOrder : ArenaRequest :=
  { orderWith .null distinctKeys_null with
    parsed := { (orderWith .null distinctKeys_null).parsed with paymentTxnId := none } }

def paidOrder : ArenaRequest := unpaidOrder.paidWith (js "msg_2") (js "txn_AAAAAAAAAA")

def orderTransfer : LedgerItem where
  id := some (js "txn_AAAAAAAAAA")
  amount := some (Price.credits 7).number
  memo := some (js "Counterparty verify_delivery order-1")
  roomId := some (js "rom_1")
  addressedTo := some (js "p_AAAAAAAAAA")
  byInstanceId := some (js "i_AAAAAAAAAA")

theorem eval_quote (turn : Except JsString Turn) (pick : ℕ) (hunpaid : req.parsed.paymentTxnId = none)
    (hvalid : validateInput req.parsed = none) (hnone : s.responses req.parsed.requestId = none) :
    ((processRequest sha256 req).eval (ArenaOp.respond turn pick) s).1 =
      .ok (paymentRequired req.parsed req.process.payee) := by
  have hcached : cachedResponse false req.parsed.requestId (requestFingerprint sha256 req.parsed)
      s.responses = .ok none := by simp [cachedResponse, hnone]
  rw [processRequest, hvalid]
  simp only [Procedure.cachedResponse, Prog.perform_bind, Prog.eval_call, ArenaOp.respond, hcached]
  rw [verifyAndExecute, hunpaid]
  rfl

theorem paysQuote_order : PaysQuote unpaidOrder
    (paymentRequired unpaidOrder.parsed unpaidOrder.process.payee) (js "txn_AAAAAAAAAA")
    orderTransfer := by
  obtain ⟨hpayee, hmemo, -⟩ := field_paymentRequired unpaidOrder.parsed unpaidOrder.process.payee
  have hsaid : js "Counterparty verify_delivery order-1" =
      js "Counterparty " ++ js "verify_delivery" ++ js " " ++ js "order-1" := by decide
  refine ⟨rfl, by decide, hpayee.symm, ⟨_, rfl, rfl⟩, ?_, rfl, rfl⟩
  rw [hmemo]
  exact congrArg (fun memo => some (Json.str memo)) hsaid

theorem quote_order (s : ArenaState) (hnone : s.responses (js "order-1") = none) :
    ((processRequest id unpaidOrder).eval (ArenaOp.respond (.ok (succeededTurn "trace-1")) 0) s).1 =
      .ok (paymentRequired unpaidOrder.parsed unpaidOrder.process.payee) :=
  eval_quote _ _ rfl (payable_orderWith .null .null).valid hnone

theorem quote_honoured_order :
    Honoured ((processRequest id paidOrder).eval
      (ArenaOp.respond (.ok (succeededTurn "trace-1")) 0) (.initial orderLedger)).1 := by
  have hrun : ArenaRun id .empty [] ⟨.initial .empty, fun _ => none⟩ := .init
  have hlisted : orderTransfer ∈ newest orderLedger := List.mem_singleton_self _
  refine (quote_honoured_iff hrun (by decide) rfl (quote_order (.initial .empty) rfl)
    ((hasState_paymentRequired _).2 rfl) paysQuote_order ?_ hlisted).2 ?_
  · exact fun _ hrow => absurd hrow List.not_mem_nil
  · exact fun _ hrow => absurd hrow List.not_mem_nil

/-! A quote for an id that another seat has paid under. -/

def rivalTransfer : LedgerItem :=
  { orderTransfer with
    id := some (js "txn_BBBBBBBBBB")
    byInstanceId := some (js "i_BBBBBBBBBB") }

def rivalLedger : Ledger := ⟨[rivalTransfer], List.pairwise_singleton _ _⟩

def bothLedger : Ledger where
  rows := [rivalTransfer, orderTransfer]
  apart := by
    refine List.pairwise_pair.2 ?_
    unfold LedgerItem.Clash
    decide

def rivalPaid : ArenaRequest := rivalOrder.paidWith (js "msg_2") (js "txn_BBBBBBBBBB")

def failedTurn : Turn where
  traceId := js "trace-1"
  status := js "failed"
  output := .null
  output_keys := distinctKeys_null

/-- A turn that does not succeed leaves the claim behind. -/
theorem advance_failed (sha256 : Text → Text) (s : ArenaState) {turn : Turn}
    (h : Payable s.ledger req txnId) (hnumber : req.parsed.price.number ≠ .nan)
    (hpayments : s.payments = .empty) (hnone : s.responses req.parsed.requestId = none)
    (hfailed : ¬turn.Succeeded) : ∃ payments, payments.rows = [paymentOf sha256 req txnId] ∧
      (processRequest sha256 req).advance (ArenaOp.answer turn) 4 s =
        (.done (.ok (turnResponse req.parsed txnId turn)), { s with payments := payments },
          [⟨.cachedResponse req.parsed.requestId (requestFingerprint sha256 req.parsed), .ok none⟩,
            ⟨.verifyPayment (expectedPayment req txnId), .ok true⟩,
            ⟨.claimPayment (paymentOf sha256 req txnId), .ok .claimed⟩,
            ⟨.executeTurn (routerTurn req), .ok turn⟩]) := by
  obtain ⟨payments, hclaim, hrows⟩ := claimPayment_first
    (show (paymentOf sha256 req txnId).amount ≠ .nan from hnumber)
  rw [← hpayments] at hclaim
  refine ⟨payments, hrows, ?_⟩
  rw [Prog.advance_add _ 3 1, advance_claim h hnone hclaim nofun]
  simp only [executeAndSave, Procedure.executeTurn, Prog.perform_bind, Prog.advance, ArenaOp.answer,
    if_neg hfailed]
  rfl

theorem payable_rivalPaid : Payable rivalLedger rivalPaid (js "txn_BBBBBBBBBB") :=
  ⟨rfl, rfl, by decide, by decide +kernel⟩

/-- The other seat has paid for its request and not been served; then the first seat is told to pay
under the same id, pays, and is turned down. -/
theorem quote_not_honoured : ∃ history c response a,
    ArenaRun id rivalLedger history c ∧
    ((processRequest id unpaidOrder).eval (ArenaOp.respond (.ok (succeededTurn "trace-1")) 0)
      c.store).1 = .ok response ∧ HasState "PAYMENT_REQUIRED" response ∧
    PaysQuote unpaidOrder response (js "txn_AAAAAAAAAA") orderTransfer ∧
    (∀ row ∈ c.store.payments.rows, row.txnId ≠ js "txn_AAAAAAAAAA") ∧
    c.store.ledger.rows <+: bothLedger.rows ∧ orderTransfer ∈ newest bothLedger ∧
    ((processRequest id paidOrder).eval
      (ArenaOp.respond (.ok (succeededTurn "trace-1")) 0) { c.store with ledger := bothLedger }).1 =
        .ok a ∧ HasState "REJECTED" a := by
  have hnumber : rivalPaid.parsed.price.number ≠ .nan :=
    (by decide +kernel : (Price.credits 7).number ≠ .nan)
  obtain ⟨payments, hrows, hserved⟩ := advance_failed id (.initial rivalLedger) payable_rivalPaid
    hnumber rfl rfl (show ¬failedTurn.Succeeded by decide)
  have hrun := Run.serve_alone (exec_answer _) .init hserved
  have hunused : ∀ row ∈ payments.rows, row.txnId ≠ js "txn_AAAAAAAAAA" := by
    rw [hrows]
    simp only [List.mem_singleton, forall_eq]
    decide
  have hlisted : orderTransfer ∈ newest bothLedger := List.mem_cons_of_mem _ List.mem_cons_self
  have hverified : verifyPayment (expectedPayment paidOrder
      (js "txn_AAAAAAAAAA")) (newest bothLedger) := by
    rw [verifyPayment_newest hlisted rfl (by decide) (by decide) (by decide)]
    exact matches_of_paysQuote paysQuote_order
  have hfingerprint : requestFingerprint id rivalPaid.parsed ≠
      requestFingerprint id paidOrder.parsed := by
    intro h
    have hseat := ((fingerprint_eq_iff Function.injective_id _ _).1 h).1.senderSeat_eq
    revert hseat
    decide
  have hpaid : (processRequest id paidOrder).eval
        (ArenaOp.respond (.ok (succeededTurn "trace-1")) 0) ⟨bothLedger, payments, fun _ => none⟩ =
      (claimAndExecute id paidOrder (js "txn_AAAAAAAAAA")).eval
        (ArenaOp.respond (.ok (succeededTurn "trace-1")) 0) ⟨bothLedger, payments, fun _ => none⟩ :=
    eval_paidWith (payable_orderWith .null .null).valid rfl (by decide) hverified
  have hmem : paymentOf id rivalPaid (js "txn_BBBBBBBBBB") ∈ payments.rows := by
    rw [hrows]
    exact List.mem_singleton_self _
  have hrow : (paymentOf id rivalPaid (js "txn_BBBBBBBBBB")).requestId = js "order-1" := rfl
  have horder : paidOrder.parsed.requestId = js "order-1" := rfl
  have hclaimed : ∃ a, ((claimAndExecute id paidOrder
      (js "txn_AAAAAAAAAA")).eval (ArenaOp.respond (.ok (succeededTurn "trace-1")) 0)
        ⟨bothLedger, payments, fun _ => none⟩).1 = .ok a ∧ HasState "REJECTED" a :=
    eval_conflict hmem (hrow.trans horder.symm) hfingerprint hunused
  obtain ⟨a, ha, hrejected⟩ := hclaimed
  refine ⟨_, _, _, a, hrun, quote_order _ rfl, (hasState_paymentRequired _).2 rfl, paysQuote_order,
    hunused, List.prefix_append _ _, hlisted, ?_, hrejected⟩
  rw [← ha, ← hpaid]
  rfl

end Counterparty.Arena
