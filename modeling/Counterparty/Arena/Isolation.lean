import Counterparty.Library.Projection
import Counterparty.Arena.Retries

/-! Buyers side by side: what one seat is answered when the messages of all other seats are deleted. -/
namespace Counterparty.Arena

open Json Interleave

variable {sha256 : Text → Text} {ledger : Ledger} {req : ArenaRequest} {m : ArenaMoment}
  {full history : List ArenaEvent} {c : ArenaConfig} {S : JsString} {s t : ArenaState}

/-! What a handler asks for. -/

/-- The operations on the tables are about the order of the request; what is claimed has the form of a
transaction id. -/
def OwnOp (sha256 : Text → Text) (req : ArenaRequest) : ArenaOp → Prop
  | .cachedResponse requestId fingerprint | .saveResponse requestId fingerprint _ =>
    (requestId, fingerprint) = req.order sha256
  | .claimPayment input => ∃ txnId, sharednetTxnPattern txnId ∧ input = paymentOf sha256 req txnId
  | .verifyPayment _ | .executeTurn _ => True

theorem performs_saveAndReturn (txnId : JsString) (turn : Turn) :
    (saveAndReturn sha256 req txnId turn).Performs (OwnOp sha256 req) := by
  refine .perform_bind rfl ?_
  rintro (e | u) <;> trivial

theorem performs_executeAndSave (txnId : JsString) :
    (executeAndSave sha256 req txnId).Performs (OwnOp sha256 req) := by
  refine .perform_bind trivial ?_
  rintro (message | turn)
  · trivial
  · dsimp only
    split_ifs
    · exact performs_saveAndReturn txnId turn
    · trivial

theorem performs_claimAndExecute {txnId : JsString} (hpattern : sharednetTxnPattern txnId) :
    (claimAndExecute sha256 req txnId).Performs (OwnOp sha256 req) := by
  refine .perform_bind ⟨txnId, hpattern, rfl⟩ ?_
  rintro (e | claim)
  · trivial
  · cases claim with
    | conflict => trivial
    | claimed => exact performs_executeAndSave txnId
    | sameRequest => exact performs_executeAndSave txnId

theorem performs_verifyAndExecute : (verifyAndExecute sha256 req).Performs (OwnOp sha256 req) := by
  unfold verifyAndExecute
  split
  · trivial
  · split_ifs with hpattern
    · refine .perform_bind trivial ?_
      rintro (message | paid)
      · trivial
      · cases paid with
        | false => trivial
        | true => exact performs_claimAndExecute hpattern
    · trivial

theorem performs_processRequest : (processRequest sha256 req).Performs (OwnOp sha256 req) := by
  unfold processRequest
  split
  · trivial
  · refine .perform_bind rfl ?_
    rintro (e | cached)
    · trivial
    · cases cached with
      | some response => trivial
      | none => exact performs_verifyAndExecute

/-! The state without the other seats. -/

/-- The row was claimed by another seat, which the ledger says has paid. -/
def Foreign (S : JsString) (history : List ArenaEvent) (ledger : Ledger) (row : Payment) : Prop :=
  ∃ claimer, claimer.parsed.senderSeat ≠ S ∧
    .called claimer (.claimPayment row) (.ok .claimed) ∈ history ∧ Verified ledger claimer row.txnId

/-- The id is one that the seat uses in the run. -/
def UsesId (S : JsString) (full : List ArenaEvent) (requestId : JsString) : Prop :=
  ∃ req, .started req ∈ full ∧ req.parsed.senderSeat = S ∧ req.parsed.requestId = requestId

/-- Rows of other seats are missing, and nothing that the seat could come upon. -/
structure WithoutOthers (S : JsString) (full history : List ArenaEvent) (s t : ArenaState) : Prop where
  ledger : t.ledger.rows <+: s.ledger.rows
  kept : t.payments.rows ⊆ s.payments.rows
  missing : ∀ row ∈ s.payments.rows, row ∈ t.payments.rows ∨ Foreign S history s.ledger row
  responses : ∀ requestId, UsesId S full requestId → t.responses requestId = s.responses requestId

theorem Foreign.mono {history' : List ArenaEvent} {ledger' : Ledger} {row : Payment}
    (h : Foreign S history ledger row) (hhistory : history <+: history')
    (hledger : ledger.rows <+: ledger'.rows) : Foreign S history' ledger' row := by
  obtain ⟨claimer, hseat, hclaimed, hverified⟩ := h
  exact ⟨claimer, hseat, hhistory.subset hclaimed, hverified.mono hledger⟩

theorem WithoutOthers.event (h : WithoutOthers S full history s t) (e : ArenaEvent) :
    WithoutOthers S full (history ++ [e]) s t := by
  refine ⟨h.ledger, h.kept, ?_, h.responses⟩
  intro row hrow
  exact (h.missing row hrow).imp_right fun hforeign =>
    hforeign.mono (List.prefix_append _ _) List.prefix_rfl

/-- Transfers that are made in one state and seen in the other. -/
theorem WithoutOthers.transfers {ledger' ledger'' : Ledger} (h : WithoutOthers S full history s t)
    (hledger : s.ledger.rows <+: ledger'.rows) (hseen : ledger''.rows <+: ledger'.rows) :
    WithoutOthers S full history { s with ledger := ledger' } { t with ledger := ledger'' } := by
  refine ⟨hseen, h.kept, ?_, h.responses⟩
  intro row hrow
  exact (h.missing row hrow).imp_right fun hforeign => hforeign.mono List.prefix_rfl hledger

/-- Ledger ids are unique, so a transfer has one sender. -/
theorem seat_of_verified {claimer : ArenaRequest} {txnId : JsString} (h : Verified ledger req txnId)
    (h' : Verified ledger claimer txnId) : req.parsed.senderSeat = claimer.parsed.senderSeat := by
  obtain ⟨item, hitem, hpays⟩ := h
  obtain ⟨item', hitem', hpays'⟩ := h'
  have hsame : item = item' :=
    Table.eq_of_clash Eq.symm hitem hitem' (hpays.id_eq.trans hpays'.id_eq.symm)
  subst hsame
  exact Option.some.inj (hpays.byInstanceId_eq.symm.trans hpays'.byInstanceId_eq)

/-! The two runs. -/

section Run

variable (hsha : Function.Injective sha256) (hrun : ArenaRun sha256 ledger history c)

variable {i : ℕ} {op : ArenaOp} {next : op.Ret → Handler} {r : op.Ret}
  (hhandler : c.handlers i = some (req, .call op next)) (hexec : op.Exec c.store r s)
  (hfull : history ++ [.called req op r] ⊆ full)
  (hapart : ∀ claimer row, .called claimer (.claimPayment row) (.ok .claimed) ∈ full →
    claimer.parsed.senderSeat ≠ S → ¬UsesId S full row.requestId)

include hrun hhandler in
theorem ownOp_of_handler : OwnOp sha256 req op :=
  (hrun.handlers (P := fun req p => p.Performs (OwnOp sha256 req)) (fun _ => performs_processRequest)
    (fun _ _ _ r h => h.2 r) i req _ hhandler).1

include hrun hhandler hfull in
theorem usesId_of_handler (hown : req.parsed.senderSeat = S) :
    UsesId S full req.parsed.requestId :=
  ⟨req, hfull (List.mem_append_left _ (hrun.started.1 i req _ hhandler)), hown, rfl⟩

include hrun hhandler hfull hapart in
/-- No row of another seat has the transaction or the id of a payment of the seat. -/
theorem kept_of_clash {txnId : JsString} {row : Payment} (hown : req.parsed.senderSeat = S)
    (hverified : Verified c.store.ledger req txnId) (h : WithoutOthers S full history c.store t)
    (hrow : row ∈ c.store.payments.rows) (hclash : row.Clash (paymentOf sha256 req txnId)) :
    row ∈ t.payments.rows := by
  rcases h.missing row hrow with hkept | ⟨claimer, hseat, hclaimed, hpaid⟩
  · exact hkept
  · rcases hclash with htxn | hid
    · have htxn : row.txnId = txnId := htxn
      rw [htxn] at hpaid
      exact absurd ((seat_of_verified hverified hpaid).symm.trans hown) hseat
    · have hid : row.requestId = req.parsed.requestId := hid
      have hnot := hapart claimer row (hfull (List.mem_append_left _ hclaimed)) hseat
      exact absurd (usesId_of_handler hrun hhandler hfull hown) (hid ▸ hnot)

include hrun hhandler hexec hfull hapart in
/-- What the seat does can be done without the others, with the same result. -/
theorem own_call (hown : req.parsed.senderSeat = S)
    (h : WithoutOthers S full history c.store t) :
    ∃ t', op.Exec t r t' ∧ WithoutOthers S full (history ++ [.called req op r]) s t' := by
  have hop := ownOp_of_handler hrun hhandler
  have huses := usesId_of_handler hrun hhandler hfull hown
  have hallowed := ((arena_good hrun).keeps i req _ hhandler).1
  have hevent := h.event (.called req op r)
  cases op with
  | cachedResponse requestId fingerprint =>
    obtain ⟨rfl, fails, hr⟩ := hexec
    cases hop
    refine ⟨t, ⟨rfl, fails, ?_⟩, hevent⟩
    rw [hr, cachedResponse, cachedResponse, h.responses _ huses]
  | verifyPayment expected =>
    rcases hexec with ⟨rfl, hr⟩ | ⟨ledger', page, hledger, hpage, rfl, hr⟩
    · exact ⟨t, .inl ⟨rfl, hr⟩, hevent⟩
    · exact ⟨{ t with ledger := ledger' },
        .inr ⟨ledger', page, h.ledger.trans hledger, hpage, rfl, hr⟩,
        hevent.transfers hledger List.prefix_rfl⟩
  | claimPayment input =>
    obtain ⟨faults, pick, rfl, rfl⟩ := hexec
    obtain ⟨txnId, rfl, hverified⟩ := hallowed
    have hclash : ∀ row ∈ c.store.payments.rows, row.Clash (paymentOf sha256 req txnId) →
        row ∈ t.payments.rows :=
      fun row hrow => kept_of_clash hrun hhandler hfull hapart hown hverified h hrow
    obtain ⟨pick', added, hr, hadded, hadded'⟩ := claimPayment_agrees h.kept hclash faults pick
    refine ⟨_, ⟨faults, pick', hr.symm, rfl⟩, h.ledger, ?_, ?_, h.responses⟩
    · dsimp only
      rw [hadded, hadded']
      exact List.append_subset.2 ⟨List.subset_append_of_subset_left _ h.kept,
        List.subset_append_right _ _⟩
    · intro row hrow
      dsimp only at hrow ⊢
      rw [hadded'] at hrow
      rw [hadded]
      rcases List.mem_append.1 hrow with hrow | hrow
      · exact (hevent.missing row hrow).imp_left (List.mem_append_left _)
      · exact .inl (List.mem_append_right _ hrow)
  | executeTurn turn =>
    have hs : s = c.store := hexec
    subst hs
    exact ⟨t, rfl, hevent⟩
  | saveResponse requestId fingerprint response =>
    obtain ⟨fails, hr, rfl⟩ := hexec
    cases hop
    refine ⟨_, ⟨fails, ?_, rfl⟩, h.ledger, h.kept, hevent.missing, ?_⟩
    · rw [hr]
      cases fails <;> rfl
    · intro requestId hid
      cases fails with
      | true => exact h.responses requestId hid
      | false => exact upsertResponse_congr (h.responses _ huses) (h.responses requestId hid)

include hsha hrun hfull hapart in
/-- What another seat saves was paid for by that seat, and is not under an id that the seat uses. -/
theorem not_usesId_of_saved {requestId : JsString} {fingerprint : Text} {response : JsJson}
    (hother : req.parsed.senderSeat ≠ S)
    (hallowed : AllowedOp sha256 req (.saveResponse requestId fingerprint response)
      ⟨history, c.store⟩) : ¬UsesId S full requestId := by
  have hgood := arena_good hrun
  obtain ⟨horder, req', txnId, turn, hturn, -, horder', -⟩ := hallowed
  obtain ⟨row, hrow, hpaid⟩ := (hgood.inv.executed req' _ _ hturn).2
  obtain ⟨claimer, hclaimed, hclaimer, -⟩ := hgood.inv.paid row hrow
  have hsaved : row.order = (requestId, fingerprint) := hpaid.trans (horder'.trans horder.symm)
  have hfingerprint : requestFingerprint sha256 claimer.parsed =
      requestFingerprint sha256 req.parsed := by
    have hrowOrder : row.order = req.order sha256 := hpaid.trans horder'
    rw [hclaimer] at hrowOrder
    exact congrArg Prod.snd hrowOrder
  have hseat := ((fingerprint_eq_iff hsha _ _).1 hfingerprint).1.senderSeat_eq
  have hnot := hapart claimer row (hfull (List.mem_append_left _ hclaimed)) (hseat ▸ hother)
  rwa [show row.requestId = requestId from congrArg Prod.fst hsaved] at hnot

include hsha hrun hhandler hexec hfull hapart in
/-- What another seat does leaves everything the seat could come upon as it is. -/
theorem other_call (hother : req.parsed.senderSeat ≠ S)
    (h : WithoutOthers S full history c.store t) :
    WithoutOthers S full (history ++ [.called req op r]) s t := by
  have hgood := arena_good hrun
  have hallowed := (hgood.keeps i req _ hhandler).1
  have hevent := h.event (.called req op r)
  cases op with
  | cachedResponse requestId fingerprint =>
    obtain ⟨rfl, -⟩ := hexec
    exact hevent
  | verifyPayment expected =>
    rcases hexec with ⟨rfl, -⟩ | ⟨ledger', page, hledger, -, rfl, -⟩
    · exact hevent
    · exact hevent.transfers hledger (h.ledger.trans hledger)
  | claimPayment input =>
    obtain ⟨faults, pick, hr, rfl⟩ := hexec
    obtain ⟨txnId, rfl, hverified⟩ := hallowed
    have houtcome := claimPayment_outcome faults pick (paymentOf sha256 req txnId) c.store.payments
    rw [← hr] at houtcome
    generalize (claimPayment faults pick (paymentOf sha256 req txnId) c.store.payments).2 = payments
      at houtcome ⊢
    refine ⟨h.ledger, fun row hrow => houtcome.grows.subset (h.kept hrow), ?_, h.responses⟩
    intro row hrow
    cases houtcome with
    | threw e => exact hevent.missing row hrow
    | found hrow' hclash => exact hevent.missing row hrow
    | claimed hrows hnew =>
      dsimp only at hrow
      rw [hrows] at hrow
      rcases List.mem_append.1 hrow with hrow | hrow
      · exact hevent.missing row hrow
      · rw [List.mem_singleton.1 hrow]
        exact .inr ⟨req, hother, by simp, hverified⟩
  | executeTurn turn =>
    have hs : s = c.store := hexec
    subst hs
    exact hevent
  | saveResponse requestId fingerprint response =>
    obtain ⟨fails, -, rfl⟩ := hexec
    have hid := not_usesId_of_saved hsha hrun hfull hapart hother hallowed
    refine ⟨h.ledger, h.kept, hevent.missing, ?_⟩
    intro requestId' huses
    have hne : requestId' ≠ requestId := by
      rintro rfl
      exact hid huses
    cases fails with
    | true => exact h.responses requestId' huses
    | false => exact (h.responses requestId' huses).trans (upsertResponse_of_ne hne).symm

end Run

/-- As long as no other seat has a payment claimed for a request id that the seat uses, what is left
of a run without the messages of all other seats is a run: every result and every answer the seat
gets in it is one it gets without them. -/
theorem buyer_isolated (hsha : Function.Injective sha256)
    (hrun : ArenaRun sha256 ledger history c)
    (hapart : ∀ claimer row, .called claimer (.claimPayment row) (.ok .claimed) ∈ history →
      claimer.parsed.senderSeat ≠ S → ¬UsesId S history row.requestId) :
    ∃ c', ArenaRun sha256 ledger (history.filter fun e => e.request.parsed.senderSeat = S) c' := by
  have hunwinding : Unwinding ArenaOp.Exec (processRequest sha256) (.initial ledger) history
      (fun req => req.parsed.senderSeat = S) (WithoutOthers S history) := by
    refine ⟨?_, ?_, ?_, ?_⟩
    · exact ⟨List.prefix_rfl, List.Subset.refl _, fun row hrow => .inl hrow, fun _ _ => rfl⟩
    · intro history e s t h _
      exact h.event e
    · intro history c i req op next r s t hrun hhandler hexec hfull hown h
      exact own_call hrun hhandler hexec hfull hapart hown h
    · intro history c i req op next r s t hrun hhandler hexec hfull hother h
      exact other_call hsha hrun hhandler hexec hfull hapart hother h
  obtain ⟨t, -, hprojected⟩ := hunwinding.project hrun (List.Subset.refl _)
  exact ⟨_, hprojected⟩

/-! A request without a payment, alone and after another seat was served under its id. -/

/-- The lookup of a response does not fail, for then every request is turned down. -/
def ArenaOp.Reads (op : ArenaOp) (s : ArenaState) (r : op.Ret) : Prop :=
  match op with
  | .cachedResponse requestId fingerprint =>
    r = Arena.cachedResponse false requestId fingerprint s.responses
  | _ => True

def ArenaOp.ReadExec (op : ArenaOp) (s : ArenaState) (r : op.Ret) (s' : ArenaState) : Prop :=
  op.Exec s r s' ∧ op.Reads s r

theorem readExec_answer (turn : Turn) (op : ArenaOp) (s : ArenaState) :
    op.ReadExec s (op.answer turn s).1 (op.answer turn s).2 := by
  refine ⟨exec_answer turn op s, ?_⟩
  cases op with
  | cachedResponse requestId fingerprint => rfl
  | _ => trivial

/-- Everything so far was about the one request. -/
def Alone (req : ArenaRequest) (past : List ArenaEvent) : Prop := ∀ e ∈ past, e.request = req

theorem Alone.mono {past past' : List ArenaEvent} (h : Alone req past') (hpast : past <+: past') :
    Alone req past := fun e he => h e (hpast.subset he)

/-- While the request is alone, nothing is stored, and its price is asked for. -/
def quoteContract (quoted : ArenaRequest) :
    Contract ArenaRequest ArenaOp.Ret (Except Thrown JsJson) ArenaState ArenaOp.ReadExec where
  le _ _ := True
  refl _ := trivial
  trans _ _ := trivial
  Inv m := Alone quoted m.past → m.now.responses = fun _ => none
  inv_event h _ halone := h (halone.mono (List.prefix_append _ _))
  Allowed req op _ := req = quoted →
    ∃ requestId fingerprint, op = .cachedResponse requestId fingerprint
  allowed_mono h _ _ := h
  step := by
    intro req op m r s hallowed hinv hexec
    refine ⟨fun halone => ?_, trivial⟩
    obtain ⟨_, _, rfl⟩ := hallowed (halone _ (List.mem_append_right _ List.mem_cons_self))
    rw [hexec.1.1]
    exact hinv (halone.mono (List.prefix_append _ _))
  post req a m := req = quoted → Alone quoted m.past →
    a = .ok (paymentRequired quoted.parsed quoted.process.payee)
  post_mono h hpast _ hreq halone := h hreq (halone.mono hpast)

theorem quotes_other {quoted : ArenaRequest} (hne : req ≠ quoted) (p : Handler) :
    (quoteContract quoted).Keeps req ((quoteContract quoted).post req) p m := by
  induction p generalizing m with
  | done a => exact fun hreq => absurd hreq hne
  | call op next ih => exact ⟨fun hreq => absurd hreq hne, fun m₁ r s _ _ _ _ => ih r⟩

theorem quotes_unpaid (hvalid : validateInput req.parsed = none)
    (hunpaid : req.parsed.paymentTxnId = none) :
    (quoteContract req).Keeps req ((quoteContract req).post req) (processRequest sha256 req) m := by
  rw [processRequest, hvalid]
  refine ⟨fun _ => ⟨_, _, rfl⟩, ?_⟩
  intro m₁ r s _ _ hinv hexec
  have hnone : Alone req m₁.past → r = .ok none := by
    intro halone
    rw [hexec.2, cachedResponse, hinv halone]
    rfl
  have hresult : ∀ {past : List ArenaEvent}, Alone req (m₁.past ++ past) → r = .ok none :=
    fun halone => hnone (halone.mono (List.prefix_append _ _))
  cases r with
  | error e => exact fun _ halone => by cases hresult halone
  | ok cached =>
    cases cached with
    | some response => exact fun _ halone => by cases hresult halone
    | none =>
      rw [verifyAndExecute, hunpaid]
      exact fun _ _ => rfl

/-- Where there are no other requests, the price of a request without a payment is asked for. -/
theorem quoted_alone {a : Except Thrown JsJson} (hvalid : validateInput req.parsed = none)
    (hunpaid : req.parsed.paymentTxnId = none)
    (hrun : Run ArenaOp.ReadExec (processRequest sha256) (.initial ledger) history c)
    (halone : Alone req history) (hreturned : .returned req a ∈ history) :
    a = .ok (paymentRequired req.parsed req.process.payee) := by
  have hkeeps : ∀ req' m, (quoteContract req).Inv m → (quoteContract req).Keeps req'
      ((quoteContract req).post req') (processRequest sha256 req') m := by
    intro req' m _
    by_cases hreq : req' = req
    · subst hreq
      exact quotes_unpaid hvalid hunpaid
    · exact quotes_other hreq _
  exact (Contract.good_of_run (fun _ => rfl) hkeeps hrun).answers req a hreturned rfl halone

/-- Another seat, which asks under the id of an order of the first. -/
def rivalOrder : ArenaRequest where
  parsed :=
    { (orderWith .null distinctKeys_null).parsed with
      senderSeat := js "i_BBBBBBBBBB"
      paymentTxnId := none
      senderSeat_seat := by decide }
  process := (orderWith .null distinctKeys_null).process

theorem fingerprint_rivalOrder : requestFingerprint id (orderWith .null .null).parsed ≠
    requestFingerprint id rivalOrder.parsed := by
  intro h
  have hseat := ((fingerprint_eq_iff Function.injective_id _ _).1 h).1.senderSeat_eq
  revert hseat
  decide

/-- The id of a request was used for a different one. -/
theorem advance_rejected (req : ArenaRequest) {row : StoredResponse} (turn : Turn)
    (hvalid : validateInput req.parsed = none) (hrow : s.responses req.parsed.requestId = some row)
    (hfingerprint : row.fingerprint ≠ requestFingerprint sha256 req.parsed) :
    ∃ response, HasState "REJECTED" response ∧
      (processRequest sha256 req).advance (ArenaOp.answer turn) 1 s = (.done (.ok response), s,
        [⟨.cachedResponse req.parsed.requestId (requestFingerprint sha256 req.parsed),
          .error .differentRequest⟩]) := by
  have hcached : Arena.cachedResponse false req.parsed.requestId
      (requestFingerprint sha256 req.parsed) s.responses = .error .differentRequest := by
    simp [Arena.cachedResponse, hrow, hfingerprint]
  rw [processRequest, hvalid]
  simp only [Procedure.cachedResponse, Prog.perform_bind, Prog.advance, ArenaOp.answer, hcached]
  exact ⟨_, (hasState_serviceResponse _ _).2 rfl, rfl⟩

/-- The order is paid for and delivered; then the other seat asks for it. -/
theorem run_rivalOrder : ∃ history c response,
    Run ArenaOp.ReadExec (processRequest id) (.initial orderLedger) history c ∧
    (∀ e ∈ history, e.request = orderWith .null .null ∨ e.request = rivalOrder) ∧
    (∀ req input r, .called req (.claimPayment input) r ∈ history → req = orderWith .null .null) ∧
    .returned rivalOrder (.ok response) ∈ history ∧ HasState "REJECTED" response := by
  obtain ⟨history, s, hrun, hstored, horders, -⟩ := run_orderWith id .null .null
    (rfl : (succeededTurn "trace-1").Succeeded) (readExec_answer _)
  have hstored : ∃ row, s.responses (js "order-1") = some row ∧
      row.fingerprint = requestFingerprint id (orderWith .null .null).parsed := ⟨_, hstored, rfl⟩
  obtain ⟨row, hrow, hfingerprint⟩ := hstored
  obtain ⟨response, hstate, hrejected⟩ := advance_rejected rivalOrder (succeededTurn "trace-1") rfl
    hrow (by rw [hfingerprint]; exact fingerprint_rivalOrder)
  refine ⟨_, _, response, Run.serve_alone (readExec_answer _) hrun hrejected, ?_, ?_, by simp, hstate⟩
  · intro e he
    by_cases hold : e ∈ history
    · exact .inl (horders _ hold)
    · simp only [calledBy, List.map_cons, List.map_nil, List.mem_append, hold, List.mem_cons,
        List.not_mem_nil, or_false, false_or] at he
      rcases he with (rfl | rfl) | rfl <;> exact .inr rfl
  · intro req input r hmem
    by_cases hold : .called req (.claimPayment input) r ∈ history
    · exact horders _ hold
    · simp [calledBy, hold] at hmem

theorem buyer_isolated_order : ∃ history c response,
    ArenaRun id orderLedger history c ∧
    .returned rivalOrder (.ok response) ∈ history ∧ HasState "REJECTED" response ∧
    ∃ c', ArenaRun id orderLedger
      (history.filter fun e => e.request.parsed.senderSeat = js "i_AAAAAAAAAA") c' := by
  obtain ⟨history, c, response, hrun, -, hclaims, hreturned, hrejected⟩ := run_rivalOrder
  have hrun : ArenaRun id orderLedger history c :=
    hrun.mono (fun _ _ _ _ h => h.1) fun _ _ _ h => h
  refine ⟨history, c, response, hrun, hreturned, hrejected,
    buyer_isolated Function.injective_id hrun ?_⟩
  intro claimer row hclaimed hseat
  rw [hclaims _ _ _ hclaimed] at hseat
  exact absurd rfl hseat

/-- A seat that asks under an id that another seat was served under is turned down; without the other
seat, its price is asked for in every run. -/
theorem buyer_not_isolated :
    (∃ history c response, Run ArenaOp.ReadExec (processRequest id) (.initial orderLedger) history c ∧
      (∀ e ∈ history, e.request.parsed.senderSeat = js "i_BBBBBBBBBB" → e.request = rivalOrder) ∧
      .returned rivalOrder (.ok response) ∈ history ∧ HasState "REJECTED" response) ∧
    ∀ history c response, Run ArenaOp.ReadExec (processRequest id) (.initial orderLedger) history c →
      (∀ e ∈ history, e.request = rivalOrder) → .returned rivalOrder (.ok response) ∈ history →
        HasState "PAYMENT_REQUIRED" response := by
  refine ⟨?_, ?_⟩
  · obtain ⟨history, c, response, hrun, hrequests, -, hreturned, hrejected⟩ := run_rivalOrder
    refine ⟨history, c, response, hrun, ?_, hreturned, hrejected⟩
    intro e he hseat
    refine (hrequests e he).resolve_left fun horder => ?_
    rw [horder] at hseat
    revert hseat
    decide
  · intro history c response hrun halone hreturned
    cases quoted_alone rfl rfl hrun halone hreturned
    exact (hasState_paymentRequired _).2 rfl

end Counterparty.Arena
