import Counterparty.Arena.Service

/-! What is paid for before it is executed, and executed before it is delivered, in every run of any
number of processes. -/
namespace Counterparty.Arena

open Json Interleave

abbrev ArenaMoment := Moment ArenaRequest ArenaOp.Ret (Except Thrown JsJson) ArenaState

/-- What payments are bound to and responses are stored for. -/
abbrev Order := JsString × Text

section Spec

variable (sha256 : Text → Text)

def ArenaRequest.order (req : ArenaRequest) : Order :=
  (req.parsed.requestId, requestFingerprint sha256 req.parsed)

def Payment.order (row : Payment) : Order := (row.requestId, row.fingerprint)

/-- A transaction is bound to the order. -/
def PaidFor (payments : Payments) (order : Order) : Prop := ∃ row ∈ payments.rows, row.order = order

/-- The ledger has a transfer that pays for the request at its process. -/
def Verified (ledger : Ledger) (req : ArenaRequest) (txnId : JsString) : Prop :=
  ∃ item ∈ ledger.rows, Pays item (expectedPayment req txnId)

/-- The row was bound by a process that found it on the ledger. -/
def ClaimedAfterCheck (m : ArenaMoment) (row : Payment) : Prop :=
  ∃ claimer, .called claimer (.claimPayment row) (.ok .claimed) ∈ m.past ∧
    row = paymentOf sha256 claimer row.txnId ∧ Verified m.now.ledger claimer row.txnId

/-- The text is the response to an executed turn of the order. -/
def Produced (past : List ArenaEvent) (order : Order) (text : Text) : Prop :=
  ∃ req txnId turn, .called req (.executeTurn (routerTurn req)) (.ok turn) ∈ past ∧
    turn.Succeeded ∧ req.order sha256 = order ∧ text = stringify (turnResponse req.parsed txnId turn)

structure Sound (m : ArenaMoment) : Prop where
  paid : ∀ row ∈ m.now.payments.rows, ClaimedAfterCheck sha256 m row
  executed : ∀ req turn r, .called req (.executeTurn turn) r ∈ m.past →
    turn = routerTurn req ∧ PaidFor m.now.payments (req.order sha256)
  saved : ∀ requestId row, m.now.responses requestId = some row →
    Produced sha256 m.past (requestId, row.fingerprint) row.responseJson

/-- What a handler has to know before it acts. -/
def AllowedOp (req : ArenaRequest) : ArenaOp → ArenaMoment → Prop
  | .cachedResponse _ _, _ | .verifyPayment _, _ => True
  | .claimPayment input, m => ∃ txnId, input = paymentOf sha256 req txnId ∧ Verified m.now.ledger req txnId
  | .executeTurn turn, m => turn = routerTurn req ∧ PaidFor m.now.payments (req.order sha256)
  | .saveResponse requestId fingerprint response, m =>
    (requestId, fingerprint) = req.order sha256 ∧
      Produced sha256 m.past (req.order sha256) (stringify response)

/-- What is delivered comes from an executed turn of the order. -/
def DeliveredAfterTurn (req : ArenaRequest) (a : Except Thrown JsJson) (m : ArenaMoment) : Prop :=
  ∀ response, a = .ok response → Delivered response →
    Produced sha256 m.past (req.order sha256) (stringify response)

end Spec

/-- The ledger and the payments only grow. -/
def ArenaState.Le (s s' : ArenaState) : Prop :=
  s.ledger.rows <+: s'.ledger.rows ∧ s.payments.rows <+: s'.payments.rows

variable {sha256 : Text → Text} {req : ArenaRequest} {m m' : ArenaMoment} {order : Order}

theorem ArenaState.Le.refl (s : ArenaState) : s.Le s := ⟨List.prefix_rfl, List.prefix_rfl⟩

theorem ArenaState.Le.trans {s s' s'' : ArenaState} (h : s.Le s') (h' : s'.Le s'') : s.Le s'' :=
  ⟨h.1.trans h'.1, h.2.trans h'.2⟩

theorem PaidFor.mono {t t' : Payments} (h : PaidFor t order) (hrows : t.rows <+: t'.rows) :
    PaidFor t' order := by
  obtain ⟨row, hrow, horder⟩ := h
  exact ⟨row, hrows.subset hrow, horder⟩

theorem Verified.mono {l l' : Ledger} {txnId : JsString} (h : Verified l req txnId)
    (hrows : l.rows <+: l'.rows) : Verified l' req txnId := by
  obtain ⟨item, hitem, hpays⟩ := h
  exact ⟨item, hrows.subset hitem, hpays⟩

theorem Produced.mono {past past' : List ArenaEvent} {text : Text}
    (h : Produced sha256 past order text) (hpast : past <+: past') :
    Produced sha256 past' order text := by
  obtain ⟨req, txnId, turn, hmem, h⟩ := h
  exact ⟨req, txnId, turn, hpast.subset hmem, h⟩

theorem ClaimedAfterCheck.mono {row : Payment} (h : ClaimedAfterCheck sha256 m row)
    (hpast : m.past <+: m'.past) (hle : m.now.Le m'.now) : ClaimedAfterCheck sha256 m' row := by
  obtain ⟨claimer, hmem, hrow, hverified⟩ := h
  exact ⟨claimer, hpast.subset hmem, hrow, hverified.mono hle.1⟩

theorem AllowedOp.mono {op : ArenaOp} (h : AllowedOp sha256 req op m) (hpast : m.past <+: m'.past)
    (hle : m.now.Le m'.now) : AllowedOp sha256 req op m' := by
  cases op with
  | cachedResponse requestId fingerprint => trivial
  | verifyPayment expected => trivial
  | claimPayment input =>
    obtain ⟨txnId, hinput, hverified⟩ := h
    exact ⟨txnId, hinput, hverified.mono hle.1⟩
  | executeTurn turn => exact ⟨h.1, h.2.mono hle.2⟩
  | saveResponse requestId fingerprint response => exact ⟨h.1, h.2.mono hpast⟩

/-- An event that neither executes a turn nor changes what is stored. -/
theorem Sound.event (h : Sound sha256 m) {e : ArenaEvent}
    (he : ∀ req turn r, e ≠ .called req (.executeTurn turn) r) {s : ArenaState} (hle : m.now.Le s)
    (hpayments : s.payments = m.now.payments) (hresponses : s.responses = m.now.responses) :
    Sound sha256 ⟨m.past ++ [e], s⟩ := by
  have hpast : m.past <+: m.past ++ [e] := List.prefix_append _ _
  refine ⟨?_, ?_, ?_⟩
  · intro row hrow
    exact (h.paid row (hpayments ▸ hrow)).mono hpast hle
  · intro req turn r hmem
    rcases List.mem_append.1 hmem with hmem | hmem
    · rw [hpayments]
      exact h.executed req turn r hmem
    · exact absurd (List.mem_singleton.1 hmem).symm (he req turn r)
  · intro requestId row hrow
    exact (h.saved requestId row (hresponses ▸ hrow)).mono hpast

theorem paidFor_of_outcome {input : Payment} {t t' : Payments} {claim : PaymentClaim}
    (h : ClaimOutcome input t (.ok claim) t') (hclaim : claim ≠ .conflict) : PaidFor t' input.order := by
  generalize hresult : (.ok claim : Except StoreError PaymentClaim) = result at h
  cases h with
  | threw e => cases hresult
  | @found existing hrow hclash =>
    cases hresult
    rw [Payment.claim] at hclaim
    split_ifs at hclaim with hsame
    · exact ⟨existing, hrow, by rw [Payment.order, Payment.order, hsame.1, hsame.2]⟩
    · exact absurd rfl hclaim
  | claimed hrows hnew => exact ⟨input, by rw [hrows]; simp, rfl⟩

theorem Sound.claim (h : Sound sha256 m) {txnId : JsString} (hverified : Verified m.now.ledger req txnId)
    {result : Except StoreError PaymentClaim} {t : Payments}
    (houtcome : ClaimOutcome (paymentOf sha256 req txnId) m.now.payments result t) :
    Sound sha256 ⟨m.past ++ [.called req (.claimPayment (paymentOf sha256 req txnId)) result],
      { m.now with payments := t }⟩ := by
  have hpast : m.past <+: m.past ++
      [.called req (.claimPayment (paymentOf sha256 req txnId)) result] := List.prefix_append _ _
  have hle : m.now.Le { m.now with payments := t } := ⟨List.prefix_rfl, houtcome.grows⟩
  refine ⟨?_, ?_, ?_⟩
  · intro row hrow
    by_cases hold : row ∈ m.now.payments.rows
    · exact (h.paid row hold).mono hpast hle
    · cases houtcome with
      | threw e => exact absurd hrow hold
      | found hrow' hclash => exact absurd hrow hold
      | claimed hrows hnew =>
        have hsame : row = paymentOf sha256 req txnId := by
          simpa [hrows, hold] using hrow
        subst hsame
        exact ⟨req, by simp, rfl, hverified⟩
  · intro req' turn r hmem
    have hmem' : .called req' (.executeTurn turn) r ∈ m.past := by simpa using hmem
    exact ⟨(h.executed req' turn r hmem').1, (h.executed req' turn r hmem').2.mono houtcome.grows⟩
  · intro requestId row hrow
    exact (h.saved requestId row hrow).mono hpast

theorem Sound.execute (h : Sound sha256 m) (hpaid : PaidFor m.now.payments (req.order sha256))
    (r : Except JsString Turn) :
    Sound sha256 ⟨m.past ++ [.called req (.executeTurn (routerTurn req)) r], m.now⟩ := by
  have hpast : m.past <+: m.past ++ [.called req (.executeTurn (routerTurn req)) r] :=
    List.prefix_append _ _
  refine ⟨?_, ?_, ?_⟩
  · intro row hrow
    exact (h.paid row hrow).mono hpast (.refl _)
  · intro req' turn r' hmem
    rcases List.mem_append.1 hmem with hmem | hmem
    · exact h.executed req' turn r' hmem
    · cases List.mem_singleton.1 hmem
      exact ⟨rfl, hpaid⟩
  · intro requestId row hrow
    exact (h.saved requestId row hrow).mono hpast

/-- What is stored after an upsert was stored before or is what was to be stored. -/
theorem upsertResponse_some {requestId requestId' : JsString} {fingerprint : Text} {response : JsJson}
    {t : Responses} {row : StoredResponse}
    (h : upsertResponse requestId fingerprint response t requestId' = some row) :
    t requestId' = some row ∨
      requestId' = requestId ∧ row = ⟨fingerprint, stringify response⟩ := by
  have hupdate : Function.update t requestId (some ⟨fingerprint, stringify response⟩) requestId' =
      some row → t requestId' = some row ∨
        requestId' = requestId ∧ row = ⟨fingerprint, stringify response⟩ := by
    intro h
    by_cases hid : requestId' = requestId
    · subst hid
      rw [Function.update_self] at h
      exact .inr ⟨rfl, (Option.some.inj h).symm⟩
    · rw [Function.update_of_ne hid] at h
      exact .inl h
  rw [upsertResponse] at h
  cases hstored : t requestId with
  | none =>
    rw [hstored] at h
    exact hupdate h
  | some stored =>
    rw [hstored] at h
    dsimp only at h
    split_ifs at h
    · exact hupdate h
    · exact .inl h

theorem saveResponse_some {fails : Bool} {requestId requestId' : JsString} {fingerprint : Text}
    {response : JsJson} {t : Responses} {row : StoredResponse}
    (h : (saveResponse fails requestId fingerprint response t).2 requestId' = some row) :
    t requestId' = some row ∨
      requestId' = requestId ∧ row = ⟨fingerprint, stringify response⟩ := by
  unfold saveResponse at h
  split_ifs at h
  · exact .inl h
  · exact upsertResponse_some h

theorem Sound.step {op : ArenaOp} {r : op.Ret} {s : ArenaState} (hallowed : AllowedOp sha256 req op m)
    (h : Sound sha256 m) (hexec : op.Exec m.now r s) :
    Sound sha256 ⟨m.past ++ [.called req op r], s⟩ ∧ m.now.Le s := by
  cases op with
  | cachedResponse requestId fingerprint =>
    obtain ⟨rfl, -⟩ := hexec
    exact ⟨h.event (by rintro _ _ _ ⟨⟩) (.refl _) rfl rfl, .refl _⟩
  | verifyPayment expected =>
    rcases hexec with ⟨rfl, -⟩ | ⟨ledger, page, hledger, -, rfl, -⟩
    · exact ⟨h.event (by rintro _ _ _ ⟨⟩) (.refl _) rfl rfl, .refl _⟩
    · exact ⟨h.event (by rintro _ _ _ ⟨⟩) ⟨hledger, List.prefix_rfl⟩ rfl rfl, hledger, List.prefix_rfl⟩
  | claimPayment input =>
    obtain ⟨faults, pick, rfl, rfl⟩ := hexec
    obtain ⟨txnId, rfl, hverified⟩ := hallowed
    have houtcome := claimPayment_outcome faults pick (paymentOf sha256 req txnId) m.now.payments
    exact ⟨h.claim hverified houtcome, List.prefix_rfl, houtcome.grows⟩
  | executeTurn turn =>
    have hs : s = m.now := hexec
    subst hs
    obtain ⟨rfl, hpaid⟩ := hallowed
    exact ⟨h.execute hpaid r, .refl _⟩
  | saveResponse requestId fingerprint response =>
    obtain ⟨fails, rfl, rfl⟩ := hexec
    obtain ⟨horder, hproduced⟩ := hallowed
    have hpast : m.past <+: m.past ++ [.called req (.saveResponse requestId fingerprint response)
        (saveResponse fails requestId fingerprint response m.now.responses).1] :=
      List.prefix_append _ _
    refine ⟨⟨?_, ?_, ?_⟩, .refl _⟩
    · intro row hrow
      exact (h.paid row hrow).mono hpast (.refl _)
    · intro req' turn r hmem
      exact h.executed req' turn r (by simpa using hmem)
    · intro requestId' row hrow
      rcases saveResponse_some hrow with hrow | ⟨rfl, rfl⟩
      · exact (h.saved requestId' row hrow).mono hpast
      · rw [horder]
        exact hproduced.mono hpast

/-- What every handler can rely on and keeps. -/
def arenaContract (sha256 : Text → Text) :
    Contract ArenaRequest ArenaOp.Ret (Except Thrown JsJson) ArenaState ArenaOp.Exec where
  le := ArenaState.Le
  refl := .refl
  trans := @ArenaState.Le.trans
  Inv := Sound sha256
  inv_event {_ s _} h he := h.event (fun req _ r => he req _ r) (.refl s) rfl rfl
  Allowed := AllowedOp sha256
  allowed_mono := AllowedOp.mono
  step := Sound.step
  post := DeliveredAfterTurn sha256
  post_mono h hpast _ := fun response hok hdelivered => (h response hok hdelivered).mono hpast

theorem not_delivered_serviceResponse {parsed : ParsedRequest} {state : String} (more : JsObject)
    (h : js state ≠ js "DELIVERED") : ¬Delivered (serviceResponse parsed state more) :=
  fun hdelivered => h ((delivered_serviceResponse state more).1 hdelivered)

theorem deliveredAfterTurn_of_not {response : JsJson} (h : ¬Delivered response) :
    DeliveredAfterTurn sha256 req (.ok response) m := by
  rintro _ ⟨⟩ hdelivered
  exact absurd hdelivered h

theorem deliveredAfterTurn_error (e : Thrown) : DeliveredAfterTurn sha256 req (.error e) m := nofun

/-! Every step of the program knows what it has to know. -/

/-- The program keeps to the contract from the moment on. -/
abbrev KeepsContract (sha256 : Text → Text) (req : ArenaRequest) (p : Handler) (m : ArenaMoment) : Prop :=
  (arenaContract sha256).Keeps req (DeliveredAfterTurn sha256 req) p m

theorem keeps_saveAndReturn {txnId : JsString} {turn : Turn}
    (h : Produced sha256 m.past (req.order sha256) (stringify (turnResponse req.parsed txnId turn))) :
    KeepsContract sha256 req (saveAndReturn sha256 req txnId turn) m := by
  refine ⟨⟨rfl, h⟩, ?_⟩
  intro m₁ r s hpast hle hinv hexec
  cases r with
  | error e => exact deliveredAfterTurn_error _
  | ok u =>
    rintro _ ⟨⟩ -
    exact h.mono (hpast.trans (List.prefix_append _ _))

theorem keeps_executeAndSave (txnId : JsString) (h : PaidFor m.now.payments (req.order sha256)) :
    KeepsContract sha256 req (executeAndSave sha256 req txnId) m := by
  refine ⟨⟨rfl, h⟩, ?_⟩
  intro m₁ r s hpast hle hinv hexec
  cases r with
  | error message => exact deliveredAfterTurn_error _
  | ok turn =>
    change KeepsContract sha256 req (if turn.Succeeded then _ else _) _
    split_ifs with hsucceeded
    · exact keeps_saveAndReturn ⟨req, txnId, turn, by simp, hsucceeded, rfl, rfl⟩
    · exact deliveredAfterTurn_of_not (mt delivered_turnResponse.1 hsucceeded)

theorem keeps_claimAndExecute {txnId : JsString} (h : Verified m.now.ledger req txnId) :
    KeepsContract sha256 req (claimAndExecute sha256 req txnId) m := by
  refine ⟨⟨txnId, rfl, h⟩, ?_⟩
  intro m₁ r s hpast hle hinv hexec
  obtain ⟨faults, pick, hr, rfl⟩ := hexec
  have houtcome := claimPayment_outcome faults pick (paymentOf sha256 req txnId) m₁.now.payments
  rw [← hr] at houtcome
  cases r with
  | error e => exact deliveredAfterTurn_error _
  | ok claim =>
    cases claim with
    | conflict => exact deliveredAfterTurn_of_not (not_delivered_serviceResponse _ (by decide))
    | claimed => exact keeps_executeAndSave txnId (paidFor_of_outcome houtcome nofun)
    | sameRequest => exact keeps_executeAndSave txnId (paidFor_of_outcome houtcome nofun)

theorem keeps_verifyAndExecute : KeepsContract sha256 req (verifyAndExecute sha256 req) m := by
  unfold verifyAndExecute
  split
  · exact deliveredAfterTurn_of_not (not_delivered_paymentRequired _)
  · rename_i txnId htxn
    split_ifs
    · refine ⟨trivial, ?_⟩
      intro m₁ r s hpast hle hinv hexec
      rcases hexec with ⟨rfl, message, rfl⟩ | ⟨ledger, page, hledger, hpage, rfl, rfl⟩
      · exact deliveredAfterTurn_of_not (not_delivered_serviceResponse _ (by decide))
      · cases hverify : verifyPayment (expectedPayment req txnId) page with
        | false => exact deliveredAfterTurn_of_not (not_delivered_serviceResponse _ (by decide))
        | true =>
          obtain ⟨item, hitem, hpays⟩ := exists_pays hverify
          exact keeps_claimAndExecute ⟨item, hpage.subset hitem, hpays⟩
    · exact deliveredAfterTurn_of_not (not_delivered_serviceResponse _ (by decide))

theorem produced_of_cached {fails : Bool} {response : JsJson} (hinv : Sound sha256 m)
    (h : cachedResponse fails req.parsed.requestId (requestFingerprint sha256 req.parsed)
      m.now.responses = .ok (some response)) :
    Produced sha256 m.past (req.order sha256) (stringify response) := by
  obtain ⟨row, hrow, hfingerprint, hread⟩ := cachedResponse_some h
  obtain ⟨req', txnId, turn, hmem, hsucceeded, horder, htext⟩ := hinv.saved _ row hrow
  rw [htext, parseJson_stringify distinctKeys_turnResponse] at hread
  cases hread
  rw [hfingerprint] at horder
  exact ⟨req', txnId, turn, hmem, hsucceeded, horder, stringify_written _⟩

theorem keeps_processRequest : KeepsContract sha256 req (processRequest sha256 req) m := by
  unfold processRequest
  split
  · exact deliveredAfterTurn_of_not (not_delivered_serviceResponse _ (by decide))
  · refine ⟨trivial, ?_⟩
    intro m₁ r s hpast hle hinv hexec
    obtain ⟨hs, fails, hr⟩ := hexec
    subst hs
    cases r with
    | error e => exact deliveredAfterTurn_of_not (not_delivered_serviceResponse _ (by decide))
    | ok cached =>
      cases cached with
      | none => exact keeps_verifyAndExecute
      | some response =>
        rintro _ ⟨⟩ -
        exact (produced_of_cached hinv hr.symm).mono (List.prefix_append _ _)

theorem sound_initial (ledger : Ledger) : Sound sha256 ⟨[], .initial ledger⟩ := by
  refine ⟨?_, ?_, ?_⟩
  · intro row hrow
    exact absurd hrow List.not_mem_nil
  · intro req turn r hmem
    exact absurd hmem List.not_mem_nil
  · intro requestId row hrow
    cases hrow

/-- Every run keeps what its handlers rely on, under whatever condition its steps are taken. -/
theorem arena_good {ok : ArenaConfig → ℕ → ArenaEvent → Prop} {ledger : Ledger}
    {history : List ArenaEvent} {c : ArenaConfig}
    (hrun : RunWhere ok ArenaOp.Exec (processRequest sha256) (.initial ledger) history c) :
    (arenaContract sha256).Good history c :=
  Contract.good_of_run (sound_initial ledger) (fun _ _ _ => keeps_processRequest) hrun

/-- A payment is bound to the request, by a transfer from its seat of exactly the price, to the payee
and in the Room of the process that claimed it. -/
def PaidByTransfer (sha256 : Text → Text) (history : List ArenaEvent) (s : ArenaState)
    (req : ArenaRequest) : Prop :=
  ∃ row ∈ s.payments.rows, row.requestId = req.parsed.requestId ∧
    row.fingerprint = requestFingerprint sha256 req.parsed ∧
    ∃ claimer, .called claimer (.claimPayment row) (.ok .claimed) ∈ history ∧
      ∃ item ∈ s.ledger.rows, Pays item (expectedPayment ⟨req.parsed, claimer.process⟩ row.txnId)

theorem paidByTransfer_of_sound (hsha : Function.Injective sha256) (h : Sound sha256 m)
    (hpaid : PaidFor m.now.payments (req.order sha256)) :
    PaidByTransfer sha256 m.past m.now req := by
  obtain ⟨row, hrow, horder⟩ := hpaid
  obtain ⟨claimer, hmem, hclaimed, item, hitem, hpays⟩ := h.paid row hrow
  have hid : row.requestId = req.parsed.requestId := congrArg Prod.fst horder
  have hfingerprint : row.fingerprint = requestFingerprint sha256 req.parsed := congrArg Prod.snd horder
  have hsame : SameOrder claimer.parsed req.parsed := by
    refine ((fingerprint_eq_iff hsha _ _).1 ?_).1
    rw [← hfingerprint, hclaimed]
    rfl
  -- the claimer checked for the same seat, request, service and price
  have hexpected : expectedPayment claimer row.txnId =
      expectedPayment ⟨req.parsed, claimer.process⟩ row.txnId := by
    simp only [expectedPayment, hsame.senderSeat_eq, hsame.price_eq, hsame.requestId_eq,
      hsame.service_eq]
  exact ⟨row, hrow, hid, hfingerprint, claimer, hmem, item, hitem, hexpected ▸ hpays⟩

/-- Turns are executed only for requests that are paid for, payments and requests are paired one to
one, and results are delivered only to the seat that paid, for the same service, id and input. -/
theorem delivered_only_to_payer (hsha : Function.Injective sha256) {ledger : Ledger}
    {history : List ArenaEvent} {c : ArenaConfig} (hrun : ArenaRun sha256 ledger history c) :
    (∀ req turn r, .called req (.executeTurn turn) r ∈ history →
      turn = routerTurn req ∧ PaidByTransfer sha256 history c.store req) ∧
    (∀ row ∈ c.store.payments.rows, ∀ row' ∈ c.store.payments.rows,
      row.txnId = row'.txnId ↔ row.requestId = row'.requestId) ∧
    ∀ req response, .returned req (.ok response) ∈ history → Delivered response →
      ∃ req₀ txnId turn, .called req₀ (.executeTurn (routerTurn req₀)) (.ok turn) ∈ history ∧
        turn.Succeeded ∧ stringify response = stringify (turnResponse req₀.parsed txnId turn) ∧
        SameOrder req₀.parsed req.parsed ∧
        SameWritten (.obj req₀.parsed.input) (.obj req.parsed.input) ∧
        (FiniteNumbers (.obj req₀.parsed.input) → FiniteNumbers (.obj req.parsed.input) →
          SameValue (.obj req₀.parsed.input) (.obj req.parsed.input)) := by
  obtain ⟨hsound, -, hanswers⟩ := arena_good hrun
  refine ⟨?_, ?_, ?_⟩
  · intro req turn r hmem
    obtain ⟨hturn, hpaid⟩ := hsound.executed req turn r hmem
    exact ⟨hturn, paidByTransfer_of_sound hsha hsound hpaid⟩
  · intro row hrow row' hrow'
    constructor
    · intro h
      rw [Table.eq_of_clash Payment.Clash.symm hrow hrow' (.inl h)]
    · intro h
      rw [Table.eq_of_clash Payment.Clash.symm hrow hrow' (.inr h)]
  · intro req response hmem hdelivered
    obtain ⟨req₀, txnId, turn, hturn, hsucceeded, horder, htext⟩ :=
      hanswers req (.ok response) hmem response rfl hdelivered
    obtain ⟨hsame, hinput⟩ := (fingerprint_eq_iff hsha _ _).1 (congrArg Prod.snd horder)
    exact ⟨req₀, txnId, turn, hturn, hsucceeded, htext, hsame, hinput,
      fun h h' => (sameWritten_iff h h').1 hinput⟩

/-- An order of one seat, with one more property in its input. -/
def orderWith (limit : JsJson) (hlimit : DistinctKeys limit) : ArenaRequest where
  parsed :=
    { senderSeat := js "i_AAAAAAAAAA"
      sourceMessageId := js "msg_1"
      requestId := js "order-1"
      service := js "verify_delivery"
      price := .credits 7
      input := [(js "delivery_id", jsText "delivery-1"), (js "limit", limit)]
      paymentTxnId := some (js "txn_AAAAAAAAAA")
      senderSeat_seat := seatPattern_buyer
      requestId_pattern := requestIdPattern_order
      service_priced := by decide
      input_keys := .obj (by simp only [List.map_cons, List.map_nil]; decide) (fun _ _ => trivial)
        (by simp [jsText, distinctKeys_str, hlimit]) }
  process := ⟨js "p_AAAAAAAAAA", js "rom_1", js "rom_1"⟩

/-- The ledger after the order was paid for. -/
def orderLedger : Ledger where
  rows :=
    [{ id := some (js "txn_AAAAAAAAAA")
       amount := some (Price.credits 7).number
       memo := some (js "Counterparty verify_delivery order-1")
       roomId := some (js "rom_1")
       addressedTo := some (js "p_AAAAAAAAAA")
       byInstanceId := some (js "i_AAAAAAAAAA") }]
  apart := List.pairwise_singleton _ _

def succeededTurn (traceId : String) : Turn where
  traceId := js traceId
  status := js "succeeded"
  output := jsText "PASSED"
  output_keys := .str trivial

theorem payable_orderWith (limit : JsJson) (hlimit : DistinctKeys limit) :
    Payable orderLedger (orderWith limit hlimit) (js "txn_AAAAAAAAAA") := by
  have hverified : verifyPayment (expectedPayment (orderWith .null .null) (js "txn_AAAAAAAAAA"))
      orderLedger.rows := by decide +kernel
  exact ⟨rfl, rfl, by decide, hverified⟩

/-- The order is handled on its own, and its response is stored. -/
theorem run_orderWith (sha256 : Text → Text) (limit : JsJson) (hlimit : DistinctKeys limit) {turn : Turn}
    (hsucceeded : turn.Succeeded)
    {exec : (op : ArenaOp) → ArenaState → op.Ret → ArenaState → Prop}
    (hexec : ∀ op s, exec op s (op.answer turn s).1 (op.answer turn s).2) : ∃ history s,
      Run exec (processRequest sha256) (.initial orderLedger) history ⟨s, fun _ => none⟩ ∧
      s.responses (orderWith limit hlimit).parsed.requestId =
        some ⟨requestFingerprint sha256 (orderWith limit hlimit).parsed,
          stringify (turnResponse (orderWith limit hlimit).parsed (js "txn_AAAAAAAAAA") turn)⟩ ∧
      (∀ e ∈ history, e.request = orderWith limit hlimit) ∧
      .called (orderWith limit hlimit) (.claimPayment
        (paymentOf sha256 (orderWith limit hlimit) (js "txn_AAAAAAAAAA"))) (.ok .claimed) ∈ history ∧
      .called (orderWith limit hlimit) (.executeTurn (routerTurn (orderWith limit hlimit)))
        (.ok turn) ∈ history := by
  have hnumber : (orderWith limit hlimit).parsed.price.number ≠ .nan :=
    (by decide +kernel : (Price.credits 7).number ≠ .nan)
  obtain ⟨payments, -, hserved⟩ := advance_paid sha256 (.initial orderLedger)
    (payable_orderWith limit hlimit) hnumber rfl rfl hsucceeded
  have hrun := Run.serve_alone hexec .init hserved
  refine ⟨_, _, hrun, by simp, ?_, mem_calledBy ?_, mem_calledBy ?_⟩
  · simp [calledBy, Event.request]
  · exact List.mem_cons_of_mem _ (List.mem_cons_of_mem _ List.mem_cons_self)
  · exact List.mem_cons_of_mem _ (List.mem_cons_of_mem _ (List.mem_cons_of_mem _ List.mem_cons_self))

theorem delivered_only_to_payer_order : ∃ (history : List ArenaEvent) (c : ArenaConfig) (turn : Turn),
    .called (orderWith .null .null) (.executeTurn (routerTurn (orderWith .null .null))) (.ok turn) ∈
      history ∧ PaidByTransfer id history c.store (orderWith .null .null) := by
  obtain ⟨history, s, hrun, -, -, -, hmem⟩ :=
    run_orderWith id .null .null (rfl : (succeededTurn "trace-1").Succeeded) (exec_answer _)
  exact ⟨history, _, _, hmem, ((delivered_only_to_payer Function.injective_id hrun).1 _ _ _ hmem).2⟩

/-- `1e999` is read as a number that is not finite, which is written as `null`: a result is delivered
to an order that was not executed. -/
theorem delivered_to_other_input :
    readJsNumber (codes "1e999") = some (.infinity false) ∧
    ∃ history c response, ArenaRun id orderLedger history c ∧
      .returned (orderWith (.num (.infinity false)) (.num trivial)) (.ok response) ∈ history ∧
      Delivered response ∧
      ∀ req₀ turn r, .called req₀ (.executeTurn turn) r ∈ history →
        ¬SameValue (.obj req₀.parsed.input)
          (.obj (orderWith (.num (.infinity false)) (.num trivial)).parsed.input) := by
  refine ⟨by decide +kernel, ?_⟩
  obtain ⟨history, s, hrun, hstored, hrequest, -⟩ :=
    run_orderWith id .null .null (rfl : (succeededTurn "trace-1").Succeeded) (exec_answer _)
  have hfingerprint : requestFingerprint id (orderWith .null .null).parsed =
      requestFingerprint id (orderWith (.num (.infinity false)) (.num trivial)).parsed :=
    (fingerprint_eq_iff Function.injective_id _ _).2 ⟨⟨rfl, rfl, rfl⟩, rfl⟩
  have hserved := Run.serve_alone (exec_answer (succeededTurn "trace-1")) hrun
    (advance_cached (orderWith (.num (.infinity false)) (.num trivial)) rfl hstored hfingerprint
      (parseJson_stringify distinctKeys_turnResponse))
  have hdelivered : Delivered (turnResponse (orderWith .null .null).parsed (js "txn_AAAAAAAAAA")
      (succeededTurn "trace-1")) := delivered_turnResponse.2 rfl
  refine ⟨_, _, _, hserved, by simp, HasState.written hdelivered, ?_⟩
  intro req₀ turn r hcalled
  have hold : .called req₀ (.executeTurn turn) r ∈ history := by
    simpa [calledBy] using hcalled
  have hreq₀ : req₀ = orderWith .null .null := hrequest _ hold
  subst hreq₀
  intro hsame
  rw [SameValue, bindNum_obj, bindNum_obj] at hsame
  have hkeys : [js "delivery_id", js "limit"].Nodup := by decide
  have hlimit : sortKeys (.null : JsJson) = sortKeys (.num (.infinity false)) :=
    sortKeys_eq_of_obj hsame hkeys (k := js "limit") (by simp [orderWith, bindNum])
      (by simp [orderWith, bindNum, unsignedZero])
  cases hlimit

end Counterparty.Arena
