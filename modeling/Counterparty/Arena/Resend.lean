import Counterparty.Arena.Quote

/-! Claimed payments: a request whose payment was claimed, sent again after any number of steps of any
handlers. -/
namespace Counterparty.Arena

open Json Interleave

variable {sha256 : Text → Text} {ledger : Ledger} {req claimer : ArenaRequest} {m m' : ArenaMoment}
  {history : List ArenaEvent} {c c' : ArenaConfig} {row : Payment} {txnId : JsString}

/-! What a claim was preceded by. -/

/-- The check has passed on a page of the ledger. -/
def Accepted (ledger : Ledger) (expected : ExpectedPayment) : Prop :=
  ∃ page : List LedgerItem, page.Sublist ledger.rows ∧ verifyPayment expected page

theorem Accepted.mono {ledger' : Ledger} {expected : ExpectedPayment} (h : Accepted ledger expected)
    (hledger : ledger.rows <+: ledger'.rows) : Accepted ledger' expected := by
  obtain ⟨page, hpage, hverified⟩ := h
  exact ⟨page, hpage.trans hledger.sublist, hverified⟩

/-- The transfer that was accepted once passes wherever it is listed. -/
theorem Accepted.verify {expected : ExpectedPayment} (h : Accepted ledger expected)
    {item : LedgerItem} (hitem : item ∈ newest ledger) (hid : item.id = some expected.txnId) :
    verifyPayment expected (newest ledger) := by
  obtain ⟨page, hpage, hverified⟩ := h
  unfold verifyPayment at hverified
  split_ifs at hverified with htxn hseat hpayee
  split at hverified
  · cases hverified
  · rename_i found hfound
    have hfoundId : found.id = some expected.txnId := by simpa using List.find?_some hfound
    have hsame : found = item := Table.eq_of_clash Eq.symm
      (hpage.subset (List.mem_of_find?_eq_some hfound)) ((newest_sublist ledger).subset hitem)
      (hfoundId.trans hid.symm)
    subst hsame
    rw [verifyPayment_newest hitem hid htxn hseat hpayee]
    exact hverified

theorem ClaimOutcome.mem_of_claimed {input : Payment} {t t' : Payments}
    (h : ClaimOutcome input t (.ok .claimed) t') : input ∈ t'.rows := by
  generalize hresult : (.ok .claimed : Except StoreError PaymentClaim) = result at h
  cases h with
  | threw e => cases hresult
  | @found existing hrow hclash =>
    rw [Payment.claim] at hresult
    split_ifs at hresult
    · cases hresult
    · cases hresult
  | claimed hrows hnew =>
    rw [hrows]
    exact List.mem_append_right _ List.mem_cons_self

/-- A valid request presents the payment, and the check of it has passed. -/
structure Presents (sha256 : Text → Text) (req : ArenaRequest) (input : Payment) (ledger : Ledger) :
    Prop where
  input_eq : input = paymentOf sha256 req input.txnId
  valid : validateInput req.parsed = none
  paymentTxnId_eq : req.parsed.paymentTxnId = some input.txnId
  pattern : sharednetTxnPattern input.txnId
  accepted : Accepted ledger (expectedPayment req input.txnId)

/-- Handlers claim what their requests present. -/
def ClaimsAccepted (sha256 : Text → Text) (req : ArenaRequest) : ArenaOp → ArenaMoment → Prop
  | .claimPayment input, m => Presents sha256 req input m.now.ledger
  | _, _ => True

/-- What a claim leaves behind. -/
def Remembered (sha256 : Text → Text) (claimer : ArenaRequest) (row : Payment) (s : ArenaState) : Prop :=
  row ∈ s.payments.rows ∧ Presents sha256 claimer row s.ledger

def ClaimsRemembered (sha256 : Text → Text) (m : ArenaMoment) : Prop :=
  ∀ claimer row, .called claimer (.claimPayment row) (.ok .claimed) ∈ m.past →
    Remembered sha256 claimer row m.now

theorem Presents.mono {ledger' : Ledger} (h : Presents sha256 req row ledger)
    (hledger : ledger.rows <+: ledger'.rows) : Presents sha256 req row ledger' :=
  ⟨h.input_eq, h.valid, h.paymentTxnId_eq, h.pattern, h.accepted.mono hledger⟩

theorem le_of_exec {op : ArenaOp} {s s' : ArenaState} {r : op.Ret} (h : op.Exec s r s') : s.Le s' := by
  cases op with
  | cachedResponse requestId fingerprint =>
    obtain ⟨rfl, -⟩ := h
    exact .refl _
  | verifyPayment expected =>
    rcases h with ⟨rfl, -⟩ | ⟨ledger, page, hledger, -, rfl, -⟩
    · exact .refl _
    · exact ⟨hledger, List.prefix_rfl⟩
  | claimPayment input =>
    obtain ⟨faults, pick, -, rfl⟩ := h
    exact ⟨List.prefix_rfl, (claimPayment_outcome faults pick input s.payments).grows⟩
  | executeTurn turn =>
    have hs : s' = s := h
    exact hs ▸ .refl _
  | saveResponse requestId fingerprint response =>
    obtain ⟨fails, -, rfl⟩ := h
    exact ⟨List.prefix_rfl, List.prefix_rfl⟩

theorem ClaimsRemembered.step {op : ArenaOp} {r : op.Ret} {s : ArenaState}
    (hallowed : ClaimsAccepted sha256 req op m) (h : ClaimsRemembered sha256 m)
    (hexec : op.Exec m.now r s) : ClaimsRemembered sha256 ⟨m.past ++ [.called req op r], s⟩ ∧ m.now.Le s := by
  have hle := le_of_exec hexec
  refine ⟨?_, hle⟩
  intro claimer row hmem
  rcases List.mem_append.1 hmem with hmem | hmem
  · obtain ⟨hbound, hpresents⟩ := h claimer row hmem
    exact ⟨hle.2.subset hbound, hpresents.mono hle.1⟩
  · cases List.mem_singleton.1 hmem
    obtain ⟨faults, pick, hr, rfl⟩ := hexec
    have houtcome := claimPayment_outcome faults pick row m.now.payments
    rw [← hr] at houtcome
    exact ⟨houtcome.mem_of_claimed, hallowed⟩

/-- What every handler keeps about the claims. -/
def claimContract (sha256 : Text → Text) :
    Contract ArenaRequest ArenaOp.Ret (Except Thrown JsJson) ArenaState ArenaOp.Exec where
  le := ArenaState.Le
  refl := .refl
  trans := @ArenaState.Le.trans
  Inv := ClaimsRemembered sha256
  inv_event h he := fun claimer row hmem => by
    rcases List.mem_append.1 hmem with hmem | hmem
    · exact h claimer row hmem
    · exact absurd (List.mem_singleton.1 hmem).symm (he _ _ _)
  Allowed := ClaimsAccepted sha256
  allowed_mono {_ op _ _} h _ hle := by
    cases op with
    | claimPayment input => exact Presents.mono h hle.1
    | _ => trivial
  step := ClaimsRemembered.step
  post _ _ _ := True
  post_mono _ _ _ := trivial

theorem remembers_of_no_claim {p : Handler}
    (h : p.Performs fun op => ∀ input, op ≠ .claimPayment input) :
    (claimContract sha256).Keeps req (fun _ _ => True) p m := by
  induction p generalizing m with
  | done a => trivial
  | call op next ih =>
    refine ⟨?_, fun m₁ r s _ _ _ _ => ih r (h.2 r)⟩
    cases op with
    | claimPayment input => exact absurd rfl (h.1 input)
    | _ => trivial

theorem remembers_executeAndSave (txnId : JsString) :
    (claimContract sha256).Keeps req (fun _ _ => True) (executeAndSave sha256 req txnId) m := by
  refine remembers_of_no_claim (.perform_bind (fun _ h => by cases h) ?_)
  rintro (message | turn)
  · trivial
  · dsimp only
    split_ifs
    · refine .perform_bind (fun _ h => by cases h) ?_
      rintro (e | u) <;> trivial
    · trivial

theorem remembers_verifyAndExecute (hvalid : validateInput req.parsed = none) :
    (claimContract sha256).Keeps req (fun _ _ => True) (verifyAndExecute sha256 req) m := by
  unfold verifyAndExecute
  split
  · trivial
  · rename_i txnId htxn
    split_ifs with hpattern
    · refine ⟨trivial, ?_⟩
      intro m₁ r s _ _ _ hexec
      rcases hexec with ⟨rfl, message, rfl⟩ | ⟨ledger, page, -, hpage, rfl, rfl⟩
      · trivial
      · cases hverify : verifyPayment (expectedPayment req txnId) page with
        | false => trivial
        | true =>
          refine ⟨⟨rfl, hvalid, htxn, hpattern, page, hpage, hverify⟩, ?_⟩
          rintro m₂ (e | claim) s _ _ _ _
          · trivial
          · cases claim with
            | conflict => trivial
            | claimed => exact remembers_executeAndSave txnId
            | sameRequest => exact remembers_executeAndSave txnId
    · trivial

theorem remembers_processRequest :
    (claimContract sha256).Keeps req (fun _ _ => True) (processRequest sha256 req) m := by
  unfold processRequest
  cases hvalid : validateInput req.parsed with
  | some reason => trivial
  | none =>
    refine ⟨trivial, ?_⟩
    rintro m₁ (e | cached) s _ _ _ _
    · trivial
    · cases cached with
      | some response => trivial
      | none => exact remembers_verifyAndExecute hvalid

/-- Whatever was claimed in a run is remembered. -/
theorem remembered_of_run (hrun : ArenaRun sha256 ledger history c)
    (h : .called claimer (.claimPayment row) (.ok .claimed) ∈ history) :
    Remembered sha256 claimer row c.store := by
  have hinit : ClaimsRemembered sha256 ⟨[], .initial ledger⟩ := fun _ _ hmem => absurd hmem List.not_mem_nil
  exact (Contract.good_of_run hinit (fun _ _ _ => remembers_processRequest) hrun).inv claimer row h

/-! The resend. -/

/-- The same request in a message of its own. -/
def ArenaRequest.resent (req : ArenaRequest) (messageId : JsString) : ArenaRequest :=
  { req with parsed := { req.parsed with sourceMessageId := messageId } }

/-- Lookups and claims do not fail, and the CLI lists the newest entries. -/
def ArenaOp.Answers (op : ArenaOp) (s : ArenaState) (r : op.Ret) (s' : ArenaState) : Prop :=
  match op with
  | .cachedResponse requestId fingerprint =>
    r = Arena.cachedResponse false requestId fingerprint s.responses
  | .verifyPayment expected => r = .ok (Arena.verifyPayment expected (newest s'.ledger))
  | .claimPayment _ => ∀ e, r ≠ .error e
  | .executeTurn _ | .saveResponse _ _ _ => True

def ArenaOp.AnsweredExec (op : ArenaOp) (s : ArenaState) (r : op.Ret) (s' : ArenaState) : Prop :=
  op.Exec s r s' ∧ op.Answers s r s'

/-- A transaction that is looked up is among the newest entries. -/
def ArenaOp.Lists (op : ArenaOp) (s' : ArenaState) : Prop :=
  match op with
  | .verifyPayment expected => ∃ item ∈ newest s'.ledger, item.id = some expected.txnId
  | _ => True

/-- The operation is about the request or the transaction of a payment. -/
def ArenaOp.Concerns (row : Payment) : ArenaOp → Prop
  | .cachedResponse requestId _ => requestId = row.requestId
  | .verifyPayment expected => expected.txnId = row.txnId
  | .claimPayment input => input.txnId = row.txnId
  | .executeTurn _ | .saveResponse _ _ _ => False

/-- What concerns the payment is answered, and its transfer is listed. -/
def ArenaOp.ListedExec (row : Payment) (op : ArenaOp) (s : ArenaState) (r : op.Ret)
    (s' : ArenaState) : Prop :=
  op.Exec s r s' ∧ (op.Concerns row → op.Answers s r s' ∧ op.Lists s')

section Resending

variable (sha256 : Text → Text) (i : ℕ) (req : ArenaRequest) (events : List (ℕ × ArenaEvent))

/-- The handler has run the Router turn. -/
def RanTurn : Prop := ∃ r, (i, .called req (.executeTurn (routerTurn req)) r) ∈ events

/-- The answer is the cached delivery, or was given after the turn was run; it does not turn the
request away. -/
def Served (a : Except Thrown JsJson) : Prop :=
  Honoured a ∧ ((∃ response, (i, .called req (.cachedResponse req.parsed.requestId
    (requestFingerprint sha256 req.parsed)) (.ok (some response))) ∈ events ∧ a = .ok response) ∨
      RanTurn i req events)

/-- How far the handler of a resend has come. -/
inductive Resending (txnId : JsString) : Handler → Prop
  | processing : Resending txnId (processRequest sha256 req)
  | verifying : Resending txnId (verifyAndExecute sha256 req)
  | claiming : Resending txnId (claimAndExecute sha256 req txnId)
  | executing : Resending txnId (executeAndSave sha256 req txnId)
  | saving (turn : Turn) (h : RanTurn i req events) :
      Resending txnId (saveAndReturn sha256 req txnId turn)
  | answered {a : Except Thrown JsJson} (h : Served sha256 i req events a) :
      Resending txnId (.done a)

end Resending

variable {i : ℕ} {events events' : List (ℕ × ArenaEvent)} {p : Handler}

theorem RanTurn.mono (h : RanTurn i req events) (hevents : events ⊆ events') :
    RanTurn i req events' := by
  obtain ⟨r, hr⟩ := h
  exact ⟨r, hevents hr⟩

theorem Served.mono {a : Except Thrown JsJson} (h : Served sha256 i req events a)
    (hevents : events ⊆ events') : Served sha256 i req events' a := by
  refine ⟨h.1, h.2.imp ?_ fun hran => hran.mono hevents⟩
  rintro ⟨response, hcached, ha⟩
  exact ⟨response, hevents hcached, ha⟩

theorem Resending.mono (h : Resending sha256 i req events txnId p) (hevents : events ⊆ events') :
    Resending sha256 i req events' txnId p := by
  cases h with
  | processing => exact .processing
  | verifying => exact .verifying
  | claiming => exact .claiming
  | executing => exact .executing
  | saving turn h => exact .saving turn (h.mono hevents)
  | answered h => exact .answered (h.mono hevents)

/-- For a paid order there is no response of another order, and a stored one can be read. -/
theorem cachedResponse_of_bound (hsound : Sound sha256 m) (hrow : row ∈ m.now.payments.rows)
    (e : StoreError) : cachedResponse false row.requestId row.fingerprint m.now.responses ≠ .error e := by
  cases hstored : m.now.responses row.requestId with
  | none => simp [cachedResponse, hstored]
  | some stored =>
    obtain ⟨req, txnId, turn, hturn, hsucceeded, horder, htext⟩ := hsound.saved _ stored hstored
    obtain ⟨payment, hpayment, hpaid⟩ := (hsound.executed req _ _ hturn).2
    have hsame : payment = row := Table.eq_of_clash Payment.Clash.symm hpayment hrow
      (.inr (congrArg Prod.fst (hpaid.trans horder)))
    subst hsame
    have hfingerprint : stored.fingerprint = payment.fingerprint :=
      (congrArg Prod.snd (hpaid.trans horder)).symm
    simp [cachedResponse, hstored, hfingerprint, htext, parseJson_stringify distinctKeys_turnResponse]

/-- One step of the handler. -/
theorem Resending.call {past : List ArenaEvent} {s s' : ArenaState} {op : ArenaOp}
    {next : op.Ret → Handler} {r : op.Ret} {messageId : JsString}
    (h : Resending sha256 i (claimer.resent messageId) events row.txnId (.call op next))
    (hsound : Sound sha256 ⟨past, s⟩) (hremembered : Remembered sha256 claimer row s)
    (hexec : op.ListedExec row s r s') :
    Resending sha256 i (claimer.resent messageId)
      (events ++ [(i, .called (claimer.resent messageId) op r)]) row.txnId (next r) := by
  obtain ⟨hbound, hpresents⟩ := hremembered
  obtain ⟨hexec, hconcerns⟩ := hexec
  have hvalid : validateInput (claimer.resent messageId).parsed = none := hpresents.valid
  have htxn : (claimer.resent messageId).parsed.paymentTxnId = some row.txnId :=
    hpresents.paymentTxnId_eq
  have hinput : row = paymentOf sha256 (claimer.resent messageId) row.txnId := hpresents.input_eq
  have hexpected : expectedPayment (claimer.resent messageId) row.txnId =
      expectedPayment claimer row.txnId := rfl
  generalize claimer.resent messageId = req at h hvalid htxn hinput hexpected ⊢
  have hid : row.requestId = req.parsed.requestId := congrArg Payment.requestId hinput
  have hfingerprint : row.fingerprint = requestFingerprint sha256 req.parsed :=
    congrArg Payment.fingerprint hinput
  have hlast : (i, .called req op r) ∈ events ++ [(i, .called req op r)] :=
    List.mem_append_right _ List.mem_cons_self
  generalize hp : Prog.call op next = p at h
  cases h with
  | processing =>
    rw [processRequest, hvalid] at hp
    cases hp
    have hr : r = cachedResponse false row.requestId row.fingerprint s.responses := by
      rw [hid, hfingerprint]
      exact (hconcerns hid.symm).1
    cases r with
    | error e => exact absurd hr.symm (cachedResponse_of_bound hsound hbound e)
    | ok cached =>
      cases cached with
      | none => exact .verifying
      | some response =>
        have hdelivered := delivered_of_cached hsound hr.symm
        exact .answered ⟨honoured_delivered hdelivered, .inl ⟨response, hlast, rfl⟩⟩
  | verifying =>
    rw [verifyAndExecute, htxn] at hp
    simp only [hpresents.pattern, not_true_eq_false, if_false] at hp
    cases hp
    -- the transfer that was accepted is listed
    obtain ⟨hanswers, item, hitem, hitemId⟩ := hconcerns rfl
    have haccepted := hpresents.accepted.mono (le_of_exec hexec).1
    rw [← hexpected] at haccepted
    have hr : r = .ok true := by
      rw [hanswers, haccepted.verify hitem hitemId]
    subst hr
    exact .claiming
  | claiming =>
    cases hp
    obtain ⟨faults, pick, hr, -⟩ := hexec
    have houtcome := claimPayment_outcome faults pick (paymentOf sha256 req row.txnId) s.payments
    rw [← hr, ← hinput] at houtcome
    have hopen : Unopposed s.payments row := by
      intro other hother hclash
      rw [Table.eq_of_clash Payment.Clash.symm hother hbound hclash]
      exact ⟨rfl, rfl⟩
    cases r with
    | error e => exact absurd rfl ((hconcerns rfl).1 e)
    | ok claim =>
      cases claim with
      | conflict => exact absurd rfl (houtcome.not_conflict hopen)
      | claimed => exact .executing
      | sameRequest => exact .executing
  | executing =>
    cases hp
    have hran : RanTurn i req (events ++ [(i, .called req (.executeTurn (routerTurn req)) r)]) :=
      ⟨r, hlast⟩
    cases r with
    | error message => exact .answered ⟨honoured_error _, .inr hran⟩
    | ok turn =>
      change Resending sha256 i req _ row.txnId (if turn.Succeeded then _ else _)
      split_ifs
      · exact .saving turn hran
      · exact .answered ⟨honoured_turnResponse _ _ _, .inr hran⟩
  | saving turn hran =>
    cases hp
    have hran := hran.mono (List.subset_append_left events
      [(i, .called req (.saveResponse req.parsed.requestId (requestFingerprint sha256 req.parsed)
        (turnResponse req.parsed row.txnId turn)) r)])
    cases r with
    | error e => exact .answered ⟨honoured_error _, .inr hran⟩
    | ok u => exact .answered ⟨honoured_turnResponse _ _ _, .inr hran⟩
  | answered h => cases hp

/-- A handler that is done has served its request. -/
theorem Resending.done {a : Except Thrown JsJson} {messageId : JsString}
    (h : Resending sha256 i (claimer.resent messageId) events row.txnId (.done a))
    (hpresents : Presents sha256 claimer row ledger) :
    Served sha256 i (claimer.resent messageId) events a := by
  have hvalid : validateInput (claimer.resent messageId).parsed = none := hpresents.valid
  have htxn : (claimer.resent messageId).parsed.paymentTxnId = some row.txnId :=
    hpresents.paymentTxnId_eq
  generalize claimer.resent messageId = req at h hvalid htxn ⊢
  generalize hp : Prog.done a = p at h
  cases h with
  | processing =>
    rw [processRequest, hvalid] at hp
    cases hp
  | verifying =>
    rw [verifyAndExecute, htxn] at hp
    simp only [hpresents.pattern, not_true_eq_false, if_false] at hp
    cases hp
  | claiming => cases hp
  | executing => cases hp
  | saving turn hran => cases hp
  | answered hserved =>
    cases hp
    exact hserved

/-- From the start of a resend on, its handler serves it, whatever the other handlers do. -/
theorem resending_of_steps {messageId : JsString} (hrun : ArenaRun sha256 ledger history c)
    (hclaimed : .called claimer (.claimPayment row) (.ok .claimed) ∈ history)
    (hstarted : c.handlers i =
      some (claimer.resent messageId, processRequest sha256 (claimer.resent messageId)))
    (hsteps : Steps (ArenaOp.ListedExec row) (processRequest sha256) c events c')
    (honce : ∀ req, (i, .started req) ∉ events) :
    (∀ req p, c'.handlers i = some (req, p) → req = claimer.resent messageId ∧
      Resending sha256 i (claimer.resent messageId) events row.txnId p) ∧
    ∀ req a, (i, .returned req a) ∈ events → Served sha256 i (claimer.resent messageId) events a := by
  induction hsteps with
  | refl =>
    refine ⟨?_, nofun⟩
    intro req p hp
    rw [hstarted] at hp
    cases hp
    exact ⟨rfl, .processing⟩
  | @step events c₁ c₂ j e hsteps hstep ih =>
    obtain ⟨hhandler, hreturned⟩ := ih fun req hmem => honce req (List.mem_append_left _ hmem)
    have hgrow : events ⊆ events ++ [(j, e)] := List.subset_append_left _ _
    have hrun₁ := (hsteps.mono fun _ _ _ _ h => h.1).run hrun
    have hsound := (arena_good hrun₁).inv
    have hremembered := remembered_of_run hrun₁ (List.mem_append_left _ hclaimed)
    by_cases hji : i = j
    · subst hji
      cases hstep with
      | start req hnone => exact absurd (List.mem_append_right _ List.mem_cons_self) (honce req)
      | @call req op next r s hcalled hexec =>
        obtain ⟨rfl, hresending⟩ := hhandler req _ hcalled
        refine ⟨?_, ?_⟩
        · intro req p hp
          simp only [Function.update_self] at hp
          cases hp
          exact ⟨rfl, hresending.call hsound hremembered hexec⟩
        · intro req a hmem
          exact (hreturned req a (by simpa using hmem)).mono hgrow
      | @finish req a hdone =>
        obtain ⟨rfl, hresending⟩ := hhandler req _ hdone
        refine ⟨?_, ?_⟩
        · intro req p hp
          simp only [Function.update_self] at hp
          cases hp
        · intro req a hmem
          rcases List.mem_append.1 hmem with hmem | hmem
          · exact (hreturned req a hmem).mono hgrow
          · cases List.mem_singleton.1 hmem
            exact (hresending.done hremembered.2).mono hgrow
      | crash hcrashed =>
        refine ⟨?_, ?_⟩
        · intro req p hp
          simp only [Function.update_self] at hp
          cases hp
        · intro req a hmem
          exact (hreturned req a (by simpa using hmem)).mono hgrow
    · refine ⟨?_, ?_⟩
      · intro req p hp
        rw [hstep.handlers_of_ne hji] at hp
        obtain ⟨hreq, hresending⟩ := hhandler req p hp
        exact ⟨hreq, hresending.mono hgrow⟩
      · intro req a hmem
        exact (hreturned req a (by simpa [hji] using hmem)).mono hgrow

/-- A request whose payment was claimed is never turned away when it is sent again, as long as what
concerns it is answered and its transfer is among the newest entries whenever it is looked up: it is
answered with the cached delivery, or its turn is run. -/
theorem claimed_payment_served {messageId : JsString} (hrun : ArenaRun sha256 ledger history c)
    (hclaimed : .called claimer (.claimPayment row) (.ok .claimed) ∈ history)
    (hfree : c.handlers i = none)
    (hsteps : Steps (ArenaOp.ListedExec row) (processRequest sha256)
      ⟨c.store, Function.update c.handlers i
        (some (claimer.resent messageId, processRequest sha256 (claimer.resent messageId)))⟩ events c')
    (honce : ∀ req, (i, .started req) ∉ events) (req : ArenaRequest) (a : Except Thrown JsJson)
    (hreturned : (i, .returned req a) ∈ events) :
    Served sha256 i (claimer.resent messageId) events a := by
  have hstarted := hrun.step (.start i (claimer.resent messageId) hfree) trivial
  exact (resending_of_steps hstarted (List.mem_append_left _ hclaimed) (Function.update_self ..)
    hsteps honce).2 req a hreturned

/-! A resend that finds its delivery cached, one whose turn is run again, and one that comes too late. -/

theorem exec_cachedResponse (requestId : JsString) (fingerprint : Text) (s : ArenaState) :
    (ArenaOp.cachedResponse requestId fingerprint).AnsweredExec s
      (Arena.cachedResponse false requestId fingerprint s.responses) s :=
  ⟨⟨rfl, false, rfl⟩, rfl⟩

theorem processRequest_eq (sha256 : Text → Text) (hvalid : validateInput req.parsed = none) :
    ∃ next, processRequest sha256 req = .call (.cachedResponse req.parsed.requestId
        (requestFingerprint sha256 req.parsed)) next ∧
      (∀ response, next (.ok (some response)) = .done (.ok response)) ∧
      next (.ok none) = verifyAndExecute sha256 req := by
  rw [processRequest, hvalid]
  exact ⟨_, rfl, fun _ => rfl, rfl⟩

/-- A stored delivery is answered with. -/
theorem steps_cached {s : ArenaState} {handlers : ℕ → Option (ArenaRequest × Handler)}
    {stored : StoredResponse} {response : JsJson} (sha256 : Text → Text) (messageId : JsString)
    (hvalid : validateInput req.parsed = none)
    (hrow : s.responses req.parsed.requestId = some stored)
    (hfingerprint : stored.fingerprint = requestFingerprint sha256 req.parsed)
    (hread : parseJson stored.responseJson = some response) (row : Payment) :
    ∃ events c', Steps (ArenaOp.ListedExec row) (processRequest sha256)
      ⟨s, Function.update handlers i
        (some (req.resent messageId, processRequest sha256 (req.resent messageId)))⟩ events c' ∧
      (∀ req, (i, .started req) ∉ events) ∧
      (i, .returned (req.resent messageId) (.ok response)) ∈ events := by
  have hvalid' : validateInput (req.resent messageId).parsed = none := hvalid
  obtain ⟨next, hprogram, hcached, -⟩ := processRequest_eq sha256 hvalid'
  have hfound : cachedResponse false req.parsed.requestId (requestFingerprint sha256 req.parsed)
      s.responses = .ok (some response) := by
    simp [cachedResponse, hrow, hfingerprint, hread]
  have hexec := exec_cachedResponse req.parsed.requestId (requestFingerprint sha256 req.parsed) s
  rw [hfound] at hexec
  rw [hprogram]
  refine ⟨_, _, (Steps.refl.step (.call i (Function.update_self ..) ⟨hexec.1, fun _ => ⟨hexec.2, trivial⟩⟩)).step
    (.finish i ?_), ?_, List.mem_append_right _ List.mem_cons_self⟩
  · simp only [Function.update_self, hcached]
  · simp

theorem verifyPayment_unlisted {expected : ExpectedPayment} {page : List LedgerItem}
    (h : ∀ item ∈ page, item.id ≠ some expected.txnId) : verifyPayment expected page = false := by
  have hnone : page.find? (fun candidate => candidate.id == some expected.txnId) = none := by
    rw [List.find?_eq_none]
    intro item hitem
    simpa using h item hitem
  unfold verifyPayment
  split_ifs <;> simp [hnone]

/-- A transfer that is no longer listed is not found, whoever has claimed it. -/
theorem steps_unlisted {s : ArenaState} {handlers : ℕ → Option (ArenaRequest × Handler)}
    {ledger' : Ledger} (sha256 : Text → Text) (messageId : JsString) (hvalid : validateInput req.parsed = none)
    (hnone : s.responses req.parsed.requestId = none)
    (htxn : req.parsed.paymentTxnId = some txnId) (hpattern : sharednetTxnPattern txnId)
    (hledger : s.ledger.rows <+: ledger'.rows)
    (hunlisted : ∀ item ∈ newest ledger', item.id ≠ some txnId) :
    ∃ events c' response, Steps ArenaOp.AnsweredExec (processRequest sha256)
        ⟨s, Function.update handlers i
          (some (req.resent messageId, processRequest sha256 (req.resent messageId)))⟩ events c' ∧
      (i, .returned (req.resent messageId) (.ok response)) ∈ events ∧
      HasState "PAYMENT_NOT_VERIFIED" response := by
  have hvalid' : validateInput (req.resent messageId).parsed = none := hvalid
  have htxn' : (req.resent messageId).parsed.paymentTxnId = some txnId := htxn
  have hnone' : s.responses (req.resent messageId).parsed.requestId = none := hnone
  generalize req.resent messageId = req at hvalid' htxn' hnone' ⊢
  obtain ⟨next, hprogram, -, hverify⟩ := processRequest_eq sha256 hvalid'
  have hfound : cachedResponse false req.parsed.requestId (requestFingerprint sha256 req.parsed)
      s.responses = .ok none := by
    simp [cachedResponse, hnone']
  have hexec := exec_cachedResponse req.parsed.requestId (requestFingerprint sha256 req.parsed) s
  rw [hfound] at hexec
  have hlisted : (ArenaOp.verifyPayment (expectedPayment req txnId)).AnsweredExec s (.ok false)
      { s with ledger := ledger' } := by
    have hfalse : verifyPayment (expectedPayment req txnId) (newest ledger') = false :=
      verifyPayment_unlisted hunlisted
    refine ⟨.inr ⟨ledger', newest ledger', hledger, newest_sublist ledger', rfl, ?_⟩, ?_⟩
    · rw [hfalse]
    · exact congrArg Except.ok hfalse.symm
  obtain ⟨next', hverifying, response, hresponse, hstate⟩ : ∃ next',
      verifyAndExecute sha256 req = .call (.verifyPayment (expectedPayment req txnId)) next' ∧
      ∃ response, next' (.ok false) = .done (.ok response) ∧
        HasState "PAYMENT_NOT_VERIFIED" response := by
    rw [verifyAndExecute, htxn']
    simp only [hpattern, not_true_eq_false, if_false]
    exact ⟨_, rfl, _, rfl, (hasState_serviceResponse _ _).2 rfl⟩
  have hsecond : Function.update (Function.update handlers i
      (some (req, .call (.cachedResponse req.parsed.requestId
        (requestFingerprint sha256 req.parsed)) next))) i (some (req, next (.ok none))) i =
      some (req, .call (.verifyPayment (expectedPayment req txnId)) next') := by
    rw [Function.update_self, hverify, hverifying]
  rw [hprogram]
  refine ⟨_, _, response, ((Steps.refl.step (.call i (Function.update_self ..) hexec)).step
    (.call i hsecond hlisted)).step (.finish i ?_), List.mem_append_right _ List.mem_cons_self, hstate⟩
  simp only [Function.update_self, hresponse]

theorem Payable.resent (h : Payable ledger req txnId) (messageId : JsString) :
    Payable ledger (req.resent messageId) txnId :=
  ⟨h.valid, h.paymentTxnId_eq, h.pattern, h.verified⟩

/-- On a ledger that fits on one page what is answered without a fault is answered from what is listed. -/
theorem listedExec_answer {op : ArenaOp} {r : op.Ret} {s : ArenaState} {turn : Turn} {item : LedgerItem}
    (hr : (op.answer turn s).1 = r) (hpage : newest s.ledger = s.ledger.rows)
    (hitem : item ∈ newest s.ledger) (hid : item.id = some row.txnId)
    (hclaim : ∀ input e, (⟨op, r⟩ : (op : ArenaOp) × op.Ret) ≠ ⟨.claimPayment input, .error e⟩) :
    op.ListedExec row s r (op.answer turn s).2 := by
  have hexec := exec_answer turn op s
  rw [hr] at hexec
  refine ⟨hexec, fun hconcerns => ?_⟩
  cases op with
  | cachedResponse requestId fingerprint => exact ⟨hr.symm, trivial⟩
  | verifyPayment expected =>
    have htxn : expected.txnId = row.txnId := hconcerns
    refine ⟨?_, item, hitem, htxn ▸ hid⟩
    rw [← hr]
    exact congrArg (fun page => Except.ok (verifyPayment expected page)) hpage.symm
  | claimPayment input =>
    refine ⟨?_, trivial⟩
    rintro e rfl
    exact hclaim input e rfl
  | executeTurn t => exact ⟨trivial, trivial⟩
  | saveResponse requestId fingerprint response => exact ⟨trivial, trivial⟩

/-- A claimed payment whose turn failed is served by another turn while its transfer is listed. -/
theorem steps_resent {s : ArenaState} {handlers : ℕ → Option (ArenaRequest × Handler)} {turn : Turn}
    (sha256 : Text → Text) (messageId : JsString) (hpayable : Payable s.ledger req txnId)
    (hpage : newest s.ledger = s.ledger.rows) (hnone : s.responses req.parsed.requestId = none)
    (hrows : s.payments.rows = [paymentOf sha256 req txnId]) (hsucceeded : turn.Succeeded) :
    ∃ events c' response, Steps (ArenaOp.ListedExec (paymentOf sha256 req txnId)) (processRequest sha256)
      ⟨s, Function.update handlers i
        (some (req.resent messageId, processRequest sha256 (req.resent messageId)))⟩ events c' ∧
      (∀ req, (i, .started req) ∉ events) ∧ RanTurn i (req.resent messageId) events ∧
      (i, .returned (req.resent messageId) (.ok response)) ∈ events ∧ Delivered response := by
  have hagain : claimPayment (fun _ => false) 0 (paymentOf sha256 (req.resent messageId) txnId)
      s.payments = (.ok .sameRequest, s.payments) := claimPayment_again hrows ⟨rfl, rfl⟩
  have hnone' : s.responses (req.resent messageId).parsed.requestId = none := hnone
  obtain ⟨item, hitem, hpays⟩ := exists_pays hpayable.verified
  have hpayable' := hpayable.resent messageId
  have hconcerned : paymentOf sha256 req txnId = paymentOf sha256 (req.resent messageId) txnId := rfl
  rw [hconcerned]
  generalize req.resent messageId = req' at *
  have hadvance : (processRequest sha256 req').advance (ArenaOp.answer turn) (3 + 2) s = _ :=
    Prog.advance_add _ 3 2 (processRequest sha256 req') s
  rw [advance_claim hpayable' hnone' hagain nofun] at hadvance
  dsimp only at hadvance
  rw [advance_execute txnId hsucceeded fun row hrow => by simp [hnone'] at hrow] at hadvance
  have hkeeps (op : ArenaOp) (s' : ArenaState) (hs' : s'.ledger = s.ledger) :
      (op.answer turn s').2.ledger = s.ledger := by
    cases op <;> exact hs'
  refine ⟨_, _, _, (Steps.advance hkeeps (Function.update_self ..) rfl hadvance ?_).step
    (.finish i (Function.update_self ..)), ?_, ?_, List.mem_append_right _ List.mem_cons_self,
    delivered_turnResponse.2 hsucceeded⟩
  · intro op s' r hr hcall hs'
    refine listedExec_answer hr (hs' ▸ hpage) (hs' ▸ hpage ▸ hitem) hpays.id_eq ?_
    rintro input e hclaim
    rw [hclaim] at hcall
    simp at hcall
  · simp [calledBy]
  · exact ⟨.ok turn, by simp [calledBy]⟩

def resentOrder : ArenaRequest := (orderWith .null distinctKeys_null).resent (js "msg_2")

def orderPayment : Payment :=
  paymentOf id (orderWith .null distinctKeys_null) (js "txn_AAAAAAAAAA")

/-- The order is claimed, and its turn fails. -/
theorem run_failed : ∃ history payments,
    ArenaRun id orderLedger history ⟨⟨orderLedger, payments, fun _ => none⟩, fun _ => none⟩ ∧
    payments.rows = [orderPayment] ∧
    .called (orderWith .null .null) (.claimPayment orderPayment) (.ok .claimed) ∈ history := by
  obtain ⟨payments, hrows, hfailed⟩ := advance_failed id (.initial orderLedger)
    (payable_orderWith .null .null) (payable_amount id .null .null) rfl rfl
    (show ¬failedTurn.Succeeded by decide)
  refine ⟨_, payments, Run.serve_alone (exec_answer _) .init hfailed, hrows, mem_calledBy ?_⟩
  exact List.mem_cons_of_mem _ (List.mem_cons_of_mem _ List.mem_cons_self)

/-- The order was claimed, and is sent again and answered. -/
structure ResendsOrder (history : List ArenaEvent) (c : ArenaConfig) (events : List (ℕ × ArenaEvent))
    (response : JsJson) : Prop where
  run : ArenaRun id orderLedger history c
  claimed : .called (orderWith .null .null) (.claimPayment orderPayment) (.ok .claimed) ∈ history
  steps : ∃ c', Steps (ArenaOp.ListedExec orderPayment) (processRequest id)
    ⟨c.store, Function.update c.handlers 0 (some (resentOrder, processRequest id resentOrder))⟩ events c'
  returned : (0, .returned resentOrder (.ok response)) ∈ events

/-- The order is delivered, and its buyer asks again; and its turn fails, and its buyer asks again while
its transfer is listed. -/
theorem claimed_payment_served_order :
    (∃ history c events response, ResendsOrder history c events response ∧
      Served id 0 resentOrder events (.ok response)) ∧
    ∃ history c events response, ResendsOrder history c events response ∧
      Served id 0 resentOrder events (.ok response) ∧ RanTurn 0 resentOrder events := by
  refine ⟨?_, ?_⟩
  · obtain ⟨history, s, hrun, hstored, -, hclaimed, -⟩ := run_orderWith id .null .null
      (rfl : (succeededTurn "trace-1").Succeeded) (exec_answer _)
    obtain ⟨events, c', hsteps, honce, hreturned⟩ := steps_cached (i := 0) id (js "msg_2")
      (payable_orderWith .null .null).valid hstored rfl
      (parseJson_stringify distinctKeys_turnResponse) orderPayment
    have hserved := claimed_payment_served hrun hclaimed rfl hsteps honce _ _ hreturned
    exact ⟨history, _, events, _, ⟨hrun, hclaimed, ⟨c', hsteps⟩, hreturned⟩, hserved⟩
  · obtain ⟨history, payments, hrun, hrows, hclaimed⟩ := run_failed
    obtain ⟨events, c', response, hsteps, honce, hran, hreturned, -⟩ :=
      steps_resent (i := 0) (s := ⟨orderLedger, payments, fun _ => none⟩) id (js "msg_2")
        (payable_orderWith .null .null) rfl rfl hrows (rfl : (succeededTurn "trace-1").Succeeded)
    have hserved := claimed_payment_served hrun hclaimed rfl hsteps honce _ _ hreturned
    exact ⟨history, _, events, _, ⟨hrun, hclaimed, ⟨c', hsteps⟩, hreturned⟩, hserved, hran⟩

/-! The ledger a hundred transfers later. -/

/-- Another transfer in the Room. -/
def laterTransfer (n : ℕ) : LedgerItem where
  id := some (List.replicate n 48)
  amount := none
  memo := none
  roomId := some (js "rom_1")
  addressedTo := none
  byInstanceId := none

theorem laterTransfer_id_ne (n : ℕ) : (laterTransfer n).id ≠ some (js "txn_AAAAAAAAAA") := by
  intro h
  have hfirst : (116 : CodeUnit) ∈ List.replicate n 48 := by
    rw [(Option.some.inj h : List.replicate n 48 = js "txn_AAAAAAAAAA")]
    decide
  exact absurd (List.eq_of_mem_replicate hfirst) (by decide)

def crowdedLedger : Ledger where
  rows := orderLedger.rows ++ (List.range 100).map laterTransfer
  apart := by
    refine List.pairwise_append.2 ⟨orderLedger.apart, ?_, ?_⟩
    · refine List.pairwise_map.2 (List.nodup_range.imp ?_)
      intro n m hne hclash
      exact hne (List.replicate_left_injective 48 (Option.some.inj hclash))
    · simp only [orderLedger, List.mem_singleton, List.mem_map]
      rintro _ rfl _ ⟨n, -, rfl⟩ hclash
      exact laterTransfer_id_ne n hclash.symm

theorem newest_crowdedLedger : newest crowdedLedger = (List.range 100).map laterTransfer := by
  simp [newest, crowdedLedger, orderLedger]

/-- The order is claimed and its turn fails; a hundred transfers later it is sent again and turned
down for its payment. -/
theorem claimed_payment_not_served : ∃ history c events c' response,
    ArenaRun id orderLedger history c ∧
    .called (orderWith .null .null) (.claimPayment
      (paymentOf id (orderWith .null .null) (js "txn_AAAAAAAAAA"))) (.ok .claimed) ∈ history ∧
    Steps ArenaOp.AnsweredExec (processRequest id)
      ⟨c.store, Function.update c.handlers 0 (some ((orderWith .null .null).resent (js "msg_2"),
        processRequest id ((orderWith .null .null).resent (js "msg_2"))))⟩ events c' ∧
    (0, .returned ((orderWith .null .null).resent (js "msg_2")) (.ok response)) ∈ events ∧
    HasState "PAYMENT_NOT_VERIFIED" response := by
  have hpayable := payable_orderWith .null .null
  obtain ⟨history, payments, hrun, -, hclaimed⟩ := run_failed
  have hunlisted : ∀ item ∈ newest crowdedLedger, item.id ≠ some (js "txn_AAAAAAAAAA") := by
    rw [newest_crowdedLedger]
    simp only [List.mem_map]
    rintro _ ⟨n, -, rfl⟩
    exact laterTransfer_id_ne n
  obtain ⟨events, c', response, hsteps, hreturned, hstate⟩ :=
    steps_unlisted (i := 0) (s := ⟨orderLedger, payments, fun _ => none⟩) id (js "msg_2")
      hpayable.valid rfl hpayable.paymentTxnId_eq hpayable.pattern (List.prefix_append _ _) hunlisted
  exact ⟨history, _, events, c', response, hrun, hclaimed, hsteps, hreturned, hstate⟩

end Counterparty.Arena
