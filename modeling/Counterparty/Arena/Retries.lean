import Counterparty.Library.Trace
import Counterparty.Arena.ServiceSpec

/-! Copies of one request handled side by side: how often they are executed, and what they are
answered. -/
namespace Counterparty.Arena

open Json Interleave

/-! How far a handler has come. -/

/-- The handler is about to save a response for the order. -/
def Saving (order : Order) (p : Handler) : Prop :=
  ∃ response next, p = .call (.saveResponse order.1 order.2 response) next

/-- The handler has looked its order up, and has still to call. -/
def Between (p : Handler) : Prop :=
  ∃ op next, p = .call op next ∧ ∀ requestId fingerprint, op ≠ .cachedResponse requestId fingerprint

/-- Neither about to save a response nor delivering one. -/
structure Quiet (p : Handler) : Prop where
  not_saving : ∀ order, ¬Saving order p
  not_delivering : ∀ response, p = .done (.ok response) → ¬Delivered response

section Stages

variable (sha256 : Text → Text) (req : ArenaRequest)

inductive Stage : Handler → Prop
  | processing : Stage (processRequest sha256 req)
  | verifying : Stage (verifyAndExecute sha256 req)
  | claiming (txnId : JsString) : Stage (claimAndExecute sha256 req txnId)
  | executing (txnId : JsString) : Stage (executeAndSave sha256 req txnId)
  | saving (txnId : JsString) (turn : Turn) : Stage (saveAndReturn sha256 req txnId turn)
  | answered (a : Except Thrown JsJson) : Stage (.done a)

/-- Where a call can lead. -/
inductive Leads : (op : ArenaOp) → op.Ret → Handler → Prop
  | cached (response : JsJson) :
      Leads (.cachedResponse req.parsed.requestId (requestFingerprint sha256 req.parsed))
        (.ok (some response)) (.done (.ok response))
  | executed (txnId : JsString) {turn : Turn} (h : turn.Succeeded) :
      Leads (.executeTurn (routerTurn req)) (.ok turn) (saveAndReturn sha256 req txnId turn)
  | saved (response : JsJson) :
      Leads (.saveResponse req.parsed.requestId (requestFingerprint sha256 req.parsed) response)
        (.ok ()) (.done (.ok response))
  | quiet {op : ArenaOp} {r : op.Ret} {p : Handler} (h : Quiet p)
      (hturn : ∀ t turn, (⟨op, r⟩ : (op : ArenaOp) × op.Ret) = ⟨.executeTurn t, .ok turn⟩ →
        ¬turn.Succeeded) : Leads op r p

end Stages

variable {sha256 : Text → Text} {req : ArenaRequest}

theorem quiet_error (e : Thrown) : Quiet (.done (.error e)) := by
  refine ⟨?_, nofun⟩
  rintro order ⟨response, next, h⟩
  cases h

theorem quiet_answer {response : JsJson} (h : ¬Delivered response) : Quiet (.done (.ok response)) := by
  refine ⟨?_, ?_⟩
  · rintro order ⟨response', next, h⟩
    cases h
  · rintro response' ⟨⟩
    exact h

theorem quiet_call {op : ArenaOp} {next : op.Ret → Handler}
    (h : ∀ requestId fingerprint response, op ≠ .saveResponse requestId fingerprint response) :
    Quiet (.call op next) := by
  refine ⟨?_, nofun⟩
  rintro order ⟨response, next', hcall⟩
  cases hcall
  exact h _ _ _ rfl

theorem quiet_executeAndSave (txnId : JsString) : Quiet (executeAndSave sha256 req txnId) :=
  quiet_call nofun

theorem quiet_claimAndExecute (txnId : JsString) : Quiet (claimAndExecute sha256 req txnId) :=
  quiet_call nofun

theorem quiet_verifyAndExecute : Quiet (verifyAndExecute sha256 req) := by
  unfold verifyAndExecute
  split
  · exact quiet_answer (not_delivered_paymentRequired _)
  · split_ifs
    · exact quiet_call nofun
    · exact quiet_answer (not_delivered_serviceResponse _ (by decide))

theorem quiet_processRequest : Quiet (processRequest sha256 req) := by
  unfold processRequest
  split
  · exact quiet_answer (not_delivered_serviceResponse _ (by decide))
  · exact quiet_call nofun

theorem Stage.call {op : ArenaOp} {next : op.Ret → Handler} (h : Stage sha256 req (.call op next))
    (r : op.Ret) : Leads sha256 req op r (next r) ∧ Stage sha256 req (next r) := by
  generalize hp : Prog.call op next = p at h
  cases h with
  | processing =>
    unfold processRequest at hp
    split at hp
    · cases hp
    · cases hp
      cases r with
      | error e => exact ⟨.quiet (quiet_answer (not_delivered_serviceResponse _ (by decide))) nofun, .answered _⟩
      | ok cached =>
        cases cached with
        | none => exact ⟨.quiet quiet_verifyAndExecute nofun, .verifying⟩
        | some response => exact ⟨.cached response, .answered _⟩
  | verifying =>
    unfold verifyAndExecute at hp
    split at hp
    · cases hp
    · split_ifs at hp
      · cases hp
        cases r with
        | error message =>
          exact ⟨.quiet (quiet_answer (not_delivered_serviceResponse _ (by decide))) nofun, .answered _⟩
        | ok paid =>
          cases paid with
          | false =>
            exact ⟨.quiet (quiet_answer (not_delivered_serviceResponse _ (by decide))) nofun, .answered _⟩
          | true => exact ⟨.quiet (quiet_claimAndExecute _) nofun, .claiming _⟩
  | claiming txnId =>
    cases hp
    cases r with
    | error e => exact ⟨.quiet (quiet_error _) nofun, .answered _⟩
    | ok claim =>
      cases claim with
      | conflict =>
        exact ⟨.quiet (quiet_answer (not_delivered_serviceResponse _ (by decide))) nofun, .answered _⟩
      | claimed => exact ⟨.quiet (quiet_executeAndSave _) nofun, .executing _⟩
      | sameRequest => exact ⟨.quiet (quiet_executeAndSave _) nofun, .executing _⟩
  | executing txnId =>
    cases hp
    cases r with
    | error message => exact ⟨.quiet (quiet_error _) nofun, .answered _⟩
    | ok turn =>
      change Leads sha256 req _ _ (if turn.Succeeded then _ else _) ∧
        Stage sha256 req (if turn.Succeeded then _ else _)
      split_ifs with hsucceeded
      · exact ⟨.executed txnId hsucceeded, .saving txnId turn⟩
      · refine ⟨.quiet (quiet_answer (mt delivered_turnResponse.1 hsucceeded)) ?_, .answered _⟩
        rintro _ _ ⟨⟩
        exact hsucceeded
  | saving txnId turn =>
    cases hp
    cases r with
    | error e => exact ⟨.quiet (quiet_error _) nofun, .answered _⟩
    | ok u => exact ⟨.saved _, .answered _⟩
  | answered a => cases hp

theorem stage_of_run {ok : ArenaConfig → ℕ → ArenaEvent → Prop} {ledger : Ledger}
    {history : List ArenaEvent} {c : ArenaConfig}
    (hrun : RunWhere ok ArenaOp.Exec (processRequest sha256) (.initial ledger) history c) :
    ∀ i req p, c.handlers i = some (req, p) → Stage sha256 req p :=
  hrun.handlers (fun _ => .processing) fun _ _ _ r h => (h.call r).2

/-! Turns and results of an order. -/

/-- A response is stored for the order. -/
def Stored (responses : Responses) (order : Order) : Prop :=
  ∃ row, responses order.1 = some row ∧ row.fingerprint = order.2

section Order

variable (sha256) (order : Order)

/-- The turn that an event says has succeeded for the order. -/
def succeededTurn? : ArenaEvent → Option Turn
  | .called req (.executeTurn _) (.ok turn) =>
    if turn.Succeeded ∧ req.order sha256 = order then some turn else none
  | _ => none

def succeededTurns (history : List ArenaEvent) : List Turn :=
  history.filterMap (succeededTurn? sha256 order)

/-- The event is a look-up of the order that finds nothing. -/
def LooksUp (e : ArenaEvent) : Prop :=
  ∃ req, req.order sha256 = order ∧ e = .called req (.cachedResponse order.1 order.2) (.ok none)

/-- The step takes a handler whose turn has succeeded away from its save: it crashes, or the save
fails. -/
def Loses (c : ArenaConfig) (i : ℕ) (e : ArenaEvent) : Prop :=
  (∃ req p, e = .crashed req ∧ c.handlers i = some (req, p) ∧ Saving order p) ∨
    ∃ req response err, e = .called req (.saveResponse order.1 order.2 response) (.error err)

/-- Where a step looks the order up in vain, no other handler of the order is between its look-up and
its save, and none was lost there. -/
structure Undisturbed {ledger : Ledger}
    (E : Trace ArenaOp.Exec (processRequest sha256) (.initial ledger)) (k : ℕ) : Prop where
  alone : LooksUp sha256 order (E.event k) → ∀ j req p, (E.config k).handlers j = some (req, p) →
    req.order sha256 = order → ¬Between p
  kept : LooksUp sha256 order (E.event k) → ∀ l < k,
    ¬Loses order (E.config l) (E.actor l) (E.event l)

/-- Whatever is stored, about to be stored, about to be delivered or delivered for the order. -/
structure Answers (P : Text → Prop) (history : List ArenaEvent) (c : ArenaConfig) : Prop where
  stored : ∀ row, c.store.responses order.1 = some row → row.fingerprint = order.2 →
    P row.responseJson
  saving : ∀ i req response next,
    c.handlers i = some (req, .call (.saveResponse order.1 order.2 response) next) →
      P (stringify response)
  delivering : ∀ i req response, c.handlers i = some (req, .done (.ok response)) →
    req.order sha256 = order → Delivered response → P (stringify response)
  delivered : ∀ req response, .returned req (.ok response) ∈ history →
    req.order sha256 = order → Delivered response → P (stringify response)

end Order

variable {order : Order} {history : List ArenaEvent} {c c' : ArenaConfig} {i : ℕ} {e : ArenaEvent}
  {req' : ArenaRequest}
  {P : Text → Prop}

/-- Responses are only changed by saving one. -/
theorem responses_cases {op : ArenaOp} {r : op.Ret} {s s' : ArenaState} (hexec : op.Exec s r s') :
    s'.responses = s.responses ∨ ∃ requestId fingerprint response,
      op = .saveResponse requestId fingerprint response ∧
        s'.responses = upsertResponse requestId fingerprint response s.responses := by
  cases op with
  | cachedResponse requestId fingerprint =>
    obtain ⟨rfl, -⟩ := hexec
    exact .inl rfl
  | verifyPayment expected =>
    rcases hexec with ⟨rfl, -⟩ | ⟨ledger, page, -, -, rfl, -⟩
    · exact .inl rfl
    · exact .inl rfl
  | claimPayment input =>
    obtain ⟨faults, pick, -, rfl⟩ := hexec
    exact .inl rfl
  | executeTurn turn =>
    have hs : s' = s := hexec
    exact .inl (congrArg ArenaState.responses hs)
  | saveResponse requestId fingerprint response =>
    obtain ⟨fails, -, rfl⟩ := hexec
    cases fails with
    | true => exact .inl rfl
    | false => exact .inr ⟨requestId, fingerprint, response, rfl, rfl⟩

theorem responses_of_exec {op : ArenaOp} {r : op.Ret} {s s' : ArenaState} (hexec : op.Exec s r s')
    {requestId : JsString} {row : StoredResponse} (hrow : s'.responses requestId = some row) :
    s.responses requestId = some row ∨
      ∃ response, op = .saveResponse requestId row.fingerprint response ∧
        row.responseJson = stringify response := by
  rcases responses_cases hexec with hsame | ⟨requestId', fingerprint, response, rfl, hupserted⟩
  · exact .inl (hsame ▸ hrow)
  · rw [hupserted] at hrow
    rcases upsertResponse_some hrow with hrow | ⟨rfl, rfl⟩
    · exact .inl hrow
    · exact .inr ⟨response, rfl, rfl⟩

theorem stringify_cached {m : ArenaMoment} (hsound : Sound sha256 m) {fails : Bool}
    {requestId : JsString} {fingerprint : Text} {response : JsJson}
    (h : cachedResponse fails requestId fingerprint m.now.responses = .ok (some response)) :
    ∃ row, m.now.responses requestId = some row ∧ row.fingerprint = fingerprint ∧
      row.responseJson = stringify response := by
  obtain ⟨row, hrow, hfingerprint, hread⟩ := cachedResponse_some h
  obtain ⟨req, txnId, turn, -, -, -, htext⟩ := hsound.saved _ row hrow
  rw [htext, parseJson_stringify distinctKeys_turnResponse] at hread
  cases hread
  exact ⟨row, hrow, hfingerprint, htext.trans (stringify_written _).symm⟩

/-- A handler starts saving only when its turn has succeeded. -/
theorem saving_of_step (hstages : ∀ i req p, c.handlers i = some (req, p) → Stage sha256 req p)
    (hstep : Step ArenaOp.Exec (processRequest sha256) c i e c') {p : Handler}
    (hp : c'.handlers i = some (req, p)) (hsaving : Saving order p) :
    succeededTurn? sha256 order e ≠ none := by
  obtain ⟨requestId, fingerprint⟩ := order
  cases hstep with
  | start req' h =>
    simp only [Function.update_self] at hp
    cases hp
    exact absurd hsaving (quiet_processRequest.not_saving _)
  | @call req' op next r s h hexec =>
    simp only [Function.update_self] at hp
    cases hp
    have hleads := ((hstages i req _ h).call r).1
    generalize next r = p at hleads hsaving
    cases hleads with
    | cached response =>
      obtain ⟨response', next', hcall⟩ := hsaving
      cases hcall
    | @executed txnId turn hsucceeded =>
      obtain ⟨response', next', hcall⟩ := hsaving
      cases hcall
      simp [succeededTurn?, hsucceeded, ArenaRequest.order, requestFingerprint]
    | saved response =>
      obtain ⟨response', next', hcall⟩ := hsaving
      cases hcall
    | quiet hquiet hturn => exact absurd hsaving (hquiet.not_saving _)
  | finish h =>
    simp only [Function.update_self] at hp
    cases hp
  | crash h =>
    simp only [Function.update_self] at hp
    cases hp

theorem succeededTurn?_eq_some {turn : Turn} (h : succeededTurn? sha256 order e = some turn) :
    ∃ req t, e = .called req (.executeTurn t) (.ok turn) ∧ turn.Succeeded ∧
      req.order sha256 = order := by
  unfold succeededTurn? at h
  split at h
  · rename_i req t turn'
    split_ifs at h with hsucceeded
    cases h
    exact ⟨req, t, rfl, hsucceeded⟩
  · cases h

/-- After a turn that succeeded the handler saves its response. -/
theorem saving_after_turn (hstages : ∀ i req p, c.handlers i = some (req, p) → Stage sha256 req p)
    (hstep : Step ArenaOp.Exec (processRequest sha256) c i e c') {turn : Turn}
    (h : succeededTurn? sha256 order e = some turn) :
    ∃ req txnId, c'.handlers i = some (req, saveAndReturn sha256 req txnId turn) ∧
      req.order sha256 = order := by
  obtain ⟨req, t, rfl, hsucceeded, horder⟩ := succeededTurn?_eq_some h
  cases hstep with
  | @call _ _ next _ s hhandler hexec =>
    have hleads := ((hstages i req _ hhandler).call (.ok turn)).1
    generalize hnext : next (.ok turn) = p at hleads
    cases hleads with
    | executed txnId hsucceeded =>
      exact ⟨req, txnId, Function.update_self .., horder⟩
    | quiet hquiet hturn => exact absurd hsucceeded (hturn t turn rfl)

/-- What is about to be delivered was cached or has just been saved. -/
theorem delivering_of_step (hstages : ∀ i req p, c.handlers i = some (req, p) → Stage sha256 req p)
    (hsound : Sound sha256 ⟨history, c.store⟩) (h : Answers sha256 order P history c)
    (hstep : Step ArenaOp.Exec (processRequest sha256) c i e c') {response : JsJson}
    (hp : c'.handlers i = some (req, .done (.ok response))) (horder : req.order sha256 = order)
    (hdelivered : Delivered response) : P (stringify response) := by
  subst horder
  cases hstep with
  | start req' hnone =>
    simp only [Function.update_self] at hp
    generalize hprogram : processRequest sha256 req' = p at hp
    cases hp
    exact absurd hdelivered (quiet_processRequest.not_delivering response hprogram)
  | @call req' op next r s hhandler hexec =>
    simp only [Function.update_self] at hp
    generalize hnext : next r = p at hp
    cases hp
    have hleads := ((hstages i req _ hhandler).call r).1
    rw [hnext] at hleads
    cases hleads with
    | cached response =>
      obtain ⟨-, fails, hcached⟩ := hexec
      obtain ⟨row, hrow, hfingerprint, htext⟩ := stringify_cached hsound hcached.symm
      exact htext ▸ h.stored row hrow hfingerprint
    | saved response => exact h.saving i req response next hhandler
    | quiet hquiet hturn => exact absurd hdelivered (hquiet.not_delivering response rfl)
  | finish hhandler =>
    simp only [Function.update_self] at hp
    cases hp
  | crash hhandler =>
    simp only [Function.update_self] at hp
    cases hp

theorem Answers.mono {Q : Text → Prop} (h : Answers sha256 order P history c) (hPQ : ∀ text, P text → Q text) :
    Answers sha256 order Q history c := by
  refine ⟨?_, ?_, ?_, ?_⟩
  · intro row hrow hfingerprint
    exact hPQ _ (h.stored row hrow hfingerprint)
  · intro i req response next hhandler
    exact hPQ _ (h.saving i req response next hhandler)
  · intro i req response hhandler horder hdelivered
    exact hPQ _ (h.delivering i req response hhandler horder hdelivered)
  · intro req response hmem horder hdelivered
    exact hPQ _ (h.delivered req response hmem horder hdelivered)

theorem Answers.step (hstages : ∀ i req p, c.handlers i = some (req, p) → Stage sha256 req p)
    (hsound : Sound sha256 ⟨history, c.store⟩) (h : Answers sha256 order P history c)
    (hstep : Step ArenaOp.Exec (processRequest sha256) c i e c')
    (hnew : ∀ req response next,
      c'.handlers i = some (req, .call (.saveResponse order.1 order.2 response) next) →
        P (stringify response)) : Answers sha256 order P (history ++ [e]) c' := by
  refine ⟨?_, ?_, ?_, ?_⟩
  · intro row hrow hfingerprint
    cases hstep with
    | start req hnone => exact h.stored row hrow hfingerprint
    | call hhandler hexec =>
      rcases responses_of_exec hexec hrow with hrow | ⟨response, rfl, htext⟩
      · exact h.stored row hrow hfingerprint
      · rw [htext]
        rw [hfingerprint] at hhandler
        exact h.saving i _ response _ hhandler
    | finish hhandler => exact h.stored row hrow hfingerprint
    | crash hhandler => exact h.stored row hrow hfingerprint
  · intro j req response next hj
    by_cases hji : j = i
    · subst hji
      exact hnew req response next hj
    · exact h.saving j req response next (hstep.handlers_of_ne hji ▸ hj)
  · intro j req response hj horder hdelivered
    by_cases hji : j = i
    · subst hji
      exact delivering_of_step hstages hsound h hstep hj horder hdelivered
    · exact h.delivering j req response (hstep.handlers_of_ne hji ▸ hj) horder hdelivered
  · intro req response hmem horder hdelivered
    rcases List.mem_append.1 hmem with hmem | hmem
    · exact h.delivered req response hmem horder hdelivered
    · cases List.mem_singleton.1 hmem
      cases hstep with
      | finish hhandler => exact h.delivering i req response hhandler horder hdelivered

/-- A response that is stored under the id of an executed order is stored for that order. -/
theorem fingerprint_of_produced {m : ArenaMoment} (hsound : Sound sha256 m) {text : Text}
    (hproduced : Produced sha256 m.past order text) {row : StoredResponse}
    (hrow : m.now.responses order.1 = some row) : row.fingerprint = order.2 := by
  have hpaid : ∀ {order' : Order} {text' : Text}, Produced sha256 m.past order' text' →
      PaidFor m.now.payments order' := by
    rintro order' text' ⟨req, txnId, turn, hmem, -, rfl, -⟩
    exact (hsound.executed req _ _ hmem).2
  obtain ⟨payment, hpayment, horder⟩ := hpaid hproduced
  obtain ⟨payment', hpayment', horder'⟩ := hpaid (hsound.saved _ row hrow)
  have hid : payment.requestId = payment'.requestId :=
    (congrArg Prod.fst horder).trans (congrArg Prod.fst horder').symm
  have hsame : payment = payment' :=
    Table.eq_of_clash Payment.Clash.symm hpayment hpayment' (.inr hid)
  exact (congrArg Prod.snd (horder'.symm.trans (hsame ▸ horder)))

/-! A result stays until it is stored, and is stored for good. -/

theorem stored_upsertResponse {t : Responses} (response : JsJson)
    (h : ∀ row, t order.1 = some row → row.fingerprint = order.2) :
    Stored (upsertResponse order.1 order.2 response t) order := by
  have hupdate : Stored (Function.update t order.1 (some ⟨order.2, stringify response⟩)) order :=
    ⟨_, Function.update_self order.1 _ t, rfl⟩
  cases hrow : t order.1 with
  | none => simpa [upsertResponse, hrow] using hupdate
  | some row => simpa [upsertResponse, hrow, h row hrow] using hupdate

theorem upsertResponse_of_ne {requestId requestId' : JsString} (hne : requestId' ≠ requestId)
    {fingerprint : Text} {response : JsJson} {t : Responses} :
    upsertResponse requestId fingerprint response t requestId' = t requestId' := by
  rw [upsertResponse]
  cases t requestId with
  | none => exact Function.update_of_ne hne _ t
  | some row =>
    dsimp only
    split_ifs
    · exact Function.update_of_ne hne _ t
    · rfl

/-- What is stored under an id after an upsert is decided by what was stored under two. -/
theorem upsertResponse_congr {t u : Responses} {requestId requestId' : JsString} {fingerprint : Text}
    {response : JsJson} (h : u requestId = t requestId) (h' : u requestId' = t requestId') :
    upsertResponse requestId fingerprint response u requestId' =
      upsertResponse requestId fingerprint response t requestId' := by
  by_cases hid : requestId' = requestId
  · subst hid
    rw [upsertResponse, upsertResponse, h]
    cases t requestId' with
    | none => simp
    | some row =>
      dsimp only
      split_ifs <;> simp [h]
  · rw [upsertResponse_of_ne hid, upsertResponse_of_ne hid, h']

theorem Stored.upsertResponse {t : Responses} (h : Stored t order) (requestId : JsString)
    (fingerprint : Text) (response : JsJson) :
    Stored (upsertResponse requestId fingerprint response t) order := by
  obtain ⟨row, hrow, hfingerprint⟩ := h
  by_cases hid : order.1 = requestId
  · subst hid
    by_cases hsame : row.fingerprint = fingerprint
    · have hupserted : Arena.upsertResponse order.1 fingerprint response t =
          Function.update t order.1 (some ⟨fingerprint, stringify response⟩) := by
        simp [Arena.upsertResponse, hrow, hsame]
      rw [hupserted]
      exact ⟨_, Function.update_self order.1 _ t, hsame.symm.trans hfingerprint⟩
    · exact ⟨row, by simp [Arena.upsertResponse, hrow, hsame], hfingerprint⟩
  · refine ⟨row, ?_, hfingerprint⟩
    rw [upsertResponse_of_ne hid]
    exact hrow

theorem Stored.exec {op : ArenaOp} {r : op.Ret} {s s' : ArenaState} (hexec : op.Exec s r s')
    (h : Stored s.responses order) : Stored s'.responses order := by
  rcases responses_cases hexec with hsame | ⟨requestId, fingerprint, response, -, hupserted⟩
  · rw [hsame]
    exact h
  · rw [hupserted]
    exact h.upsertResponse requestId fingerprint response

/-- A handler that saves its response undisturbed leaves it stored. -/
theorem stored_of_save (hgood : (arenaContract sha256).Good history c) {response : JsJson}
    {next : Except StoreError Unit → Handler}
    (hhandler : c.handlers i = some (req, .call (.saveResponse order.1 order.2 response) next))
    {s : ArenaState} (hexec : (ArenaOp.saveResponse order.1 order.2 response).Exec c.store (.ok ()) s) :
    Stored s.responses order := by
  obtain ⟨fails, hok, rfl⟩ := hexec
  cases fails with
  | true => cases hok
  | false =>
    obtain ⟨horder, hproduced⟩ := (hgood.keeps i req _ hhandler).1
    have horder' : req.order sha256 = order := horder.symm
    subst horder'
    exact stored_upsertResponse response fun row hrow =>
      fingerprint_of_produced hgood.inv hproduced hrow

/-! Handlers between their look-up and their save. -/

theorem Saving.between {p : Handler} (h : Saving order p) : Between p := by
  obtain ⟨response, next, rfl⟩ := h
  refine ⟨_, next, rfl, ?_⟩
  rintro requestId fingerprint ⟨⟩

theorem not_between_done (a : Except Thrown JsJson) : ¬Between (.done a) := by
  rintro ⟨op, next, hcall, -⟩
  cases hcall

/-- A handler looks up its own order, and goes on only when it has found nothing. -/
theorem Stage.lookup {requestId : JsString} {fingerprint : Text}
    {next : Except StoreError (Option JsJson) → Handler}
    (h : Stage sha256 req (.call (.cachedResponse requestId fingerprint) next)) :
    (requestId, fingerprint) = req.order sha256 ∧ ∀ r, Between (next r) → r = .ok none := by
  generalize hp : (.call (.cachedResponse requestId fingerprint) next : Handler) = p at h
  cases h with
  | processing =>
    unfold processRequest at hp
    split at hp
    · cases hp
    · cases hp
      refine ⟨rfl, ?_⟩
      intro r hbetween
      cases r with
      | error e => exact absurd hbetween (not_between_done _)
      | ok cached =>
        cases cached with
        | none => rfl
        | some response => exact absurd hbetween (not_between_done _)
  | verifying =>
    unfold verifyAndExecute at hp
    split at hp
    · cases hp
    · split_ifs at hp
      cases hp
  | claiming txnId => cases hp
  | executing txnId => cases hp
  | saving txnId turn => cases hp
  | answered a => cases hp

/-- With its save a handler is through. -/
theorem Stage.saved {response : JsJson} {next : Except StoreError Unit → Handler}
    (h : Stage sha256 req (.call (.saveResponse order.1 order.2 response) next))
    (r : Except StoreError Unit) : ¬Between (next r) := by
  obtain ⟨requestId, fingerprint⟩ := order
  generalize hp : (.call (.saveResponse requestId fingerprint response) next : Handler) = p at h
  cases h with
  | processing =>
    unfold processRequest at hp
    split at hp
    · cases hp
    · cases hp
  | verifying =>
    unfold verifyAndExecute at hp
    split at hp
    · cases hp
    · split_ifs at hp
      cases hp
  | claiming txnId => cases hp
  | executing txnId => cases hp
  | saving txnId turn =>
    cases hp
    cases r with
    | error e => exact not_between_done _
    | ok u => exact not_between_done _
  | answered a => cases hp

/-- A handler gets between its look-up and its save by looking up in vain. -/
theorem between_of_step (hstages : ∀ i req p, c.handlers i = some (req, p) → Stage sha256 req p)
    (hstep : Step ArenaOp.Exec (processRequest sha256) c i e c') {j : ℕ} {p : Handler}
    (hj : c'.handlers j = some (req, p)) (horder : req.order sha256 = order) (hbetween : Between p) :
    (j ≠ i ∧ c.handlers j = some (req, p)) ∨
      j = i ∧ ((∃ p₀, c.handlers i = some (req, p₀) ∧ Between p₀ ∧ ¬Saving order p₀) ∨
        LooksUp sha256 order e) := by
  by_cases hji : j = i
  · subst hji
    refine .inr ⟨rfl, ?_⟩
    cases hstep with
    | start req' hnone =>
      simp only [Function.update_self] at hj
      cases hj
      obtain ⟨op, next, hcall, hop⟩ := hbetween
      unfold processRequest at hcall
      split at hcall
      · cases hcall
      · cases hcall
        exact absurd rfl (hop _ _)
    | @call req' op next r s hhandler hexec =>
      simp only [Function.update_self] at hj
      cases hj
      have hstage := hstages j req _ hhandler
      by_cases hlookup : ∃ requestId fingerprint, op = .cachedResponse requestId fingerprint
      · obtain ⟨requestId, fingerprint, rfl⟩ := hlookup
        obtain ⟨hown, honly⟩ := hstage.lookup
        obtain rfl := honly r hbetween
        exact .inr ⟨req, horder, by rw [← horder, ← hown]⟩
      · refine .inl ⟨_, hhandler, ⟨op, next, rfl, fun requestId fingerprint hop =>
          hlookup ⟨requestId, fingerprint, hop⟩⟩, ?_⟩
        rintro ⟨response, next', hcall⟩
        cases hcall
        exact hstage.saved r hbetween
    | finish hhandler =>
      simp only [Function.update_self] at hj
      cases hj
    | crash hhandler =>
      simp only [Function.update_self] at hj
      cases hj
  · exact .inl ⟨hji, (hstep.handlers_of_ne hji).symm.trans hj⟩

section Settled

variable (sha256) (order)

/-- All handlers of the order that are between their look-up and their save. -/
def OnlyBetween (c : ArenaConfig) (i : ℕ) : Prop :=
  ∀ j req p, c.handlers j = some (req, p) → req.order sha256 = order → Between p → j = i

/-- What a turn has brought for the order is stored, about to be stored or lost. -/
def Settled (lost : Prop) (c : ArenaConfig) : Prop :=
  lost ∨ Stored c.store.responses order ∨ ∃ i req p, c.handlers i = some (req, p) ∧
    req.order sha256 = order ∧ Saving order p

end Settled

variable {lost : Prop}

theorem OnlyBetween.step (hstages : ∀ i req p, c.handlers i = some (req, p) → Stage sha256 req p)
    (hstep : Step ArenaOp.Exec (processRequest sha256) c i e c')
    (halone : LooksUp sha256 order e → ∀ j req p, c.handlers j = some (req, p) →
      req.order sha256 = order → ¬Between p)
    (h : ∃ j, OnlyBetween sha256 order c j) : ∃ j, OnlyBetween sha256 order c' j := by
  by_cases hlookup : LooksUp sha256 order e
  · refine ⟨i, ?_⟩
    intro j req p hj horder hbetween
    rcases between_of_step hstages hstep hj horder hbetween with ⟨-, hbefore⟩ | ⟨hji, -⟩
    · exact absurd hbetween (halone hlookup j req p hbefore horder)
    · exact hji
  · obtain ⟨only, honly⟩ := h
    refine ⟨only, ?_⟩
    intro j req p hj horder hbetween
    rcases between_of_step hstages hstep hj horder hbetween with
      ⟨-, hbefore⟩ | ⟨rfl, ⟨p₀, hbefore, hbetween₀, -⟩ | hvain⟩
    · exact honly j req p hbefore horder hbetween
    · exact honly j req p₀ hbefore horder hbetween₀
    · exact absurd hvain hlookup

theorem Settled.step (hgood : (arenaContract sha256).Good history c)
    (hstep : Step ArenaOp.Exec (processRequest sha256) c i e c') (h : Settled sha256 order lost c) :
    Settled sha256 order (lost ∨ Loses order c i e) c' := by
  rcases h with hlost | hstored | ⟨j, req, p, hj, horder, response, next, rfl⟩
  · exact .inl (.inl hlost)
  · cases hstep with
    | start req hnone => exact .inr (.inl hstored)
    | call hhandler hexec => exact .inr (.inl (hstored.exec hexec))
    | finish hhandler => exact .inr (.inl hstored)
    | crash hhandler => exact .inr (.inl hstored)
  · by_cases hji : j = i
    · subst hji
      cases hstep with
      | start req' hnone =>
        rw [hnone] at hj
        cases hj
      | @call req' op next' r s hhandler hexec =>
        rw [hhandler] at hj
        cases hj
        cases r with
        | error err => exact .inl (.inr (.inr ⟨req, response, err, rfl⟩))
        | ok u => exact .inr (.inl (stored_of_save hgood hhandler hexec))
      | finish hhandler =>
        rw [hhandler] at hj
        cases hj
      | crash hhandler =>
        rw [hhandler] at hj
        cases hj
        exact .inl (.inr (.inl ⟨req, _, rfl, hhandler, response, next, rfl⟩))
    · exact .inr (.inr ⟨j, req, _, (hstep.handlers_of_ne hji).trans hj, horder, response, next, rfl⟩)

/-- A look-up of an order that is stored does not come back with nothing. -/
theorem cachedResponse_of_stored {fails : Bool} {responses : Responses} (h : Stored responses order) :
    cachedResponse fails order.1 order.2 responses ≠ .ok none := by
  obtain ⟨row, hrow, hfingerprint⟩ := h
  intro hnone
  unfold cachedResponse at hnone
  split_ifs at hnone
  rw [hrow] at hnone
  simp only [hfingerprint, ne_eq, not_true_eq_false, if_false] at hnone
  cases hread : parseJson row.responseJson <;> simp [hread] at hnone

/-- An order is looked up in vain while nothing is stored for it. -/
theorem LooksUp.not_stored (h : LooksUp sha256 order e)
    (hstep : Step ArenaOp.Exec (processRequest sha256) c i e c') :
    ¬Stored c.store.responses order := by
  intro hstored
  obtain ⟨req, -, rfl⟩ := h
  obtain ⟨next, -, ⟨-, fails, hcached⟩, -⟩ := hstep.called
  exact cachedResponse_of_stored hstored hcached.symm

/-! At most one turn. -/

/-- How often an order has been executed, and what it has been answered. -/
inductive Once (sha256 : Text → Text) (order : Order) (lost : Prop) (history : List ArenaEvent)
    (c : ArenaConfig) : Prop
  | unexecuted (hturns : succeededTurns sha256 order history = [])
      (hanswers : Answers sha256 order (fun _ => False) history c)
  | executed (turn : Turn) (text : Text) (hturns : succeededTurns sha256 order history = [turn])
      (hanswers : Answers sha256 order (· = text) history c)
      (hsettled : Settled sha256 order lost c)
      (hsaving : ∀ j req p, c.handlers j = some (req, p) → req.order sha256 = order → Between p →
        Saving order p)

theorem succeededTurns_append (order : Order) (history : List ArenaEvent) (e : ArenaEvent) :
    succeededTurns sha256 order (history ++ [e]) =
      succeededTurns sha256 order history ++ (succeededTurn? sha256 order e).toList := by
  rw [succeededTurns, List.filterMap_append]
  cases h : succeededTurn? sha256 order e <;> simp [succeededTurns, h]

/-- No handler of an executed order gets as far as a turn. -/
theorem saving_of_settled (hstages : ∀ i req p, c.handlers i = some (req, p) → Stage sha256 req p)
    (hstep : Step ArenaOp.Exec (processRequest sha256) c i e c')
    (halone : LooksUp sha256 order e → ∀ j req p, c.handlers j = some (req, p) →
      req.order sha256 = order → ¬Between p)
    (hkept : LooksUp sha256 order e → ¬lost) (hsettled : Settled sha256 order lost c)
    (hsaving : ∀ j req p, c.handlers j = some (req, p) → req.order sha256 = order → Between p →
      Saving order p) {j : ℕ} {p : Handler} (hj : c'.handlers j = some (req, p))
    (horder : req.order sha256 = order) (hbetween : Between p) : Saving order p := by
  rcases between_of_step hstages hstep hj horder hbetween with
    ⟨-, hbefore⟩ | ⟨rfl, ⟨p₀, hbefore, hbetween₀, hnot⟩ | hvain⟩
  · exact hsaving j req p hbefore horder hbetween
  · exact absurd (hsaving j req p₀ hbefore horder hbetween₀) hnot
  · rcases hsettled with hlost | hstored | ⟨k, req', p', hk, horder', hsave⟩
    · exact absurd hlost (hkept hvain)
    · exact absurd hstored (hvain.not_stored hstep)
    · exact absurd hsave.between (halone hvain k req' p' hk horder')

/-- A turn is executed between look-up and save. -/
theorem between_of_turn (hstep : Step ArenaOp.Exec (processRequest sha256) c i e c') {turn : Turn}
    (h : succeededTurn? sha256 order e = some turn) : ∃ req p, c.handlers i = some (req, p) ∧
      req.order sha256 = order ∧ Between p ∧ ¬Saving order p := by
  obtain ⟨req, t, rfl, -, horder⟩ := succeededTurn?_eq_some h
  obtain ⟨next, hhandler, -, -⟩ := hstep.called
  refine ⟨req, _, hhandler, horder, ⟨_, next, rfl, ?_⟩, ?_⟩
  · rintro requestId fingerprint ⟨⟩
  · rintro ⟨response, next', hcall⟩
    cases hcall

theorem Once.step (hgood : (arenaContract sha256).Good history c)
    (hstages : ∀ i req p, c.handlers i = some (req, p) → Stage sha256 req p)
    (hstep : Step ArenaOp.Exec (processRequest sha256) c i e c')
    (halone : LooksUp sha256 order e → ∀ j req p, c.handlers j = some (req, p) →
      req.order sha256 = order → ¬Between p)
    (hkept : LooksUp sha256 order e → ¬lost) (honly : ∃ j, OnlyBetween sha256 order c j)
    (h : Once sha256 order lost history c) :
    Once sha256 order (lost ∨ Loses order c i e) (history ++ [e]) c' := by
  cases hturn : succeededTurn? sha256 order e with
  | none =>
    have hnot : ∀ req response next,
        c'.handlers i ≠ some (req, .call (.saveResponse order.1 order.2 response) next) := by
      intro req response next hp
      exact saving_of_step hstages hstep hp ⟨response, next, rfl⟩ hturn
    cases h with
    | unexecuted hturns hanswers =>
      refine .unexecuted ?_ (hanswers.step hstages hgood.inv hstep
        fun req response next hp => absurd hp (hnot req response next))
      simp [succeededTurns_append, hturns, hturn]
    | executed turn text hturns hanswers hsettled hsaving =>
      refine .executed turn text ?_ (hanswers.step hstages hgood.inv hstep
        fun req response next hp => absurd hp (hnot req response next))
        (hsettled.step hgood hstep) fun j req p hj horder hbetween =>
          saving_of_settled hstages hstep halone hkept hsettled hsaving hj horder hbetween
      simp [succeededTurns_append, hturns, hturn]
  | some turn =>
    obtain ⟨req₀, p₀, hbefore, horder₀, hbetween₀, hnot⟩ := between_of_turn hstep hturn
    cases h with
    | unexecuted hturns hanswers =>
      obtain ⟨req, txnId, hhandler, rfl⟩ := saving_after_turn hstages hstep hturn
      have hbefore' : Answers sha256 (req.order sha256)
          (· = stringify (turnResponse req.parsed txnId turn)) history c := hanswers.mono nofun
      refine .executed turn (stringify (turnResponse req.parsed txnId turn)) ?_
        (hbefore'.step hstages hgood.inv hstep ?_)
        (.inr (.inr ⟨i, req, _, hhandler, rfl, _, _, rfl⟩)) ?_
      · simp [succeededTurns_append, hturns, hturn]
      · intro req' response next hp
        rw [hhandler] at hp
        cases hp
        rfl
      · -- whoever else were between would have been so before the turn
        intro j req' p hj horder hbetween
        by_cases hji : j = i
        · subst hji
          rw [hhandler] at hj
          cases hj
          exact ⟨_, _, rfl⟩
        · have hj₀ := (hstep.handlers_of_ne hji).symm.trans hj
          obtain ⟨only, honly⟩ := honly
          have hi := honly i req₀ p₀ hbefore horder₀ hbetween₀
          exact absurd ((honly j req' p hj₀ horder hbetween).trans hi.symm) hji
    | executed turn text hturns hanswers hsettled hsaving =>
      exact absurd (hsaving i req₀ p₀ hbefore horder₀ hbetween₀) hnot

section Traces

variable {ledger : Ledger} {E : Trace ArenaOp.Exec (processRequest sha256) (.initial ledger)}

theorem once_of_undisturbed (h : ∀ k < E.length, Undisturbed sha256 order E k) {k : ℕ}
    (hk : k ≤ E.length) :
    Once sha256 order (∃ l < k, Loses order (E.config l) (E.actor l) (E.event l)) (E.past k)
      (E.config k) ∧ ∃ j, OnlyBetween sha256 order (E.config k) j := by
  induction k with
  | zero =>
    rw [E.start]
    refine ⟨.unexecuted rfl ⟨?_, ?_, ?_, ?_⟩, 0, ?_⟩
    · intro row hrow
      cases hrow
    · intro i req response next hhandler
      cases hhandler
    · intro i req response hhandler
      cases hhandler
    · intro req response hmem
      exact absurd hmem List.not_mem_nil
    · intro j req p hj
      cases hj
  | succ k ih =>
    obtain ⟨honce, honly⟩ := ih (by omega)
    have hrun : ArenaRun sha256 ledger (E.past k) (E.config k) := E.run (by omega)
    have hstep := E.step k (by omega)
    have hundisturbed := h k (by omega)
    have hkept (hlookup : LooksUp sha256 order (E.event k)) :
        ¬∃ l < k, Loses order (E.config l) (E.actor l) (E.event l) := by
      rintro ⟨l, hl, hloses⟩
      exact hundisturbed.kept hlookup l hl hloses
    have hlost : ((∃ l < k, Loses order (E.config l) (E.actor l) (E.event l)) ∨
        Loses order (E.config k) (E.actor k) (E.event k)) =
        ∃ l < k + 1, Loses order (E.config l) (E.actor l) (E.event l) := by
      simp only [Nat.lt_succ_iff_lt_or_eq, or_and_right, exists_or, exists_eq_left]
    rw [E.past_succ, ← hlost]
    exact ⟨honce.step (arena_good hrun) (stage_of_run hrun) hstep hundisturbed.alone hkept honly,
      OnlyBetween.step (stage_of_run hrun) hstep hundisturbed.alone honly⟩

/-- As long as no handler of the order looks it up in vain while another is between its look-up and its
save, or was lost there, the order is executed once at most and delivered one response. -/
theorem executed_once_undisturbed (sha256 : Text → Text) (order : Order) {ledger : Ledger}
    (E : Trace ArenaOp.Exec (processRequest sha256) (.initial ledger))
    (h : ∀ k < E.length, Undisturbed sha256 order E k) {k : ℕ} (hk : k ≤ E.length) :
    (succeededTurns sha256 order (E.past k)).length ≤ 1 ∧
    ∀ req response req' response', .returned req (.ok response) ∈ E.past k →
      .returned req' (.ok response') ∈ E.past k → req.order sha256 = order →
      req'.order sha256 = order → Delivered response → Delivered response' →
      stringify response = stringify response' := by
  obtain ⟨honce, -⟩ := once_of_undisturbed h hk
  refine ⟨?_, ?_⟩
  · cases honce with
    | unexecuted hturns hanswers => simp [hturns]
    | executed turn text hturns hanswers hsettled hsaving => simp [hturns]
  · intro req response req' response' hmem hmem' horder horder' hdelivered hdelivered'
    cases honce with
    | unexecuted hturns hanswers =>
      exact (hanswers.delivered req response hmem horder hdelivered).elim
    | executed turn text hturns hanswers hsettled hsaving =>
      have htext := hanswers.delivered req response hmem horder hdelivered
      exact htext.trans (hanswers.delivered req' response' hmem' horder' hdelivered').symm

end Traces

theorem succeededTurn_succeeded (traceId : String) : (succeededTurn traceId).Succeeded := rfl

theorem payable_amount (sha256 : Text → Text) (limit : JsJson) (hlimit : DistinctKeys limit) :
    (paymentOf sha256 (orderWith limit hlimit) (js "txn_AAAAAAAAAA")).amount ≠ .nan :=
  (by decide +kernel : (Price.credits 7).number ≠ .nan)

def orderResponse (traceId : String) : JsJson :=
  turnResponse (orderWith .null distinctKeys_null).parsed (js "txn_AAAAAAAAAA") (succeededTurn traceId)

theorem delivered_orderResponse (traceId : String) : Delivered (orderResponse traceId) :=
  delivered_turnResponse.2 (succeededTurn_succeeded traceId)

/-! The order is handled to its end, and a request for it is handled after that. -/

/-- One handler after the other. -/
def firstThen (req : ArenaRequest) (k : ℕ) : ℕ × ArenaRequest :=
  (0, if k < 7 then orderWith .null .null else req)

def handledTwice (req : ArenaRequest) :
    Trace ArenaOp.Exec (processRequest id) (.initial orderLedger) :=
  .ofSchedule (processRequest id) (exec_answer (succeededTurn "trace-1")) (.initial orderLedger)
    (firstThen req) 10

/-- The first request is executed, saved and answered; for the second what was saved is looked up. -/
structure HandlesTwice (req : ArenaRequest)
    (E : Trace ArenaOp.Exec (processRequest id) (.initial orderLedger)) : Prop where
  turn : E.event 4 = .called (orderWith .null .null)
    (.executeTurn (routerTurn (orderWith .null .null))) (.ok (succeededTurn "trace-1"))
  saved : E.event 5 = .called (orderWith .null .null) (.saveResponse
    ((orderWith .null .null).order id).1 ((orderWith .null .null).order id).2
    (orderResponse "trace-1")) (.ok ())
  answered : E.event 6 = .returned (orderWith .null .null) (.ok (orderResponse "trace-1"))
  started : E.event 7 = .started req
  lookedUp : E.event 8 = .called req (.cachedResponse ((orderWith .null .null).order id).1
    ((orderWith .null .null).order id).2) (.ok (some (written (orderResponse "trace-1"))))
  again : E.event 9 = .returned req (.ok (written (orderResponse "trace-1")))

theorem handlesTwice (hvalid : validateInput req.parsed = none)
    (horder : req.order id = (orderWith .null .null).order id) :
    HandlesTwice req (handledTwice req) := by
  have halone : ∀ k, (firstThen req k).1 = 0 := fun _ => rfl
  obtain ⟨-, hfresh, hstart⟩ := scheduled_start (k := 0) (rfl : firstThen req 0 = (0, orderWith .null .null))
    (rfl : ((handledTwice req).config 0).handlers 0 = none)
  obtain ⟨payments, -, hpaid⟩ := advance_paid id (.initial orderLedger)
    (payable_orderWith .null .null) (payable_amount id .null .null) rfl rfl
    (succeededTurn_succeeded "trace-1")
  have hfirst : ((handledTwice req).config 1).store = .initial orderLedger := hfresh
  rw [← hfirst] at hpaid
  obtain ⟨hcalls, hdone, hsaved⟩ := scheduled_advance (n := 5) halone hstart hpaid rfl
  obtain ⟨hanswer, hkept, hidle⟩ := scheduled_finish rfl hdone
  obtain ⟨hstarted, hkept', hagain⟩ := scheduled_start (k := 7) (rfl : firstThen req 7 = (0, req)) hidle
  have hrow : ((handledTwice req).config 8).store.responses req.parsed.requestId =
      some ⟨requestFingerprint id req.parsed, stringify (orderResponse "trace-1")⟩ := by
    have hid : req.parsed.requestId = _ := congrArg Prod.fst horder
    have hfingerprint : requestFingerprint id req.parsed = _ := congrArg Prod.snd horder
    have hstored : ((handledTwice req).config 8).store = _ := hkept'.trans (hkept.trans hsaved)
    rw [hid, hfingerprint, hstored]
    simp [ArenaRequest.order, orderResponse]
  obtain ⟨hlookup, hdone', -⟩ := scheduled_advance (n := 1) halone hagain
    (advance_cached req hvalid hrow rfl (parseJson_stringify distinctKeys_turnResponse)) rfl
  exact
    { turn := hcalls 3 _ rfl
      saved := hcalls 4 _ rfl
      answered := hanswer
      started := hstarted
      lookedUp := horder ▸ hlookup 0 _ rfl
      again := (scheduled_finish rfl hdone').1 }

theorem handledTwice_mem {k : ℕ} (hk : k < 10) :
    (handledTwice req).event k ∈ (handledTwice req).past (handledTwice req).length :=
  List.mem_map_of_mem (List.mem_range.2 hk)

theorem undisturbed_handledTwice {k : ℕ} (hk : k < (handledTwice req).length) :
    Undisturbed id order (handledTwice req) k where
  alone := by
    rintro ⟨req', -, hevent⟩ j req'' p hj - hbetween
    have hstep := (handledTwice req).step k hk
    rw [hevent] at hstep
    obtain ⟨next, hhandler, -, -⟩ := hstep.called
    by_cases hzero : 0 = j
    · subst hzero
      have hlookup : some (req'', p) = _ := hj.symm.trans hhandler
      cases hlookup
      obtain ⟨op, next', hcall, hop⟩ := hbetween
      cases hcall
      exact hop _ _ rfl
    · have hidle : ((handledTwice req).config k).handlers j = none :=
        scheduled_idle (fun _ => hzero) k
      rw [hidle] at hj
      cases hj
  kept := by
    rintro - l - (⟨req', p, hevent, -⟩ | ⟨req', response, err, hevent⟩)
    · exact Config.move_ne_crashed hevent
    · have hsaved := Config.move_called hevent
      cases hsaved

/-- The order is handled, and handled again when it has been answered. -/
theorem executed_once_undisturbed_retry :
    ∃ (E : Trace ArenaOp.Exec (processRequest id) (.initial orderLedger)) (response response' : JsJson),
      (∀ k < E.length, Undisturbed id ((orderWith .null .null).order id) E k) ∧
      succeededTurns id ((orderWith .null .null).order id) (E.past E.length) ≠ [] ∧
      (succeededTurns id ((orderWith .null .null).order id) (E.past E.length)).length ≤ 1 ∧
      E.event 6 = .returned (orderWith .null .null) (.ok response) ∧ Delivered response ∧
      E.event 9 = .returned (orderWith .null .null) (.ok response') ∧ Delivered response' ∧
      stringify response = stringify response' := by
  have htwice := handlesTwice (payable_orderWith .null .null).valid rfl
  obtain ⟨honce, hsame⟩ := executed_once_undisturbed id ((orderWith .null .null).order id)
    (handledTwice (orderWith .null .null)) (fun _ => undisturbed_handledTwice) le_rfl
  have hdelivered := delivered_orderResponse "trace-1"
  refine ⟨_, _, _, fun _ => undisturbed_handledTwice, ?_, honce, htwice.answered, hdelivered, htwice.again,
    HasState.written hdelivered, ?_⟩
  · apply List.ne_nil_of_mem (a := succeededTurn "trace-1")
    refine List.mem_filterMap.2 ⟨_, handledTwice_mem (k := 4) (by decide), ?_⟩
    rw [htwice.turn]
    simp [succeededTurn?, succeededTurn_succeeded]
  · exact hsame _ _ _ _ (htwice.answered ▸ handledTwice_mem (k := 6) (by decide))
      (htwice.again ▸ handledTwice_mem (k := 9) (by decide)) rfl rfl hdelivered
      (HasState.written hdelivered)

/-- The trace of a turn can be read off its response. -/
theorem traceId_of_stringify {parsed : ParsedRequest} {txnId : JsString} {turn turn' : Turn}
    (h : stringify (turnResponse parsed txnId turn) = stringify (turnResponse parsed txnId turn')) :
    turn.traceId = turn'.traceId := by
  have hread : parseJson (stringify (turnResponse parsed txnId turn)) = _ :=
    parseJson_stringify distinctKeys_turnResponse
  rw [h, parseJson_stringify distinctKeys_turnResponse] at hread
  rw [turnResponse, turnResponse, written, written, bindNum_obj, bindNum_obj] at hread
  have htrace := congrArg (property "trace_id") (obj.inj (Option.some.inj hread))
  rw [property_map, property_map] at htrace
  have hfields : ∀ {turn : Turn}, property "trace_id"
      ([(js "type", jsText "counterparty.service.response.v1")] ++ responseBase parsed ++
        [(js "payment_txn_id", .str txnId),
          (js "state", jsText (if turn.Succeeded then "DELIVERED" else "INCONCLUSIVE")),
          (js "sharedos_status", .str turn.status), (js "trace_id", .str turn.traceId),
          (js "result", turnResult turn)]) = some (.str turn.traceId) := by
    intro turn
    rw [responseBase]
    cases parsed.price <;> rfl
  rw [hfields, hfields] at htrace
  exact (str.inj (Option.some.inj htrace)).symm

/-- What two handlers of one request come to when both are past the cache before either has saved. -/
theorem executed_twice : ∃ history c response response', ArenaRun id orderLedger history c ∧
    2 ≤ (succeededTurns id ((orderWith .null .null).order id) history).length ∧
    .returned (orderWith .null .null) (.ok response) ∈ history ∧
    .returned (orderWith .null .null) (.ok response') ∈ history ∧
    Delivered response ∧ Delivered response' ∧ stringify response ≠ stringify response' := by
  obtain ⟨payments, hclaim, hrows⟩ := claimPayment_first (payable_amount id .null .null)
  have hagain := claimPayment_again hrows ⟨rfl, rfl⟩
  have hinit : ArenaRun id orderLedger [] ⟨.initial orderLedger, fun _ => none⟩ := .init
  have hfirst := hinit.step (.start 0 (orderWith .null .null) rfl) trivial
  have hboth := hfirst.step (.start 1 (orderWith .null .null) (by simp)) trivial
  have hclaimed := hboth.advance (i := 0) (exec_answer (succeededTurn "trace-1"))
    (by simp : _ = some (orderWith .null .null, processRequest id (orderWith .null .null)))
    (advance_claim (payable_orderWith .null .null) rfl hclaim (by simp)) fun _ _ _ => trivial
  have hknown := hclaimed.advance (i := 1) (exec_answer (succeededTurn "trace-2"))
    (by simp : _ = some (orderWith .null .null, processRequest id (orderWith .null .null)))
    (advance_claim (payable_orderWith .null .null) rfl hagain (by simp)) fun _ _ _ => trivial
  have hsaved := hknown.advance (i := 0) (exec_answer (succeededTurn "trace-1"))
    (by simp : _ = some (orderWith .null .null,
      executeAndSave id (orderWith .null .null) (js "txn_AAAAAAAAAA")))
    (advance_execute _ (succeededTurn_succeeded _) (by rintro _ ⟨⟩)) fun _ _ _ => trivial
  have hsaved' := hsaved.advance (i := 1) (exec_answer (succeededTurn "trace-2"))
    (by simp : _ = some (orderWith .null .null,
      executeAndSave id (orderWith .null .null) (js "txn_AAAAAAAAAA")))
    (advance_execute _ (succeededTurn_succeeded _) (by simp)) fun _ _ _ => trivial
  have hreturned := hsaved'.step (.finish 0 (by simp [orderResponse] : _ =
    some (orderWith .null .null, Prog.done (.ok (orderResponse "trace-1"))))) trivial
  have hreturned' := hreturned.step (.finish 1 (by simp [orderResponse] : _ =
    some (orderWith .null .null, Prog.done (.ok (orderResponse "trace-2"))))) trivial
  refine ⟨_, _, _, _, hreturned', ?_, by simp, by simp, delivered_orderResponse "trace-1",
    delivered_orderResponse "trace-2", ?_⟩
  · simp [succeededTurns, List.filterMap_cons, calledBy, succeededTurn?, succeededTurn_succeeded]
  · intro htext
    exact absurd (traceId_of_stringify htext) (by decide)

end Counterparty.Arena
