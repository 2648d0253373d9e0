import Counterparty.Library.JsonMentions
import Counterparty.Arena.Isolation

/-! The Arena on `node:sqlite`, which converts the strings of its statements: the handlers pass none that
is converted, so the runs are the same. -/
namespace Counterparty.Arena

open Json Interleave

/-! The responses. -/

/-- `SELECT fingerprint, response_json` -/
def StoredResponse.selected (row : StoredResponse) : StoredResponse :=
  ⟨column row.fingerprint, column row.responseJson⟩

namespace Sqlite

def cachedResponse (fails : Bool) (requestId : JsString) (fingerprint : Text) (t : Responses) :
    Except StoreError (Option JsJson) :=
  Arena.cachedResponse fails (bindString requestId) fingerprint fun id =>
    (t id).map StoredResponse.selected

def upsertResponse (requestId : JsString) (fingerprint responseJson : Text) (t : Responses) :
    Responses :=
  match t requestId with
  | none => Function.update t requestId (some ⟨fingerprint, responseJson⟩)
  | some row =>
    if row.fingerprint = fingerprint then
      Function.update t requestId (some ⟨fingerprint, responseJson⟩)
    else t

def saveResponse (fails : Bool) (requestId : JsString) (fingerprint : Text) (response : JsJson)
    (t : Responses) : Except StoreError Unit × Responses :=
  if fails then (.error .sqlite, t)
  else
    (.ok (), upsertResponse (bindString requestId) (bindText fingerprint) (bindText (stringify response)) t)

end Sqlite

/-- The operations, with the statements on strings as they are bound and read back. -/
def ArenaOp.BoundExec : (op : ArenaOp) → ArenaState → op.Ret → ArenaState → Prop
  | .cachedResponse requestId fingerprint, s, r, s' =>
    s' = s ∧ ∃ fails, r = Sqlite.cachedResponse fails requestId fingerprint s.responses
  | .verifyPayment expected, s, r, s' => ArenaOp.Exec (.verifyPayment expected) s r s'
  | .claimPayment input, s, r, s' =>
    ∃ faults pick, r = (Sqlite.claimPayment faults pick input s.payments).1 ∧
      s' = { s with payments := (Sqlite.claimPayment faults pick input s.payments).2 }
  | .executeTurn turn, s, r, s' => ArenaOp.Exec (.executeTurn turn) s r s'
  | .saveResponse requestId fingerprint response, s, r, s' =>
    ∃ fails, r = (Sqlite.saveResponse fails requestId fingerprint response s.responses).1 ∧
      s' = { s with
        responses := (Sqlite.saveResponse fails requestId fingerprint response s.responses).2 }

variable {sha256 : Text → Text} {req : ArenaRequest} {ledger : Ledger} {history : List ArenaEvent}
  {c : ArenaConfig} {op : ArenaOp} {s s' : ArenaState} {fails : Bool} {requestId : JsString}
  {fingerprint : Text} {t : Responses}

/-! Strings that are kept. -/

theorem isKept_of_alphanumeric {u : CodeUnit} (h : isAlphanumeric u) : IsKept u.val := by
  simp only [isAlphanumeric, Bool.or_eq_true, Bool.and_eq_true, decide_eq_true_eq] at h
  simp only [isKept_iff, isSurrogate, isHighSurrogate, isLowSurrogate, Bool.or_eq_false_iff,
    Bool.and_eq_false_iff, decide_eq_false_iff_not]
  omega

theorem readsBack_requestId (h : requestIdPattern requestId) : ReadsBack requestId := by
  simp only [requestIdPattern, Bool.and_eq_true, List.all_eq_true, Bool.or_eq_true,
    decide_eq_true_eq] at h
  have hmarks : (js "._:-").all fun u => IsKept u.val := by decide
  refine readsBack_of_units fun u hu => ?_
  rcases h.2 u hu with halphanumeric | hmark
  · exact isKept_of_alphanumeric halphanumeric
  · exact List.all_eq_true.1 hmarks u hmark

theorem readsBack_txnId {txnId : JsString} (h : sharednetTxnPattern txnId) : ReadsBack txnId := by
  simp only [sharednetTxnPattern, addressPattern, List.any_cons, List.any_nil, Bool.or_false,
    Bool.and_eq_true, List.all_eq_true, List.isPrefixOf_iff_prefix] at h
  obtain ⟨⟨⟨rest, rfl⟩, -⟩, hrest⟩ := h
  have hletters : (js "txn_").all fun u => IsKept u.val := by decide
  refine readsBack_of_units fun u hu => ?_
  rcases List.mem_append.1 hu with hu | hu
  · exact List.all_eq_true.1 hletters u hu
  · refine isKept_of_alphanumeric (hrest u ?_)
    rwa [List.drop_left' (by decide)]

theorem isWellFormed_service {service : JsString} {price : Price} (h : priceOf service = some price) :
    IsWellFormed service := by
  have hnames : ∀ p ∈ PRICES ++ objectPrototype, IsWellFormed p.1 := by decide +kernel
  obtain ⟨before, after, hlist, -⟩ := List.lookup_eq_some_iff.1 h
  exact hnames (service, price) (by simp [hlist])

theorem isKept_of_tokenChar {c : ℕ} (h : isTokenChar c) : IsKept c := by
  simp only [isTokenChar, Bool.or_eq_true, Bool.and_eq_true, decide_eq_true_eq, beq_iff_eq] at h
  simp only [isKept_iff, isSurrogate, isHighSurrogate, isLowSurrogate, Bool.or_eq_false_iff,
    Bool.and_eq_false_iff, decide_eq_false_iff_not]
  omega

theorem isKept_of_mem_pointText {p : JsString} {c : ℕ} (h : c ∈ pointText p) : IsKept c := by
  simp only [isKept_iff, isSurrogate, isHighSurrogate, isLowSurrogate, Bool.or_eq_false_iff,
    Bool.and_eq_false_iff, decide_eq_false_iff_not]
  unfold pointText at h
  split at h
  · rcases mem_escape h with ⟨rfl, hplain⟩ | hprintable
    · simp only [isHighSurrogate, isLowSurrogate, Bool.and_eq_true, Bool.not_eq_true',
        Bool.and_eq_false_iff, decide_eq_true_eq, decide_eq_false_iff_not] at hplain
      omega
    · omega
  · have hpair := List.mem_singleton.1 h
    omega
  · cases h

theorem isKept_of_mem_numberText {x : JsNumber} {c : ℕ} (h : c ∈ numberText x) : IsKept c := by
  cases x with
  | finite neg mag => exact isKept_of_tokenChar (isTokenChar_of_mem_text (jsNumeral_spec _ _).1 h)
  | infinity neg => exact isKept_of_tokenChar (null_token.2 c h)
  | nan => exact isKept_of_tokenChar (null_token.2 c h)

/-- JSON escapes what would not be kept of it. -/
theorem textReadsBack_stringify (j : JsJson) : TextReadsBack (stringify j) := by
  refine textReadsBack_of_points (forall_mem_render ⟨?_, ?_, ?_, ?_⟩ ?_ ?_ j)
  · decide
  · decide
  · rfl
  · rfl
  · intro s c hc
    rcases List.mem_append.1 hc with hc | hc
    · obtain ⟨p, -, hp⟩ := List.mem_flatMap.1 hc
      exact isKept_of_mem_pointText hp
    · rw [List.mem_singleton.1 hc]
      rfl
  · exact fun x c hc => isKept_of_mem_numberText hc

/-! Operations and states in which nothing is converted. -/

def ArenaOp.Kept : ArenaOp → Prop
  | .cachedResponse requestId fingerprint | .saveResponse requestId fingerprint _ =>
    ReadsBack requestId ∧ TextReadsBack fingerprint
  | .claimPayment input => input.ReadsBack ∧ input.bound = input
  | .verifyPayment _ | .executeTurn _ => True

structure ArenaState.Readable (s : ArenaState) : Prop where
  payments : ∀ row ∈ s.payments.rows, row.Readable
  responses : ∀ id row, s.responses id = some row → row.selected = row

theorem OwnOp.kept (hsha : ∀ text, TextReadsBack (sha256 text))
    (hroom : IsWellFormed req.process.envRoomId) (h : OwnOp sha256 req op) : op.Kept := by
  have hid := readsBack_requestId req.parsed.requestId_pattern
  have hservice := isWellFormed_service req.parsed.service_priced
  have horder : ReadsBack (req.order sha256).1 ∧ TextReadsBack (req.order sha256).2 := ⟨hid, hsha _⟩
  cases op with
  | cachedResponse requestId fingerprint =>
    cases h
    exact horder
  | saveResponse requestId fingerprint response =>
    cases h
    exact horder
  | claimPayment input =>
    obtain ⟨txnId, hpattern, rfl⟩ := h
    have hkept : (paymentOf sha256 req txnId).ReadsBack :=
      ⟨(readsBack_txnId hpattern).wellFormed, hid, hsha _⟩
    refine ⟨hkept, ?_⟩
    have hservice : bindString (paymentOf sha256 req txnId).service = _ := hservice
    have hroom : bindString (paymentOf sha256 req txnId).roomId = _ := hroom
    rw [hkept.bound_eq, hservice, hroom]
    rfl
  | verifyPayment expected => trivial
  | executeTurn turn => trivial

theorem Sqlite.cachedResponse_eq (hid : ReadsBack requestId)
    (ht : ∀ id row, t id = some row → row.selected = row) :
    Sqlite.cachedResponse fails requestId fingerprint t =
      Arena.cachedResponse fails requestId fingerprint t := by
  have hbind : bindString requestId = requestId := hid.wellFormed
  have hread : (fun id => (t id).map StoredResponse.selected) = t := by
    funext id
    cases hrow : t id with
    | none => rfl
    | some row => rw [Option.map_some, ht id row hrow]
  rw [Sqlite.cachedResponse, hbind, hread]

theorem Sqlite.saveResponse_eq (hid : ReadsBack requestId) (hfingerprint : TextReadsBack fingerprint)
    (response : JsJson) : Sqlite.saveResponse fails requestId fingerprint response t =
      Arena.saveResponse fails requestId fingerprint response t := by
  have hbind : bindString requestId = requestId := hid.wellFormed
  rw [Sqlite.saveResponse, hbind, hfingerprint.wellFormed, (textReadsBack_stringify response).wellFormed]
  rfl

theorem ArenaOp.boundExec_iff {r : op.Ret} (hop : op.Kept) (hs : s.Readable) :
    op.BoundExec s r s' ↔ op.Exec s r s' := by
  cases op with
  | cachedResponse requestId fingerprint =>
    simp only [ArenaOp.BoundExec, ArenaOp.Exec, Sqlite.cachedResponse_eq hop.1 hs.responses]
  | verifyPayment expected => exact Iff.rfl
  | claimPayment input =>
    simp only [ArenaOp.BoundExec, ArenaOp.Exec, Sqlite.claimPayment_eq hop.1 hs.payments, hop.2]
  | executeTurn turn => exact Iff.rfl
  | saveResponse requestId fingerprint response =>
    simp only [ArenaOp.BoundExec, ArenaOp.Exec, Sqlite.saveResponse_eq hop.1 hop.2]

theorem selected_upsertResponse {response : JsJson} (hfingerprint : TextReadsBack fingerprint)
    (ht : ∀ id row, t id = some row → row.selected = row) :
    ∀ id row, upsertResponse requestId fingerprint response t id = some row → row.selected = row := by
  intro id row hrow
  rcases upsertResponse_some hrow with hold | ⟨-, rfl⟩
  · exact ht id row hold
  · rw [StoredResponse.selected, column_eq_iff.2 hfingerprint.noNul,
      column_eq_iff.2 (textReadsBack_stringify response).noNul]

theorem ArenaState.Readable.exec {r : op.Ret} (hs : s.Readable) (hop : op.Kept)
    (h : op.Exec s r s') : s'.Readable := by
  cases op with
  | cachedResponse requestId fingerprint =>
    obtain ⟨rfl, -⟩ := h
    exact hs
  | verifyPayment expected =>
    rcases h with ⟨rfl, -⟩ | ⟨ledger, page, -, -, rfl, -⟩
    · exact hs
    · exact ⟨hs.payments, hs.responses⟩
  | claimPayment input =>
    obtain ⟨faults, pick, -, rfl⟩ := h
    refine ⟨?_, hs.responses⟩
    have hrows : ∀ row ∈ (Sqlite.claimPayment faults pick input s.payments).2.rows, row.Readable :=
      readable_claimPayment hop.1 hs.payments
    rwa [Sqlite.claimPayment_eq hop.1 hs.payments, hop.2] at hrows
  | executeTurn turn =>
    have hsame : s' = s := h
    exact hsame ▸ hs
  | saveResponse requestId fingerprint response =>
    obtain ⟨fails, -, rfl⟩ := h
    refine ⟨hs.payments, ?_⟩
    cases fails with
    | true => exact hs.responses
    | false => exact selected_upsertResponse hop.2 hs.responses

theorem readable_initial (ledger : Ledger) : (ArenaState.initial ledger).Readable :=
  ⟨fun _ hrow => absurd hrow List.not_mem_nil, fun _ _ hrow => by cases hrow⟩

/-- The runs on `node:sqlite` are the runs of the model: digests are kept as they are, and so are the
ids of the rooms, which come from the environment. -/
theorem bound_run_iff (hsha : ∀ text, TextReadsBack (sha256 text))
    (hrooms : ∀ e ∈ history, IsWellFormed e.request.process.envRoomId) :
    Run ArenaOp.BoundExec (processRequest sha256) (.initial ledger) history c ↔
      ArenaRun sha256 ledger history c := by
  have hstep : ∀ req (op : ArenaOp) (s : ArenaState) (r : op.Ret) s', .called req op r ∈ history →
      OwnOp sha256 req op → s.Readable →
      (op.BoundExec s r s' ↔ op.Exec s r s') ∧ (op.Exec s r s' → s'.Readable) := by
    intro req op s r s' hcall hown hs
    have hkept := hown.kept hsha (hrooms _ hcall)
    exact ⟨ArenaOp.boundExec_iff hkept hs, hs.exec hkept⟩
  constructor
  · intro hrun
    refine (hrun.reexec (fun _ => performs_processRequest) (readable_initial ledger) ?_).1
    intro req op s r s' hcall hown hs hexec
    obtain ⟨hsame, hreadable⟩ := hstep req op s r s' hcall hown hs
    exact ⟨hsame.1 hexec, hreadable (hsame.1 hexec)⟩
  · intro hrun
    refine (hrun.reexec (fun _ => performs_processRequest) (readable_initial ledger) ?_).1
    intro req op s r s' hcall hown hs hexec
    obtain ⟨hsame, hreadable⟩ := hstep req op s r s' hcall hown hs
    exact ⟨hsame.2 hexec, hreadable hexec⟩

end Counterparty.Arena
