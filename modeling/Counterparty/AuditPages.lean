import Counterparty.AppSpec

/-! What auditors are shown: every page, receipt and head is of one moment of one chain. -/
namespace Counterparty.App

open Json Interleave

variable {H : Host} {J : JsonSchema} {cfg : Config} {db : Db}

/-! Events as they are sent. -/

/-- An event as it is sent, as an entry of a chain; the digest is of the payload that is sent. -/
def eventView (H : Host) : ChainView AuditEvent String where
  seq := AuditEvent.seq
  previous := AuditEvent.previousHash
  hash := AuditEvent.hash
  digest e := H.sha256 (auditMaterial e.id e.seq e.tsNs e.eventType e.payload e.previousHash)

/-- The event is what is sent of the row. -/
abbrev SentOf (r : AuditRow) (e : AuditEvent) : Prop := r.event = .ok e

theorem SentOf.eq {r : AuditRow} {e : AuditEvent} (h : SentOf r e) : ∃ payload,
    loads r.payloadJson = some payload ∧
      e = ⟨r.id, r.seq, r.tsNs, r.eventType, payload, r.previousHash, r.hash⟩ := by
  unfold SentOf AuditRow.event at h
  cases hloads : loads r.payloadJson with
  | none =>
    rw [hloads] at h
    cases h
  | some payload =>
    rw [hloads] at h
    exact ⟨payload, rfl, (Except.ok.inj h).symm⟩

theorem SentOf.seq_eq {r : AuditRow} {e : AuditEvent} (h : SentOf r e) : e.seq = r.seq := by
  obtain ⟨payload, -, rfl⟩ := h.eq
  rfl

theorem SentOf.hash_eq {r : AuditRow} {e : AuditEvent} (h : SentOf r e) : e.hash = r.hash := by
  obtain ⟨payload, -, rfl⟩ := h.eq
  rfl

theorem sentOf_view {r : AuditRow} {e : AuditEvent} (h : SentOf r e) :
    (eventView H).seq e = (auditView H).seq r ∧
      (auditView H).previous r = some ((eventView H).previous e) ∧
      (auditView H).hash r = some ((eventView H).hash e) ∧
      (auditView H).digest r = some ((eventView H).digest e) := by
  obtain ⟨payload, hloads, rfl⟩ := h.eq
  refine ⟨rfl, rfl, rfl, ?_⟩
  simp only [auditView, hloads, Option.map_some]
  rfl

/-- A row on a chain can be sent. -/
theorem exists_sentOf (h : Chained H db) {r : AuditRow} (hr : r ∈ db.auditEvents.rows) :
    ∃ e, SentOf r e := by
  have hdigest := ChainView.Linked.digest_eq h r hr
  obtain ⟨payload, hloads, -⟩ := Option.map_eq_some_iff.1 hdigest
  exact ⟨_, by rw [SentOf, AuditRow.event, hloads]⟩

theorem mapM_event {rows : List AuditRow} (h : ∀ r ∈ rows, ∃ e, SentOf r e) :
    ∃ events, rows.mapM AuditRow.event = .ok events ∧ List.Forall₂ SentOf rows events := by
  induction rows with
  | nil => exact ⟨[], rfl, .nil⟩
  | cons r rows ih =>
    obtain ⟨e, he⟩ := h r List.mem_cons_self
    obtain ⟨events, hevents, hsent⟩ := ih fun r hr => h r (List.mem_cons_of_mem _ hr)
    refine ⟨e :: events, ?_, .cons he hsent⟩
    have hrow : r.event = .ok e := he
    rw [List.mapM_cons, hrow, hevents]
    rfl

/-- The last rows of the table, as many as fit a page. -/
def lastRows (db : Db) (limit : ℤ) : List AuditRow :=
  db.auditEvents.rows.drop (db.auditEvents.rows.length - limit.toNat)

theorem exists_auditEvents (h : Chained H db) {limit : ℤ} (hlimit : 1 ≤ limit ∧ limit ≤ 1000) :
    ∃ events, Counterparty.auditEvents db limit = .ok events ∧
      List.Forall₂ SentOf (lastRows db limit) events := by
  have hbound : min (max limit 1) 1000 = limit := by omega
  have hrows : (db.auditRows.reverse.take limit.toNat).reverse = lastRows db limit := by
    rw [h.auditRows, List.reverse_take, List.reverse_reverse, List.length_reverse, lastRows]
  have hrow : ∀ r ∈ lastRows db limit, ∃ e, SentOf r e :=
    fun r hr => exists_sentOf h (List.mem_of_mem_drop hr)
  obtain ⟨events, hevents, hsent⟩ := mapM_event hrow
  refine ⟨events, ?_, hsent⟩
  rw [Counterparty.auditEvents, hbound]
  simp only [hrows, hevents]

/-! Traces. -/

variable {E : Trace (Exec H) (app cfg H J) Store.empty} {h a b k m : ℕ} {req : HttpRequest}
  {response : HttpResponse}

theorem audit_grows {op : StoreOp} {r : op.Ret} {st st' : Store}
    (h : op.Exec H st r st') : st.db.auditEvents.rows <+: st'.db.auditEvents.rows := by
  cases h.effect with
  | kept _ hdb _ => rw [hdb]
  | logged hlogged =>
    rw [hlogged.appended.rows_eq]
    exact List.prefix_append _ _
  | verified hverified =>
    rw [hverified.appended.rows_eq]
    exact List.prefix_append _ _
  | canaried hcanaried =>
    rw [hcanaried.appended.rows_eq]
    exact List.prefix_append _ _

variable (E) in
/-- The audit table before a step. -/
def rowsAt (k : ℕ) : List AuditRow := (E.config k).store.db.auditEvents.rows

theorem rowsAt_grows (hkm : k ≤ m) (hm : m ≤ E.length) : rowsAt E k <+: rowsAt E m := by
  induction m, hkm using Nat.le_induction with
  | base => exact List.prefix_rfl
  | succ m hkm ih =>
    refine (ih (by omega)).trans ?_
    rcases (E.step m (by omega)).store_cases with hsame | ⟨op, r, hexec⟩
    · rw [rowsAt, rowsAt, hsame]
    · cases op with
      | inl op => exact audit_grows hexec
      | inr op =>
        obtain ⟨-, hsame⟩ : r = _ ∧ (E.config (m + 1)).store = _ := hexec
        rw [rowsAt, rowsAt, hsame]

theorem chained_at (hk : k ≤ E.length) : Chained H (E.config k).store.db := by
  obtain ⟨served, c₀, hserving, -, hrelated⟩ := run_behind (E.run hk)
  rw [hrelated.store]
  exact (good_of_serving hserving).inv

/-! Answers. -/

section Reads

variable {state : ℕ → Store}

/-- A health check reports the head of one moment. -/
theorem readsIn_health (hreads : ReadsIn (ReadOp.read H) state b a health response) :
    ∃ k, a ≤ k ∧ k ≤ b ∧
      response = .health ⟨true, "counterparty", "0.3.0", auditHead (state k).db⟩ := by
  obtain ⟨k, hak, hreads⟩ := hreads.of_call
  obtain ⟨hkb, hresponse⟩ := ReadsIn.of_done hreads
  exact ⟨k, hak, hkb, hresponse⟩

variable (hchain : ∀ k, a ≤ k → k ≤ b → Chained H (state k).db)

include hchain

/-- A page is the last rows of one moment, and comes with a chain found valid. -/
theorem readsIn_auditEvents {limit : ℤ} (hlimit : 1 ≤ limit ∧ limit ≤ 1000)
    (hreads : ReadsIn (ReadOp.read H) state b a (auditEvents limit) response) :
    ∃ k events, a ≤ k ∧ k ≤ b ∧ response = .auditEvents true events ∧
      List.Forall₂ SentOf (lastRows (state k).db limit) events := by
  obtain ⟨i, hai, hreads⟩ := hreads.of_call
  have hvalid : ReadOp.read H .verifyAudit (state i) = .ok true :=
    (hchain i hai hreads.le).verifyAudit
  rw [hvalid] at hreads
  obtain ⟨k, hik, hreads⟩ := ReadsIn.of_call hreads
  obtain ⟨events, hevents, hsent⟩ := exists_auditEvents (hchain k (by omega) hreads.le) hlimit
  have hread : ReadOp.read H (.auditEvents limit) (state k) = .ok events := hevents
  rw [hread] at hreads
  obtain ⟨hkb, hresponse⟩ := ReadsIn.of_done hreads
  exact ⟨k, events, by omega, hkb, hresponse, hsent⟩

/-- What has the form of a receipt is looked up in the table of one moment. -/
theorem readsIn_auditReceipt {receipt : String} (hreceipt : isReceipt receipt = true)
    (hreads : ReadsIn (ReadOp.read H) state b a (auditReceipt receipt) response) :
    ∃ k, a ≤ k ∧ k ≤ b ∧
      ((response = .refused 404 "receipt not found" ∧
          ∀ r ∈ (state k).db.auditEvents.rows, r.hash ≠ receipt) ∨
        ∃ r ∈ (state k).db.auditEvents.rows, ∃ event, r.hash = receipt ∧ SentOf r event ∧
          response = .auditReceipt true event) := by
  rw [auditReceipt, if_pos hreceipt] at hreads
  obtain ⟨k, hak, hreads⟩ := hreads.of_call
  have hkb := hreads.le
  refine ⟨k, hak, hkb, ?_⟩
  cases hfind : (state k).db.auditEvents.rows.find? fun r => r.hash = receipt with
  | none =>
    have hread : ReadOp.read H (.getAuditEvent receipt) (state k) = .ok none := by
      change getAuditEvent _ _ = _
      rw [getAuditEvent, hfind]
    rw [hread] at hreads
    obtain ⟨-, hresponse⟩ := ReadsIn.of_done hreads
    exact .inl ⟨hresponse, fun r hr => by simpa using List.find?_eq_none.1 hfind r hr⟩
  | some r =>
    have hr := List.mem_of_find?_eq_some hfind
    obtain ⟨event, hsent⟩ := exists_sentOf (hchain k hak hkb) hr
    obtain ⟨payload, hloads, hevent⟩ := hsent.eq
    have hread : ReadOp.read H (.getAuditEvent receipt) (state k) = .ok (some event) := by
      change getAuditEvent _ _ = _
      rw [getAuditEvent, hfind]
      simp only [hloads, hevent]
    rw [hread] at hreads
    obtain ⟨i, hki, hreads⟩ := ReadsIn.of_call hreads
    have hvalid : ReadOp.read H .verifyAudit (state i) = .ok true :=
      (hchain i (by omega) hreads.le).verifyAudit
    rw [hvalid] at hreads
    obtain ⟨-, hresponse⟩ := ReadsIn.of_done hreads
    exact .inr ⟨r, hr, event, by simpa using List.find?_some hfind, hsent, hresponse⟩

end Reads

/-- A request that the gate lets through, but not to an endpoint that writes, is answered by what it
reads between its start and its end. -/
theorem reads_of_answers (hanswers : E.Answers h a b req response)
    (hgate : requestLimits cfg req = .ok ()) (hreads : ∀ r, req.routed ≠ .service r) :
    ReadsIn (ReadOp.read H) (fun k => (E.config k).store) b (a + 1) (readEndpoint req.routed)
      response := by
  apply hanswers.reads
  rw [app, hgate]
  simp only
  cases hrouted : req.routed with
  | service r => exact absurd hrouted (hreads r)
  | health | agentCard | auditEvents | auditReceipt | turnedDown => rfl

/-- What was acknowledged before a moment is on record then. -/
theorem acknowledged_at {req₀ : HttpRequest} {served : ServiceResponse} {j : ℕ} (hj : j < k)
    (hk : k ≤ E.length) (hreturned : E.event j = .returned req₀ (.service served)) :
    ∃ r event eventType payload, admitted cfg req₀ = some r ∧ AuditedAs H r served eventType payload ∧
      OnRecord (E.config k).store.db eventType payload event ∧ served.auditReceipt = event.hash := by
  have hrun := E.run hk
  have hmem : .returned req₀ (.service served) ∈ (List.range k).map E.event :=
    hreturned ▸ List.mem_map_of_mem (List.mem_range.2 hj)
  obtain ⟨r, hadmitted⟩ := exists_admitted hrun hmem
  obtain ⟨history, c₀, hserving, hbehind, hrelated⟩ := run_behind hrun
  obtain ⟨result, hanswer, hresponse⟩ := answer_of_admitted hbehind hmem hadmitted
  cases result with
  | error error => cases hresponse
  | ok served' =>
    cases hresponse
    obtain ⟨event, eventType, payload, haudited, hrecord, hreceipt⟩ :=
      (good_of_serving hserving).answers r (.ok served) hanswer served rfl
    rw [← hrelated.store] at hrecord
    exact ⟨r, event, eventType, payload, hadmitted, haudited, hrecord, hreceipt⟩

/-- The rows of a page are sent as a chain that ends at the head. -/
theorem linked_of_page (hk : k ≤ E.length) {limit : ℤ} {events : List AuditEvent}
    (hsent : List.Forall₂ SentOf (lastRows (E.config k).store.db limit) events) :
    ∃ previous, (eventView H).Linked ((rowsAt E k).length - events.length + 1) previous events ∧
      (eventView H).tip previous events = (auditHead (E.config k).store.db).head := by
  have hchain : (auditView H).Linked 1 (some zeroHash) (rowsAt E k) := chained_at hk
  have htip (rows : List AuditRow) : (auditView H).tip (some zeroHash) rows =
      some ((rows.getLast?.map AuditRow.hash).getD zeroHash) := by
    rw [ChainView.tip]
    cases rows.getLast? <;> rfl
  have hlength := hsent.length_eq
  rw [lastRows, List.length_drop] at hlength
  have hdropped := hchain.drop (Nat.sub_le (rowsAt E k).length limit.toNat)
  rw [htip] at hdropped
  obtain ⟨hlinked, hlast⟩ := hdropped.view (Option.some_injective _) (fun _ _ => sentOf_view) hsent
  have hfirst : ((rowsAt E k).length : ℤ) - events.length + 1 =
      1 + ((rowsAt E k).length - limit.toNat : ℕ) := by
    change (rowsAt E k).length - ((rowsAt E k).length - limit.toNat) = events.length at hlength
    omega
  rw [hfirst]
  refine ⟨_, hlinked, ?_⟩
  rw [← htip] at hlast
  have hwhole : (auditView H).tip ((auditView H).tip (some zeroHash)
      ((rowsAt E k).take ((rowsAt E k).length - limit.toNat)))
        ((rowsAt E k).drop ((rowsAt E k).length - limit.toNat)) =
      some (((rowsAt E k).getLast?.map AuditRow.hash).getD zeroHash) :=
    (ChainView.tip_take_drop _).trans (htip _)
  have hhead := (chained_at (E := E) hk).auditHead
  rw [hhead]
  exact Option.some.inj (hlast.symm.trans hwhole)

/-- Every page of events is the end of the chain as it was at one moment between the request and its
answer: it is whole, it says that the chain is valid, what is sent can be checked link by link up to
the head, and whatever was acknowledged before the request is on that chain. -/
theorem audit_page_atomic {limit : ℤ} (hanswers : E.Answers h a b req response)
    (hgate : requestLimits cfg req = .ok ()) (hrouted : req.routed = .auditEvents limit) :
    ∃ k events previous, a < k ∧ k ≤ b ∧ response = .auditEvents true events ∧
      List.Forall₂ SentOf (lastRows (E.config k).store.db limit) events ∧
      (eventView H).Linked ((rowsAt E k).length - events.length + 1) previous events ∧
      (eventView H).tip previous events = (auditHead (E.config k).store.db).head ∧
      ∀ j < a, ∀ req₀ served, E.event j = .returned req₀ (.service served) →
        ∃ row ∈ rowsAt E k, row.hash = served.auditReceipt := by
  have hreads := reads_of_answers hanswers hgate (by simp [hrouted])
  rw [hrouted] at hreads
  have hlength := hanswers.lt_length
  have hat := req.routed_at
  rw [hrouted] at hat
  obtain ⟨k, events, hak, hkb, hresponse, hsent⟩ :=
    readsIn_auditEvents (fun k _ hk => chained_at (by omega)) hat.2 hreads
  obtain ⟨previous, hlinked, htip⟩ := linked_of_page (by omega) hsent
  refine ⟨k, events, previous, by omega, hkb, hresponse, hsent, hlinked, htip, ?_⟩
  intro j hj req₀ served hreturned
  obtain ⟨r, event, eventType, payload, -, -, hrecord, hreceipt⟩ :=
    acknowledged_at (k := k) (by omega) (by omega) hreturned
  exact ⟨event.row, hrecord.row_mem, hreceipt.symm⟩

/-- `GET /v1/audit` -/
def auditGet : HttpRequest where
  path := "/v1/audit"
  host := some (.ofString "127.0.0.1:8000")
  internalToken := some sampleToken
  contentLength := none
  routed := .auditEvents 100
  routed_at := ⟨rfl, by decide, by decide⟩

/-- The page that is asked for after a snapshot. -/
theorem audit_page_snapshot : ∃ (E : Trace (Exec (.sample zeroHash))
    (app sampleConfig (.sample zeroHash) .sample) Store.empty) (a b k : ℕ) (events : List AuditEvent),
    E.Answers 0 a b auditGet (.auditEvents true events) ∧ a < k ∧ k ≤ b ∧
      List.Forall₂ SentOf (lastRows (E.config k).store.db 100) events ∧ ∃ row, row ∈ rowsAt E k := by
  obtain ⟨E, b₀, served, st, hserved, hlast⟩ := exists_snapshot_acknowledged (.sample zeroHash) .sample
  obtain ⟨E', hextends, -, b, hanswers⟩ := E.exists_answers (exec_quietAnswer _) hlast 0 auditGet
  obtain ⟨k, events, -, hak, hkb, hresponse, hsent, -, -, hknown⟩ :=
    audit_page_atomic hanswers (requestLimits_sample rfl rfl) rfl
  rw [hresponse] at hanswers
  have hearlier := (hextends.answers hserved).returned.2
  obtain ⟨row, hrow, -⟩ := hknown b₀ hserved.lt_length _ _ hearlier
  exact ⟨E', E.length, b, k, events, hanswers, hak, hkb, hsent, row, hrow⟩

/-- The digests are written as `hexdigest` writes them. -/
def HexDigests (H : Host) : Prop := ∀ text, isReceipt (H.sha256 text) = true

/-- The receipt of an answer is the digest of a record. -/
theorem isReceipt_of_row (hhex : HexDigests H) (hk : k ≤ E.length) {row : AuditRow}
    (hrow : row ∈ rowsAt E k) : isReceipt row.hash = true := by
  obtain ⟨payload, -, hdigest⟩ :=
    Option.map_eq_some_iff.1 (ChainView.Linked.digest_eq (chained_at hk) row hrow)
  rw [← hdigest]
  exact hhex _

/-- A receipt is answered with the event of one moment between the request and its answer, letter for
letter: what is no receipt is refused as such, what no event has is not found, and a receipt that was
handed out before the request brings back the event that it was handed out for. -/
theorem receipt_resolves {receipt : String} (hhex : HexDigests H)
    (hanswers : E.Answers h a b req response) (hgate : requestLimits cfg req = .ok ())
    (hrouted : req.routed = .auditReceipt receipt) :
    (isReceipt receipt = false → response = .refused 400 "invalid receipt") ∧
    (isReceipt receipt = true → ∃ k, a < k ∧ k ≤ b ∧
      ((response = .refused 404 "receipt not found" ∧ ∀ row ∈ rowsAt E k, row.hash ≠ receipt) ∨
        ∃ row ∈ rowsAt E k, ∃ event, row.hash = receipt ∧ SentOf row event ∧
          response = .auditReceipt true event)) ∧
    ∀ j < a, ∀ req₀ served, E.event j = .returned req₀ (.service served) →
      served.auditReceipt = receipt → ∃ r event eventType payload, admitted cfg req₀ = some r ∧
        AuditedAs H r served eventType payload ∧ event.eventType = eventType ∧
        event.payload = (Json.obj payload).sortKeys ∧ response = .auditReceipt true event := by
  have hreads := reads_of_answers hanswers hgate (by simp [hrouted])
  rw [hrouted] at hreads
  change ReadsIn _ _ _ _ (auditReceipt receipt) _ at hreads
  have hlength := hanswers.lt_length
  have hlt := hanswers.lt
  have hfound (hreceipt : isReceipt receipt = true) :=
    readsIn_auditReceipt (fun k _ hk => chained_at (by omega)) hreceipt hreads
  refine ⟨?_, ?_, ?_⟩
  · intro hno
    rw [auditReceipt, hno] at hreads
    exact hreads.of_done.2
  · intro hreceipt
    obtain ⟨k, hak, hkb, hcases⟩ := hfound hreceipt
    exact ⟨k, by omega, hkb, hcases⟩
  · intro j hj req₀ served hreturned hsame
    obtain ⟨r, event, eventType, payload, hadmitted, haudited, hrecord, hhash⟩ :=
      acknowledged_at (k := a + 1) (by omega) (by omega) hreturned
    have hrow : event.row ∈ rowsAt E (a + 1) := hrecord.row_mem
    have hevent : event.row.hash = receipt := hhash.symm.trans hsame
    obtain ⟨k, hak, hkb, hcases⟩ := hfound (hevent ▸ isReceipt_of_row hhex (by omega) hrow)
    have hlater : event.row ∈ rowsAt E k := (rowsAt_grows hak (by omega)).subset hrow
    rcases hcases with ⟨-, hnone⟩ | ⟨row, hmem, sent, hrowhash, hsent, hresponse⟩
    · exact absurd hevent (hnone _ hlater)
    · have hone : row = event.row := Table.eq_of_clash AuditRow.Clash.symm hmem hlater
        (.inr (.inr (hrowhash.trans hevent.symm)))
      subst hone
      obtain ⟨payload', hloads, rfl⟩ := hsent.eq
      have hread : loads (dumps false event.payload) = some payload' := hloads
      rw [hrecord.payload_eq, loads_dumps false hrecord.plain] at hread
      refine ⟨r, _, eventType, payload, hadmitted, haudited, ?_, ?_, hresponse⟩
      · exact hrecord.eventType_eq
      · exact (Option.some.inj hread).symm

/-- `GET /v1/audit/{receipt}` -/
def receiptGet (receipt : String) : HttpRequest where
  path := "/v1/audit/" ++ receipt
  host := some (.ofString "127.0.0.1:8000")
  internalToken := some sampleToken
  contentLength := none
  routed := .auditReceipt receipt
  routed_at := rfl

/-- The receipt of a snapshot brings back its event. -/
theorem receipt_resolves_snapshot : ∃ (E : Trace (Exec (.sample zeroHash))
    (app sampleConfig (.sample zeroHash) .sample) Store.empty) (a b : ℕ) (served : ServiceResponse)
    (event : AuditEvent),
    E.Answers 0 a b (receiptGet served.auditReceipt) (.auditReceipt true event) := by
  obtain ⟨E, b₀, served, st, hserved, hlast⟩ := exists_snapshot_acknowledged (.sample zeroHash) .sample
  obtain ⟨E', hextends, -, b, hanswers⟩ :=
    E.exists_answers (exec_quietAnswer _) hlast 0 (receiptGet served.auditReceipt)
  have hearlier := (hextends.answers hserved).returned.2
  have hhex : HexDigests (.sample zeroHash) := fun _ => (by decide : isReceipt zeroHash = true)
  obtain ⟨-, -, hknown⟩ := receipt_resolves hhex hanswers (requestLimits_sample rfl rfl) rfl
  obtain ⟨r, event, eventType, payload, -, -, -, -, hresponse⟩ :=
    hknown b₀ hserved.lt_length _ _ hearlier rfl
  rw [hresponse] at hanswers
  exact ⟨E', E.length, b, served, event, hanswers⟩

/-! Answers beside each other. -/

/-- The events that a response shows. -/
def HttpResponse.events : HttpResponse → List AuditEvent
  | .auditEvents _ events => events
  | .auditReceipt _ event => [event]
  | _ => []

/-- The response says which hash the event of a number has. -/
inductive HttpResponse.Names : HttpResponse → ℤ → String → Prop
  | event {response : HttpResponse} {event : AuditEvent} (h : event ∈ response.events) :
      Names response event.seq event.hash
  | health (response : HealthResponse) :
      Names (.health response) response.audit.count response.audit.head

/-- A response is one of the service's, or a refusal, or what an endpoint read. -/
theorem answers_cases (hanswers : E.Answers h a b req response) :
    (∃ served, response = present served) ∨ 400 ≤ response.status ∨
      requestLimits cfg req = .ok () ∧ ∀ r, req.routed ≠ .service r := by
  have hlength := hanswers.lt_length
  have hrun := E.run (k := b + 1) (by omega)
  cases hadmitted : admitted cfg req with
  | some r =>
    obtain ⟨history, c₀, -, hbehind, -⟩ := run_behind hrun
    obtain ⟨result, -, hresponse⟩ := answer_of_admitted hbehind hanswers.mem hadmitted
    exact .inl ⟨result, hresponse⟩
  | none =>
    cases hgate : requestLimits cfg req with
    | error refusal =>
      have hprogram : app cfg H J req = (Prog.done refusal : Reading).reading := by
        rw [app, hgate]
        rfl
      rw [(hanswers.reads hprogram).of_done.2]
      exact .inr (.inl (requestLimits_error hgate))
    | ok u =>
      refine .inr (.inr ⟨rfl, ?_⟩)
      intro r hrouted
      rw [admitted, hgate, hrouted] at hadmitted
      cases hadmitted

variable (E) in
/-- What a response shows of the chain, if anything: its head at one moment, or rows of one moment. -/
inductive ShownIn (a b : ℕ) : HttpResponse → Prop
  | head {k : ℕ} (hak : a < k) (hkb : k ≤ b) :
      ShownIn a b (.health ⟨true, "counterparty", "0.3.0", auditHead (E.config k).store.db⟩)
  | rows {response : HttpResponse} {k : ℕ} (hkb : k ≤ b) (hhealth : ∀ head, response ≠ .health head)
      (h : ∀ event ∈ response.events, ∃ row ∈ rowsAt E k, SentOf row event) : ShownIn a b response

theorem ShownIn.nothing (hevents : response.events = []) (hhealth : ∀ head, response ≠ .health head) :
    ShownIn E a b response := by
  refine .rows (Nat.zero_le b) hhealth ?_
  rw [hevents]
  exact nofun

theorem ShownIn.refused (h : 400 ≤ response.status) : ShownIn E a b response := by
  cases response with
  | health head =>
    change 400 ≤ 200 at h
    omega
  | auditEvents valid events =>
    change 400 ≤ 200 at h
    omega
  | auditReceipt valid event =>
    change 400 ≤ 200 at h
    omega
  | agentCard | service | refused | turnedDown | serverError => exact .nothing rfl (by simp)

theorem shown_of_answers (hanswers : E.Answers h a b req response) : ShownIn E a b response := by
  have hlength := hanswers.lt_length
  rcases answers_cases hanswers with ⟨served, rfl⟩ | hrefused | ⟨hgate, hrouted⟩
  · cases served <;> exact .nothing rfl (by simp [present])
  · exact .refused hrefused
  · have hreads := reads_of_answers hanswers hgate hrouted
    cases hto : req.routed with
    | service r => exact absurd hto (hrouted r)
    | agentCard =>
      rw [hto] at hreads
      rw [hreads.of_done.2]
      exact .nothing rfl (by simp)
    | turnedDown status =>
      rw [hto] at hreads
      rw [hreads.of_done.2]
      exact .nothing rfl (by simp)
    | health =>
      rw [hto] at hreads
      obtain ⟨k, hak, hkb, rfl⟩ := readsIn_health hreads
      exact .head hak hkb
    | auditEvents limit =>
      rw [hto] at hreads
      have hat := req.routed_at
      rw [hto] at hat
      obtain ⟨k, events, -, hkb, rfl, hsent⟩ :=
        readsIn_auditEvents (fun k _ hk => chained_at (by omega)) hat.2 hreads
      refine .rows hkb (by simp) ?_
      intro event hevent
      obtain ⟨row, hrow, hsentOf⟩ := Table.exists_of_mem_justified hsent hevent
      exact ⟨row, List.mem_of_mem_drop hrow, hsentOf⟩
    | auditReceipt receipt =>
      rw [hto] at hreads
      change ReadsIn _ _ _ _ (auditReceipt receipt) _ at hreads
      cases hreceipt : isReceipt receipt with
      | false =>
        rw [auditReceipt, hreceipt] at hreads
        rw [hreads.of_done.2]
        exact .nothing rfl (by simp)
      | true =>
        obtain ⟨k, -, hkb, ⟨rfl, -⟩ | ⟨row, hrow, sent, -, hsent, rfl⟩⟩ :=
          readsIn_auditReceipt (fun k _ hk => chained_at (by omega)) hreceipt hreads
        · exact .nothing rfl (by simp)
        · refine .rows hkb (by simp) ?_
          intro event hevent
          rw [List.mem_singleton.1 hevent]
          exact ⟨row, hrow, hsent⟩

/-- The events that are shown at any time are rows in the end. -/
theorem ShownIn.final (hshown : ShownIn E a b response) (hb : b < E.length) {event : AuditEvent}
    (hevent : event ∈ response.events) : ∃ row ∈ rowsAt E E.length, SentOf row event := by
  cases hshown with
  | head hak hkb => cases hevent
  | @rows _ k hkb hhealth hrows =>
    obtain ⟨row, hrow, hsent⟩ := hrows event hevent
    exact ⟨row, (rowsAt_grows (k := k) (by omega) le_rfl).subset hrow, hsent⟩

theorem ShownIn.head_eq {head : HealthResponse} (hshown : ShownIn E a b (.health head)) :
    ∃ k, a < k ∧ k ≤ b ∧ head.audit = auditHead (E.config k).store.db := by
  cases hshown with
  | @head k hak hkb => exact ⟨k, hak, hkb, rfl⟩
  | rows hkb hhealth hrows => exact absurd rfl (hhealth head)

/-- The head is the last row, if there is one. -/
theorem head_cases (hk : k ≤ E.length) : auditHead (E.config k).store.db = ⟨0, zeroHash⟩ ∨
    ∃ row ∈ rowsAt E k, row.seq = (auditHead (E.config k).store.db).count ∧
      row.hash = (auditHead (E.config k).store.db).head := by
  have hhead := (chained_at (E := E) hk).auditHead
  have hlast := (chained_at (E := E) hk).last_seq
  rw [(chained_at hk).auditRows] at hlast
  simp only [hhead]
  cases hrow : (E.config k).store.db.auditEvents.rows.getLast? with
  | none =>
    rw [hrow] at hlast
    left
    simp [← hlast]
  | some row =>
    rw [hrow] at hlast
    exact .inr ⟨row, List.mem_of_getLast? hrow, hlast, rfl⟩

theorem seq_pos (hk : k ≤ E.length) {row : AuditRow} (hrow : row ∈ rowsAt E k) : 0 < row.seq := by
  have hseq := ChainView.Linked.seq_eq (chained_at hk)
  have hmem : row.seq ∈ (rowsAt E k).map (auditView H).seq := List.mem_map_of_mem hrow
  rw [rowsAt, hseq] at hmem
  obtain ⟨i, -, hi⟩ := List.mem_map.1 hmem
  omega

/-- What a response names is a row in the end, or that there was none. -/
theorem ShownIn.named (hshown : ShownIn E a b response) (hb : b < E.length) {seq : ℤ} {hash : String}
    (hnames : response.Names seq hash) : (seq = 0 ∧ hash = zeroHash) ∨
      ∃ row ∈ rowsAt E E.length, row.seq = seq ∧ row.hash = hash := by
  cases hnames with
  | event hevent =>
    obtain ⟨row, hrow, hsent⟩ := hshown.final hb hevent
    exact .inr ⟨row, hrow, hsent.seq_eq.symm, hsent.hash_eq.symm⟩
  | health head =>
    obtain ⟨k, hak, hkb, hhead⟩ := hshown.head_eq
    rw [hhead]
    rcases head_cases (E := E) (k := k) (by omega) with hnone | ⟨row, hrow, hseq, hhash⟩
    · rw [hnone]
      exact .inl ⟨rfl, rfl⟩
    · have hlater := rowsAt_grows (E := E) (k := k) (m := E.length) (by omega) le_rfl
      exact .inr ⟨row, hlater.subset hrow, hseq, hhash⟩

/-- Whatever two clients are told in one run, and whenever, is of one chain: events with the same number,
id or hash are the same event, no number is ever named with two hashes, be it in a page, for a receipt
or as the head, and a head that is asked for later is no earlier one. -/
theorem audit_never_equivocates {h' a' b' : ℕ} {req' : HttpRequest} {response' : HttpResponse}
    (hanswers : E.Answers h a b req response) (hanswers' : E.Answers h' a' b' req' response') :
    (∀ event ∈ response.events, ∀ event' ∈ response'.events,
      event.seq = event'.seq ∨ event.id = event'.id ∨ event.hash = event'.hash → event = event') ∧
    (∀ seq hash hash', response.Names seq hash → response'.Names seq hash' → hash = hash') ∧
    ∀ head head', response = .health head → response' = .health head' → b ≤ a' →
      head.audit.count ≤ head'.audit.count := by
  have hshown := shown_of_answers hanswers
  have hshown' := shown_of_answers hanswers'
  have hlength := hanswers.lt_length
  have hlength' := hanswers'.lt_length
  refine ⟨?_, ?_, ?_⟩
  · intro event hevent event' hevent' hsame
    obtain ⟨row, hrow, hsent⟩ := hshown.final hlength hevent
    obtain ⟨row', hrow', hsent'⟩ := hshown'.final hlength' hevent'
    have hclash : AuditRow.Clash row row' := by
      obtain ⟨payload, -, rfl⟩ := hsent.eq
      obtain ⟨payload', -, rfl⟩ := hsent'.eq
      exact hsame
    have hone := Table.eq_of_clash AuditRow.Clash.symm hrow hrow' hclash
    subst hone
    exact Except.ok.inj (Eq.trans (Eq.symm hsent) hsent')
  · intro seq hash hash' hnames hnames'
    rcases hshown.named hlength hnames with ⟨rfl, rfl⟩ | ⟨row, hrow, hseq, rfl⟩
    · rcases hshown'.named hlength' hnames' with ⟨-, rfl⟩ | ⟨row', hrow', hzero, -⟩
      · rfl
      · have hpos := seq_pos le_rfl hrow'
        omega
    · rcases hshown'.named hlength' hnames' with ⟨rfl, -⟩ | ⟨row', hrow', hseq', rfl⟩
      · have hpos := seq_pos le_rfl hrow
        omega
      · have hclash : AuditRow.Clash row row' := .inl (hseq.trans hseq'.symm)
        rw [Table.eq_of_clash AuditRow.Clash.symm hrow hrow' hclash]
  · rintro head head' rfl rfl hba
    obtain ⟨k, -, hkb, hhead⟩ := hshown.head_eq
    obtain ⟨k', hak', hkb', hhead'⟩ := hshown'.head_eq
    have hgrows := rowsAt_grows (E := E) (k := k) (m := k') (by omega) (by omega)
    rw [hhead, hhead', (chained_at (by omega)).auditHead, (chained_at (by omega)).auditHead]
    change ((rowsAt E k).length : ℤ) ≤ (rowsAt E k').length
    exact_mod_cast hgrows.length_le

/-- `GET /health` -/
def healthGet : HttpRequest where
  path := "/health"
  host := some (.ofString "127.0.0.1:8000")
  internalToken := some sampleToken
  contentLength := none
  routed := .health
  routed_at := rfl

theorem eval_healthGet (H : Host) (J : JsonSchema) (st : Store) :
    (app sampleConfig H J healthGet).eval (frontAnswer (quietAnswer H) (ReadOp.read H)) st =
      (.health ⟨true, "counterparty", "0.3.0", auditHead st.db⟩, st) := by
  rw [app, requestLimits_sample rfl rfl]
  rfl

/-- A page that is asked for after a health check agrees with its head. -/
theorem audit_never_equivocates_health : ∃ (E : Trace (Exec (.sample zeroHash))
    (app sampleConfig (.sample zeroHash) .sample) Store.empty) (a b a' b' : ℕ)
    (head : HealthResponse) (response : HttpResponse),
    E.Answers 0 a b healthGet (.health head) ∧ E.Answers 0 a' b' auditGet response ∧
      ∀ event ∈ response.events, event.seq = head.audit.count → event.hash = head.audit.head := by
  obtain ⟨E, -, -, st, -, hlast⟩ := exists_snapshot_acknowledged (.sample zeroHash) .sample
  obtain ⟨E', -, hlast', b, hhealth⟩ := E.exists_answers (exec_quietAnswer _) hlast 0 healthGet
  obtain ⟨E'', hextends, -, b', hpage⟩ := E'.exists_answers (exec_quietAnswer _) hlast' 0 auditGet
  rw [eval_healthGet] at hhealth
  have hhealth' := hextends.answers hhealth
  refine ⟨E'', _, b, _, b', _, _, hhealth', hpage, ?_⟩
  intro event hevent hseq
  have hnames := (audit_never_equivocates hhealth' hpage).2.1 event.seq
  rw [hseq] at hnames
  exact (hnames _ _ (.health _) (hseq ▸ .event hevent)).symm

end Counterparty.App
