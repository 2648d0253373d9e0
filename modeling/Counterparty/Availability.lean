import Counterparty.AuditPayload
import Counterparty.BestExecution
import Counterparty.Replay

/-! Nothing that the store has been through keeps the service from answering: the next audit record
always fits the chain. -/
namespace Counterparty

open Json Interleave

variable {H : Host} {J : JsonSchema} {st st' : Store} {faults : Faults}

/-! Records. -/

/-- The text of a record tells its id, whatever its payload is. -/
theorem id_of_auditMaterial {id id' eventType eventType' previousHash previousHash' : String}
    {seq seq' tsNs tsNs' : ℤ} {payload payload' : PyJson}
    (h : auditMaterial id seq tsNs eventType payload previousHash =
      auditMaterial id' seq' tsNs' eventType' payload' previousHash') : id = id' := by
  have htext : ∀ s : String, Joined (PyStr.ofString s) := fun s => (scalar_ofString s).joined
  rw [AnyPayload.auditMaterial_eq_iff.2 (rfl : dumps true payload = _),
    AnyPayload.auditMaterial_eq_iff.2 (rfl : dumps true payload' = _),
    AnyPayload.sortFields_auditRecord, AnyPayload.sortFields_auditRecord] at h
  obtain ⟨-, hrest⟩ := render_obj_str (lawful_pyStyle true) (htext _) (htext _) h
  exact ofString_injective (render_obj_str (lawful_pyStyle true) (htext _) (htext _) hrest).1

/-- A row of the audit table has an id that was drawn before, and the digest of its record. -/
structure AuditRow.Drawn (H : Host) (st : Store) (r : AuditRow) : Prop where
  id_eq : ∃ k ≤ st.draws, r.id = H.uuid4 k
  hash_eq : ∃ payload, r.hash =
    H.sha256 (auditMaterial r.id r.seq r.tsNs r.eventType payload r.previousHash)

def RecordsDrawn (H : Host) (st : Store) : Prop := ∀ r ∈ st.db.auditEvents.rows, r.Drawn H st

theorem RecordsDrawn.mono (h : RecordsDrawn H st) (haudit : st'.db.auditEvents = st.db.auditEvents)
    (hdraws : st.draws ≤ st'.draws) : RecordsDrawn H st' := by
  intro r hr
  obtain ⟨⟨k, hk, hid⟩, hhash⟩ := h r (haudit ▸ hr)
  exact ⟨⟨k, by omega, hid⟩, hhash⟩

theorem RecordsDrawn.append {eventType : String} {payload : PyDict} {event : AuditEvent}
    (h : RecordsDrawn H st) (hdraws : st.draws < st'.draws)
    (happended : Appended H (st.draws + 1) eventType payload st.db st'.db event) :
    RecordsDrawn H st' := by
  intro r hr
  rw [happended.rows_eq, List.mem_append, List.mem_singleton] at hr
  rcases hr with hr | rfl
  · obtain ⟨⟨k, hk, hid⟩, hhash⟩ := h r hr
    exact ⟨⟨k, by omega, hid⟩, hhash⟩
  · rw [happended.event_eq]
    exact ⟨⟨st.draws + 1, by omega, rfl⟩, .obj payload, rfl⟩

theorem RecordsDrawn.exec {op : StoreOp} {r : op.Ret} (h : RecordsDrawn H st)
    (hexec : op.Exec H st r st') : RecordsDrawn H st' := by
  cases hexec.effect with
  | kept hquiet hdb hdraws => exact h.mono (by rw [hdb]) hdraws
  | logged hlogged => exact h.append hlogged.draws_lt hlogged.appended
  | verified hverified => exact h.append hverified.draws_lt hverified.appended
  | canaried hcanaried => exact h.append hcanaried.draws_lt hcanaried.appended

theorem Reachable.recordsDrawn (h : Reachable H st) : RecordsDrawn H st := by
  induction h with
  | empty => exact fun r hr => absurd hr List.not_mem_nil
  | op _ op faults ih => exact ih.exec ⟨faults, rfl⟩
  | @observation st _ d faults ih =>
    cases hcall : recordObservation H faults d st with
    | mk result st' =>
      cases result with
      | error e =>
        obtain ⟨hdb, hdraws⟩ := recordObservation_error hcall
        exact ih.mono (by rw [hdb]) hdraws
      | ok updated =>
        obtain ⟨-, hobserved⟩ := recordObservation_ok hcall
        exact ih.mono hobserved.audit_eq hobserved.draws_lt.le

/-- The last row in their order has the greatest number. -/
theorem seq_le_last {db : Db} {r last : AuditRow} (hr : r ∈ db.auditEvents.rows)
    (hlast : db.auditRows.getLast? = some last) : r.seq ≤ last.seq := by
  have hsorted : db.auditRows.Pairwise fun r r' => r.seq ≤ r'.seq := List.pairwise_insertionSort _ _
  have hmem : r ∈ db.auditRows := (List.mem_insertionSort _).2 hr
  obtain ⟨rows, hrows⟩ := List.getLast?_eq_some_iff.1 hlast
  rw [hrows] at hsorted hmem
  rcases List.mem_append.1 hmem with hmem | hmem
  · exact (List.pairwise_append.1 hsorted).2.2 r hmem last (List.mem_singleton_self _)
  · rw [List.mem_singleton.1 hmem]

/-- Whatever calls of its methods a store has been through, and whatever faults they met: the next
record fits its audit table, as long as digests tell records apart. -/
theorem Reachable.commits (h : Reachable H st) (hsha : Function.Injective H.sha256)
    (hquiet : ∀ s, faults s = false) : Commits H faults st := by
  refine ⟨hquiet, ?_⟩
  rintro eventType payload r hr (hseq | hid | hhash)
  · cases hlast : st.db.auditRows.getLast? with
    | none =>
      have hempty := List.getLast?_eq_none_iff.1 hlast
      have hmem : r ∈ st.db.auditRows := (List.mem_insertionSort _).2 hr
      rw [hempty] at hmem
      cases hmem
    | some last =>
      have hle := seq_le_last hr hlast
      rw [hlast] at hseq
      have hnext : r.seq = last.seq + 1 := hseq
      omega
  · obtain ⟨⟨k, hk, hdrawn⟩, -⟩ := h.recordsDrawn r hr
    have hsame : k = st.draws + 1 := H.uuid4_injective (hdrawn.symm.trans hid)
    omega
  · obtain ⟨⟨k, hk, hdrawn⟩, payload', hdigest⟩ := h.recordsDrawn r hr
    have hid := id_of_auditMaterial (hsha (hdigest.symm.trans hhash))
    have hsame : k = st.draws + 1 := H.uuid4_injective (hdrawn.symm.trans hid)
    omega

/-! Answers. -/

/-- What the request brings makes no probe raise, and can be dumped. -/
def ServiceRequest.Answerable (H : Host) : ServiceRequest → Prop
  | .verifyDelivery _ req => req.Answerable H
  | .probeObservation req => req.Answerable H
  | .trustSnapshot _ | .bestExecution _ => True

/-- The latency that goes on record: one of the clock's, or one that the model takes. -/
def ServiceRequest.Clocked : ServiceRequest → Prop
  | .verifyDelivery latencyMs _ => latencyMs < 2 ^ 63
  | .probeObservation req => req.latencyMs ≤ 300000
  | .trustSnapshot _ | .bestExecution _ => True

/-- An endpoint answers when what it does does. -/
theorem answers_iff {ε β : Type} {f : ε → EndpointError} {g : β → ServiceResponse}
    (p : Endpoint (Except ε β)) (result : Except ε β → Served)
    (hok : ∀ a, result (.ok a) = .ok (g a)) (herror : ∀ e, result (.error e) = .error (f e)) :
    (∃ response st', (p >>= fun a => pure (result a) : Endpoint Served).run H faults st =
      (.ok response, st')) ↔ ∃ response st', p.run H faults st = (.ok response, st') := by
  rw [Endpoint.run_bind]
  cases hp : p.run H faults st with
  | mk answer st' =>
    cases answer with
    | error e =>
      simp only [herror]
      constructor
      · rintro ⟨response, st'', h⟩
        cases h
      · rintro ⟨response, st'', h⟩
        cases h
    | ok a =>
      simp only [hok]
      exact iff_of_true ⟨_, _, rfl⟩ ⟨_, _, rfl⟩

theorem ServiceRequest.Answerable.answered {req : ServiceRequest} (h : req.Answerable H)
    (hclocked : req.Clocked) (hcommits : Commits H faults st) (htimed : Timed st.db) :
    ∃ response st', (serve H J req).run H faults st = (.ok response, st') := by
  cases req with
  | trustSnapshot req =>
    rw [serve, answers_iff (f := .store) (g := .snapshot) _ _ (fun _ => rfl) fun _ => rfl]
    exact trustSnapshot_commits hcommits req
  | bestExecution req =>
    rw [serve, answers_iff (f := .store) (g := .execution) _ _ (fun _ => rfl) fun _ => rfl]
    exact bestExecution_returns hcommits fun c _ => htimed.score_valid req.mode req.taskType c
  | verifyDelivery latencyMs req =>
    rw [serve, answers_iff (f := id) (g := .delivery) _ _ (fun _ => rfl) fun _ => rfl]
    obtain ⟨response, st', hrun, -⟩ := DeliveryVerificationRequest.Answerable.returns h hcommits J hclocked
    exact ⟨response, st', hrun⟩
  | probeObservation req =>
    rw [serve, answers_iff (f := id) (g := .probe) _ _ (fun _ => rfl) fun _ => rfl]
    obtain ⟨response, st', hrun, -⟩ := ProbeObservationRequest.Answerable.returns h hcommits J hclocked
    exact ⟨response, st', hrun⟩

theorem ServiceRequest.answerable_of_answered {req : ServiceRequest}
    (h : ∃ response st', (serve H J req).run H faults st = (.ok response, st')) :
    req.Answerable H := by
  cases req with
  | trustSnapshot req => trivial
  | bestExecution req => trivial
  | verifyDelivery latencyMs req =>
    rw [serve, answers_iff (f := id) (g := .delivery) _ _ (fun _ => rfl) fun _ => rfl] at h
    obtain ⟨response, st', hresponse⟩ := h
    exact verifyDelivery_answerable hresponse
  | probeObservation req =>
    rw [serve, answers_iff (f := id) (g := .probe) _ _ (fun _ => rfl) fun _ => rfl] at h
    obtain ⟨response, st', hresponse⟩ := h
    exact probeObservation_answerable hresponse

/-- In every state of every run, a request that meets no fault of the database is answered exactly
when it makes no probe raise and can be dumped: no earlier request, crash or fault can keep it from
its answer. -/
theorem service_available {history : List (Event ServiceRequest StoreOp.Ret Served)}
    {c : Config ServiceRequest StoreOp.Ret Served Store} (hsha : Function.Injective H.sha256)
    (hrun : Serving H J history c) (req : ServiceRequest) (hclocked : req.Clocked)
    (hquiet : ∀ s, faults s = false) :
    (∃ response st', (serve H J req).run H faults c.store = (.ok response, st')) ↔
      req.Answerable H := by
  have hcommits := (reachable_of_serving hrun).commits hsha hquiet
  exact ⟨ServiceRequest.answerable_of_answered,
    fun h => h.answered hclocked hcommits (timed_of_serving hrun)⟩

/-- A request served on its own. -/
theorem exists_served {history : List (Event ServiceRequest StoreOp.Ret Served)} {req : ServiceRequest}
    {response : ServiceResponse} (hrun : Serving H J history ⟨st, fun _ => none⟩)
    (hserved : (serve H J req).run H faults st = (.ok response, st')) :
    ∃ events, Serving H J (history ++ events) ⟨st', fun _ => none⟩ ∧
      .returned req (.ok response) ∈ events := by
  obtain ⟨n, calls, hcalls⟩ := Prog.exists_advance (fun op st => StoreOp.exec H faults st op)
    (serve H J req) st
  have heval : (serve H J req).eval (fun op st => StoreOp.exec H faults st op) st =
      (.ok response, st') := hserved
  rw [heval] at hcalls
  have hlonger := Run.serve_alone (fun op st => ⟨faults, rfl⟩) hrun hcalls
  rw [List.append_assoc] at hlonger
  exact ⟨_, hlonger, by simp⟩

/-- A passing delivery is verified on an empty store. -/
theorem exists_acknowledged : ∃ history st response,
    Serving AnyPayload.injectiveHost .sample history ⟨st, fun _ => none⟩ ∧
      (serve AnyPayload.injectiveHost .sample (.verifyDelivery 0 acknowledged)).run
        AnyPayload.injectiveHost (fun _ => false) .empty = (.ok response, st) ∧
      .returned (.verifyDelivery 0 acknowledged) (.ok response) ∈ history := by
  have hanswerable : (ServiceRequest.verifyDelivery 0 acknowledged).Answerable
      AnyPayload.injectiveHost := answerable_acknowledged _
  have hclocked : (ServiceRequest.verifyDelivery 0 acknowledged).Clocked := by
    unfold ServiceRequest.Clocked
    decide
  obtain ⟨response, st, hserved⟩ := hanswerable.answered (J := .sample) hclocked
    (commits_empty AnyPayload.injectiveHost) ⟨nofun, nofun⟩
  obtain ⟨events, hrun, hreturned⟩ := exists_served .init hserved
  exact ⟨_, st, response, hrun, hserved, List.mem_append_right _ hreturned⟩

/-- A purchase is routed after a delivery was audited. -/
theorem service_available_second : ∃ history c response response' st',
    Serving AnyPayload.injectiveHost .sample history c ∧
      .returned (.verifyDelivery 0 acknowledged) (.ok response) ∈ history ∧
      (serve AnyPayload.injectiveHost .sample (.bestExecution onlyNewcomer)).run
        AnyPayload.injectiveHost (fun _ => false) c.store = (.ok response', st') := by
  obtain ⟨history, st, response, hrun, -, hreturned⟩ := exists_acknowledged
  obtain ⟨response', st', hserved⟩ := (service_available AnyPayload.injective_sha256 hrun
    (.bestExecution onlyNewcomer) trivial (fun _ => rfl)).2 trivial
  exact ⟨history, _, response, response', st', hrun, hreturned, hserved⟩

end Counterparty
