import Counterparty.Library.HashChain
import Counterparty.StorageSpec

/-! The audit rows as a hash chain: what every append keeps, and what the readers find. -/
namespace Counterparty

open Json

variable {H : Host} {db db' : Db}

/-- Values whose strings hold no surrogates and whose objects repeat no key. -/
abbrev Plain (j : PyJson) : Prop := j.Readable Scalar fun _ => True

/-- An audit row as an entry of a chain; a payload that cannot be parsed has no digest. -/
def auditView (H : Host) : ChainView AuditRow (Option String) where
  seq := AuditRow.seq
  previous r := some r.previousHash
  hash r := some r.hash
  digest r := (loads r.payloadJson).map fun payload =>
    H.sha256 (auditMaterial r.id r.seq r.tsNs r.eventType payload r.previousHash)

/-- The rows, in the order they were inserted, link up from the zero hash. -/
def Chained (H : Host) (db : Db) : Prop :=
  (auditView H).Linked 1 (some zeroHash) db.auditEvents.rows

theorem Chained.auditRows (h : Chained H db) : db.auditRows = db.auditEvents.rows :=
  List.Pairwise.insertionSort_eq (ChainView.Linked.pairwise_seq h)

theorem verifyRows_of_linked {previous : String} {n : ℤ} {rows : List AuditRow}
    (h : (auditView H).Linked n (some previous) rows) : verifyRows H previous n rows = .ok true := by
  induction rows generalizing previous n with
  | nil => rfl
  | cons row rows ih =>
    obtain ⟨hseq, hprevious, hdigest, hrest⟩ := h
    obtain ⟨payload, hloads, hhash⟩ := Option.map_eq_some_iff.1 hdigest
    rw [verifyRows, if_neg (by rintro (h | h); exacts [h hseq, h (Option.some.inj hprevious)]), hloads]
    simp only [hhash, ne_eq, not_true_eq_false, if_false]
    exact ih hrest

theorem linked_of_verifyRows {previous : String} {n : ℤ} {rows : List AuditRow}
    (h : verifyRows H previous n rows = .ok true) :
    (auditView H).Linked n (some previous) rows := by
  induction rows generalizing previous n with
  | nil => trivial
  | cons row rows ih =>
    rw [verifyRows] at h
    split_ifs at h with hlink
    · cases h
    · simp only [ne_eq, not_or, not_not] at hlink
      cases hloads : loads row.payloadJson with
      | none => simp [hloads] at h
      | some payload =>
        simp only [hloads] at h
        split_ifs at h with hhash
        · cases h
        · refine ⟨hlink.1, congrArg some hlink.2, ?_, ih h⟩
          simpa [auditView, hloads] using hhash

theorem verifyRows_iff {previous : String} {n : ℤ} {rows : List AuditRow} :
    verifyRows H previous n rows = .ok true ↔ (auditView H).Linked n (some previous) rows :=
  ⟨linked_of_verifyRows, verifyRows_of_linked⟩

theorem Chained.verifyAudit (h : Chained H db) : verifyAudit H db = .ok true := by
  rw [Counterparty.verifyAudit, h.auditRows]
  exact verifyRows_of_linked h

theorem Chained.seq_eq (h : Chained H db) :
    db.auditRows.map AuditRow.seq =
      (List.range db.auditEvents.rows.length).map fun i : ℕ => 1 + (i : ℤ) := by
  rw [h.auditRows]
  exact ChainView.Linked.seq_eq h

/-- The number of the last row. -/
theorem last_seq_of_linked {previous : Option String} {rows : List AuditRow}
    (h : (auditView H).Linked 1 previous rows) :
    (rows.getLast?.map AuditRow.seq).getD 0 = rows.length := by
  rcases List.eq_nil_or_concat rows with rfl | ⟨rows, row, rfl⟩
  · rfl
  · rw [List.concat_eq_append] at *
    have hseq := (ChainView.linked_append.1 h).2.1
    simp only [List.getLast?_append, List.getLast?_singleton, Option.some_or, List.length_append,
      List.length_singleton]
    change row.seq = 1 + (rows.length : ℤ) at hseq
    simp only [Option.map_some, Option.getD_some, hseq]
    push_cast
    ring

theorem Chained.last_seq (h : Chained H db) :
    (db.auditRows.getLast?.map AuditRow.seq).getD 0 = db.auditEvents.rows.length := by
  rw [h.auditRows]
  exact last_seq_of_linked h

theorem Chained.auditHead (h : Chained H db) :
    auditHead db = ⟨db.auditEvents.rows.length,
      (db.auditEvents.rows.getLast?.map AuditRow.hash).getD zeroHash⟩ := by
  have hlast := h.last_seq
  rw [Counterparty.auditHead]
  rw [h.auditRows] at hlast ⊢
  cases hl : db.auditEvents.rows.getLast? with
  | none =>
    rw [hl] at hlast
    simp [← hlast]
  | some row =>
    rw [hl] at hlast
    simp [← hlast]

/-! Appending. -/

/-- The digest is over sorted keys, so it does not see the payload's own order. -/
theorem auditMaterial_sortKeys (id : String) (seq tsNs : ℤ) (eventType : String) (payload : PyJson)
    (previousHash : String) :
    auditMaterial id seq tsNs eventType payload.sortKeys previousHash =
      auditMaterial id seq tsNs eventType payload previousHash := by
  simp only [auditMaterial, dumps, sortKeys_obj, ← sortFields_map, dict, List.map_cons, List.map_nil,
    sortKeys_sortKeys]

theorem Chained.append {n : ℕ} {eventType : String} {payload : PyDict} {event : AuditEvent}
    (h : Chained H db) (ha : Appended H n eventType payload db db' event)
    (hpayload : Plain (.obj payload)) : Chained H db' := by
  have hlast := h.last_seq
  unfold Chained
  rw [ha.rows_eq, ChainView.linked_append]
  obtain ⟨rfl, -⟩ := ha
  rw [h.auditRows] at hlast ⊢
  refine ⟨h, ?_, ?_, ?_⟩
  · cases hl : db.auditEvents.rows.getLast? with
    | none =>
      rw [hl] at hlast
      simp [auditView, AuditEvent.row, nextEvent, ← hlast]
    | some row =>
      rw [hl] at hlast
      simp [auditView, AuditEvent.row, nextEvent, ← hlast, add_comm]
  · cases hl : db.auditEvents.rows.getLast? with
    | none => simp [auditView, AuditEvent.row, nextEvent, ChainView.tip, hl]
    | some row => simp [auditView, AuditEvent.row, nextEvent, ChainView.tip, hl]
  · simp only [auditView, AuditEvent.row, nextEvent, loads_dumps false hpayload, Option.map_some,
      auditMaterial_sortKeys]

/-! Receipts. -/

/-- The event was written, and its payload can be read back. -/
structure OnRecord (db : Db) (eventType : String) (payload : PyDict) (event : AuditEvent) : Prop where
  eventType_eq : event.eventType = eventType
  payload_eq : event.payload = .obj payload
  plain : Plain (.obj payload)
  row_mem : event.row ∈ db.auditEvents.rows

theorem Appended.onRecord {n : ℕ} {eventType : String} {payload : PyDict} {event : AuditEvent}
    (h : Appended H n eventType payload db db' event) (hpayload : Plain (.obj payload)) :
    OnRecord db' eventType payload event := by
  refine ⟨?_, ?_, hpayload, ?_⟩
  · rw [h.event_eq]
    rfl
  · rw [h.event_eq]
    rfl
  · rw [h.rows_eq]
    simp

/-- A receipt resolves to its event, with the keys of the payload sorted. -/
theorem OnRecord.getAuditEvent {eventType : String} {payload : PyDict} {event : AuditEvent}
    (h : OnRecord db eventType payload event) :
    getAuditEvent db event.hash = .ok (some { event with payload := event.payload.sortKeys }) := by
  have hfind : db.auditEvents.rows.find? (fun r => r.hash = event.hash) = some event.row := by
    cases hf : db.auditEvents.rows.find? (fun r => r.hash = event.hash) with
    | none => simpa [AuditEvent.row] using List.find?_eq_none.1 hf event.row h.row_mem
    | some r =>
      have hhash : r.hash = event.hash := by simpa using List.find?_some hf
      have hsame : r = event.row := Table.eq_of_clash (fun h => h.imp Eq.symm (Or.imp Eq.symm Eq.symm))
        (List.mem_of_find?_eq_some hf) h.row_mem (.inr (.inr hhash))
      rw [hsame]
  rw [Counterparty.getAuditEvent, hfind]
  simp only [AuditEvent.row, h.payload_eq, loads_dumps false h.plain]

end Counterparty
