import Counterparty.Library.Ranking
import Counterparty.PyObject
import Counterparty.Tamper

/-! `append_audit` on any `dict` that `json.dumps` takes, and whether the chain verifies after it. -/
namespace Counterparty.AnyPayload

open Json

/-- A `payload: dict[str, Any]`, as it may be at run time. -/
abbrev Payload := List (PyKey × PyObject)

/-- The record of an event, without its hash. -/
structure Record where
  id : String
  seq : ℤ
  tsNs : ℤ
  eventType : String
  payload : Payload
  previousHash : String

def Record.object (r : Record) : PyObject :=
  .dict [(.str (PyStr.ofString "id"), .str (PyStr.ofString r.id)),
    (.str (PyStr.ofString "seq"), .num (.int r.seq)),
    (.str (PyStr.ofString "ts_ns"), .num (.int r.tsNs)),
    (.str (PyStr.ofString "event_type"), .str (PyStr.ofString r.eventType)),
    (.str (PyStr.ofString "payload"), .dict r.payload),
    (.str (PyStr.ofString "previous_hash"), .str (PyStr.ofString r.previousHash))]

def Record.row (r : Record) (payloadJson : Text) (hash : String) : AuditRow :=
  ⟨r.seq, r.id, r.tsNs, r.eventType, payloadJson, r.previousHash, hash⟩

/-- The record that continues the chain after its last row. -/
def nextRecord (H : Host) (n : ℕ) (eventType : String) (payload : Payload) (row : Option AuditRow) :
    Record :=
  let seq := match row with | some r => r.seq + 1 | none => 1
  let previousHash := match row with | some r => r.hash | none => zeroHash
  ⟨H.uuid4 n, seq, H.timeNs n, eventType, payload, previousHash⟩

/-- Returns the record with its hash. -/
def appendAuditTx (K : KeySort) (H : Host) (faults : Faults) (n : ℕ) (eventType : String)
    (payload : Payload) : Tx (Record × String) := fun db =>
  if faults .selectHead then .error .operationalError
  else
    let record := nextRecord H n eventType payload db.auditRows.getLast?
    match record.object.dumps K true, (PyObject.dict payload).dumps K false with
    | some material, some payloadJson =>
      let hash := H.sha256 material
      if faults .insertAudit then .error .operationalError
      else
        match db.auditEvents.insert (record.row payloadJson hash) with
        | none => .error .integrityError
        | some t => .ok ((record, hash), { db with auditEvents := t })
    | _, _ => .error .typeError

def appendAudit (K : KeySort) (H : Host) (faults : Faults) (eventType : String) (payload : Payload)
    (st : Store) : Except StoreError (Record × String) × Store :=
  transaction faults (fun n => appendAuditTx K H faults (n + 1) eventType payload) st

/-! The text of a record. -/

section Text

variable {K : KeySort} {id eventType previousHash : String} {seq tsNs : ℤ}

/-- The text that is hashed when a record is appended. -/
def Record.material (K : KeySort) (r : Record) : Text := render (pyStyle true) (r.object.json K)

/-- The text that is hashed when the row of a record is verified. -/
def Record.reread (K : KeySort) (r : Record) : Text :=
  auditMaterial r.id r.seq r.tsNs r.eventType (readBack ((PyObject.dict r.payload).json K))
    r.previousHash

theorem json_object (r : Record) : r.object.json K = .obj (sortFields (auditRecord r.id r.seq r.tsNs
    r.eventType ((PyObject.dict r.payload).json K) r.previousHash)) := by
  rw [Record.object, PyObject.json, ← K.sort_str nodup_auditRecord]
  simp only [PyObject.jsonEntries, PyObject.json, auditRecord, dict, pyText, pyInt, List.map_cons,
    List.map_nil]

theorem serializable_object (r : Record) :
    r.object.serializable ↔ (PyObject.dict r.payload).serializable := by
  rw [Record.object, PyObject.serializable_dict]
  simp [PyKey.sortable, PyKey.isStr, PyObject.serializable]

theorem sortFields_auditRecord (payload : PyJson) :
    sortFields (auditRecord id seq tsNs eventType payload previousHash) =
      dict [("event_type", pyText eventType), ("id", pyText id)] ++
        (PyStr.ofString "payload", payload) ::
          dict [("previous_hash", pyText previousHash), ("seq", pyInt seq), ("ts_ns", pyInt tsNs)] := by
  change _ = dict [("event_type", pyText eventType), ("id", pyText id), ("payload", payload),
    ("previous_hash", pyText previousHash), ("seq", pyInt seq), ("ts_ns", pyInt tsNs)]
  set sorted := dict [("event_type", pyText eventType), ("id", pyText id), ("payload", payload),
    ("previous_hash", pyText previousHash), ("seq", pyInt seq), ("ts_ns", pyInt tsNs)] with hsorted
  have hkeys : (sorted.map Prod.fst).Pairwise (· < ·) := by
    rw [hsorted, keys_dict]
    simp only [List.map_cons, List.map_nil]
    decide
  rw [← sortFields_eq_self hkeys]
  refine sortFields_eq_of_mem_iff nodup_auditRecord (hkeys.imp ne_of_lt) fun f => ?_
  simp only [hsorted, auditRecord, dict, List.map_cons, List.map_nil, List.mem_cons,
    List.not_mem_nil, or_false]
  grind

/-- The text of a record holds that of its payload, between texts that do not depend on it. -/
theorem exists_render_payload (id : String) (seq tsNs : ℤ) (eventType previousHash : String) :
    ∃ before after, ∀ payload, render (pyStyle true)
      (.obj (sortFields (auditRecord id seq tsNs eventType payload previousHash))) =
        before ++ (render (pyStyle true) payload ++ after) := by
  simp only [sortFields_auditRecord]
  exact exists_render_field _ _ _ _

/-- Two records that differ in nothing but the payload have one text where the payloads do. -/
theorem auditMaterial_eq_iff {payload payload' : PyJson} :
    auditMaterial id seq tsNs eventType payload previousHash = render (pyStyle true)
        (.obj (sortFields (auditRecord id seq tsNs eventType payload' previousHash))) ↔
      dumps true payload = render (pyStyle true) payload' := by
  have hsorted : auditMaterial id seq tsNs eventType payload previousHash = render (pyStyle true)
      (.obj (sortFields (auditRecord id seq tsNs eventType payload.sortKeys previousHash))) := by
    rw [auditMaterial, dumps, sortKeys_obj, ← sortFields_map]
    rfl
  obtain ⟨before, after, h⟩ := exists_render_payload id seq tsNs eventType previousHash
  rw [hsorted, h, h, List.append_cancel_left_eq, List.append_cancel_right_eq, dumps]

theorem reread_eq_iff (r : Record) :
    r.reread K = r.material K ↔ (PyObject.dict r.payload).Stable K := by
  rw [Record.reread, Record.material, json_object, auditMaterial_eq_iff,
    PyObject.dumps_readBack_iff]

end Text

/-! Payloads of JSON values are the case that `Counterparty.appendAudit` is about. -/

section Json

variable {K : KeySort} {payload : PyDict}

theorem dumps_ofJson (compact : Bool) {j : PyJson} (h : j.DistinctKeys) :
    (PyObject.ofJson j).dumps K compact = some (dumps compact j) := by
  rw [PyObject.dumps, if_pos (PyObject.serializable_ofJson j), PyObject.json_ofJson h]
  rfl

theorem material_ofFields {r : Record} (hr : r.payload = PyObject.ofFields payload)
    (h : (Json.obj payload).DistinctKeys) : r.object.dumps K true =
      some (auditMaterial r.id r.seq r.tsNs r.eventType (.obj payload) r.previousHash) := by
  have hpayload : PyObject.dict r.payload = PyObject.ofJson (.obj payload) := by
    rw [hr, PyObject.ofJson]
  rw [PyObject.dumps, if_pos, json_object, hpayload, PyObject.json_ofJson h]
  · exact congrArg some (auditMaterial_eq_iff.2 rfl).symm
  · rw [serializable_object, hpayload]
    exact PyObject.serializable_ofJson _

/-- The record and the hash of an event whose payload is JSON. -/
def ofEvent (payload : PyDict) (e : AuditEvent) : Record × String :=
  (⟨e.id, e.seq, e.tsNs, e.eventType, PyObject.ofFields payload, e.previousHash⟩, e.hash)

/-- On JSON it is the `append_audit` of the rest of the development. -/
theorem appendAudit_ofFields (K : KeySort) (H : Host) (faults : Faults) (eventType : String)
    {payload : PyDict} (h : (Json.obj payload).DistinctKeys) (st : Store) :
    appendAudit K H faults eventType (PyObject.ofFields payload) st =
      ((Counterparty.appendAudit H faults eventType payload st).1.map (ofEvent payload),
        (Counterparty.appendAudit H faults eventType payload st).2) := by
  rw [Counterparty.appendAudit, ← transaction_map, appendAudit]
  congr 1
  funext n db
  have hmaterial := material_ofFields (K := K)
    (r := nextRecord H (n + 1) eventType (PyObject.ofFields payload) db.auditRows.getLast?) rfl h
  have hpayload := dumps_ofJson (K := K) false h
  rw [PyObject.ofJson] at hpayload
  simp only [appendAuditTx, Counterparty.appendAuditTx, hmaterial, hpayload]
  split_ifs
  · rfl
  · rfl
  · change (match db.auditEvents.insert
        (nextEvent H (n + 1) eventType payload db.auditRows.getLast?).row with
      | none => (.error .integrityError : Except StoreError ((Record × String) × Db))
      | some t => .ok (ofEvent payload (nextEvent H (n + 1) eventType payload
          db.auditRows.getLast?), { db with auditEvents := t })) = _
    cases db.auditEvents.insert (nextEvent H (n + 1) eventType payload db.auditRows.getLast?).row <;>
      rfl

end Json

/-! One append. -/

variable {K : KeySort} {H : Host} {faults : Faults} {db db' : Db} {st st' : Store} {n : ℕ}
  {eventType hash : String} {payload : Payload} {record : Record}

/-- What one committed append did to the database it started from. -/
structure Stored (K : KeySort) (H : Host) (n : ℕ) (eventType : String) (payload : Payload)
    (db db' : Db) (record : Record) (hash : String) : Prop where
  record_eq : record = nextRecord H n eventType payload db.auditRows.getLast?
  hash_eq : hash = H.sha256 (record.material K)
  rows_eq : db'.auditEvents.rows = db.auditEvents.rows ++
    [record.row (render (pyStyle false) ((PyObject.dict payload).json K)) hash]

theorem dumps_eq_some {compact : Bool} {o : PyObject} {t : Text} (h : o.dumps K compact = some t) :
    t = render (pyStyle compact) (o.json K) := by
  rw [PyObject.dumps] at h
  split_ifs at h
  exact (Option.some.inj h).symm

theorem appendAuditTx_eq_ok {t : Table AuditRow.Clash} (hselect : faults .selectHead = false)
    (hinsert : faults .insertAudit = false) (hpayload : (PyObject.dict payload).serializable)
    (hrecord : record = nextRecord H n eventType payload db.auditRows.getLast?)
    (ht : db.auditEvents.insert (record.row (render (pyStyle false) ((PyObject.dict payload).json K))
      (H.sha256 (record.material K))) = some t) :
    appendAuditTx K H faults n eventType payload db =
      .ok ((record, H.sha256 (record.material K)), { db with auditEvents := t }) := by
  have hobject : record.object.dumps K true = some (record.material K) := by
    refine if_pos ((serializable_object record).2 ?_)
    rw [hrecord]
    exact hpayload
  have hdict : (PyObject.dict payload).dumps K false = some _ := if_pos hpayload
  unfold appendAuditTx
  simp only [hselect, hinsert, ← hrecord, hobject, hdict, ht, Bool.false_eq_true, if_false]

/-- Nothing keeps a payload that can be written from being the first one stored. -/
theorem exists_appendAudit_empty (K : KeySort) (H : Host) (eventType : String) (payload : Payload)
    (h : (PyObject.dict payload).serializable) : ∃ record hash st',
      appendAudit K H (fun _ => false) eventType payload .empty = (.ok (record, hash), st') := by
  set record := nextRecord H 1 eventType payload none with hrecord
  obtain ⟨t, ht⟩ := Table.exists_insert (t := (Table.empty : Table AuditRow.Clash))
    (r := record.row (render (pyStyle false) ((PyObject.dict payload).json K))
      (H.sha256 (record.material K))) (List.forall_mem_nil _)
  exact ⟨record, H.sha256 (record.material K), ⟨{ Store.empty.db with auditEvents := t }, 2⟩,
    transaction_eq_ok rfl rfl (appendAuditTx_eq_ok rfl rfl h hrecord ht)⟩

theorem appendAuditTx_stored
    (h : appendAuditTx K H faults n eventType payload db = .ok ((record, hash), db')) :
    Stored K H n eventType payload db db' record hash := by
  unfold appendAuditTx at h
  dsimp only at h
  split_ifs at h
  · split at h <;> cases h
  · split at h
    · rename_i material payloadJson hmaterial hpayload
      split at h
      · cases h
      · rename_i t ht
        cases h
        obtain rfl := dumps_eq_some hmaterial
        obtain rfl := dumps_eq_some hpayload
        exact ⟨rfl, rfl, (Table.insert_eq_some ht).1⟩
    · cases h

theorem Stored.payload_eq (h : Stored K H n eventType payload db db' record hash) :
    record.payload = payload := by
  rw [h.record_eq]
  rfl

/-- Onto rows that link up from the zero hash. -/
theorem Stored.seq_eq (h : Stored K H n eventType payload db db' record hash)
    (hdb : (auditView H).Linked 1 (some zeroHash) db.auditRows) :
    record.seq = 1 + db.auditRows.length := by
  have hlast := last_seq_of_linked hdb
  rw [h.record_eq]
  unfold nextRecord
  cases hl : db.auditRows.getLast? with
  | none =>
    rw [hl] at hlast
    simp [← hlast]
  | some row =>
    rw [hl] at hlast
    simp [← hlast, add_comm]

theorem Stored.previousHash_eq (h : Stored K H n eventType payload db db' record hash) :
    some record.previousHash = (auditView H).tip (some zeroHash) db.auditRows := by
  rw [h.record_eq, ChainView.tip]
  unfold nextRecord
  cases db.auditRows.getLast? <;> rfl

/-- The new row is the last one that is read. -/
theorem Stored.auditRows (h : Stored K H n eventType payload db db' record hash)
    (hdb : (auditView H).Linked 1 (some zeroHash) db.auditRows) :
    db'.auditRows = db.auditRows ++
      [record.row (render (pyStyle false) ((PyObject.dict payload).json K)) hash] := by
  rw [Db.auditRows, h.rows_eq]
  refine Ranking.insertionSort_concat fun r hr => ?_
  have hmem : r.seq ∈ db.auditRows.map (auditView H).seq :=
    List.mem_map_of_mem (mem_auditRows.2 hr)
  rw [hdb.seq_eq] at hmem
  obtain ⟨i, hi, hseq⟩ := List.mem_map.1 hmem
  have hlt := List.mem_range.1 hi
  have hnew := h.seq_eq hdb
  simp only [Record.row]
  omega

/-- A table that verifies still does after an append where the text that is hashed again has the
hash of the first one. -/
theorem Stored.verifyAudit_iff (h : Stored K H n eventType payload db db' record hash)
    (hdb : verifyAudit H db = .ok true) : verifyAudit H db' = .ok true ↔
      H.sha256 (record.reread K) = H.sha256 (record.material K) := by
  have hlinked := verifyRows_iff.1 hdb
  have hdigest : (auditView H).digest (record.row (render (pyStyle false)
      ((PyObject.dict payload).json K)) hash) = some (H.sha256 (record.reread K)) := by
    simp only [auditView, Record.row, loads_render, Option.map_some, Record.reread, h.payload_eq]
  rw [verifyAudit, verifyRows_iff, h.auditRows hlinked, ChainView.linked_append, hdigest, ← h.hash_eq]
  constructor
  · rintro ⟨-, -, -, hhash⟩
    exact Option.some.inj hhash
  · intro hhash
    exact ⟨hlinked, h.seq_eq hlinked, h.previousHash_eq, congrArg some hhash⟩

theorem Stored.reread_eq_iff (h : Stored K H n eventType payload db db' record hash) :
    record.reread K = record.material K ↔ (PyObject.dict payload).Stable K := by
  rw [AnyPayload.reread_eq_iff, h.payload_eq]

/-- JSON without surrogates to join never breaks the chain. -/
theorem verifyAudit_appendAudit {payload : PyDict} {event : AuditEvent}
    (hpayload : (Json.obj payload).Readable Joined fun _ => True)
    (hvalid : verifyAudit H st.db = .ok true)
    (hstored : Counterparty.appendAudit H faults eventType payload st = (.ok event, st')) :
    verifyAudit H st'.db = .ok true := by
  have hdistinct : (Json.obj payload).DistinctKeys :=
    hpayload.imp (fun _ _ => trivial) fun _ _ => trivial
  have happend := appendAudit_ofFields .byRank H faults eventType hdistinct st
  rw [hstored] at happend
  have h := appendAuditTx_stored (transaction_ok happend).1
  rw [h.verifyAudit_iff hvalid, h.reread_eq_iff.2 (PyObject.stable_ofJson hpayload)]

/-- A host whose digests tell all texts apart. -/
def injectiveHost : Host where
  __ := Host.sample ""
  sha256 t := String.ofList (List.replicate (Encodable.encode t) 'h')

theorem injective_sha256 : Function.Injective injectiveHost.sha256 := by
  intro t t' h
  have hlength : Encodable.encode t = Encodable.encode t' := by
    simpa [injectiveHost] using congrArg String.length h
  exact Encodable.encode_injective hlength

/-- Attempts under their numbers. -/
def attempts (i j : ℤ) : Payload :=
  [(.str (PyStr.ofString "attempts"), .dict [(.num (.int i), .null), (.num (.int j), .null)])]

theorem stable_attempts : (PyObject.dict (attempts 1 2)).Stable .byRank := by
  refine .dict (by decide +kernel) (List.forall_mem_singleton.2 (.dict (by decide +kernel) ?_))
  simp only [List.forall_mem_cons]
  exact ⟨.null, .null, List.forall_mem_nil _⟩

/-- Nine comes before ten, but `"10"` before `"9"`. -/
theorem not_stable_attempts : ¬(PyObject.dict (attempts 9 10)).Stable .byRank := by
  intro h
  cases h with
  | dict _ hvalues =>
    cases List.forall_mem_singleton.1 hvalues with
    | dict hkeys _ =>
      revert hkeys
      decide +kernel

/-- What `append_audit` stores, `verify_audit` accepts exactly where in every `dict` of the payload
the texts of the keys ascend strictly as they are written. -/
theorem appended_verifies_iff (hvalid : verifyAudit H st.db = .ok true)
    (hstored : appendAudit K H faults eventType payload st = (.ok (record, hash), st'))
    (hinj : Set.InjOn H.sha256 {record.reread K, record.material K}) :
    verifyAudit H st'.db = .ok true ↔ (PyObject.dict payload).Stable K := by
  have h := appendAuditTx_stored (transaction_ok hstored).1
  rw [h.verifyAudit_iff hvalid, hinj.eq_iff (.inl rfl) (.inr rfl), h.reread_eq_iff]

theorem appended_verifies_attempts : ∃ record hash st',
    appendAudit .byRank injectiveHost (fun _ => false) "quote" (attempts 1 2) .empty =
      (.ok (record, hash), st') ∧ verifyAudit injectiveHost st'.db = .ok true := by
  obtain ⟨record, hash, st', h⟩ := exists_appendAudit_empty .byRank injectiveHost "quote"
    (attempts 1 2) (by decide +kernel)
  exact ⟨record, hash, st', h,
    (appended_verifies_iff rfl h injective_sha256.injOn).2 stable_attempts⟩

/-- The chain is broken by the append itself, of attempts under nine and ten. -/
theorem attempts_break_chain : verifyAudit injectiveHost Store.empty.db = .ok true ∧
    ∃ record hash st', appendAudit .byRank injectiveHost (fun _ => false) "quote" (attempts 9 10)
      .empty = (.ok (record, hash), st') ∧ verifyAudit injectiveHost st'.db ≠ .ok true := by
  obtain ⟨record, hash, st', h⟩ := exists_appendAudit_empty .byRank injectiveHost "quote"
    (attempts 9 10) (by decide +kernel)
  have hstored := appendAuditTx_stored (transaction_ok h).1
  refine ⟨rfl, record, hash, st', h, fun hverified => not_stable_attempts ?_⟩
  exact hstored.reread_eq_iff.1 (injective_sha256 ((hstored.verifyAudit_iff rfl).1 hverified))

end Counterparty.AnyPayload
