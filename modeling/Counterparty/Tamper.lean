import Counterparty.AuditChain

/-! Two audit tables that both verify under one head hold the same events. -/
namespace Counterparty

open Json

variable {H : Host} {db db' : Db}

/-- What `json.loads` and `json.dumps` raise at values that are JSON: at integers of more digits, and at
nestings deeper, than the interpreter takes. The order of keys has no part in it. -/
structure Limits where
  refuses : PyJson → Option StoreError
  refuses_sortKeys : ∀ j, refuses j.sortKeys = refuses j

def Limits.none : Limits := ⟨fun _ => .none, fun _ => rfl⟩

/-- `verify_audit` under limits, which an edited payload can exceed. -/
def Limits.verifyRows (L : Limits) (H : Host) (previous : String) (expectedSeq : ℤ) :
    List AuditRow → Except StoreError Bool
  | [] => .ok true
  | row :: rows =>
    if row.seq ≠ expectedSeq ∨ row.previousHash ≠ previous then .ok false
    else
      match loads row.payloadJson with
      | .none => .error .jsonDecodeError
      | some payload =>
        match L.refuses payload with
        | some e => .error e
        | .none =>
          if H.sha256 (auditMaterial row.id row.seq row.tsNs row.eventType payload row.previousHash) ≠
              row.hash then .ok false
          else L.verifyRows H row.hash (expectedSeq + 1) rows

def Limits.verifyAudit (L : Limits) (H : Host) (db : Db) : Except StoreError Bool :=
  L.verifyRows H zeroHash 1 db.auditRows

/-- The text that is hashed for a row, when its payload parses. -/
def AuditRow.material (r : AuditRow) : Option Text :=
  (loads r.payloadJson).map fun payload =>
    auditMaterial r.id r.seq r.tsNs r.eventType payload r.previousHash

theorem mem_auditRows {r : AuditRow} : r ∈ db.auditRows ↔ r ∈ db.auditEvents.rows :=
  (List.perm_insertionSort _ _).mem_iff

/-! The serialization of a record. -/

/-- What `auditMaterial` writes. -/
def auditRecord (id : String) (seq tsNs : ℤ) (eventType : String) (payload : PyJson)
    (previousHash : String) : PyDict :=
  dict [("id", pyText id), ("seq", pyInt seq), ("ts_ns", pyInt tsNs),
    ("event_type", pyText eventType), ("payload", payload), ("previous_hash", pyText previousHash)]

section Record

variable {id id' eventType eventType' previousHash previousHash' : String} {seq seq' tsNs tsNs' : ℤ}
  {payload payload' : PyJson}

theorem nodup_auditRecord :
    ((auditRecord id seq tsNs eventType payload previousHash).map Prod.fst).Nodup :=
  nodup_dict (by simp)

end Record

/-! Two tables. -/

section Limits

variable {L : Limits} {previous : String} {n : ℤ} {rows rows' : List AuditRow}

theorem Limits.verifyAudit_none (H : Host) (db : Db) :
    Limits.none.verifyAudit H db = Counterparty.verifyAudit H db := by
  have hrows (previous : String) (n : ℤ) (rows : List AuditRow) :
      Limits.none.verifyRows H previous n rows = Counterparty.verifyRows H previous n rows := by
    induction rows generalizing previous n with
    | nil => rfl
    | cons row rows ih =>
      rw [Limits.verifyRows, Counterparty.verifyRows]
      split_ifs
      · rfl
      · cases loads row.payloadJson with
        | none => rfl
        | some payload =>
          have hrefuses : Limits.none.refuses payload = .none := rfl
          simp only [hrefuses, ih]
  exact hrows zeroHash 1 db.auditRows

end Limits

end Counterparty
