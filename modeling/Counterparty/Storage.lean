import Counterparty.Library.HashChain
import Counterparty.Library.Table
import Counterparty.Library.Transaction
import Counterparty.PyJson
import Counterparty.Reputation

/-! The durable evidence and audit store: three SQLite tables under serialized transactions. -/
namespace Counterparty

open Json

/-- What the process takes from its surroundings: ids that never repeat, the clock, SHA-256, the
floats its arithmetic arrives at for exact values, and the values that pydantic's
`model_dump(mode="json")` takes: it refuses those that are nested too deep or have a key that is no
text. -/
structure Host where
  uuid4 : ℕ → String
  uuid4_injective : Function.Injective uuid4
  timeNs : ℕ → ℤ
  sha256 : Text → String
  float : ℚ → PyFloat
  dumps : PyJson → Bool
  dumps_shallow : ∀ j, j.within (fun s => decide (Scalar s)) 3 → dumps j

/-- A host for runs on fixed inputs that write at most one audit record. -/
def Host.sample (digest : String) : Host where
  uuid4 n := String.ofList (List.replicate n 'u')
  uuid4_injective m n h := by simpa using congrArg String.length h
  timeNs n := n
  sha256 _ := digest
  float q := FloatFormat.binary64.ofRat q
  dumps := within (fun s => decide (Scalar s)) 255
  dumps_shallow _ := within_mono (by decide)

inductive StoreError
  | valueError
  | integrityError
  | operationalError
  | jsonDecodeError
  | typeError
  | overflowError
  | recursionError
deriving DecidableEq

/-- A `dict` with string keys. -/
abbrev PyDict := List (PyStr × PyJson)

/-- A `dict` display whose keys are text. -/
def dict (entries : List (String × PyJson)) : PyDict :=
  entries.map fun e => (PyStr.ofString e.1, e.2)

theorem keys_dict (entries : List (String × PyJson)) :
    (dict entries).map Prod.fst = (entries.map Prod.fst).map PyStr.ofString := by simp [dict]

theorem nodup_dict {entries : List (String × PyJson)} (h : (entries.map Prod.fst).Nodup) :
    ((dict entries).map Prod.fst).Nodup := by
  rw [keys_dict]
  exact h.map ofString_injective

theorem readable_dict {goodStr : PyStr → Prop} {goodNum : PyNumber → Prop}
    {entries : List (String × PyJson)} (hgood : ∀ s, goodStr (PyStr.ofString s))
    (hkeys : (entries.map Prod.fst).Nodup) (h : ∀ e ∈ entries, e.2.Readable goodStr goodNum) :
    (Json.obj (dict entries)).Readable goodStr goodNum := by
  refine .obj (nodup_dict hkeys) ?_ ?_
  · intro f hf
    obtain ⟨e, -, rfl⟩ := List.mem_map.1 hf
    exact hgood e.1
  · intro f hf
    obtain ⟨e, he, rfl⟩ := List.mem_map.1 hf
    exact h e he

def pyText (s : String) : PyJson := .str (PyStr.ofString s)

def pyInt (z : ℤ) : PyJson := .num (.int z)

def pyFloat (H : Host) (q : ℚ) : PyJson := .num (.float (H.float q))

/-! Tables. -/

structure Observation where
  id : String
  deliveryId : String
  serviceId : String
  taskType : String
  outcome : String
  latencyMs : Option ℤ
  evidenceHash : String
  createdNs : ℤ
deriving DecidableEq

/-- PRIMARY KEY(id), UNIQUE(delivery_id), UNIQUE(service_id, evidence_hash) -/
def Observation.Clash (r r' : Observation) : Prop :=
  r.id = r'.id ∨ r.deliveryId = r'.deliveryId ∨
    r.serviceId = r'.serviceId ∧ r.evidenceHash = r'.evidenceHash

instance : DecidableRel Observation.Clash := fun _ _ => inferInstanceAs (Decidable (_ ∨ _ ∨ _))

structure ProtocolObservation where
  id : String
  probeId : String
  serviceId : String
  outcome : String
  latencyMs : ℤ
  evidenceHash : String
  createdNs : ℤ
deriving DecidableEq

/-- PRIMARY KEY(id), UNIQUE(probe_id), UNIQUE(service_id, evidence_hash) -/
def ProtocolObservation.Clash (r r' : ProtocolObservation) : Prop :=
  r.id = r'.id ∨ r.probeId = r'.probeId ∨
    r.serviceId = r'.serviceId ∧ r.evidenceHash = r'.evidenceHash

instance : DecidableRel ProtocolObservation.Clash :=
  fun _ _ => inferInstanceAs (Decidable (_ ∨ _ ∨ _))

structure AuditRow where
  seq : ℤ
  id : String
  tsNs : ℤ
  eventType : String
  payloadJson : Text
  previousHash : String
  hash : String
deriving DecidableEq

/-- PRIMARY KEY(seq), UNIQUE(id), UNIQUE(hash) -/
def AuditRow.Clash (r r' : AuditRow) : Prop := r.seq = r'.seq ∨ r.id = r'.id ∨ r.hash = r'.hash

instance : DecidableRel AuditRow.Clash := fun _ _ => inferInstanceAs (Decidable (_ ∨ _ ∨ _))

theorem AuditRow.Clash.symm {r r' : AuditRow} (h : r.Clash r') : r'.Clash r :=
  h.imp Eq.symm (Or.imp Eq.symm Eq.symm)

structure Db where
  observations : Table Observation.Clash
  protocolObservations : Table ProtocolObservation.Clash
  auditEvents : Table AuditRow.Clash

/-- The database, and how many ids and timestamps were drawn so far. -/
structure Store where
  db : Db
  draws : ℕ

def Store.empty : Store := ⟨⟨.empty, .empty, .empty⟩, 0⟩

/-! Transactions. Any statement may fail for reasons of the database. -/

inductive Statement
  | begin
  | insert
  | selectHead
  | insertAudit
  | commit
deriving DecidableEq

abbrev Faults := Statement → Bool

abbrev Tx (α : Type) := StateT Db (Except StoreError) α

def statement (faults : Faults) (s : Statement) : Except StoreError Unit :=
  if faults s then .error .operationalError else .ok ()

/-- `with self.transaction()`: the body between `BEGIN IMMEDIATE` and `COMMIT`. Its two draws are
not taken back by a rollback. -/
def transaction {α : Type} (faults : Faults) (body : ℕ → Tx α) (st : Store) :
    Except StoreError α × Store :=
  let result := atomically (statement faults .commit)
    (do liftM (statement faults .begin); body st.draws) st.db
  (result.1, ⟨result.2, st.draws + 2⟩)

def decisive (outcome : String) : Prop := outcome = "PASS" ∨ outcome = "FAIL"

instance : DecidablePred decisive := fun _ => inferInstanceAs (Decidable (_ ∨ _))

/-- An integer that SQLite can hold; another one is not bound. -/
def isInteger (z : ℤ) : Prop := -2 ^ 63 ≤ z ∧ z < 2 ^ 63

instance : DecidablePred isInteger := fun _ => inferInstanceAs (Decidable (_ ∧ _))

def insertObservation (faults : Faults) (r : Observation) : Tx Unit := fun db =>
  if faults .insert then .error .operationalError
  else if ¬∀ latency ∈ r.latencyMs, isInteger latency then .error .overflowError
  -- CHECK(outcome IN ('PASS','FAIL'))
  else if ¬decisive r.outcome then .error .integrityError
  else
    match db.observations.insert r with
    | none => .error .integrityError
    | some t => .ok ((), { db with observations := t })

def insertProtocolObservation (faults : Faults) (r : ProtocolObservation) : Tx Unit := fun db =>
  if faults .insert then .error .operationalError
  else if ¬isInteger r.latencyMs then .error .overflowError
  else if ¬decisive r.outcome then .error .integrityError
  else
    match db.protocolObservations.insert r with
    | none => .error .integrityError
    | some t => .ok ((), { db with protocolObservations := t })

/-- `try: ...; updated = True` / `except sqlite3.IntegrityError: updated = False` -/
def updatedUnlessIntegrityError (insertion : Tx Unit) : Tx Bool := fun db =>
  match insertion db with
  | .ok ((), db') => .ok (true, db')
  | .error .integrityError => .ok (false, db)
  | .error e => .error e

/-! The audit chain. -/

def zeroHash : String := String.ofList (List.replicate 64 '0')

structure AuditEvent where
  id : String
  seq : ℤ
  tsNs : ℤ
  eventType : String
  payload : PyJson
  previousHash : String
  hash : String

/-- The serialization of a record without its hash. -/
def auditMaterial (id : String) (seq tsNs : ℤ) (eventType : String) (payload : PyJson)
    (previousHash : String) : Text :=
  dumps true (.obj (dict
    [("id", pyText id), ("seq", pyInt seq), ("ts_ns", pyInt tsNs), ("event_type", pyText eventType),
      ("payload", payload), ("previous_hash", pyText previousHash)]))

def orderBySeq (rows : List AuditRow) : List AuditRow := rows.insertionSort fun r r' => r.seq ≤ r'.seq

def Db.auditRows (db : Db) : List AuditRow := orderBySeq db.auditEvents.rows

/-- The record that continues the chain after its last row. -/
def nextEvent (H : Host) (n : ℕ) (eventType : String) (payload : PyDict) (row : Option AuditRow) :
    AuditEvent :=
  let seq := match row with | some r => r.seq + 1 | none => 1
  let previousHash := match row with | some r => r.hash | none => zeroHash
  ⟨H.uuid4 n, seq, H.timeNs n, eventType, .obj payload, previousHash,
    H.sha256 (auditMaterial (H.uuid4 n) seq (H.timeNs n) eventType (.obj payload) previousHash)⟩

def AuditEvent.row (e : AuditEvent) : AuditRow :=
  ⟨e.seq, e.id, e.tsNs, e.eventType, dumps false e.payload, e.previousHash, e.hash⟩

def appendAuditTx (H : Host) (faults : Faults) (n : ℕ) (eventType : String) (payload : PyDict) :
    Tx AuditEvent := fun db =>
  if faults .selectHead then .error .operationalError
  else
    let record := nextEvent H n eventType payload db.auditRows.getLast?
    if faults .insertAudit then .error .operationalError
    else
      match db.auditEvents.insert record.row with
      | none => .error .integrityError
      | some t => .ok (record, { db with auditEvents := t })

def appendAudit (H : Host) (faults : Faults) (eventType : String) (payload : PyDict) (st : Store) :
    Except StoreError AuditEvent × Store :=
  transaction faults (fun n => appendAuditTx H faults (n + 1) eventType payload) st

structure Verification where
  deliveryId : String
  serviceId : String
  taskType : String
  outcome : String
  evidenceHash : String
  latencyMs : Option ℤ
  auditPayload : PyDict
  reputationEligible : Bool := true

/-- Whether a verification is offered to the reputation table at all. -/
def Verification.Counts (v : Verification) : Prop :=
  v.reputationEligible = true ∧ decisive v.outcome

instance : DecidablePred Verification.Counts := fun _ => inferInstanceAs (Decidable (_ ∧ _))

def Verification.row (H : Host) (n : ℕ) (v : Verification) : Observation :=
  ⟨H.uuid4 n, v.deliveryId, v.serviceId, v.taskType, v.outcome, v.latencyMs, v.evidenceHash,
    H.timeNs n⟩

def Verification.payload (v : Verification) (updated : Bool) : PyDict :=
  put (PyStr.ofString "replay_suppressed") (.bool (decisive v.outcome ∧ ¬updated))
    (put (PyStr.ofString "reputation_updated") (.bool updated) v.auditPayload)

def offerVerification (H : Host) (faults : Faults) (n : ℕ) (v : Verification) : Tx Bool :=
  if v.Counts then updatedUnlessIntegrityError (insertObservation faults (v.row H n))
  else pure false

def recordVerification (H : Host) (faults : Faults) (v : Verification) (st : Store) :
    Except StoreError (AuditEvent × Bool) × Store :=
  if ¬(decisive v.outcome ∨ v.outcome = "INCONCLUSIVE") then (.error .valueError, st)
  else
    transaction faults (fun n => do
      let updated ← offerVerification H faults n v
      let event ← appendAuditTx H faults (n + 1) "verify_delivery" (v.payload updated)
      return (event, updated)) st

structure ProtocolCanary where
  probeId : String
  serviceId : String
  outcome : String
  evidenceHash : String
  latencyMs : ℤ
  auditPayload : PyDict

def ProtocolCanary.row (H : Host) (n : ℕ) (p : ProtocolCanary) : ProtocolObservation :=
  ⟨H.uuid4 n, p.probeId, p.serviceId, p.outcome, p.latencyMs, p.evidenceHash, H.timeNs n⟩

def ProtocolCanary.payload (p : ProtocolCanary) (updated : Bool) : PyDict :=
  put (PyStr.ofString "replay_suppressed") (.bool (¬updated))
    (put (PyStr.ofString "protocol_reputation_updated") (.bool updated) p.auditPayload)

def recordProtocolObservation (H : Host) (faults : Faults) (p : ProtocolCanary) (st : Store) :
    Except StoreError (AuditEvent × Bool) × Store :=
  if ¬decisive p.outcome then (.error .valueError, st)
  else
    transaction faults (fun n => do
      let updated ← updatedUnlessIntegrityError (insertProtocolObservation faults (p.row H n))
      let event ← appendAuditTx H faults (n + 1) "protocol_probe" (p.payload updated)
      return (event, updated)) st

structure Delivery where
  deliveryId : String
  serviceId : String
  taskType : String
  outcome : String
  evidenceHash : String
  latencyMs : Option ℤ := none

def Delivery.row (H : Host) (n : ℕ) (d : Delivery) : Observation :=
  ⟨H.uuid4 n, d.deliveryId, d.serviceId, d.taskType, d.outcome, d.latencyMs, d.evidenceHash,
    H.timeNs n⟩

def recordObservation (H : Host) (faults : Faults) (d : Delivery) (st : Store) :
    Except StoreError Bool × Store :=
  if ¬decisive d.outcome then (.error .valueError, st)
  else
    match transaction faults (fun n => insertObservation faults (d.row H n)) st with
    | (.ok (), st') => (.ok true, st')
    -- same trusted delivery id or same evidence for the same provider: replay
    | (.error .integrityError, st') => (.ok false, st')
    | (.error e, st') => (.error e, st')

/-! Reading. -/

def median (latencies : List ℤ) : Option ℤ :=
  let sorted := latencies.insertionSort (· ≤ ·)
  let mid := sorted.length / 2
  if sorted = [] then none
  else if sorted.length % 2 = 1 then sorted[mid]?
  else some ((sorted.getD (mid - 1) 0 + sorted.getD mid 0) / 2)

/-- Task-specific evidence plus general evidence, without counting the general twice. -/
def Observation.CountsFor (serviceId taskType : String) (r : Observation) : Prop :=
  r.serviceId = serviceId ∧
    if taskType = "general" then r.taskType = "general"
    else r.taskType = taskType ∨ r.taskType = "general"

instance (serviceId taskType : String) : DecidablePred (Observation.CountsFor serviceId taskType) :=
  fun _ => by unfold Observation.CountsFor; infer_instance

def reputation (db : Db) (serviceId taskType : String) : BayesianReputation × Option ℤ :=
  let rows := db.observations.rows.filter fun r => r.CountsFor serviceId taskType
  (⟨rows.countP fun r => r.outcome = "PASS", rows.countP fun r => r.outcome = "FAIL"⟩,
    median (rows.filterMap Observation.latencyMs))

def protocolReputation (db : Db) (serviceId : String) : BayesianReputation × Option ℤ :=
  let rows := db.protocolObservations.rows.filter fun r => r.serviceId = serviceId
  (⟨rows.countP fun r => r.outcome = "PASS", rows.countP fun r => r.outcome = "FAIL"⟩,
    median (rows.map ProtocolObservation.latencyMs))

def verifyRows (H : Host) (previous : String) (expectedSeq : ℤ) :
    List AuditRow → Except StoreError Bool
  | [] => .ok true
  | row :: rows =>
    if row.seq ≠ expectedSeq ∨ row.previousHash ≠ previous then .ok false
    else
      match loads row.payloadJson with
      | none => .error .jsonDecodeError
      | some payload =>
        if H.sha256 (auditMaterial row.id row.seq row.tsNs row.eventType payload row.previousHash) ≠
            row.hash then .ok false
        else verifyRows H row.hash (expectedSeq + 1) rows

def verifyAudit (H : Host) (db : Db) : Except StoreError Bool := verifyRows H zeroHash 1 db.auditRows

structure AuditHead where
  count : ℤ
  head : String
deriving DecidableEq

def auditHead (db : Db) : AuditHead :=
  match db.auditRows.getLast? with
  | none => ⟨0, zeroHash⟩
  | some row => ⟨row.seq, row.hash⟩

def getAuditEvent (db : Db) (receipt : String) : Except StoreError (Option AuditEvent) :=
  match db.auditEvents.rows.find? fun r => r.hash = receipt with
  | none => .ok none
  | some r =>
    match loads r.payloadJson with
    | none => .error .jsonDecodeError
    | some payload =>
      .ok (some ⟨r.id, r.seq, r.tsNs, r.eventType, payload, r.previousHash, r.hash⟩)

def AuditRow.event (r : AuditRow) : Except StoreError AuditEvent :=
  match loads r.payloadJson with
  | none => .error .jsonDecodeError
  | some payload => .ok ⟨r.id, r.seq, r.tsNs, r.eventType, payload, r.previousHash, r.hash⟩

/-- The last events, in the order of the chain. -/
def auditEvents (db : Db) (limit : ℤ) : Except StoreError (List AuditEvent) :=
  let limit := min (max limit 1) 1000
  -- ORDER BY seq DESC LIMIT ?
  let rows := db.auditRows.reverse.take limit.toNat
  rows.reverse.mapM AuditRow.event

end Counterparty
