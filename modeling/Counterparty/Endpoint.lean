import Counterparty.Library.Interleave
import Counterparty.Storage

/-! Endpoints as programs over the store's methods, each method one transaction or one read. -/
namespace Counterparty

inductive StoreOp
  | reputation (serviceId taskType : String)
  | protocolReputation (serviceId : String)
  | appendAudit (eventType : String) (payload : PyDict)
  | recordVerification (v : Verification)
  | recordProtocolObservation (p : ProtocolCanary)

@[reducible] def StoreOp.Ret : StoreOp → Type
  | .reputation _ _ | .protocolReputation _ => BayesianReputation × Option ℤ
  | .appendAudit _ _ => Except StoreError AuditEvent
  | .recordVerification _ | .recordProtocolObservation _ => Except StoreError (AuditEvent × Bool)

/-- A method of the store under given faults. -/
def StoreOp.exec (H : Host) (faults : Faults) (st : Store) : (op : StoreOp) → op.Ret × Store
  | .reputation s t => (Counterparty.reputation st.db s t, st)
  | .protocolReputation s => (Counterparty.protocolReputation st.db s, st)
  | .appendAudit eventType payload => Counterparty.appendAudit H faults eventType payload st
  | .recordVerification v => Counterparty.recordVerification H faults v st
  | .recordProtocolObservation p => Counterparty.recordProtocolObservation H faults p st

abbrev Endpoint (α : Type) := Prog StoreOp StoreOp.Ret α

namespace Endpoint

def reputation (serviceId taskType : String) : Endpoint (BayesianReputation × Option ℤ) :=
  Prog.perform (StoreOp.reputation serviceId taskType)

def protocolReputation (serviceId : String) : Endpoint (BayesianReputation × Option ℤ) :=
  Prog.perform (StoreOp.protocolReputation serviceId)

def appendAudit (eventType : String) (payload : PyDict) :
    Endpoint (Except StoreError AuditEvent) :=
  Prog.perform (StoreOp.appendAudit eventType payload)

def recordVerification (v : Verification) :
    Endpoint (Except StoreError (AuditEvent × Bool)) :=
  Prog.perform (StoreOp.recordVerification v)

def recordProtocolObservation (p : ProtocolCanary) :
    Endpoint (Except StoreError (AuditEvent × Bool)) :=
  Prog.perform (StoreOp.recordProtocolObservation p)

/-- An endpoint with the store to itself. -/
def run {α : Type} (H : Host) (faults : Faults) (endpoint : Endpoint α) (st : Store) : α × Store :=
  endpoint.eval (fun op st => op.exec H faults st) st

section Run

variable {α β : Type} (H : Host) (faults : Faults) (st : Store)

@[simp] theorem run_pure (a : α) : (pure a : Endpoint α).run H faults st = (a, st) := rfl

theorem run_bind (p : Endpoint α) (f : α → Endpoint β) :
    (p >>= f).run H faults st = (f (p.run H faults st).1).run H faults (p.run H faults st).2 :=
  Prog.eval_bind _ p f st

@[simp] theorem run_reputation (s t : String) (f : BayesianReputation × Option ℤ → Endpoint β) :
    (reputation s t >>= f).run H faults st =
      (f (Counterparty.reputation st.db s t)).run H faults st := rfl

@[simp] theorem run_protocolReputation (s : String)
    (f : BayesianReputation × Option ℤ → Endpoint β) :
    (protocolReputation s >>= f).run H faults st =
      (f (Counterparty.protocolReputation st.db s)).run H faults st := rfl

@[simp] theorem run_appendAudit (eventType : String) (payload : PyDict)
    (f : Except StoreError AuditEvent → Endpoint β) :
    (appendAudit eventType payload >>= f).run H faults st =
      (f (Counterparty.appendAudit H faults eventType payload st).1).run H faults
        (Counterparty.appendAudit H faults eventType payload st).2 := rfl

@[simp] theorem run_recordVerification (v : Verification)
    (f : Except StoreError (AuditEvent × Bool) → Endpoint β) :
    (recordVerification v >>= f).run H faults st =
      (f (Counterparty.recordVerification H faults v st).1).run H faults
        (Counterparty.recordVerification H faults v st).2 := rfl

@[simp] theorem run_recordProtocolObservation (p : ProtocolCanary)
    (f : Except StoreError (AuditEvent × Bool) → Endpoint β) :
    (recordProtocolObservation p >>= f).run H faults st =
      (f (Counterparty.recordProtocolObservation H faults p st).1).run H faults
        (Counterparty.recordProtocolObservation H faults p st).2 := rfl

end Run

end Endpoint

end Counterparty
