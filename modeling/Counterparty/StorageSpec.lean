import Counterparty.Storage

/-! What each operation of the store does when it returns, and that one that raises does nothing. -/
namespace Counterparty

open Json

variable {H : Host} {faults : Faults} {st : Store} {db db' : Db} {α β : Type}

/-! Transactions. -/

theorem Tx.bind_eq_ok {x : Tx α} {f : α → Tx β} {b : β} :
    (x >>= f) db = .ok (b, db') ↔ ∃ a db₁, x db = .ok (a, db₁) ∧ f a db₁ = .ok (b, db') := by
  simp only [bind, StateT.bind]
  cases h : x db with
  | error e => simp [Except.bind]
  | ok p =>
    obtain ⟨a, db₁⟩ := p
    simp [Except.bind]

theorem Tx.begin_eq_ok {s : Statement} {u : Unit} :
    (liftM (statement faults s) : Tx Unit) db = .ok (u, db') ↔ faults s = false ∧ db' = db := by
  cases h : faults s with
  | true => simp [statement, h, liftM, monadLift, MonadLift.monadLift, StateT.lift, bind, Except.bind]
  | false =>
    simp [statement, h, liftM, monadLift, MonadLift.monadLift, StateT.lift, bind, Except.bind, pure,
      Except.pure, eq_comm]

/-- A transaction that raises leaves the database as it was. -/
theorem transaction_error {body : ℕ → Tx α} {e : StoreError} {st' : Store}
    (h : transaction faults body st = (.error e, st')) : st' = ⟨st.db, st.draws + 2⟩ := by
  obtain ⟨hresult, rfl⟩ := Prod.mk.inj h
  simp only [atomically_error hresult]

/-- An error that is not the database's own was raised by the body. -/
theorem transaction_error_body {body : ℕ → Tx α} {e : StoreError} {st' : Store}
    (h : transaction faults body st = (.error e, st')) (he : e ≠ .operationalError) :
    body st.draws st.db = .error e := by
  have hstatement : ∀ s, statement faults s ≠ .error e := by
    intro s hs
    unfold statement at hs
    split_ifs at hs
    cases hs
    exact he rfl
  obtain ⟨hresult, -⟩ := Prod.mk.inj h
  rcases atomically_error_cases hresult with hbody | hcommit
  · simp only [bind, StateT.bind, liftM, monadLift, MonadLift.monadLift, StateT.lift] at hbody
    cases hbegin : statement faults .begin with
    | error e' =>
      rw [hbegin] at hbody
      cases hbody
      exact absurd hbegin (hstatement _)
    | ok u =>
      rw [hbegin] at hbody
      exact hbody
  · exact absurd hcommit (hstatement _)

theorem transaction_ok {body : ℕ → Tx α} {a : α} {st' : Store}
    (h : transaction faults body st = (.ok a, st')) :
    body st.draws st.db = .ok (a, st'.db) ∧ st'.draws = st.draws + 2 := by
  obtain ⟨hresult, rfl⟩ := Prod.mk.inj h
  obtain ⟨_, _, hbegin, hrest⟩ := Tx.bind_eq_ok.1 (atomically_ok hresult)
  obtain ⟨-, rfl⟩ := Tx.begin_eq_ok.1 hbegin
  exact ⟨hrest, rfl⟩

theorem transaction_eq_ok {body : ℕ → Tx α} {a : α} (hbegin : faults .begin = false)
    (hcommit : faults .commit = false) (h : body st.draws st.db = .ok (a, db')) :
    transaction faults body st = (.ok a, ⟨db', st.draws + 2⟩) := by
  have hbody : (do liftM (statement faults .begin); body st.draws : Tx α) st.db = .ok (a, db') :=
    Tx.bind_eq_ok.2 ⟨(), st.db, Tx.begin_eq_ok.2 ⟨hbegin, rfl⟩, h⟩
  have hstatement : statement faults .commit = .ok () := by simp [statement, hcommit]
  simp only [transaction, atomically, hbody, hstatement]

/-- What a body returns may be put differently. -/
theorem transaction_map (f : α → β) (body : ℕ → Tx α) :
    transaction faults (fun n db => (body n db).map fun p => (f p.1, p.2)) st =
      ((transaction faults body st).1.map f, (transaction faults body st).2) := by
  simp only [transaction, atomically, bind, StateT.bind, liftM, monadLift, MonadLift.monadLift,
    StateT.lift]
  cases statement faults .begin with
  | error e => rfl
  | ok u =>
    simp only [Except.bind, pure, Except.pure]
    cases body st.draws st.db with
    | error e => rfl
    | ok p => cases statement faults .commit <;> rfl

/-! Statements. -/

/-- What an attempted evidence row came to: written beside rows it does not clash with, or
suppressed because it clashes. -/
structure Attempt {R : Type} {Clash : R → R → Prop} (table table' : Table Clash) (r : R)
    (updated : Bool) : Prop where
  written : updated = true → table'.rows = table.rows ++ [r] ∧ ∀ r' ∈ table.rows, ¬Clash r' r
  suppressed : updated = false → table' = table ∧ ∃ r' ∈ table.rows, Clash r' r

/-- What one committed audit append did to the database it started from. -/
structure Appended (H : Host) (n : ℕ) (eventType : String) (payload : PyDict) (db db' : Db)
    (event : AuditEvent) : Prop where
  event_eq : event = nextEvent H n eventType payload db.auditRows.getLast?
  rows_eq : db'.auditEvents.rows = db.auditEvents.rows ++ [event.row]

theorem attempt_insert {R : Type} {Clash : R → R → Prop} [DecidableRel Clash] {t t' : Table Clash}
    {r : R} (h : t.insert r = some t') : Attempt t t' r true :=
  ⟨fun _ => Table.insert_eq_some h, by simp⟩

theorem attempt_none {R : Type} {Clash : R → R → Prop} [DecidableRel Clash] {t : Table Clash}
    {r : R} (h : t.insert r = none) : Attempt t t r false :=
  ⟨by simp, fun _ => ⟨rfl, Table.insert_eq_none.1 h⟩⟩

theorem insertObservation_attempt {r : Observation} {updated : Bool} (hr : decisive r.outcome)
    (h : updatedUnlessIntegrityError (insertObservation faults r) db = .ok (updated, db')) :
    Attempt db.observations db'.observations r updated ∧
      db'.protocolObservations = db.protocolObservations ∧ db'.auditEvents = db.auditEvents := by
  unfold updatedUnlessIntegrityError insertObservation at h
  split_ifs at h with hf
  cases ht : db.observations.insert r with
  | none =>
    rw [ht] at h
    cases h
    exact ⟨attempt_none ht, rfl, rfl⟩
  | some t =>
    rw [ht] at h
    cases h
    exact ⟨attempt_insert ht, rfl, rfl⟩

theorem insertProtocolObservation_attempt {r : ProtocolObservation} {updated : Bool}
    (hr : decisive r.outcome)
    (h : updatedUnlessIntegrityError (insertProtocolObservation faults r) db = .ok (updated, db')) :
    Attempt db.protocolObservations db'.protocolObservations r updated ∧
      db'.observations = db.observations ∧ db'.auditEvents = db.auditEvents := by
  unfold updatedUnlessIntegrityError insertProtocolObservation at h
  split_ifs at h with hf
  cases ht : db.protocolObservations.insert r with
  | none =>
    rw [ht] at h
    cases h
    exact ⟨attempt_none ht, rfl, rfl⟩
  | some t =>
    rw [ht] at h
    cases h
    exact ⟨attempt_insert ht, rfl, rfl⟩

theorem appendAuditTx_ok {n : ℕ} {eventType : String} {payload : PyDict} {event : AuditEvent}
    (h : appendAuditTx H faults n eventType payload db = .ok (event, db')) :
    Appended H n eventType payload db db' event ∧ db'.observations = db.observations ∧
      db'.protocolObservations = db.protocolObservations := by
  unfold appendAuditTx at h
  dsimp only at h
  split_ifs at h
  cases ht : db.auditEvents.insert (nextEvent H n eventType payload db.auditRows.getLast?).row with
  | none =>
    rw [ht] at h
    cases h
  | some t =>
    rw [ht] at h
    cases h
    exact ⟨⟨rfl, (Table.insert_eq_some ht).1⟩, rfl, rfl⟩

theorem Appended.congr {n : ℕ} {eventType : String} {payload : PyDict} {event : AuditEvent}
    {db₁ : Db} (h : Appended H n eventType payload db₁ db' event)
    (heq : db₁.auditEvents = db.auditEvents) : Appended H n eventType payload db db' event := by
  obtain ⟨hevent, hrows⟩ := h
  unfold Db.auditRows at hevent
  rw [heq] at hevent hrows
  exact ⟨hevent, hrows⟩

/-! Operations. -/

structure Logged (H : Host) (eventType : String) (payload : PyDict) (st st' : Store)
    (event : AuditEvent) : Prop where
  draws_lt : st.draws < st'.draws
  appended : Appended H (st.draws + 1) eventType payload st.db st'.db event
  observations_eq : st'.db.observations = st.db.observations
  protocol_eq : st'.db.protocolObservations = st.db.protocolObservations

theorem appendAudit_ok {eventType : String} {payload : PyDict} {event : AuditEvent} {st' : Store}
    (h : appendAudit H faults eventType payload st = (.ok event, st')) :
    Logged H eventType payload st st' event := by
  obtain ⟨hbody, hdraws⟩ := transaction_ok h
  obtain ⟨happended, hobs, hprotocol⟩ := appendAuditTx_ok hbody
  exact ⟨by omega, happended, hobs, hprotocol⟩

/-- A transaction that offers an observation and appends an event that says whether it was counted. -/
theorem recorded_ok {offer : ℕ → Tx Bool} {append : ℕ → Bool → Tx AuditEvent} {event : AuditEvent}
    {updated : Bool} {st' : Store} (h : transaction faults (fun n => do
      let updated ← offer n
      let event ← append n updated
      return (event, updated)) st = (.ok (event, updated), st')) :
    st.draws < st'.draws ∧ ∃ db₁, offer st.draws st.db = .ok (updated, db₁) ∧
      append st.draws updated db₁ = .ok (event, st'.db) := by
  obtain ⟨hbody, hdraws⟩ := transaction_ok h
  obtain ⟨updated', db₁, hoffer, hrest⟩ := Tx.bind_eq_ok.1 hbody
  obtain ⟨event', db₂, happend, hpure⟩ := Tx.bind_eq_ok.1 hrest
  cases hpure
  exact ⟨by omega, db₁, hoffer, happend⟩

theorem appendAudit_error {eventType : String} {payload : PyDict} {e : StoreError} {st' : Store}
    (h : appendAudit H faults eventType payload st = (.error e, st')) :
    st'.db = st.db ∧ st.draws ≤ st'.draws := by
  rw [transaction_error h]
  exact ⟨rfl, by simp⟩

structure Verified (H : Host) (v : Verification) (st st' : Store) (event : AuditEvent)
    (updated : Bool) : Prop where
  draws_lt : st.draws < st'.draws
  appended : Appended H (st.draws + 1) "verify_delivery" (v.payload updated) st.db st'.db event
  protocol_eq : st'.db.protocolObservations = st.db.protocolObservations
  attempt : v.Counts →
    Attempt st.db.observations st'.db.observations (v.row H st.draws) updated
  skipped : ¬v.Counts → updated = false ∧ st'.db.observations = st.db.observations

theorem recordVerification_ok {v : Verification} {event : AuditEvent} {updated : Bool} {st' : Store}
    (h : recordVerification H faults v st = (.ok (event, updated), st')) :
    Verified H v st st' event updated := by
  unfold recordVerification at h
  split_ifs at h with hv
  swap
  · cases h
  obtain ⟨hlt, db₁, hoffer, happend⟩ := recorded_ok h
  obtain ⟨happended, hobs, hprotocol⟩ := appendAuditTx_ok happend
  unfold offerVerification at hoffer
  split_ifs at hoffer with hc
  · obtain ⟨hattempt, hprotocol₁, haudit₁⟩ := insertObservation_attempt hc.2 hoffer
    rw [← hobs] at hattempt
    exact ⟨hlt, happended.congr haudit₁, hprotocol.trans hprotocol₁, fun _ => hattempt,
      fun h => absurd hc h⟩
  · cases hoffer
    exact ⟨hlt, happended, hprotocol, fun h => absurd h hc, fun _ => ⟨rfl, hobs⟩⟩

theorem recordVerification_error {v : Verification} {e : StoreError} {st' : Store}
    (h : recordVerification H faults v st = (.error e, st')) :
    st'.db = st.db ∧ st.draws ≤ st'.draws := by
  unfold recordVerification at h
  split_ifs at h with hv
  · rw [transaction_error h]
    exact ⟨rfl, by simp⟩
  · cases h
    exact ⟨rfl, le_rfl⟩

structure Canaried (H : Host) (p : ProtocolCanary) (st st' : Store) (event : AuditEvent)
    (updated : Bool) : Prop where
  draws_lt : st.draws < st'.draws
  appended : Appended H (st.draws + 1) "protocol_probe" (p.payload updated) st.db st'.db event
  observations_eq : st'.db.observations = st.db.observations
  attempt : Attempt st.db.protocolObservations st'.db.protocolObservations (p.row H st.draws) updated

theorem recordProtocolObservation_ok {p : ProtocolCanary} {event : AuditEvent} {updated : Bool}
    {st' : Store} (h : recordProtocolObservation H faults p st = (.ok (event, updated), st')) :
    decisive p.outcome ∧ Canaried H p st st' event updated := by
  unfold recordProtocolObservation at h
  split_ifs at h with hp
  swap
  · cases h
  obtain ⟨hlt, db₁, hoffer, happend⟩ := recorded_ok h
  obtain ⟨happended, hobs, hprotocol⟩ := appendAuditTx_ok happend
  obtain ⟨hattempt, hobs₁, haudit₁⟩ := insertProtocolObservation_attempt hp hoffer
  rw [← hprotocol] at hattempt
  exact ⟨hp, hlt, happended.congr haudit₁, hobs.trans hobs₁, hattempt⟩

theorem recordProtocolObservation_error {p : ProtocolCanary} {e : StoreError} {st' : Store}
    (h : recordProtocolObservation H faults p st = (.error e, st')) :
    st'.db = st.db ∧ st.draws ≤ st'.draws := by
  unfold recordProtocolObservation at h
  split_ifs at h with hp
  · rw [transaction_error h]
    exact ⟨rfl, by simp⟩
  · cases h
    exact ⟨rfl, le_rfl⟩

theorem insertObservation_ok {r : Observation} (h : insertObservation faults r db = .ok ((), db')) :
    Attempt db.observations db'.observations r true ∧
      db'.protocolObservations = db.protocolObservations ∧ db'.auditEvents = db.auditEvents := by
  unfold insertObservation at h
  split_ifs at h with hf hd
  cases ht : db.observations.insert r with
  | none =>
    rw [ht] at h
    cases h
  | some t =>
    rw [ht] at h
    cases h
    exact ⟨attempt_insert ht, rfl, rfl⟩

structure Observed (H : Host) (d : Delivery) (st st' : Store) (updated : Bool) : Prop where
  draws_lt : st.draws < st'.draws
  attempt : Attempt st.db.observations st'.db.observations (d.row H st.draws) updated
  protocol_eq : st'.db.protocolObservations = st.db.protocolObservations
  audit_eq : st'.db.auditEvents = st.db.auditEvents

theorem recordObservation_ok {d : Delivery} {updated : Bool} {st' : Store}
    (h : recordObservation H faults d st = (.ok updated, st')) :
    decisive d.outcome ∧ Observed H d st st' updated := by
  unfold recordObservation at h
  split_ifs at h with hd
  swap
  · cases h
  refine ⟨hd, ?_⟩
  split at h
  · rename_i st₁ htx
    cases h
    obtain ⟨hbody, hdraws⟩ := transaction_ok htx
    obtain ⟨hattempt, hprotocol, haudit⟩ := insertObservation_ok hbody
    exact ⟨by omega, hattempt, hprotocol, haudit⟩
  · rename_i st₁ htx
    cases h
    have hbody := transaction_error_body htx (by decide)
    rw [transaction_error htx]
    unfold insertObservation at hbody
    split_ifs at hbody with _ hlatency hrow
    · cases hbody
    · cases ht : st.db.observations.insert (d.row H st.draws) with
      | none => exact ⟨by simp, attempt_none ht, rfl, rfl⟩
      | some t =>
        rw [ht] at hbody
        cases hbody
    · exact absurd hd hrow
    · cases hbody
  · cases h

theorem recordObservation_error {d : Delivery} {e : StoreError} {st' : Store}
    (h : recordObservation H faults d st = (.error e, st')) :
    st'.db = st.db ∧ st.draws ≤ st'.draws := by
  unfold recordObservation at h
  split_ifs at h with hd
  · split at h
    · cases h
    · cases h
    · rename_i e' st₁ _ htx
      cases h
      rw [transaction_error htx]
      exact ⟨rfl, by simp⟩
  · cases h
    exact ⟨rfl, le_rfl⟩

/-! Committing. -/

/-- The database commits: no statement fails, and the next audit record clashes with none. -/
structure Commits (H : Host) (faults : Faults) (st : Store) : Prop where
  quiet : ∀ s, faults s = false
  fresh : ∀ eventType payload, ∀ r ∈ st.db.auditEvents.rows,
    ¬AuditRow.Clash r (nextEvent H (st.draws + 1) eventType payload st.db.auditRows.getLast?).row

theorem transaction_commits {body : ℕ → Tx α} {a : α} (hquiet : ∀ s, faults s = false)
    (hbody : body st.draws st.db = .ok (a, db')) :
    transaction faults body st = (.ok a, ⟨db', st.draws + 2⟩) := by
  have hbegin : (do liftM (statement faults .begin); body st.draws : Tx α) st.db = .ok (a, db') :=
    Tx.bind_eq_ok.2 ⟨(), st.db, Tx.begin_eq_ok.2 ⟨hquiet _, rfl⟩, hbody⟩
  have hcommit : statement faults .commit = .ok () := by simp [statement, hquiet]
  simp only [transaction, atomically, hbegin, hcommit]

theorem transaction_raises {body : ℕ → Tx α} {e : StoreError} (hquiet : ∀ s, faults s = false)
    (hbody : body st.draws st.db = .error e) : (transaction faults body st).1 = .error e := by
  have hbegin : (do liftM (statement faults .begin); body st.draws : Tx α) st.db = .error e := by
    simp [statement, hquiet, bind, StateT.bind, liftM, monadLift, MonadLift.monadLift, StateT.lift,
      Except.bind, pure, Except.pure, hbody]
  simp only [transaction, atomically, hbegin]

theorem Commits.append (h : Commits H faults st) (eventType : String) (payload : PyDict)
    (hdb : db.auditEvents = st.db.auditEvents) :
    ∃ event db', appendAuditTx H faults (st.draws + 1) eventType payload db = .ok (event, db') := by
  have hrows : db.auditRows = st.db.auditRows := by rw [Db.auditRows, hdb, Db.auditRows]
  obtain ⟨t, ht⟩ := Table.exists_insert (h.fresh eventType payload)
  refine ⟨nextEvent H (st.draws + 1) eventType payload st.db.auditRows.getLast?,
    { db with auditEvents := t }, ?_⟩
  simp only [appendAuditTx, h.quiet, Bool.false_eq_true, if_false, hrows, hdb, ht]

theorem Commits.appendAudit (h : Commits H faults st) (eventType : String) (payload : PyDict) :
    ∃ event st', appendAudit H faults eventType payload st = (.ok event, st') := by
  obtain ⟨event, db', happend⟩ := h.append eventType payload rfl
  exact ⟨event, ⟨db', st.draws + 2⟩, transaction_commits h.quiet happend⟩

theorem updatedUnlessIntegrityError_commits {insertion : Tx Unit}
    (h : ∀ e, insertion db = .error e → e = .integrityError) :
    ∃ updated db', updatedUnlessIntegrityError insertion db = .ok (updated, db') := by
  unfold updatedUnlessIntegrityError
  cases hi : insertion db with
  | ok p => exact ⟨true, p.2, rfl⟩
  | error e =>
    obtain rfl := h e hi
    exact ⟨false, db, rfl⟩

theorem insertObservation_error (hquiet : ∀ s, faults s = false) {r : Observation} {e : StoreError}
    (hlatency : ∀ latency ∈ r.latencyMs, isInteger latency)
    (h : insertObservation faults r db = .error e) : e = .integrityError := by
  unfold insertObservation at h
  rw [if_neg (by simp [hquiet]), if_neg (not_not.2 hlatency)] at h
  split_ifs at h
  · cases ht : db.observations.insert r with
    | none =>
      rw [ht] at h
      exact (Except.error.inj h).symm
    | some t =>
      rw [ht] at h
      cases h
  · exact (Except.error.inj h).symm

theorem insertProtocolObservation_error (hquiet : ∀ s, faults s = false) {r : ProtocolObservation}
    {e : StoreError} (hlatency : isInteger r.latencyMs)
    (h : insertProtocolObservation faults r db = .error e) : e = .integrityError := by
  unfold insertProtocolObservation at h
  rw [if_neg (by simp [hquiet]), if_neg (not_not.2 hlatency)] at h
  split_ifs at h
  · cases ht : db.protocolObservations.insert r with
    | none =>
      rw [ht] at h
      exact (Except.error.inj h).symm
    | some t =>
      rw [ht] at h
      cases h
  · exact (Except.error.inj h).symm

theorem Commits.verification (h : Commits H faults st) {v : Verification}
    (hv : decisive v.outcome ∨ v.outcome = "INCONCLUSIVE")
    (hlatency : ∀ latency ∈ v.latencyMs, isInteger latency) :
    ∃ event updated st', recordVerification H faults v st = (.ok (event, updated), st') := by
  have hoffer : ∃ updated db₁, offerVerification H faults st.draws v st.db = .ok (updated, db₁) ∧
      db₁.auditEvents = st.db.auditEvents := by
    unfold offerVerification
    by_cases hc : v.Counts
    · rw [if_pos hc]
      obtain ⟨updated, db₁, hok⟩ := updatedUnlessIntegrityError_commits
        (fun e he => insertObservation_error h.quiet (r := v.row H st.draws) hlatency he)
      exact ⟨updated, db₁, hok, (insertObservation_attempt hc.2 hok).2.2⟩
    · rw [if_neg hc]
      exact ⟨false, st.db, rfl, rfl⟩
  obtain ⟨updated, db₁, hok, haudit⟩ := hoffer
  obtain ⟨event, db₂, happend⟩ := h.append "verify_delivery" (v.payload updated) haudit
  refine ⟨event, updated, ⟨db₂, st.draws + 2⟩, ?_⟩
  unfold recordVerification
  rw [if_neg (not_not.2 hv)]
  apply transaction_commits h.quiet
  exact Tx.bind_eq_ok.2 ⟨updated, db₁, hok, Tx.bind_eq_ok.2 ⟨event, db₂, happend, rfl⟩⟩

theorem Commits.canary (h : Commits H faults st) {p : ProtocolCanary} (hp : decisive p.outcome)
    (hlatency : isInteger p.latencyMs) :
    ∃ event updated st', recordProtocolObservation H faults p st = (.ok (event, updated), st') := by
  obtain ⟨updated, db₁, hok⟩ := updatedUnlessIntegrityError_commits
    (fun e he => insertProtocolObservation_error h.quiet (r := p.row H st.draws) hlatency he)
  have haudit := (insertProtocolObservation_attempt hp hok).2.2
  obtain ⟨event, db₂, happend⟩ := h.append "protocol_probe" (p.payload updated) haudit
  refine ⟨event, updated, ⟨db₂, st.draws + 2⟩, ?_⟩
  unfold recordProtocolObservation
  rw [if_neg (not_not.2 hp)]
  apply transaction_commits h.quiet
  exact Tx.bind_eq_ok.2 ⟨updated, db₁, hok, Tx.bind_eq_ok.2 ⟨event, db₂, happend, rfl⟩⟩

theorem Commits.observation (h : Commits H faults st) {d : Delivery} (hd : decisive d.outcome)
    (hlatency : ∀ latency ∈ d.latencyMs, isInteger latency) :
    ∃ updated st', recordObservation H faults d st = (.ok updated, st') := by
  cases hbody : insertObservation faults (d.row H st.draws) st.db with
  | ok p =>
    have htx : transaction faults (fun n => insertObservation faults (d.row H n)) st = _ :=
      transaction_commits h.quiet hbody
    exact ⟨true, _, by rw [recordObservation, if_neg (not_not.2 hd), htx]⟩
  | error e =>
    obtain rfl := insertObservation_error h.quiet (r := d.row H st.draws) hlatency hbody
    have htx : (transaction faults (fun n => insertObservation faults (d.row H n)) st).1 = _ :=
      transaction_raises h.quiet hbody
    rw [recordObservation, if_neg (not_not.2 hd)]
    generalize transaction faults (fun n => insertObservation faults (d.row H n)) st = call at htx ⊢
    obtain ⟨result, st'⟩ := call
    obtain rfl : result = _ := htx
    exact ⟨false, st', rfl⟩

theorem commits_empty (H : Host) : Commits H (fun _ => false) .empty :=
  ⟨fun _ => rfl, by simp [Store.empty, Table.empty]⟩

/-! Tallies. -/

theorem countP_snoc {R : Type} (P : R → Prop) [DecidablePred P] (rows : List R) (r : R) :
    (rows ++ [r]).countP (fun r => P r) = rows.countP (fun r => P r) + if P r then 1 else 0 := by
  rw [List.countP_append, List.countP_singleton]
  simp

theorem countP_outcome {R : Type} (rows : List R) (outcome : R → String) (r : R) (o : String) :
    (rows ++ [r]).countP (fun r => outcome r = o) =
      rows.countP (fun r => outcome r = o) + if outcome r = o then 1 else 0 :=
  countP_snoc (fun r => outcome r = o) rows r

/-- A row that counts is tallied once, under its outcome. -/
theorem reputation_record {s taskType : String} {r : Observation}
    {observations : Table Observation.Clash} (h : db.observations.insert r = some observations)
    (hr : r.CountsFor s taskType) :
    (reputation { db with observations } s taskType).1 =
      (reputation db s taskType).1.record r.outcome := by
  have hone : [r].filter (fun r => Observation.CountsFor s taskType r) = [r] := by simp [hr]
  simp only [reputation, BayesianReputation.record, (Table.insert_eq_some h).1, List.filter_append]
  rw [hone, countP_outcome, countP_outcome]

theorem protocolReputation_record {s : String} {r : ProtocolObservation}
    {protocolObservations : Table ProtocolObservation.Clash}
    (h : db.protocolObservations.insert r = some protocolObservations) (hr : r.serviceId = s) :
    (protocolReputation { db with protocolObservations } s).1 =
      (protocolReputation db s).1.record r.outcome := by
  have hone : [r].filter (fun r => r.serviceId = s) = [r] := by simp [hr]
  simp only [protocolReputation, BayesianReputation.record, (Table.insert_eq_some h).1,
    List.filter_append]
  rw [hone, countP_outcome, countP_outcome]

end Counterparty
