import Counterparty.Library.Transaction
import Counterparty.Arena.SqliteText
import Counterparty.Arena.Ledger

/-! The durable arena store: payments bound to requests, and the responses they were answered with. -/
namespace Counterparty.Arena

inductive StoreError
  | sqlite
  | constraint
  | differentRequest
  | syntaxError
deriving DecidableEq

/-! Payments. -/

structure Payment where
  txnId : JsString
  requestId : JsString
  fingerprint : Text
  service : JsString
  amount : JsNumber
  roomId : JsString
deriving DecidableEq

/-- PRIMARY KEY(txn_id), UNIQUE(request_id) -/
def Payment.Clash (r r' : Payment) : Prop := r.txnId = r'.txnId ∨ r.requestId = r'.requestId

instance : DecidableRel Payment.Clash := fun _ _ => inferInstanceAs (Decidable (_ ∨ _))

abbrev Payments := Table Payment.Clash

inductive PaymentClaim
  | claimed
  | sameRequest
  | conflict
deriving DecidableEq

/-- `existing.request_id === input.requestId && existing.fingerprint === input.fingerprint` -/
def Payment.claim (existing input : Payment) : PaymentClaim :=
  if existing.requestId = input.requestId ∧ existing.fingerprint = input.fingerprint then .sameRequest
  else .conflict

/-- The row that `WHERE txn_id=? OR request_id=? LIMIT 1` is answered with: any one that matches. -/
def existingPayment (pick : ℕ) (input : Payment) (t : Payments) : Option Payment :=
  let matching := t.rows.filter fun row => row.Clash input
  matching[pick % matching.length]?

inductive ClaimStatement
  | begin
  | select
  | insert
  | commit
deriving DecidableEq

abbrev Faults := ClaimStatement → Bool

def claimPaymentTx (faults : Faults) (pick : ℕ) (input : Payment) :
    StateT Payments (Except StoreError) PaymentClaim := fun t =>
  if faults .begin ∨ faults .select then .error .sqlite
  else
    match existingPayment pick input t with
    | some existing => .ok (existing.claim input, t)
    | none =>
      if faults .insert then .error .sqlite
      -- not a number is bound as NULL
      else if input.amount = .nan then .error .constraint
      else
        match t.insert input with
        | none => .error .constraint
        | some t' => .ok (.claimed, t')

/-- One transaction; a statement that fails rolls it back and throws. -/
def claimPayment (faults : Faults) (pick : ℕ) (input : Payment) (t : Payments) :
    Except StoreError PaymentClaim × Payments :=
  atomically (if faults .commit then .error .sqlite else .ok ()) (claimPaymentTx faults pick input) t

/-! Responses, by their request ids. -/

structure StoredResponse where
  fingerprint : Text
  responseJson : Text

abbrev Responses := JsString → Option StoredResponse

/-- `None` says that no response is stored; a row of a different request throws. -/
def cachedResponse (fails : Bool) (requestId : JsString) (fingerprint : Text) (t : Responses) :
    Except StoreError (Option JsJson) :=
  if fails then .error .sqlite
  else
    match t requestId with
    | none => .ok none
    | some row =>
      if row.fingerprint ≠ fingerprint then .error .differentRequest
      else
        match parseJson row.responseJson with
        | none => .error .syntaxError
        | some response => .ok (some response)

/-- The upsert: a row of the same fingerprint is overwritten, one of another is kept. -/
def upsertResponse (requestId : JsString) (fingerprint : Text) (response : JsJson) (t : Responses) :
    Responses :=
  match t requestId with
  | none => Function.update t requestId (some ⟨fingerprint, stringify response⟩)
  | some row =>
    if row.fingerprint = fingerprint then
      Function.update t requestId (some ⟨fingerprint, stringify response⟩)
    else t

def saveResponse (fails : Bool) (requestId : JsString) (fingerprint : Text) (response : JsJson)
    (t : Responses) : Except StoreError Unit × Responses :=
  if fails then (.error .sqlite, t) else (.ok (), upsertResponse requestId fingerprint response t)

/-! What a claim can do. -/

variable {faults : Faults} {pick : ℕ} {input : Payment} {t t' : Payments}

theorem existingPayment_some {existing : Payment} (h : existingPayment pick input t = some existing) :
    existing ∈ t.rows ∧ existing.Clash input := by
  have hmem := List.mem_of_getElem? h
  simpa using hmem

theorem existingPayment_none (h : existingPayment pick input t = none) :
    ∀ row ∈ t.rows, ¬row.Clash input := by
  intro row hrow hclash
  have hmem : row ∈ t.rows.filter fun row => row.Clash input := by simp [hrow, hclash]
  have hlt := Nat.mod_lt pick (List.length_pos_of_mem hmem)
  rw [existingPayment, List.getElem?_eq_none_iff] at h
  omega

/-- Any row that matches may be the one that is found. -/
theorem exists_pick {existing : Payment} (hrow : existing ∈ t.rows) (hclash : existing.Clash input) :
    ∃ pick, existingPayment pick input t = some existing := by
  have hmem : existing ∈ t.rows.filter fun row => row.Clash input := by simp [hrow, hclash]
  obtain ⟨i, hi, hget⟩ := List.getElem_of_mem hmem
  refine ⟨i, ?_⟩
  rw [existingPayment, Nat.mod_eq_of_lt hi, List.getElem?_eq_getElem hi, hget]

theorem existingPayment_eq_none (h : ∀ row ∈ t.rows, ¬row.Clash input) :
    existingPayment pick input t = none := by
  cases hexisting : existingPayment pick input t with
  | none => rfl
  | some existing =>
    obtain ⟨hrow, hclash⟩ := existingPayment_some hexisting
    exact absurd hclash (h existing hrow)

/-- Two tables with the same rows for a call answer it alike and add the same row. -/
theorem claimPayment_agrees {t u : Payments} (hkept : u.rows ⊆ t.rows)
    (hclash : ∀ row ∈ t.rows, row.Clash input → row ∈ u.rows) (faults : Faults) (pick : ℕ) :
    ∃ pick' added, (claimPayment faults pick' input u).1 = (claimPayment faults pick input t).1 ∧
      (claimPayment faults pick' input u).2.rows = u.rows ++ added ∧
      (claimPayment faults pick input t).2.rows = t.rows ++ added := by
  cases hexisting : existingPayment pick input t with
  | some existing =>
    obtain ⟨hrow, hmatch⟩ := existingPayment_some hexisting
    obtain ⟨pick', hpick'⟩ := exists_pick (hclash existing hrow hmatch) hmatch
    refine ⟨pick', [], ?_⟩
    simp only [claimPayment, atomically, claimPaymentTx, hexisting, hpick', List.append_nil]
    split_ifs <;> simp
  | none =>
    have hnew := existingPayment_none hexisting
    have hnew' : ∀ row ∈ u.rows, ¬row.Clash input := fun row hrow => hnew row (hkept hrow)
    obtain ⟨t', ht⟩ := Table.exists_insert hnew
    obtain ⟨u', hu⟩ := Table.exists_insert hnew'
    have hrows := (Table.insert_eq_some ht).1
    have hrows' := (Table.insert_eq_some hu).1
    by_cases hclaimed : (faults .begin ∨ faults .select) ∨ faults .insert ∨ input.amount = .nan ∨
        faults .commit
    · refine ⟨0, [], ?_⟩
      simp only [claimPayment, atomically, claimPaymentTx, hexisting, existingPayment_eq_none hnew',
        ht, hu, List.append_nil]
      split_ifs <;> simp_all
    · refine ⟨0, [input], ?_⟩
      simp only [claimPayment, atomically, claimPaymentTx, hexisting, existingPayment_eq_none hnew',
        ht, hu]
      simp only [not_or] at hclaimed
      simp_all

/-- What one call came to. -/
inductive ClaimOutcome (input : Payment) (t : Payments) : Except StoreError PaymentClaim → Payments → Prop
  | threw (e : StoreError) : ClaimOutcome input t (.error e) t
  | found {existing : Payment} (hrow : existing ∈ t.rows) (hclash : existing.Clash input) :
      ClaimOutcome input t (.ok (existing.claim input)) t
  | claimed {t' : Payments} (hrows : t'.rows = t.rows ++ [input])
      (hnew : ∀ row ∈ t.rows, ¬row.Clash input) : ClaimOutcome input t (.ok .claimed) t'

theorem claimPayment_outcome (faults : Faults) (pick : ℕ) (input : Payment) (t : Payments) :
    ClaimOutcome input t (claimPayment faults pick input t).1 (claimPayment faults pick input t).2 := by
  cases hresult : (claimPayment faults pick input t).1 with
  | error e =>
    rw [show (claimPayment faults pick input t).2 = t from atomically_error hresult]
    exact .threw e
  | ok claim =>
    have hbody : claimPaymentTx faults pick input t = .ok (claim, (claimPayment faults pick input t).2) :=
      atomically_ok hresult
    generalize (claimPayment faults pick input t).2 = t' at hbody ⊢
    unfold claimPaymentTx at hbody
    split at hbody
    · cases hbody
    cases hexisting : existingPayment pick input t with
    | some existing =>
      rw [hexisting] at hbody
      cases hbody
      obtain ⟨hrow, hclash⟩ := existingPayment_some hexisting
      exact .found hrow hclash
    | none =>
      rw [hexisting] at hbody
      dsimp only at hbody
      split_ifs at hbody
      cases ht : t.insert input with
      | none =>
        rw [ht] at hbody
        cases hbody
      | some t' =>
        rw [ht] at hbody
        cases hbody
        exact .claimed (Table.insert_eq_some ht).1 (existingPayment_none hexisting)

/-- Rows are only ever added, at the end. -/
theorem ClaimOutcome.grows {result : Except StoreError PaymentClaim}
    (h : ClaimOutcome input t result t') : t.rows <+: t'.rows := by
  cases h with
  | threw e => exact List.prefix_rfl
  | found hrow hclash => exact List.prefix_rfl
  | claimed hrows hnew =>
    rw [hrows]
    exact List.prefix_append _ _

theorem Payment.Clash.symm {r r' : Payment} (h : r.Clash r') : r'.Clash r := h.imp Eq.symm Eq.symm

theorem claimPayment_first {input : Payment} (hamount : input.amount ≠ .nan) :
    ∃ t, claimPayment (fun _ => false) 0 input .empty = (.ok .claimed, t) ∧ t.rows = [input] := by
  have hnew : ∀ row ∈ (.empty : Payments).rows, ¬row.Clash input := fun _ hrow => absurd hrow List.not_mem_nil
  obtain ⟨t, ht⟩ := Table.exists_insert hnew
  refine ⟨t, ?_, (Table.insert_eq_some ht).1⟩
  have hexisting : existingPayment 0 input .empty = none := rfl
  simp [claimPayment, atomically, claimPaymentTx, hexisting, hamount, ht]

theorem claimPayment_again {input row : Payment} {t : Payments} (hrows : t.rows = [row])
    (hsame : row.requestId = input.requestId ∧ row.fingerprint = input.fingerprint) :
    claimPayment (fun _ => false) 0 input t = (.ok .sameRequest, t) := by
  have hclash : row.Clash input := .inr hsame.1
  have hexisting : existingPayment 0 input t = some row := by
    simp [existingPayment, hrows, hclash]
  simp [claimPayment, atomically, claimPaymentTx, hexisting, Payment.claim, hsame]

/-- A response that is found was stored for the order it is asked for. -/
theorem cachedResponse_some {fails : Bool} {requestId : JsString} {fingerprint : Text} {t : Responses}
    {response : JsJson} (h : cachedResponse fails requestId fingerprint t = .ok (some response)) :
    ∃ row, t requestId = some row ∧ row.fingerprint = fingerprint ∧
      parseJson row.responseJson = some response := by
  unfold cachedResponse at h
  split at h
  · cases h
  · cases hrow : t requestId with
    | none =>
      rw [hrow] at h
      cases h
    | some row =>
      rw [hrow] at h
      dsimp only at h
      split_ifs at h with hne
      cases hread : parseJson row.responseJson with
      | none =>
        rw [hread] at h
        cases h
      | some response' =>
        rw [hread] at h
        cases h
        exact ⟨row, rfl, by simpa using hne, hread⟩

/-! Replays. -/

/-- A call that is answered in favour of its caller. -/
def Granted (result : Except StoreError PaymentClaim) : Prop :=
  result = .ok .claimed ∨ result = .ok .sameRequest

/-- The transaction presented is bound to the request presented. -/
def Binds (t : Payments) (input : Payment) : Prop :=
  ∃ row ∈ t.rows, row.txnId = input.txnId ∧ row.requestId = input.requestId ∧
    row.fingerprint = input.fingerprint

/-- The request presented is already bound to another transaction than the one presented. -/
def BoundElsewhere (t : Payments) (input : Payment) : Prop :=
  ∃ row ∈ t.rows, row.requestId = input.requestId ∧ row.fingerprint = input.fingerprint ∧
    row.txnId ≠ input.txnId

/-! Payments of any strings. -/

def Payment.bound (input : Payment) : Payment :=
  { input with
    txnId := bindString input.txnId
    requestId := bindString input.requestId
    fingerprint := bindText input.fingerprint
    service := bindString input.service
    roomId := bindString input.roomId }

/-- `SELECT request_id, fingerprint` -/
def Payment.selected (row : Payment) : Payment :=
  { row with requestId := column row.requestId, fingerprint := column row.fingerprint }

namespace Sqlite

/-- The statements search and insert what is bound; what is read back is compared with the input. -/
def claimPaymentTx (faults : Faults) (pick : ℕ) (input : Payment) :
    StateT Payments (Except StoreError) PaymentClaim := fun t =>
  if faults .begin ∨ faults .select then .error .sqlite
  else
    match existingPayment pick input.bound t with
    | some existing => .ok (existing.selected.claim input, t)
    | none =>
      if faults .insert then .error .sqlite
      else if input.amount = .nan then .error .constraint
      else
        match t.insert input.bound with
        | none => .error .constraint
        | some t' => .ok (.claimed, t')

def claimPayment (faults : Faults) (pick : ℕ) (input : Payment) (t : Payments) :
    Except StoreError PaymentClaim × Payments :=
  atomically (if faults .commit then .error .sqlite else .ok ()) (claimPaymentTx faults pick input) t

end Sqlite

/-- The strings that a claim goes by are kept. -/
structure Payment.ReadsBack (input : Payment) : Prop where
  txnId : IsWellFormed input.txnId
  requestId : Arena.ReadsBack input.requestId
  fingerprint : TextReadsBack input.fingerprint

/-- What is read of a row is what the row holds. -/
def Payment.Readable (row : Payment) : Prop := 0 ∉ row.requestId ∧ 0 ∉ row.fingerprint

theorem Payment.ReadsBack.bound_eq (h : input.ReadsBack) :
    input.bound = { input with
      service := bindString input.service
      roomId := bindString input.roomId } := by
  have htxn : bindString input.txnId = input.txnId := h.txnId
  have hid : bindString input.requestId = input.requestId := h.requestId.wellFormed
  rw [Payment.bound, htxn, hid, h.fingerprint.wellFormed]

theorem Payment.ReadsBack.readable (h : input.ReadsBack) : input.bound.Readable := by
  rw [h.bound_eq]
  exact ⟨h.requestId.noNul, h.fingerprint.noNul⟩

theorem Payment.Readable.claim_eq {row : Payment} (hrow : row.Readable) (h : input.ReadsBack) :
    row.selected.claim input = row.claim input.bound := by
  rw [h.bound_eq, Payment.selected, column_eq_iff.2 hrow.1, column_eq_iff.2 hrow.2]
  rfl

/-- Of strings that are kept nothing is lost. -/
theorem Sqlite.claimPayment_eq (h : input.ReadsBack) (hrows : ∀ row ∈ t.rows, row.Readable) :
    Sqlite.claimPayment faults pick input t = Arena.claimPayment faults pick input.bound t := by
  have hbody : Sqlite.claimPaymentTx faults pick input t = Arena.claimPaymentTx faults pick input.bound t := by
    rw [Sqlite.claimPaymentTx, Arena.claimPaymentTx]
    cases hexisting : existingPayment pick input.bound t with
    | none => rfl
    | some existing =>
      have hrow := hrows existing (existingPayment_some hexisting).1
      simp only [hrow.claim_eq h]
  rw [Sqlite.claimPayment, Arena.claimPayment, atomically, atomically, hbody]

theorem binds_bound (h : input.ReadsBack) : Binds t input.bound ↔ Binds t input := by
  rw [h.bound_eq]
  rfl

theorem boundElsewhere_bound (h : input.ReadsBack) :
    BoundElsewhere t input.bound ↔ BoundElsewhere t input := by
  rw [h.bound_eq]
  rfl

abbrev ClaimLog := List (Payment × Except StoreError PaymentClaim)

/-- Sequences of calls on an empty store, in the order of their transactions, every call made in a
state that `ok` admits. -/
inductive ClaimRun (ok : Payments → Payment → Prop) : ClaimLog → Payments → Prop
  | empty : ClaimRun ok [] .empty
  | call {log : ClaimLog} {t : Payments} (h : ClaimRun ok log t) (input : Payment) (faults : Faults)
      (pick : ℕ) (hok : ok t input) :
      ClaimRun ok (log ++ [(input, (Sqlite.claimPayment faults pick input t).1)])
        (Sqlite.claimPayment faults pick input t).2

theorem ClaimOutcome.binds {result : Except StoreError PaymentClaim}
    (h : ClaimOutcome input t result t') (hgranted : Granted result)
    (hhere : ¬BoundElsewhere t input) : Binds t' input := by
  cases h with
  | threw e => rcases hgranted with h | h <;> cases h
  | @found existing hrow hclash =>
    by_cases hsame : existing.requestId = input.requestId ∧ existing.fingerprint = input.fingerprint
    · refine ⟨existing, hrow, ?_, hsame.1, hsame.2⟩
      by_contra htxn
      exact hhere ⟨existing, hrow, hsame.1, hsame.2, htxn⟩
    · rw [Payment.claim, if_neg hsame] at hgranted
      rcases hgranted with h | h <;> cases h
  | claimed hrows hnew => exact ⟨input, by rw [hrows]; simp, rfl, rfl, rfl⟩

/-- One call binds what it grants, whatever row the lookup takes, exactly when its request is not
bound to another transaction. -/
theorem claim_binds_iff : (∀ faults pick, Granted (claimPayment faults pick input t).1 →
      Binds (claimPayment faults pick input t).2 input) ↔ ¬BoundElsewhere t input := by
  constructor
  · rintro h ⟨row, hrow, hid, hfingerprint, htxn⟩
    obtain ⟨pick, hpick⟩ := exists_pick hrow (.inr hid)
    have hcall : claimPayment (fun _ => false) pick input t = (.ok .sameRequest, t) := by
      simp [claimPayment, atomically, claimPaymentTx, hpick, Payment.claim, hid, hfingerprint]
    have hbinds := h (fun _ => false) pick
    rw [hcall] at hbinds
    obtain ⟨row', hrow', htxn', hid', -⟩ := hbinds (.inr rfl)
    have hsame : row = row' :=
      Table.eq_of_clash Payment.Clash.symm hrow hrow' (.inr (hid.trans hid'.symm))
    exact htxn (hsame ▸ htxn')
  · intro hhere faults pick hgranted
    exact (claimPayment_outcome faults pick input t).binds hgranted hhere

theorem Binds.mono (h : Binds t input) (hrows : t.rows <+: t'.rows) : Binds t' input := by
  obtain ⟨row, hrow, hbound⟩ := h
  exact ⟨row, hrows.subset hrow, hbound⟩

/-- A payment that is kept as it is leaves a row that is read back so. -/
theorem readable_claimPayment (h : input.ReadsBack) (hrows : ∀ row ∈ t.rows, row.Readable) :
    ∀ row ∈ (Sqlite.claimPayment faults pick input t).2.rows, row.Readable := by
  rw [Sqlite.claimPayment_eq h hrows]
  have houtcome := claimPayment_outcome faults pick input.bound t
  generalize (claimPayment faults pick input.bound t).1 = result at houtcome
  generalize (claimPayment faults pick input.bound t).2 = t' at houtcome ⊢
  cases houtcome with
  | threw e => exact hrows
  | found hrow hclash => exact hrows
  | claimed hadded hnew =>
    intro row hrow
    rw [hadded] at hrow
    rcases List.mem_append.1 hrow with hrow | hrow
    · exact hrows row hrow
    · rw [List.mem_singleton.1 hrow]
      exact h.readable

theorem ClaimRun.readable {ok : Payments → Payment → Prop} {log : ClaimLog} (h : ClaimRun ok log t)
    (hok : ∀ t input, ok t input → input.ReadsBack) : ∀ row ∈ t.rows, row.Readable := by
  induction h with
  | empty => exact fun _ hrow => absurd hrow List.not_mem_nil
  | call h input faults pick hcall ih => exact readable_claimPayment (hok _ _ hcall) ih

theorem ClaimRun.binds {log : ClaimLog}
    (h : ClaimRun (fun t input => input.ReadsBack ∧ ¬BoundElsewhere t input) log t)
    {input : Payment} {result : Except StoreError PaymentClaim} (hmem : (input, result) ∈ log)
    (hgranted : Granted result) : Binds t input := by
  induction h with
  | empty => cases hmem
  | @call log t h input' faults pick hok ih =>
    have hrows := h.readable fun _ _ hok => hok.1
    have houtcome := claimPayment_outcome faults pick input'.bound t
    rw [Sqlite.claimPayment_eq hok.1 hrows] at hmem ⊢
    rcases List.mem_append.1 hmem with hmem | hmem
    · exact (ih hmem).mono houtcome.grows
    · cases List.mem_singleton.1 hmem
      rw [← binds_bound hok.1]
      refine houtcome.binds hgranted ?_
      rw [boundElsewhere_bound hok.1]
      exact hok.2

/-- A payment cannot be replayed across requests as long as its ids are kept as they are and no
request that is bound to one transaction is presented with another. -/
theorem payment_not_replayed (log : ClaimLog) (t : Payments) :
    (∀ input, ClaimRun (fun _ input => input.ReadsBack) log t → input.ReadsBack →
      ((∀ faults pick, Granted (Sqlite.claimPayment faults pick input t).1 →
          Binds (Sqlite.claimPayment faults pick input t).2 input) ↔ ¬BoundElsewhere t input)) ∧
    (ClaimRun (fun t input => input.ReadsBack ∧ ¬BoundElsewhere t input) log t →
      (∀ input result, (input, result) ∈ log → Granted result → Binds t input) ∧
      ∀ input result input' result', (input, result) ∈ log → (input', result') ∈ log →
        Granted result → Granted result' → input.txnId = input'.txnId →
        input.requestId = input'.requestId ∧ input.fingerprint = input'.fingerprint) := by
  constructor
  · intro input h hinput
    have hrows := h.readable fun _ _ hok => hok
    simp only [Sqlite.claimPayment_eq hinput hrows, ← binds_bound hinput, ← boundElsewhere_bound hinput]
    exact claim_binds_iff
  · intro h
    refine ⟨fun input result hmem => h.binds hmem, ?_⟩
    intro input result input' result' hmem hmem' hgranted hgranted' htxn
    obtain ⟨row, hrow, htxn₁, hid, hfingerprint⟩ := h.binds hmem hgranted
    obtain ⟨row', hrow', htxn₂, hid', hfingerprint'⟩ := h.binds hmem' hgranted'
    have hsame : row = row' := Table.eq_of_clash Payment.Clash.symm hrow hrow'
      (.inl (htxn₁.trans (htxn.trans htxn₂.symm)))
    subst hsame
    exact ⟨hid.symm.trans hid', hfingerprint.symm.trans hfingerprint'⟩

/-- The first order of one seat, paid for with the transaction `txn`. -/
def orderPaidWith (txn : String) : Payment :=
  ⟨js txn, js "order-1", codes "fingerprint-1", js "verify_delivery", (Price.credits 7).number, js "rom_1"⟩

/-- Another order, for which the second transaction is presented again. -/
def otherOrder : Payment :=
  ⟨js "txn_2", js "order-2", codes "fingerprint-2", js "verify_delivery", (Price.credits 7).number,
    js "rom_1"⟩

/-- One order is presented twice, another once. -/
theorem payment_not_replayed_orders : ∃ log t,
    ClaimRun (fun t input => input.ReadsBack ∧ ¬BoundElsewhere t input) log t ∧
      (orderPaidWith "txn_1", .ok .sameRequest) ∈ log ∧ Binds t (orderPaidWith "txn_1") ∧
      Binds t otherOrder := by
  let ok : Payments → Payment → Prop := fun t input => input.ReadsBack ∧ ¬BoundElsewhere t input
  have horder : (orderPaidWith "txn_1").ReadsBack := ⟨by decide, by decide, by decide⟩
  have hother : otherOrder.ReadsBack := ⟨by decide, by decide, by decide⟩
  have hempty : ClaimRun ok [] .empty := .empty
  have hpaid := hempty.call (orderPaidWith "txn_1") (fun _ => false) 0
    ⟨horder, by unfold BoundElsewhere; decide +kernel⟩
  have hagain := hpaid.call (orderPaidWith "txn_1") (fun _ => false) 0
    ⟨horder, by unfold BoundElsewhere; decide +kernel⟩
  have hrun := hagain.call otherOrder (fun _ => false) 0
    ⟨hother, by unfold BoundElsewhere; decide +kernel⟩
  obtain ⟨hbinds, -⟩ := (payment_not_replayed _ _).2 hrun
  refine ⟨_, _, hrun, ?_, ?_, ?_⟩
  · decide +kernel
  · exact hbinds (orderPaidWith "txn_1") (.ok .sameRequest) (by decide +kernel) (.inr rfl)
  · exact hbinds otherOrder (.ok .claimed) (by decide +kernel) (.inl rfl)

/-- A second transaction is accepted for an order without being bound to it, and then bound to
another order. -/
theorem payment_replayed :
    ∃ log t, ClaimRun (fun _ input => input.ReadsBack) log t ∧
      (orderPaidWith "txn_2", .ok .sameRequest) ∈ log ∧ (otherOrder, .ok .claimed) ∈ log ∧
      ¬Binds t (orderPaidWith "txn_2") := by
  have hempty : ClaimRun (fun _ input => input.ReadsBack) [] .empty := .empty
  have hpaid := hempty.call (orderPaidWith "txn_1") (fun _ => false) 0
    ⟨by decide, by decide, by decide⟩
  have hagain := hpaid.call (orderPaidWith "txn_2") (fun _ => false) 0
    ⟨by decide, by decide, by decide⟩
  have hrun := hagain.call otherOrder (fun _ => false) 0 ⟨by decide, by decide, by decide⟩
  refine ⟨_, _, hrun, ?_, ?_, ?_⟩
  · decide +kernel
  · decide +kernel
  · unfold Binds
    decide +kernel

end Counterparty.Arena
