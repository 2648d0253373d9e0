import Counterparty.Library.Table
import Counterparty.Arena.Request

/-! The SharedNet ledger, and which of its transfers pays for a request. -/
namespace Counterparty.Arena

structure LedgerItem where
  id : Option JsString
  amount : Option JsNumber
  memo : Option JsString
  roomId : Option JsString
  addressedTo : Option JsString
  byInstanceId : Option JsString
deriving DecidableEq

/-- Ids are never used twice. -/
def LedgerItem.Clash (r r' : LedgerItem) : Prop := r.id = r'.id

abbrev Ledger := Table LedgerItem.Clash

/-- `PRICES[service]` used as a number; what every object inherits is none. -/
def Price.number : Price → JsNumber
  | .credits n => FloatFormat.binary64.ofRat n
  | .method _ | .prototype => .nan

structure ExpectedPayment where
  txnId : JsString
  payerSeat : JsString
  payee : JsString
  amount : Price
  roomId : JsString
  requestId : JsString
  service : JsString
deriving DecidableEq

/-- `item.amount === expected.amount`; only numbers are ever equal here. -/
def amountMatches (amount : Option JsNumber) : Price → Bool
  | .credits n => amount == some (Price.credits n).number
  | .method _ | .prototype => false

def ledgerPaymentMatches (item : LedgerItem) (expected : ExpectedPayment) : Bool :=
  item.id == some expected.txnId && amountMatches item.amount expected.amount &&
    item.addressedTo == some expected.payee && item.roomId == some expected.roomId &&
    item.byInstanceId == some expected.payerSeat &&
    decide (expected.requestId <:+: item.memo.getD []) && decide (expected.service <:+: item.memo.getD [])

/-- The check on a page of the ledger, as `sharednet ledger --last 100` lists it. -/
def verifyPayment (expected : ExpectedPayment) (page : List LedgerItem) : Bool :=
  if ¬sharednetTxnPattern expected.txnId then false
  else if ¬sharednetSeatPattern expected.payerSeat then false
  else if ¬sharednetAddressPattern expected.payee then false
  else
    match page.find? fun candidate => candidate.id == some expected.txnId with
    | none => false
    | some item => ledgerPaymentMatches item expected

/-- A transfer of exactly the price, in the Room, from the seat to the payee. -/
structure Pays (item : LedgerItem) (expected : ExpectedPayment) : Prop where
  id_eq : item.id = some expected.txnId
  amount_eq : ∃ n, expected.amount = .credits n ∧ item.amount = some (Price.credits n).number
  addressedTo_eq : item.addressedTo = some expected.payee
  roomId_eq : item.roomId = some expected.roomId
  byInstanceId_eq : item.byInstanceId = some expected.payerSeat

theorem pays_of_matches {item : LedgerItem} {expected : ExpectedPayment}
    (h : ledgerPaymentMatches item expected) : Pays item expected := by
  simp only [ledgerPaymentMatches, Bool.and_eq_true, beq_iff_eq] at h
  obtain ⟨⟨⟨⟨⟨⟨hid, hamount⟩, hpayee⟩, hroom⟩, hseat⟩, -⟩, -⟩ := h
  refine ⟨hid, ?_, hpayee, hroom, hseat⟩
  cases hprice : expected.amount with
  | credits n => exact ⟨n, rfl, by simpa [amountMatches, hprice] using hamount⟩
  | method name => simp [amountMatches, hprice] at hamount
  | prototype => simp [amountMatches, hprice] at hamount

/-- A payment is verified by a transfer on the page that pays it. -/
theorem exists_pays {expected : ExpectedPayment} {page : List LedgerItem}
    (h : verifyPayment expected page) : ∃ item ∈ page, Pays item expected := by
  unfold verifyPayment at h
  split_ifs at h
  split at h
  · cases h
  · rename_i item hfind
    exact ⟨item, List.mem_of_find?_eq_some hfind, pays_of_matches h⟩

/-! The newest entries. -/

/-- The page of `sharednet ledger --last 100`. -/
def newest (ledger : Ledger) : List LedgerItem := ledger.rows.drop (ledger.rows.length - 100)

theorem newest_sublist (ledger : Ledger) : (newest ledger).Sublist ledger.rows :=
  List.drop_sublist _ _

variable {ledger : Ledger} {item : LedgerItem} {expected : ExpectedPayment}

theorem find?_newest (hitem : item ∈ newest ledger) (hid : item.id = some expected.txnId) :
    (newest ledger).find? (fun candidate => candidate.id == some expected.txnId) = some item := by
  cases hfind : (newest ledger).find? fun candidate => candidate.id == some expected.txnId with
  | none =>
    have hnot := List.find?_eq_none.1 hfind item hitem
    simp [hid] at hnot
  | some found =>
    have hfound : found.id = some expected.txnId := by simpa using List.find?_some hfind
    have hsub := newest_sublist ledger
    rw [Table.eq_of_clash Eq.symm (hsub.subset (List.mem_of_find?_eq_some hfind))
      (hsub.subset hitem) (hfound.trans hid.symm)]

/-- A transfer among the newest entries is found and decides the check. -/
theorem verifyPayment_newest (hitem : item ∈ newest ledger) (hid : item.id = some expected.txnId)
    (htxn : sharednetTxnPattern expected.txnId) (hseat : sharednetSeatPattern expected.payerSeat)
    (hpayee : sharednetAddressPattern expected.payee) :
    verifyPayment expected (newest ledger) = ledgerPaymentMatches item expected := by
  simp [verifyPayment, htxn, hseat, hpayee, find?_newest hitem hid]

end Counterparty.Arena
