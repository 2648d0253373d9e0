import Counterparty.Arena.Quote
import Counterparty.Library.Infix

/-! The memo that a quote asks for, and the requests that a transfer with this memo can pay. -/
namespace Counterparty.Arena

open Json Infix

theorem space_not_mem {requestId : JsString} (h : requestIdPattern requestId) : 32 ∉ requestId := by
  intro hmem
  simp only [requestIdPattern, Bool.and_eq_true, List.all_eq_true] at h
  have hspace := h.2 32 hmem
  revert hspace
  decide

variable {item : LedgerItem} {expected : ExpectedPayment} {quoted : ParsedRequest}
  {payee memo : JsString}

/-- A transfer of the price is turned down for its memo only. -/
theorem matches_iff_of_pays (h : Pays item expected) (hmemo : item.memo = some memo) :
    ledgerPaymentMatches item expected ↔ expected.requestId <:+: memo ∧ expected.service <:+: memo := by
  obtain ⟨n, hprice, hamount⟩ := h.amount_eq
  simp [ledgerPaymentMatches, amountMatches, h.id_eq, hprice, hamount, h.addressedTo_eq, h.roomId_eq,
    h.byInstanceId_eq, hmemo]

theorem memo_of_quote (h : item.memo.map .str = field "memo" (paymentRequired quoted payee)) :
    item.memo = some (js "Counterparty" ++ 32 :: (quoted.service ++ 32 :: quoted.requestId)) := by
  have hsaid := h.trans (field_paymentRequired quoted payee).2.1
  have hwords : js "Counterparty " ++ quoted.service ++ js " " ++ quoted.requestId =
      js "Counterparty" ++ 32 :: (quoted.service ++ 32 :: quoted.requestId) := by
    have hfirst : js "Counterparty " = js "Counterparty" ++ [32] := by decide
    have hspace : js " " = [32] := by decide
    simp [hfirst, hspace]
  rw [hwords] at hsaid
  simpa using hsaid

/-- The request ids that occur in the memo of a quote lie within one of its words. -/
theorem requestId_infix_memo_iff {requestId : JsString} (h : requestIdPattern requestId) :
    requestId <:+: js "Counterparty" ++ 32 :: (quoted.service ++ 32 :: quoted.requestId) ↔
      requestId <:+: js "Counterparty" ∨ requestId <:+: quoted.service ∨
        requestId <:+: quoted.requestId := by
  have hspace := space_not_mem h
  rw [infix_append_cons_iff hspace, infix_append_cons_iff hspace]

/-- A transfer for one quote pays for the other requests whose ids occur in a word of its memo. -/
theorem pays_only_quoted_iff (hmemo : item.memo.map .str = field "memo" (paymentRequired quoted payee))
    (hpays : Pays item expected) (hservice : expected.service = quoted.service)
    (hid : requestIdPattern expected.requestId) :
    (¬ledgerPaymentMatches item expected ∧
        ledgerPaymentMatches item { expected with requestId := quoted.requestId }) ↔
      ¬expected.requestId <:+: quoted.requestId ∧ ¬expected.requestId <:+: js "Counterparty" ∧
        ¬expected.requestId <:+: quoted.service := by
  have hsaid := memo_of_quote hmemo
  have hpays' : Pays item { expected with requestId := quoted.requestId } :=
    ⟨hpays.id_eq, hpays.amount_eq, hpays.addressedTo_eq, hpays.roomId_eq, hpays.byInstanceId_eq⟩
  have hnamed : quoted.service <:+:
      js "Counterparty" ++ 32 :: (quoted.service ++ 32 :: quoted.requestId) :=
    ⟨js "Counterparty" ++ [32], 32 :: quoted.requestId, by simp⟩
  have hquoted : quoted.requestId <:+:
      js "Counterparty" ++ 32 :: (quoted.service ++ 32 :: quoted.requestId) :=
    (requestId_infix_memo_iff quoted.requestId_pattern).2 (.inr (.inr List.infix_rfl))
  have hown : ledgerPaymentMatches item { expected with requestId := quoted.requestId } :=
    (matches_iff_of_pays hpays' hsaid).2 ⟨hquoted, hservice ▸ hnamed⟩
  have hother : ledgerPaymentMatches item expected ↔ expected.requestId <:+: js "Counterparty" ∨
      expected.requestId <:+: quoted.service ∨ expected.requestId <:+: quoted.requestId := by
    rw [matches_iff_of_pays hpays hsaid, requestId_infix_memo_iff hid, hservice]
    exact and_iff_left hnamed
  rw [and_iff_left hown, hother]
  tauto

/-! Two orders, the id of the one within the id of the other. -/

def longOrder : ParsedRequest where
  senderSeat := js "i_AAAAAAAAAA"
  sourceMessageId := js "msg_1"
  requestId := js "order-10"
  service := js "trust_snapshot"
  price := .credits 4
  input := []
  paymentTxnId := none
  senderSeat_seat := seatPattern_buyer
  requestId_pattern := by decide
  service_priced := priceOf_trustSnapshot
  input_keys := .obj (by simp) (by simp) (by simp)

def longTransfer : LedgerItem where
  id := some (js "txn_AAAAAAAAAA")
  amount := some (Price.credits 4).number
  memo := some (js "Counterparty trust_snapshot order-10")
  roomId := some (js "rom_1")
  addressedTo := some (js "p_AAAAAAAAAA")
  byInstanceId := some (js "i_AAAAAAAAAA")

def expectedFor (requestId : JsString) : ExpectedPayment where
  txnId := js "txn_AAAAAAAAAA"
  payerSeat := js "i_AAAAAAAAAA"
  payee := js "p_AAAAAAAAAA"
  amount := .credits 4
  roomId := js "rom_1"
  requestId := requestId
  service := js "trust_snapshot"

theorem pays_longTransfer (requestId : JsString) : Pays longTransfer (expectedFor requestId) :=
  ⟨rfl, ⟨4, rfl, rfl⟩, rfl, rfl, rfl⟩

theorem memo_longTransfer : longTransfer.memo.map .str =
    field "memo" (paymentRequired longOrder (js "p_AAAAAAAAAA")) := by
  have hwords : js "Counterparty trust_snapshot order-10" =
      js "Counterparty " ++ js "trust_snapshot" ++ js " " ++ js "order-10" := by decide
  exact (congrArg (fun memo => some (Json.str memo)) hwords).trans
    (field_paymentRequired longOrder _).2.1.symm

theorem pays_only_quoted_iff_orders :
    (¬ledgerPaymentMatches longTransfer (expectedFor (js "order-7")) ∧
        ledgerPaymentMatches longTransfer
          { expectedFor (js "order-7") with requestId := longOrder.requestId }) ↔
      ¬js "order-7" <:+: longOrder.requestId ∧ ¬js "order-7" <:+: js "Counterparty" ∧
        ¬js "order-7" <:+: longOrder.service :=
  pays_only_quoted_iff memo_longTransfer
    (pays_longTransfer _) rfl (by decide)

/-- The transfer for `order-10` pays for `order-1` as well. -/
theorem pays_other_order : ¬∀ (quoted : ParsedRequest) (payee : JsString) (item : LedgerItem)
    (expected : ExpectedPayment),
    item.memo.map .str = field "memo" (paymentRequired quoted payee) → Pays item expected →
    expected.service = quoted.service → requestIdPattern expected.requestId →
    expected.requestId ≠ quoted.requestId → ¬ledgerPaymentMatches item expected ∧
      ledgerPaymentMatches item { expected with requestId := quoted.requestId } := by
  intro h
  have hmatches : ledgerPaymentMatches longTransfer (expectedFor (js "order-1")) := by
    rw [matches_iff_of_pays (pays_longTransfer _) rfl]
    exact ⟨by decide, by decide⟩
  exact (h longOrder (js "p_AAAAAAAAAA") longTransfer (expectedFor (js "order-1"))
    memo_longTransfer (pays_longTransfer _) rfl (by decide) (by decide)).1 hmatches

end Counterparty.Arena
