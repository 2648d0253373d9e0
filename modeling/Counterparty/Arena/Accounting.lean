import Mathlib.Algebra.BigOperators.Ring.Finset
import Counterparty.Library.Budget
import Counterparty.Arena.Authority
import Counterparty.Arena.Grammar
import Counterparty.Arena.ServiceSpec

/-! What a seat is served, and what it pays: in every run of any number of processes, the orders that
turns are executed for cost no more than what the seat transferred. -/
namespace Counterparty.Arena

open Interleave

/-- `PRICES[service]`, as credits. -/
def Price.amount : Price → ℕ
  | .credits n => n
  | .method _ | .prototype => 0

/-- What a transfer moves. -/
def transferAmount : JsNumber → ℚ
  | .finite false mag => mag.1
  | _ => 0

def LedgerItem.credits (item : LedgerItem) : ℚ := (item.amount.map transferAmount).getD 0

section Accounts

variable (sha256 : Text → Text) (seat : JsString)

/-- The order that a turn is executed for, and its price, where it is an order of the seat. -/
def executedOrder : ArenaEvent → Option (Order × Price)
  | .called req (.executeTurn _) _ =>
    if req.parsed.senderSeat = seat then some (req.order sha256, req.parsed.price) else none
  | _ => none

/-- The orders of the seat that turns were executed for, each of them once. -/
def executedOrders (history : List ArenaEvent) : List (Order × Price) :=
  (history.filterMap (executedOrder sha256 seat)).dedup

/-- What they cost. -/
def charged (history : List ArenaEvent) : ℕ :=
  ((executedOrders sha256 seat history).map fun o => o.2.amount).sum

/-- The payees of the processes that took part. -/
def payees (history : List ArenaEvent) : List JsString := history.map fun e => e.request.process.payee

/-- The transfers of the seat to the payees. -/
def transfers (payees : List JsString) (ledger : Ledger) : List LedgerItem :=
  ledger.rows.filter fun item => item.byInstanceId = some seat ∧ ∃ payee ∈ payees, item.addressedTo = some payee

/-- What they move. -/
def transferred (payees : List JsString) (ledger : Ledger) : ℚ :=
  ((transfers seat payees ledger).map LedgerItem.credits).sum

end Accounts

variable {sha256 : Text → Text} {seat : JsString} {ledger : Ledger} {history : List ArenaEvent}
  {c : ArenaConfig} {o o' : Order × Price} {item : LedgerItem}

theorem transferAmount_nonneg (x : JsNumber) : 0 ≤ transferAmount x := by
  unfold transferAmount
  split
  · rename_i mag
    obtain ⟨n, t, -, -, -, hvalue⟩ := mag.2
    rw [hvalue]
    positivity
  · exact le_rfl

theorem LedgerItem.credits_nonneg (item : LedgerItem) : 0 ≤ item.credits := by
  unfold LedgerItem.credits
  cases item.amount with
  | none => simp
  | some x => exact transferAmount_nonneg x

/-- A price is a small number of credits. -/
theorem price_lt {service : JsString} {n : ℕ} (h : priceOf service = some (.credits n)) : n < 2 ^ 53 := by
  rcases priceOf_cases h with ⟨m, hm, hprice⟩ | ⟨-, hnone⟩
  · cases hprice
    simp only [offered, List.mem_cons, Prod.mk.injEq, List.not_mem_nil, or_false] at hm
    omega
  · exact absurd rfl (hnone n)

/-- The transfer pays for the order. -/
structure PaysFor (payments : Payments) (o : Order × Price) (item : LedgerItem) : Prop where
  row : ∃ row ∈ payments.rows, row.order = o.1 ∧ item.id = some row.txnId
  amount : ∃ n < 2 ^ 53, o.2 = .credits n ∧ item.amount = some (Price.credits n).number

theorem PaysFor.credits_eq {payments : Payments} (h : PaysFor payments o item) :
    (o.2.amount : ℚ) = item.credits := by
  obtain ⟨n, hn, hprice, hamount⟩ := h.amount
  obtain ⟨mag, hbound, hmag⟩ := bound_cases hn
  have hnumber : (Price.credits n).number = .finite false mag := hbound
  rw [hprice, LedgerItem.credits, hamount, hnumber]
  exact hmag.symm

/-- No transfer pays for two orders. -/
theorem PaysFor.unique {payments : Payments} (h : PaysFor payments o item) (h' : PaysFor payments o' item) :
    o = o' := by
  obtain ⟨row, hrow, horder, hid⟩ := h.row
  obtain ⟨row', hrow', horder', hid'⟩ := h'.row
  have htxn : row.txnId = row'.txnId := Option.some.inj (hid.symm.trans hid')
  have hsame : row = row' := Table.eq_of_clash Payment.Clash.symm hrow hrow' (.inl htxn)
  obtain ⟨n, -, hprice, hamount⟩ := h.amount
  obtain ⟨n', hn', hprice', hamount'⟩ := h'.amount
  have hnumber : bound n = bound n' := Option.some.inj (hamount.symm.trans hamount')
  apply Prod.ext
  · rw [← horder, ← horder', hsame]
  · rw [hprice, hprice', bound_inj hn' hnumber]

/-- A transfer of the seat pays for every order of it that a turn is executed for. -/
theorem exists_paysFor (hsha : Function.Injective sha256) (hrun : ArenaRun sha256 ledger history c)
    (h : o ∈ executedOrders sha256 seat history) :
    ∃ item ∈ transfers seat (payees history) c.store.ledger, PaysFor c.store.payments o item := by
  obtain ⟨e, he, horder⟩ := List.mem_filterMap.1 (List.mem_dedup.1 h)
  unfold executedOrder at horder
  split at horder
  · rename_i req turn r
    split_ifs at horder with hseat
    cases horder
    have hsound := (arena_good hrun).inv
    obtain ⟨-, hpaid⟩ := hsound.executed req turn r he
    obtain ⟨row, hrow, hid, hfingerprint, claimer, hclaimed, item, hitem, hpays⟩ :=
      paidByTransfer_of_sound hsha hsound hpaid
    obtain ⟨n, hprice, hamount⟩ := hpays.amount_eq
    refine ⟨item, ?_, ⟨row, hrow, Prod.ext hid hfingerprint, hpays.id_eq⟩, n, ?_, hprice, hamount⟩
    · refine List.mem_filter.2 ⟨hitem, decide_eq_true ⟨hseat ▸ hpays.byInstanceId_eq, ?_⟩⟩
      exact ⟨_, List.mem_map_of_mem hclaimed, hpays.addressedTo_eq⟩
    · have hpriced : req.parsed.price = .credits n := hprice
      exact price_lt (hpriced ▸ req.parsed.service_priced)
  · cases horder

/-- Whatever interleaves, crashes and is retried, a seat is never served more than it paid for: the
distinct orders that turns are executed for cost no more than what the seat transferred to the payees. -/
theorem served_within_transfers (hsha : Function.Injective sha256)
    (hrun : ArenaRun sha256 ledger history c) (seat : JsString) :
    (charged sha256 seat history : ℚ) ≤ transferred seat (payees history) c.store.ledger := by
  have hcovered : ((executedOrders sha256 seat history).map fun o => (o.2.amount : ℚ)).sum ≤
      transferred seat (payees history) c.store.ledger :=
    List.sum_le_sum_of_cover (List.nodup_dedup _) (fun o ho => exists_paysFor hsha hrun ho)
      (fun o o' item h h' => h.unique h') (fun o item h => h.credits_eq.le) LedgerItem.credits_nonneg
  calc (charged sha256 seat history : ℚ)
      = ((executedOrders sha256 seat history).map fun o => (o.2.amount : ℚ)).sum := by
        rw [charged, Nat.cast_list_sum, List.map_map]
        rfl
    _ ≤ transferred seat (payees history) c.store.ledger := hcovered

/-- The seat of an order that was executed paid for it. -/
theorem served_within_transfers_order : ∃ history c, ArenaRun id orderLedger history c ∧
    7 ≤ charged id (js "i_AAAAAAAAAA") history ∧ (charged id (js "i_AAAAAAAAAA") history : ℚ) ≤
      transferred (js "i_AAAAAAAAAA") (payees history) c.store.ledger := by
  obtain ⟨history, s, hrun, -, -, -, hmem⟩ :=
    run_orderWith id .null .null (rfl : (succeededTurn "trace-1").Succeeded) (exec_answer _)
  refine ⟨history, _, hrun, ?_, served_within_transfers Function.injective_id hrun _⟩
  have horder : executedOrder id (js "i_AAAAAAAAAA") (.called (orderWith .null .null)
      (.executeTurn (routerTurn (orderWith .null .null))) (.ok (succeededTurn "trace-1")) : ArenaEvent) =
        some ((orderWith .null .null).order id, .credits 7) := by
    simp [executedOrder, orderWith]
  have hexecuted : ((orderWith .null .null).order id, Price.credits 7) ∈
      executedOrders id (js "i_AAAAAAAAAA") history :=
    List.mem_dedup.2 (List.mem_filterMap.2 ⟨_, hmem, horder⟩)
  exact List.single_le_sum (fun _ _ => Nat.zero_le _) _ (List.mem_map_of_mem hexecuted)

end Counterparty.Arena
