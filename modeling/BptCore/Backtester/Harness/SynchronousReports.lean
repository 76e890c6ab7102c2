import BptCore.Backtester.Harness.Backtest
import BptCore.Strategy.Order.SendNewOrder
import Mathlib.Data.List.Induction

/-!
# Reports from inside the call

A gateway may report on an order before its `send_new_order` returns, as that of a backtest does.
The order manager makes the record only after the return, so such a report finds none.

* **`Reflects`** — the record says what the reports say.
* **`reflected_iff_unheard`** — over a run of sends, the records say what was reported exactly when
  nothing that matters was reported inside a call.
-/

namespace BptCore.Strategy

namespace OrderSends

/-- The record that the reports make of the order, had it been on record from the start. -/
def expected (send : Send) (reports : List ExecReport) : OrderState :=
  reports.foldl (fun s rpt => OrderManager.applyReport s rpt 0)
    (.placed send.order send.price send.qty 0)

/-- The reports of an order delivered so far. -/
def reportsOf (s : OrderSends) (orderId : Nat) : List ExecReport :=
  s.reports.filter fun rpt => rpt.orderId = orderId

/-- The order is on record as the reports have it, final when one of them was; an order without a
record was not reported on. -/
def Reflects (om : OrderManager) (send : Send) (reports : List ExecReport) : Prop :=
  (om.lookup.lookup send.order.orderId = none → reports = []) ∧
  ∀ s ∈ om.lookup.lookup send.order.orderId,
    s.status = (expected send reports).status ∧
      s.filledQty = (expected send reports).filledQty ∧
      s.avgFillPrice = (expected send reports).avgFillPrice ∧
      ((∃ rpt ∈ reports, rpt.status.terminal) → s.status.terminal)

instance (om : OrderManager) (send : Send) (reports : List ExecReport) :
    Decidable (Reflects om send reports) :=
  inferInstanceAs (Decidable ((_ → _) ∧ ∀ _ ∈ _, _ ∧ _ ∧ _ ∧ (_ → _)))

/-- When a send returns, its order is on record as it was reported. -/
def Reflected (s : OrderSends) (e : SendEvent) : Prop :=
  match e with
  | .returned _ _ => ∀ send ∈ s.sends.head?,
    Reflects (step s e).1.om send (s.reportsOf send.order.orderId)
  | _ => True

instance (s : OrderSends) : (e : SendEvent) → Decidable (Reflected s e)
  | .returned _ _ => inferInstanceAs (Decidable (∀ send ∈ s.sends.head?, _))
  | .send _ _ | .report _ _ | .cancel _ _ | .cancelHandle _ _ => isTrue trivial

/-- Nothing that matters was reported of the order before its send returns: no fill, nothing final,
and an acknowledgement last. Of an order that the gateway refuses nothing was reported at all. -/
def Unheard (s : OrderSends) (e : SendEvent) : Prop :=
  match e with
  | .returned accepted _ => ∀ send ∈ s.sends.head?,
    if accepted then
      (∀ rpt ∈ s.reportsOf send.order.orderId, rpt.filledQty = 0 ∧ ¬ rpt.status.terminal) ∧
        ∀ rpt ∈ (s.reportsOf send.order.orderId).getLast?, rpt.status = .ACKED
    else s.reportsOf send.order.orderId = []
  | _ => True

/-! ## What the reports make of a record -/

theorem expected_status (send : Send) (reports : List ExecReport) :
    (expected send reports).status =
      match reports.getLast? with
      | none => .Live
      | some rpt => OrderManager.statusOf rpt.status := by
  induction reports using List.reverseRec with
  | nil => rfl
  | append_singleton reports rpt ih =>
    rw [expected, List.foldl_append, List.getLast?_concat]
    rfl

theorem expected_append (send : Send) (reports : List ExecReport) (rpt : ExecReport) :
    expected send (reports ++ [rpt]) =
      OrderManager.applyReport (expected send reports) rpt 0 := by
  rw [expected, List.foldl_append]
  rfl

theorem expected_filledQty_nonneg (send : Send) (reports : List ExecReport) :
    0 ≤ (expected send reports).filledQty := by
  induction reports using List.reverseRec with
  | nil => exact le_refl _
  | append_singleton reports rpt ih =>
    rw [expected_append, OrderManager.applyReport_filledQty]
    exact ih.trans (le_max_left _ _)

/-- Nothing is filled exactly when no report carries a quantity. -/
theorem expected_filledQty_eq_zero_iff (send : Send) (reports : List ExecReport) :
    (expected send reports).filledQty = 0 ↔ ∀ rpt ∈ reports, rpt.filledQty = 0 := by
  induction reports using List.reverseRec with
  | nil => exact iff_of_true rfl fun rpt h => absurd h List.not_mem_nil
  | append_singleton reports rpt ih =>
    have hold := expected_filledQty_nonneg send reports
    have hnew : 0 ≤ ofE8 rpt.filledQty := ofE8_nonneg_iff.mpr (Int.natCast_nonneg _)
    have hmax : max (expected send reports).filledQty (ofE8 rpt.filledQty) = 0 ↔
        (expected send reports).filledQty = 0 ∧ ofE8 rpt.filledQty = 0 := by
      constructor
      · intro h
        exact ⟨le_antisymm (h ▸ le_max_left _ _) hold, le_antisymm (h ▸ le_max_right _ _) hnew⟩
      · rintro ⟨hl, hr⟩
        rw [hl, hr, max_self]
    rw [expected_append, OrderManager.applyReport_filledQty, hmax, ih, ofE8_eq_zero_iff,
      Int.natCast_eq_zero]
    simp only [List.mem_append, List.mem_singleton, or_imp, forall_and, forall_eq]

/-- Reports that carry no quantity leave the average price alone. -/
theorem expected_avgFillPrice (send : Send) {reports : List ExecReport}
    (h : ∀ rpt ∈ reports, rpt.filledQty = 0) : (expected send reports).avgFillPrice = 0 := by
  induction reports using List.reverseRec with
  | nil => rfl
  | append_singleton reports rpt ih =>
    have hnone : rpt.filledQty = 0 := h rpt (List.mem_append_right _ (List.mem_singleton_self rpt))
    have hold : ¬ ofE8 rpt.filledQty > (expected send reports).filledQty := by
      rw [hnone]
      exact not_lt.mpr (ofE8_zero ▸ expected_filledQty_nonneg send reports)
    rw [expected_append, OrderManager.applyReport, OrderManager.recordFill, if_neg hold]
    exact ih fun rpt hrpt => h rpt (List.mem_append_left _ hrpt)

/-! ## The return of a send -/

/-- The new record says what was reported exactly when that was nothing but acknowledgements. -/
theorem reflects_placed_iff (om : OrderManager) (send : Send) (nowNs : Nat)
    (reports : List ExecReport) :
    Reflects (om.store (.placed send.order send.price send.qty nowNs)) send reports ↔
      (∀ rpt ∈ reports, rpt.filledQty = 0 ∧ ¬ rpt.status.terminal) ∧
        ∀ rpt ∈ reports.getLast?, rpt.status = .ACKED := by
  have hrecord : (om.store (.placed send.order send.price send.qty nowNs)).lookup.lookup
      send.order.orderId = some (.placed send.order send.price send.qty nowNs) :=
    AList.lookup_insert om.lookup
  have hstatus : OrderStatus.Live = (expected send reports).status ↔
      ∀ rpt ∈ reports.getLast?, rpt.status = .ACKED := by
    rw [expected_status]
    cases reports.getLast? with
    | none => exact iff_of_true rfl fun rpt h => absurd h (Option.not_mem_none rpt)
    | some rpt =>
      rw [eq_comm, OrderManager.statusOf_eq_live_iff]
      simp only [Option.mem_def, Option.some.injEq, forall_eq']
  have hfilled := expected_filledQty_eq_zero_iff send reports
  unfold Reflects
  rw [hrecord]
  simp only [reduceCtorEq, false_imp_iff, true_and, Option.mem_def, Option.some.injEq, forall_eq']
  show OrderStatus.Live = (expected send reports).status ∧
    (0 : ℚ) = (expected send reports).filledQty ∧ (0 : ℚ) = (expected send reports).avgFillPrice ∧
      ((∃ rpt ∈ reports, rpt.status.terminal) → false = true) ↔ _
  constructor
  · rintro ⟨hlive, hzero, -, hfinal⟩
    have hnone := hfilled.mp hzero.symm
    refine ⟨fun rpt hrpt => ⟨hnone rpt hrpt, fun hterminal => ?_⟩, hstatus.mp hlive⟩
    exact absurd (hfinal ⟨rpt, hrpt, hterminal⟩) Bool.false_ne_true
  · rintro ⟨hnothing, hlast⟩
    have hnone : ∀ rpt ∈ reports, rpt.filledQty = 0 := fun rpt hrpt => (hnothing rpt hrpt).1
    refine ⟨hstatus.mpr hlast, (hfilled.mpr hnone).symm, (expected_avgFillPrice send hnone).symm,
      ?_⟩
    rintro ⟨rpt, hrpt, hterminal⟩
    exact absurd hterminal (hnothing rpt hrpt).2

theorem reflected_iff_unheard_step {s : OrderSends} (h : Fresh s) (e : SendEvent) :
    Reflected s e ↔ Unheard s e := by
  cases e with
  | returned accepted nowNs =>
    unfold Reflected Unheard
    cases hsends : s.sends with
    | nil => simp only [List.head?_nil, Option.not_mem_none, false_imp_iff]
    | cons send sends =>
      simp only [List.head?_cons, Option.mem_def, Option.some.injEq, forall_eq', step, endSend,
        hsends]
      cases accepted with
      | true => exact reflects_placed_iff s.om send nowNs _
      | false =>
        -- a refused order has no record, for its id is its own
        have hnone : s.om.lookup.lookup send.order.orderId = none := by
          have hmem : send ∈ s.sends := by rw [hsends]; exact List.mem_cons_self
          exact Option.not_isSome_iff_eq_none.mp (h.unrecorded send hmem)
        simp only [Reflects, Bool.false_eq_true, if_false, hnone, true_imp_iff,
          Option.not_mem_none, false_imp_iff, implies_true, and_true]
  | send cache request => exact Iff.rfl
  | report rpt nowNs => exact Iff.rfl
  | cancel cancel nowNs => exact Iff.rfl
  | cancelHandle handle nowNs => exact Iff.rfl

/-- **What a record can miss.** Whatever is sent, reported and cancelled, and however the sends
nest, every order is on record as it was reported when its send returns, exactly when nothing but
acknowledgements was reported inside the sends that the gateway accepted, and nothing inside the
others. -/
theorem reflected_iff_unheard (nextOrderId : Nat) (es : List SendEvent) :
    Machine.AlongRun step Reflected { nextOrderId := nextOrderId } es ↔
      Machine.AlongRun step Unheard { nextOrderId := nextOrderId } es :=
  Machine.alongRun_congr (J := Fresh) (fun _ e h => h.step e)
    (fun _ e h => reflected_iff_unheard_step h e) (Fresh.start nextOrderId) es

/-! ## A market order in a backtest

Without latency the engine matches a market order, and the gateway reports it FILLED, before
`send_new_order` returns. -/

namespace MarketOrder

open Backtester

def instrument : Instrument where
  instrumentId := 7
  symbol := "BTC"
  exchange := "HYPERLIQUID"
  baseCurrency := "BTC"
  quoteCurrency := "USD"
  type := .PERPETUAL
  status := .ACTIVE
  lotSize := 1 / 1000
  tickSize := 1 / 2
  contractSize := 1
  expiryDate := 0
  optionSide := .NA
  strikePrice := 0

def request : NewOrderRequest where
  instrumentId := 7
  exchangeId := some .HYPERLIQUID
  side := .BUY
  type := .MARKET
  tif := .IOC
  price := 0
  qty := 1

def order : OutboundNewOrder where
  orderId := 1
  exchangeId := .HYPERLIQUID
  instrumentId := 7
  side := .BUY
  orderType := .MARKET
  tif := .IOC
  price := 0
  quantity := 100000000
  execInst := 0
  exchangeSymbol := "BTC"

def book : MarketEvent :=
  .orderBook
    { timestampNs := 1, exchange := "HYPERLIQUID", symbol := "BTC"
      bidPx := ![99, 0, 0, 0, 0], bidSz := ![1, 0, 0, 0, 0]
      askPx := ![101, 0, 0, 0, 0], askSz := ![1, 0, 0, 0, 0] }

def send : SendEvent := .send (fun _ => some instrument) request

/-- What the gateway reports from the call of `send_new_order` to its return. -/
def reported : List ExecReport :=
  (Machine.outputs Backtest.step {}
    [.market book, .resume, .call (.sendNewOrder order), .resume, .resume, .resume, .resume,
      .resume]).filterMap
    fun
      | .published report => some report
      | .matched _ => none

end MarketOrder

open MarketOrder in
/-- The gateway gets the order, reports it filled, and has no call left; the record that is made
after that is live, with nothing filled. -/
theorem not_reflected_of_marketOrder :
    Machine.outputs step { nextOrderId := 1 } [send] = [.sendNewOrder order] ∧
      reported.map (fun rpt => (rpt.orderId, rpt.status, rpt.filledQty)) =
        [(1, .FILLED, 100000000)] ∧
      ¬ Machine.AlongRun step Reflected { nextOrderId := 1 }
        ([send] ++ reported.map (.report · 1) ++ [.returned true 1]) := by
  decide +kernel

end OrderSends

end BptCore.Strategy
