import BptCore.Backtester.Results.ResultsCollector
import BptCore.OrderGateway.Risk.PnlLedger
import BptCore.Strategy.Strategy.PositionTracker

/-!
# Three books of one position

The order gateway, the strategy and the backtester each keep the position of an instrument, in
code written three times. Given the same fills, all three keep the average-cost book.

* **`strategyFill_same`**, **`collectorFill_eq_trade`** — a fill is a trade, in the other two books.
* **`positionBooks_agree`** — the books agree after any fills.
-/

namespace BptCore.Backtester

open AverageCost

/-- One instrument, under the names that the three components have for it. -/
structure Instrument where
  exchangeId : ExchangeId
  instrumentId : Nat
  exchange : String
  symbol : String

/-- A fill of the instrument: the report of the engine, with the e8 integers that the wire
carries. -/
structure InstrumentFill (i : Instrument) where
  report : FillReport
  priceE8 : Int
  qtyE8 : Nat
  priceE8_pos : 0 < priceE8
  qtyE8_pos : 0 < qtyE8
  exchange_eq : report.exchange = i.exchange
  symbol_eq : report.symbol = i.symbol
  lastFillPrice_eq : report.lastFillPrice = ofE8 priceE8
  lastFillQty_eq : report.lastFillQty = ofE8 qtyE8

namespace InstrumentFill

variable {i : Instrument}

/-- What the order gateway books. -/
def gatewayFill (f : InstrumentFill i) : OrderGateway.PnlTracker.Fill where
  exchange := i.exchangeId
  instrumentId := i.instrumentId
  side := f.report.side
  priceE8 := f.priceE8
  filledQtyE8 := f.qtyE8
  fillTsNs := f.report.simulationTs
  priceE8_pos := f.priceE8_pos
  filledQtyE8_pos := f.qtyE8_pos

end InstrumentFill

/-! ## The average-cost book -/

variable {i : Instrument}

/-- What the fills amount to. -/
def bookOf (fs : List (InstrumentFill i)) : Book ℚ :=
  fs.foldl (fun b f => b.trade (ofE8 (f.report.side.signed f.qtyE8)) (ofE8 f.priceE8)) ⟨0, 0, 0⟩

theorem bookOf_append (fs : List (InstrumentFill i)) (f : InstrumentFill i) :
    bookOf (fs ++ [f]) =
      (bookOf fs).trade (ofE8 (f.report.side.signed f.qtyE8)) (ofE8 f.priceE8) := by
  rw [bookOf, List.foldl_append]
  rfl

/-! ## The order gateway -/

/-- The order gateway's tracker after the fills. -/
def gatewayTracker (fs : List (InstrumentFill i)) : OrderGateway.PnlTracker :=
  OrderGateway.PnlTracker.afterFills (fs.map InstrumentFill.gatewayFill)

/-- The order gateway's position of the instrument, with the session's realized P&L. -/
def gatewayBook (fs : List (InstrumentFill i)) : Book ℚ :=
  ((gatewayTracker fs).positionOf
    (OrderGateway.PnlTracker.makeKey i.exchangeId i.instrumentId)).book
    (gatewayTracker fs).sessionPnlUsd

theorem gatewayBook_same (fs : List (InstrumentFill i)) : (gatewayBook fs).Same (bookOf fs) := by
  induction fs using List.reverseRec with
  | nil => exact ⟨ofE8_zero, fun _ => rfl, rfl⟩
  | append_singleton fs f ih =>
    have htracker : gatewayTracker (fs ++ [f]) = (gatewayTracker fs).applyFill f.gatewayFill := by
      rw [gatewayTracker, List.map_append]
      exact OrderGateway.PnlTracker.afterFills_append _ f.gatewayFill
    have hfill := (gatewayTracker fs).book_applyFill_same f.gatewayFill
    rw [gatewayBook, htracker, bookOf_append]
    exact hfill.trans (ih.trade _ _)

/-! ## The strategy -/

/-- The strategy's tracker after the fills. -/
def strategyTracker (fs : List (InstrumentFill i)) : Strategy.PositionTracker :=
  fs.foldl (fun t f => t.onFill i.instrumentId i.exchangeId f.report.side f.qtyE8 f.priceE8) {}

/-- The strategy's position as a book. -/
def strategyPositionBook (pos : Strategy.PositionTracker.Position) : Book ℚ where
  net := ofE8 pos.netQty
  avg := pos.avgPrice
  realized := pos.realizedPnl

/-- The strategy's position of the instrument. -/
def strategyBook (fs : List (InstrumentFill i)) : Book ℚ :=
  strategyPositionBook (((strategyTracker fs).positions.lookup
    (Strategy.PositionTracker.key i.instrumentId i.exchangeId)).getD {})

/-- Short of an exact close, the strategy sets the average as a flip does. -/
theorem closing_avg {qty held : ℚ} (hopen : qty ≠ held) (price avg : ℚ) :
    (if qty ≥ held then (if qty > held then price else 0) else avg) =
      if held < qty then price else avg := by
  by_cases hflip : held < qty
  · rw [if_pos (le_of_lt hflip), if_pos hflip, if_pos hflip]
  · have hpartial : ¬ qty ≥ held := fun hge => hopen (le_antisymm (not_lt.mp hflip) hge)
    rw [if_neg hpartial, if_neg hflip]

/-- A fill is a trade; a position that it closes loses its average. -/
theorem strategyFill_same (pos : Strategy.PositionTracker.Position) (side : OrderSide)
    {qty : Nat} (hqty : 0 < qty) (price : Int) :
    (strategyPositionBook (Strategy.PositionTracker.fillPosition pos side qty price)).Same
      ((strategyPositionBook pos).trade (ofE8 (side.signed qty)) (ofE8 price)) := by
  have hq : 0 < ofE8 qty := ofE8_pos.mpr hqty
  cases side with
  | BUY =>
    show Book.Same (strategyPositionBook (Strategy.PositionTracker.buy pos _ _ qty))
      ((strategyPositionBook pos).trade (ofE8 qty) (ofE8 price))
    by_cases hlong : 0 ≤ pos.netQty
    · have hnet : 0 ≤ ofE8 pos.netQty := ofE8_nonneg_iff.mpr hlong
      rw [Book.trade_buy_of_nonneg (strategyPositionBook pos) hq hnet,
        Strategy.PositionTracker.buy, if_pos hlong]
      exact ⟨ofE8_add _ _, fun _ => rfl, rfl⟩
    · have hnet : ofE8 pos.netQty < 0 := not_le.mp (mt ofE8_nonneg_iff.mp hlong)
      rw [Book.trade_buy_of_neg (strategyPositionBook pos) hq hnet,
        Strategy.PositionTracker.buy, if_neg hlong]
      refine ⟨ofE8_add _ _, fun hopen => ?_, rfl⟩
      have hexact : ofE8 qty ≠ -ofE8 pos.netQty := fun hclose =>
        hopen ((ofE8_add _ _).trans (by rw [hclose, add_neg_cancel]))
      exact closing_avg hexact (ofE8 price) pos.avgPrice
  | SELL =>
    have hsigned : ofE8 (OrderSide.SELL.signed qty) = -ofE8 qty := ofE8_neg qty
    rw [hsigned]
    show Book.Same (strategyPositionBook (Strategy.PositionTracker.sell pos _ _ qty)) _
    by_cases hshort : pos.netQty ≤ 0
    · have hnet : ofE8 pos.netQty ≤ 0 := ofE8_nonpos_iff.mpr hshort
      rw [Book.trade_sell_of_nonpos (strategyPositionBook pos) hq hnet,
        Strategy.PositionTracker.sell, if_pos hshort]
      exact ⟨ofE8_sub _ _, fun _ => rfl, rfl⟩
    · have hnet : 0 < ofE8 pos.netQty := not_le.mp (mt ofE8_nonpos_iff.mp hshort)
      rw [Book.trade_sell_of_pos (strategyPositionBook pos) hq hnet,
        Strategy.PositionTracker.sell, if_neg hshort]
      refine ⟨ofE8_sub _ _, fun hopen => ?_, rfl⟩
      have hexact : ofE8 qty ≠ ofE8 pos.netQty := fun hclose =>
        hopen ((ofE8_sub _ _).trans (by rw [hclose, sub_self]))
      exact closing_avg hexact (ofE8 price) pos.avgPrice

theorem strategyBook_same (fs : List (InstrumentFill i)) :
    (strategyBook fs).Same (bookOf fs) := by
  induction fs using List.reverseRec with
  | nil => exact ⟨ofE8_zero, fun _ => rfl, rfl⟩
  | append_singleton fs f ih =>
    have htracker : strategyTracker (fs ++ [f]) = (strategyTracker fs).onFill i.instrumentId
        i.exchangeId f.report.side f.qtyE8 f.priceE8 := by
      rw [strategyTracker, List.foldl_append]
      rfl
    rw [strategyBook, htracker, Strategy.PositionTracker.onFill]
    dsimp only
    rw [AList.lookup_insert, Option.getD_some, bookOf_append]
    exact (strategyFill_same _ f.report.side f.qtyE8_pos f.priceE8).trans (ih.trade _ _)

/-! ## The backtester -/

/-- The results after the fills, from a starting capital and a table of fees. -/
def collector (startingCapital : ℚ) (fees : Table String FeeRates)
    (fs : List (InstrumentFill i)) : ResultsCollector :=
  fs.foldl (fun r f => r.onFill f.report) { startingCapital, feesByVenue := fees }

/-- The collector's position as a book. -/
def collectorPositionBook (pos : ResultsCollector.Position) : Book ℚ where
  net := pos.netQty
  avg := pos.avgCost
  realized := pos.realizedPnl

/-- What a reduction leaves of the fill, on the lattice of 1e-8, is nothing or more than the
tolerance. -/
theorem left_of_lt {qty held : Int} (h : ofE8 held < ofE8 qty) :
    ofE8 qty - ofE8 held > ResultsCollector.kFlatTol := by
  have hone : 1 ≤ qty - held := by
    have hlt := ofE8_lt_iff.mp h
    omega
  rw [← ofE8_sub]
  calc ResultsCollector.kFlatTol < ofE8 1 := by decide +kernel
    _ ≤ ofE8 (qty - held) := ofE8_le_iff.mpr hone

theorem not_left_self (q : ℚ) : ¬ q - q > ResultsCollector.kFlatTol := by
  rw [sub_self]
  decide +kernel

/-- A fill is a trade, when the position is a multiple of 1e-8. -/
theorem collectorFill_eq_trade (pos : ResultsCollector.Position) {net : Int}
    (hlattice : pos.netQty = ofE8 net) (side : OrderSide) {qty : Nat} (hqty : 0 < qty)
    (price : ℚ) :
    collectorPositionBook (ResultsCollector.applyFill pos (ofE8 qty) price side).1 =
      (collectorPositionBook pos).trade (ofE8 (side.signed qty)) price := by
  have hq : 0 < ofE8 qty := ofE8_pos.mpr hqty
  cases side with
  | BUY =>
    show collectorPositionBook (ResultsCollector.applyFill pos _ _ .BUY).1 =
      (collectorPositionBook pos).trade (ofE8 qty) price
    by_cases hlong : 0 ≤ pos.netQty
    · rw [Book.trade_buy_of_nonneg (collectorPositionBook pos) hq hlong]
      simp only [ResultsCollector.applyFill, ResultsCollector.buy, ge_iff_le, hlong, if_true,
        collectorPositionBook, add_zero, mul_comm]
    · rw [Book.trade_buy_of_neg (collectorPositionBook pos) hq (not_le.mp hlong)]
      simp only [ResultsCollector.applyFill, ResultsCollector.buy, ge_iff_le, hlong, if_false]
      by_cases hflip : -pos.netQty < ofE8 qty
      · have hleft : ofE8 qty - -pos.netQty > ResultsCollector.kFlatTol := by
          have hheld : -pos.netQty = ofE8 (-net) := by rw [hlattice, ofE8_neg]
          rw [hheld] at hflip ⊢
          exact left_of_lt hflip
        simp only [collectorPositionBook, min_eq_right (le_of_lt hflip), hleft, hflip, if_true]
        rw [sub_neg_eq_add, add_comm (ofE8 qty)]
      · simp only [collectorPositionBook, min_eq_left (not_lt.mp hflip), not_left_self, hflip,
          if_false]
  | SELL =>
    have hsigned : ofE8 (OrderSide.SELL.signed qty) = -ofE8 qty := ofE8_neg qty
    rw [hsigned]
    by_cases hshort : pos.netQty ≤ 0
    · rw [Book.trade_sell_of_nonpos (collectorPositionBook pos) hq hshort]
      simp only [ResultsCollector.applyFill, ResultsCollector.sell, hshort, if_true,
        collectorPositionBook, add_zero, mul_comm, neg_add, neg_neg, sub_eq_add_neg]
    · rw [Book.trade_sell_of_pos (collectorPositionBook pos) hq (not_le.mp hshort)]
      simp only [ResultsCollector.applyFill, ResultsCollector.sell, hshort, if_false]
      by_cases hflip : pos.netQty < ofE8 qty
      · have hleft : ofE8 qty - pos.netQty > ResultsCollector.kFlatTol := by
          rw [hlattice] at hflip ⊢
          exact left_of_lt hflip
        simp only [collectorPositionBook, min_eq_right (le_of_lt hflip), hleft, hflip, if_true,
          neg_sub]
      · simp only [collectorPositionBook, min_eq_left (not_lt.mp hflip), not_left_self, hflip,
          if_false]

/-- The collector's position of the instrument. -/
def collectorBook (startingCapital : ℚ) (fees : Table String FeeRates)
    (fs : List (InstrumentFill i)) : Book ℚ :=
  collectorPositionBook ((collector startingCapital fees fs).positionOf
    (ResultsCollector.keyOf i.exchange i.symbol))

variable (startingCapital : ℚ) (fees : Table String FeeRates)

theorem collectorBook_append (fs : List (InstrumentFill i)) (f : InstrumentFill i) {net : Int}
    (hlattice : (collectorBook startingCapital fees fs).net = ofE8 net) :
    collectorBook startingCapital fees (fs ++ [f]) =
      (collectorBook startingCapital fees fs).trade (ofE8 (f.report.side.signed f.qtyE8))
        (ofE8 f.priceE8) := by
  have hcollector : collector startingCapital fees (fs ++ [f]) =
      (collector startingCapital fees fs).onFill f.report := by
    rw [collector, List.foldl_append]
    rfl
  have hkey : ResultsCollector.keyOf f.report.exchange f.report.symbol =
      ResultsCollector.keyOf i.exchange i.symbol := by rw [f.exchange_eq, f.symbol_eq]
  obtain ⟨openTsNs, hpos⟩ := (collector startingCapital fees fs).positionOf_onFill f.report hkey
  rw [collectorBook, hcollector, hpos, f.lastFillQty_eq, f.lastFillPrice_eq]
  exact collectorFill_eq_trade _ hlattice f.report.side f.qtyE8_pos (ofE8 f.priceE8)

/-- The collector's book is the average-cost book, and stays a multiple of 1e-8. -/
theorem collectorBook_eq (fs : List (InstrumentFill i)) :
    collectorBook startingCapital fees fs = bookOf fs ∧ ∃ net, (bookOf fs).net = ofE8 net := by
  induction fs using List.reverseRec with
  | nil => exact ⟨rfl, 0, ofE8_zero.symm⟩
  | append_singleton fs f ih =>
    obtain ⟨hbook, net, hnet⟩ := ih
    rw [collectorBook_append startingCapital fees fs f (hbook ▸ hnet), hbook, bookOf_append]
    refine ⟨rfl, net + f.report.side.signed f.qtyE8, ?_⟩
    rw [Book.trade_net, hnet, ofE8_add]

/-! ## All three -/

/-- **The books agree.** After any fills of an instrument, the order gateway, the strategy and
the backtester hold the same net quantity, the same average entry price as long as it is not
flat, and the same realized P&L. -/
theorem positionBooks_agree (fs : List (InstrumentFill i)) :
    (gatewayBook fs).Same (strategyBook fs) ∧
      (strategyBook fs).Same (collectorBook startingCapital fees fs) := by
  have hgateway := gatewayBook_same fs
  have hstrategy := strategyBook_same fs
  have hcollector := (collectorBook_eq startingCapital fees fs).1
  rw [hcollector]
  exact ⟨hgateway.trans hstrategy.symm, hstrategy⟩

end BptCore.Backtester
