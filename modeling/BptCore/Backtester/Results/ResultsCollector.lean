import BptCore.Backtester.Matching.OpenOrder
import BptCore.Lib.Table

/-!
# The collector of results

`ResultsCollector` keeps its own average-cost positions, in doubles and under the text
`exchange:symbol`, and on every fill charges the fee, follows the round trips and samples the
equity. The markouts of the trades and the files that are written at the end are not modelled.

* **`applyFill`** — one fill against a position.
* **`onFill`**, **`onMarketEvent`** — the two handlers.
-/

namespace BptCore.Backtester

/-- What a venue charges, in basis points of the notional. -/
structure FeeRates where
  makerBps : ℚ := 0
  takerBps : ℚ := 0
  deriving DecidableEq, Repr

namespace ResultsCollector

/-- The size up to which a position counts as flat, `1e-12`. -/
def kFlatTol : ℚ := 1 / 1000000000000

/-- `ResultsCollector::Position`. -/
structure Position where
  netQty : ℚ := 0
  avgCost : ℚ := 0
  realizedPnl : ℚ := 0
  /-- When the current run away from flat was opened. -/
  openTsNs : Nat := 0
  deriving DecidableEq, Repr

structure RoundTrip where
  openTsNs : Nat
  closeTsNs : Nat
  realizedPnl : ℚ
  deriving DecidableEq, Repr

structure TradeRow where
  simulationTs : Nat
  exchange : String
  symbol : String
  orderId : Nat
  clientOrderId : Nat
  side : OrderSide
  orderType : MatchType
  liquidity : LiquidityRole
  qty : ℚ
  price : ℚ
  realizedPnl : ℚ
  feePaid : ℚ
  equity : ℚ
  deriving DecidableEq, Repr

structure EquityPoint where
  simulationTs : Nat
  equity : ℚ
  deriving DecidableEq, Repr

end ResultsCollector

structure ResultsCollector where
  startingCapital : ℚ
  feesByVenue : Table String FeeRates := ∅
  positions : Table String ResultsCollector.Position := ∅
  /-- What the open round trip of each key has realized. -/
  openRealized : Table String ℚ := ∅
  roundTrips : List ResultsCollector.RoundTrip := []
  midPrices : Table String ℚ := ∅
  totalFeesPaid : ℚ := 0
  equityCurve : List ResultsCollector.EquityPoint := [⟨0, startingCapital⟩]
  trades : List ResultsCollector.TradeRow := []

namespace ResultsCollector

def keyOf (exchange symbol : String) : String := exchange ++ ":" ++ symbol

/-- A BUY against a position, with what it realizes. -/
def buy (pos : Position) (fillQty fillPrice : ℚ) : Position × ℚ :=
  if pos.netQty ≥ 0 then
    let newQty := pos.netQty + fillQty
    ({ pos with
        avgCost := (pos.netQty * pos.avgCost + fillQty * fillPrice) / newQty
        netQty := newQty }, 0)
  else
    let closeQty := min fillQty (-pos.netQty)
    let realized := closeQty * (pos.avgCost - fillPrice)
    let remaining := fillQty - closeQty
    (if remaining > kFlatTol then
      -- flipped to long
      { pos with avgCost := fillPrice, netQty := remaining }
    else { pos with netQty := pos.netQty + closeQty }, realized)

/-- A SELL against a position: the mirror image of `buy`. -/
def sell (pos : Position) (fillQty fillPrice : ℚ) : Position × ℚ :=
  if pos.netQty ≤ 0 then
    let newShort := -pos.netQty + fillQty
    ({ pos with
        avgCost := (-pos.netQty * pos.avgCost + fillQty * fillPrice) / newShort
        netQty := -newShort }, 0)
  else
    let closeQty := min fillQty pos.netQty
    let realized := closeQty * (fillPrice - pos.avgCost)
    let remaining := fillQty - closeQty
    (if remaining > kFlatTol then
      { pos with avgCost := fillPrice, netQty := -remaining }
    else { pos with netQty := pos.netQty - closeQty }, realized)

def applyFill (pos : Position) (fillQty fillPrice : ℚ) (side : OrderSide) : Position × ℚ :=
  let (pos, realized) :=
    match side with
    | .BUY => buy pos fillQty fillPrice
    | .SELL => sell pos fillQty fillPrice
  ({ pos with realizedPnl := pos.realizedPnl + realized }, realized)

variable (r : ResultsCollector)

def totalRealizedPnl : ℚ := Table.sumVals (·.realizedPnl) r.positions

/-- Open positions at the mid, those whose key has one. -/
def totalUnrealizedPnl : ℚ :=
  (r.positions.entries.map fun ⟨key, pos⟩ =>
    if |pos.netQty| < kFlatTol then 0
    else match r.midPrices.lookup key with
      | none => 0
      | some mid => pos.netQty * (mid - pos.avgCost)).sum

def currentEquity : ℚ :=
  r.startingCapital + r.totalRealizedPnl + r.totalUnrealizedPnl - r.totalFeesPaid

/-- The fee of a fill; a venue without an entry charges nothing. -/
def feeOf (fill : FillReport) : ℚ :=
  let rateBps :=
    match r.feesByVenue.lookup fill.exchange with
    | none => 0
    | some rates =>
      match fill.liquidityRole with
      | .TAKER => rates.takerBps
      | .MAKER => rates.makerBps
  fill.lastFillQty * fill.lastFillPrice * rateBps * (1 / 10000)

def onFill (fill : FillReport) : ResultsCollector :=
  let key := keyOf fill.exchange fill.symbol
  let pre := (r.positions.lookup key).getD {}
  let (pos, realized) := applyFill pre fill.lastFillQty fill.lastFillPrice fill.side
  let fee := r.feeOf fill
  let accrued := (r.openRealized.lookup key).getD 0 + realized
  let wasFlat : Bool := |pre.netQty| < kFlatTol
  let isFlat : Bool := |pos.netQty| < kFlatTol
  let opened := wasFlat && !isFlat
  let closed := !wasFlat && isFlat
  let r' : ResultsCollector :=
    { r with
      totalFeesPaid := r.totalFeesPaid + fee
      positions := r.positions.insert key
        { pos with openTsNs := if opened then fill.simulationTs else if closed then 0
                               else pos.openTsNs }
      openRealized := r.openRealized.insert key (if opened || closed then 0 else accrued)
      roundTrips := r.roundTrips ++
        if closed then [⟨pos.openTsNs, fill.simulationTs, accrued⟩] else [] }
  { r' with
    equityCurve := r'.equityCurve ++ [⟨fill.simulationTs, r'.currentEquity⟩]
    trades := r'.trades ++
      [{ simulationTs := fill.simulationTs, exchange := fill.exchange, symbol := fill.symbol
         orderId := fill.orderId, clientOrderId := fill.clientOrderId, side := fill.side
         orderType := fill.orderType, liquidity := fill.liquidityRole, qty := fill.lastFillQty
         price := fill.lastFillPrice, realizedPnl := realized, feePaid := fee
         equity := r'.currentEquity }] }

/-- A snapshot with both touches moves the mid of its key. -/
def onMarketEvent (event : MarketEvent) : ResultsCollector :=
  match event with
  | .trade _ => r
  | .orderBook ob =>
    if ob.touch .BUY > 0 ∧ ob.touch .SELL > 0 then
      let mid := (ob.touch .BUY + ob.touch .SELL) * (1 / 2)
      { r with midPrices := r.midPrices.insert (keyOf ob.exchange ob.symbol) mid }
    else r

/-! ## Positions -/

/-- The position under the key: flat when there is none. -/
def positionOf (key : String) : Position := (r.positions.lookup key).getD {}

/-- A fill puts what `applyFill` makes of its position in its place; only the time stamp of the
round trip may differ. -/
theorem positionOf_onFill (fill : FillReport) {key : String}
    (hkey : keyOf fill.exchange fill.symbol = key) :
    ∃ openTsNs,
      let pos := (applyFill (r.positionOf key) fill.lastFillQty fill.lastFillPrice fill.side).1
      (r.onFill fill).positionOf key = { pos with openTsNs := openTsNs } := by
  subst hkey
  unfold positionOf onFill
  dsimp only
  rw [AList.lookup_insert]
  exact ⟨_, rfl⟩

end ResultsCollector

end BptCore.Backtester
