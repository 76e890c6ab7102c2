import BptCore.Features.RealizedVol
import BptCore.Lib.Table
import BptCore.Strategy.Strategy.IStrategy
import Mathlib.Algebra.Order.Group.Unbundled.Abs

/-!
# The short volatility strategy

`ShortVolStrategy` sells options whose implied volatility is above the realized one and hedges
their delta with the perpetual. It evaluates its legs on vol surfaces and re-hedges on the fills
of its options, so both callbacks place orders.

* **`legOrder`**, **`hedgeOrder`** — the order that a leg, or the hedge, asks for.
* **`LegDue`**, **`HedgeDue`** — when there is one.
* **`shortVol`** — the strategy behind the interface: it sends on a vol surface that is due for
  evaluation, and on an option fill that unbalances the hedge.
-/

namespace BptCore.Strategy

open Features

namespace ShortVol

/-- The parameters of the constructor. -/
structure Config where
  ivRvThreshold : ℚ := 5 / 100
  ivRvExitThreshold : ℚ := 2 / 100
  maxPortfolioDelta : ℚ := 1 / 2
  maxPortfolioVega : ℚ := 10000
  maxPortfolioGamma : ℚ := 100
  targetNotionalUsd : ℚ := 1000
  minTimeToExpiry : ℚ := 1 / 365
  maxTimeToExpiry : ℚ := 30 / 365
  minAbsDelta : ℚ := 15 / 100
  maxAbsDelta : ℚ := 1 / 2
  evalIntervalNs : Nat := 5000000000
  aggressBps : ℚ := 5
  rvWindow : Nat := 100
  rvSampleIntervalNs : Nat := 60000000000
  underlyings : List String := []
  mdExchanges : List String := []
  /-- `order_mgr_` is not null. -/
  hasOrderManager : Bool
  /-- The order manager's answer to each call of `send_new_order`: the order's id, or 0. -/
  orderIds : Nat → Nat
  num : Numerics

structure OptionLeg where
  instrumentId : Nat := 0
  expiryDate : Nat := 0
  strike : ℚ := 0
  isCall : Bool := true
  iv : ℚ := 0
  bidPrice : ℚ := 0
  askPrice : ℚ := 0
  delta : ℚ := 0
  gamma : ℚ := 0
  vega : ℚ := 0
  theta : ℚ := 0
  forwardPrice : ℚ := 0
  timeToExpiry : ℚ := 0
  positionQty : ℚ := 0
  entryPrice : ℚ := 0
  orderId : Nat := 0
  deriving Repr

structure UnderlyingState where
  underlying : String := ""
  exchangeId : Option ExchangeId := none
  perpInstrumentId : Nat := 0
  perpBid : ℚ := 0
  perpAsk : ℚ := 0
  perpLastBboNs : Nat := 0
  perpPositionQty : ℚ := 0
  perpOrderId : Nat := 0
  perpTickSize : ℚ := 0
  perpLotSize : ℚ := 0
  rvEstimator : RealizedVolEstimator
  options : Table Nat OptionLeg := ∅
  portfolioDelta : ℚ := 0
  portfolioGamma : ℚ := 0
  portfolioVega : ℚ := 0
  portfolioTheta : ℚ := 0
  lastEvalNs : Nat := 0

end ShortVol

structure ShortVol where
  states : Table String ShortVol.UnderlyingState := ∅
  instrumentToKey : Table Nat String := ∅
  orderToKey : Table Nat String := ∅
  orderIsPerp : Table Nat Bool := ∅
  /-- How often `send_new_order` was called. -/
  calls : Nat := 0

namespace ShortVol

/-- `state_key`: the enumerator, 255 for `NULL_VALUE`, and the underlying. -/
def stateKey (ex : Option ExchangeId) (underlying : String) : String :=
  toString (ex.elim 255 ExchangeId.value) ++ ":" ++ underlying

variable (cfg : Config)

def relevant (baseCurrency : String) : Bool :=
  cfg.underlyings.isEmpty || cfg.underlyings.contains baseCurrency

/-! ## Instruments and market data -/

section MarketData

variable (s : ShortVol)

def discoverPerp (inst : Instrument) : ShortVol :=
  if inst.type = .PERPETUAL ∧ relevant cfg inst.baseCurrency ∧
      (cfg.mdExchanges = [] ∨ inst.exchange ∈ cfg.mdExchanges) then
    let exId := toExchangeId inst.exchange
    let key := stateKey exId inst.baseCurrency
    -- positions, orders and legs of an underlying that is known already survive the snapshot
    let state := (s.states.lookup key).getD { rvEstimator := .new cfg.num 0 1 }
    { s with
      states := s.states.insert key
        { state with
          underlying := inst.baseCurrency
          exchangeId := exId
          perpInstrumentId := inst.instrumentId
          perpTickSize := inst.tickSize
          perpLotSize := inst.lotSize
          rvEstimator := .new cfg.num cfg.rvWindow cfg.rvSampleIntervalNs }
      instrumentToKey := s.instrumentToKey.insert inst.instrumentId key }
  else s

/-- An instrument of an underlying that is tracked. -/
def followInstrument (inst : Instrument) : ShortVol :=
  let key := stateKey (toExchangeId inst.exchange) inst.baseCurrency
  if relevant cfg inst.baseCurrency ∧ key ∈ s.states then
    { s with instrumentToKey := s.instrumentToKey.insert inst.instrumentId key }
  else s

def onInstrumentSnapshot (all : List Instrument) : ShortVol :=
  (all.filter fun inst => inst.type = .OPTION).foldl (followInstrument cfg)
    (all.foldl (discoverPerp cfg) s)

def onInstrumentDelta (inst : Instrument) : ShortVol :=
  if inst.type = .PERPETUAL ∨ inst.type = .OPTION then followInstrument cfg s inst else s

def onBbo (tick : MdMarketData) : ShortVol :=
  match s.instrumentToKey.lookup tick.instrumentId with
  | none => s
  | some key =>
    match s.states.lookup key with
    | none => s
    | some state =>
      if tick.instrumentId ≠ state.perpInstrumentId then s
      else
        let mid := (tick.bidPrice + tick.askPrice) / 2
        { s with
          states := s.states.insert key
            { state with
              perpBid := tick.bidPrice
              perpAsk := tick.askPrice
              perpLastBboNs := tick.timestampNs
              rvEstimator := state.rvEstimator.update cfg.num mid tick.timestampNs } }

end MarketData

/-! ## Legs and greeks -/

namespace UnderlyingState

variable (state : UnderlyingState)

/-- A point of the surface updates its leg, or makes it. -/
def updateLeg (pt : VolPoint) : UnderlyingState :=
  let leg := (state.options.lookup pt.instrumentId).getD {}
  { state with
    options := state.options.insert pt.instrumentId
      { leg with
        instrumentId := pt.instrumentId
        expiryDate := pt.expiryDate
        strike := pt.strikePrice
        isCall := pt.optionSide = .CALL
        iv := pt.impliedVol
        bidPrice := pt.bidPrice
        askPrice := pt.askPrice
        delta := pt.delta
        gamma := pt.gamma
        vega := pt.vega
        theta := pt.theta
        forwardPrice := pt.forwardPrice
        timeToExpiry := pt.timeToExpiry } }

/-- The sum of a greek over the legs that have a position. -/
def portfolioSum (greek : OptionLeg → ℚ) : ℚ :=
  (Table.vals state.options).foldl
    (fun acc leg => if leg.positionQty = 0 then acc else acc + greek leg * leg.positionQty) 0

def recomputeGreeks : UnderlyingState :=
  { state with
    portfolioDelta := state.portfolioSum OptionLeg.delta
    portfolioGamma := state.portfolioSum OptionLeg.gamma
    portfolioVega := state.portfolioSum OptionLeg.vega
    portfolioTheta := state.portfolioSum OptionLeg.theta }

/-- The state in which a surface is evaluated. -/
def onPoints (points : List VolPoint) : UnderlyingState :=
  (points.foldl updateLeg state).recomputeGreeks

/-- The quantity of a fill, signed. -/
def signedQty (rpt : ExecReport) : ℚ := ofE8 (rpt.side.signed rpt.filledQty)

def fillPerp (rpt : ExecReport) : UnderlyingState :=
  { state with perpPositionQty := state.perpPositionQty + signedQty rpt }

/-- The fill of an option, up to the hedge. -/
def fillOption (rpt : ExecReport) : UnderlyingState :=
  match state.options.lookup rpt.instrumentId with
  | some leg =>
    { state with
      options := state.options.insert rpt.instrumentId
        { leg with
          positionQty := leg.positionQty + signedQty rpt
          entryPrice := ofE8 rpt.price } }.recomputeGreeks
  | none => state.recomputeGreeks

/-- An order at its end is the leg's, or the hedge's, no more. -/
def releaseOrder (isPerp : Bool) (instrumentId : Nat) : UnderlyingState :=
  if isPerp then { state with perpOrderId := 0 }
  else
    match state.options.lookup instrumentId with
    | some leg =>
      { state with options := state.options.insert instrumentId { leg with orderId := 0 } }
    | none => state

end UnderlyingState

/-! ## What an evaluation asks for -/

/-- `std::round`: halves away from zero. -/
def round (x : ℚ) : ℚ := if 0 ≤ x then (x + 1 / 2).floor else -(-x + 1 / 2).floor

/-- `qty <= 0.0` for the quantity of an entry. With a forward of 0 the quotient of the doubles is
infinite, with the sign of the target, or no number. -/
def entryQtyNotPositive (leg : OptionLeg) : Prop :=
  if leg.bidPrice * leg.forwardPrice = 0 then cfg.targetNotionalUsd < 0
  else cfg.targetNotionalUsd / (leg.bidPrice * leg.forwardPrice) ≤ 0

instance (leg : OptionLeg) : Decidable (entryQtyNotPositive cfg leg) :=
  inferInstanceAs (Decidable (if leg.bidPrice * leg.forwardPrice = 0 then cfg.targetNotionalUsd < 0
    else cfg.targetNotionalUsd / (leg.bidPrice * leg.forwardPrice) ≤ 0))

/-- The side, quantity and price of the order that a leg is due: a sale to enter, a purchase to
close. -/
def legOrder (state : UnderlyingState) (rv : ℚ) (leg : OptionLeg) : Option (OrderSide × ℚ × ℚ) :=
  if leg.orderId ≠ 0 then none
  else if leg.timeToExpiry < cfg.minTimeToExpiry ∨ leg.timeToExpiry > cfg.maxTimeToExpiry then none
  else if |leg.delta| < cfg.minAbsDelta ∨ |leg.delta| > cfg.maxAbsDelta then none
  else
    let ivRvSpread := leg.iv - rv
    let aggressOffset := (leg.askPrice - leg.bidPrice) * cfg.aggressBps / 10000
    if leg.positionQty = 0 then
      -- entry: sell what is rich, within the limits of the portfolio
      if ivRvSpread < cfg.ivRvThreshold then none
      else if |state.portfolioVega| ≥ cfg.maxPortfolioVega then none
      else if |state.portfolioGamma| ≥ cfg.maxPortfolioGamma then none
      else if leg.bidPrice ≤ 0 then none
      else if entryQtyNotPositive cfg leg then none
      else
        some (.SELL, cfg.targetNotionalUsd / (leg.bidPrice * leg.forwardPrice),
          leg.bidPrice - aggressOffset)
    else if leg.positionQty < 0 then
      -- exit: buy back once the spread has narrowed
      if ivRvSpread > cfg.ivRvExitThreshold then none
      else if leg.askPrice ≤ 0 then none
      else some (.BUY, |leg.positionQty|, leg.askPrice + aggressOffset)
    else none

/-- What the hedge is short of. -/
def deltaToTrade (state : UnderlyingState) : ℚ := -state.portfolioDelta - state.perpPositionQty

/-- That, in whole lots. -/
def hedgeQty (state : UnderlyingState) : ℚ :=
  let lot := if state.perpLotSize > 0 then state.perpLotSize else 1
  (|deltaToTrade state| / lot).floor * lot

/-- The side, quantity and price of the order that the hedge is due. -/
def hedgeOrder (state : UnderlyingState) : Option (OrderSide × ℚ × ℚ) :=
  if ¬ cfg.hasOrderManager then none
  else if state.perpInstrumentId = 0 then none
  else if state.perpOrderId ≠ 0 then none
  else if state.perpBid ≤ 0 ∨ state.perpAsk ≤ 0 then none
  else if |deltaToTrade state| < cfg.maxPortfolioDelta then none
  else if hedgeQty state ≤ 0 then none
  else
    let spread := state.perpAsk - state.perpBid
    let side := if deltaToTrade state > 0 then OrderSide.BUY else .SELL
    let price := if deltaToTrade state > 0 then state.perpAsk + spread * cfg.aggressBps / 10000
      else state.perpBid - spread * cfg.aggressBps / 10000
    some (side, hedgeQty state, if state.perpTickSize > 0 then
      round (price / state.perpTickSize) * state.perpTickSize else price)

/-! ## Placing orders -/

/-- A callback at work: the strategy, the underlying that it works on, the orders asked for. -/
structure Turn where
  strategy : ShortVol
  state : UnderlyingState
  sent : List NewOrderRequest := []

namespace Turn

variable (t : Turn)

/-- `send_new_order`, and the records that the two senders keep of an order that was taken. -/
def send (instrumentId : Nat) (isPerp : Bool) (order : OrderSide × ℚ × ℚ) : Turn :=
  let oid := cfg.orderIds t.strategy.calls
  let sent := t.sent ++
    [{ instrumentId := instrumentId, exchangeId := t.state.exchangeId, side := order.1
       type := .LIMIT, tif := .IOC, price := order.2.2, qty := order.2.1 }]
  -- an order that was refused was asked for all the same, but leaves no record
  if oid = 0 then
    { t with strategy := { t.strategy with calls := t.strategy.calls + 1 }, sent := sent }
  else
    { t with
      strategy :=
        { t.strategy with
          orderToKey := t.strategy.orderToKey.insert oid
            (stateKey t.state.exchangeId t.state.underlying)
          orderIsPerp := t.strategy.orderIsPerp.insert oid isPerp
          calls := t.strategy.calls + 1 }
      sent := sent }

/-- `send_option_order`, for the leg at `instId`. -/
def sendOptionOrder (instId : Nat) (leg : OptionLeg) (order : OrderSide × ℚ × ℚ) : Turn :=
  let oid := cfg.orderIds t.strategy.calls
  let t := t.send cfg leg.instrumentId false order
  if oid = 0 then t
  else
    { t with
      state := { t.state with
        options := t.state.options.insert instId { leg with orderId := oid } } }

def sendPerpOrder (order : OrderSide × ℚ × ℚ) : Turn :=
  let oid := cfg.orderIds t.strategy.calls
  let t := t.send cfg t.state.perpInstrumentId true order
  if oid = 0 then t else { t with state := { t.state with perpOrderId := oid } }

def rebalanceHedge : Turn :=
  match hedgeOrder cfg t.state with
  | some order => t.sendPerpOrder cfg order
  | none => t

def evaluateLeg (rv : ℚ) (entry : Sigma fun _ : Nat => OptionLeg) : Turn :=
  match legOrder cfg t.state rv entry.2 with
  | some order => t.sendOptionOrder cfg entry.1 entry.2 order
  | none => t

def evaluate : Turn :=
  if ¬ cfg.hasOrderManager then t
  else if t.state.perpBid ≤ 0 ∨ t.state.perpAsk ≤ 0 then t
  else if ¬ t.state.rvEstimator.ready then t
  else
    let rv := t.state.rvEstimator.realizedVol cfg.num
    rebalanceHedge cfg (t.state.options.entries.foldl (fun t entry => t.evaluateLeg cfg rv entry) t)

/-- The evaluation of a surface, when the last one is long enough ago. -/
def evaluateIfDue (nowNs : Nat) : Turn :=
  if u64Sub nowNs t.state.lastEvalNs ≥ cfg.evalIntervalNs then
    let t := t.evaluate cfg
    { t with state := { t.state with lastEvalNs := nowNs } }
  else t

/-- The strategy after the callback. -/
def finish (key : String) : ShortVol × List NewOrderRequest :=
  ({ t.strategy with states := t.strategy.states.insert key t.state }, t.sent)

end Turn

variable (s : ShortVol)

def onVolSurface (surface : VolSurface) : ShortVol × List NewOrderRequest :=
  let key := stateKey surface.exchangeId surface.underlying
  match s.states.lookup key with
  | none => (s, [])
  | some state =>
    let s := { s with
      instrumentToKey := surface.points.foldl (fun t pt => t.insert pt.instrumentId key)
        s.instrumentToKey }
    let t : Turn := { strategy := s, state := state.onPoints surface.points }
    (t.evaluateIfDue cfg surface.timestampNs).finish key

/-- The order is one for the perpetual. -/
def isPerp (orderId : Nat) : Bool := (s.orderIsPerp.lookup orderId).getD false

/-- The fill of a report, the hedge included. -/
def fill (state : UnderlyingState) (rpt : ExecReport) : Turn :=
  if ¬ rpt.status.isFill then { strategy := s, state := state }
  else if s.isPerp rpt.orderId then { strategy := s, state := state.fillPerp rpt }
  else
    -- the hedge follows the fill at once, outside any evaluation
    { strategy := s, state := state.fillOption rpt : Turn }.rebalanceHedge cfg

def onExecReport (rpt : ExecReport) : ShortVol × List NewOrderRequest :=
  match s.orderToKey.lookup rpt.orderId with
  | none => (s, [])
  | some key =>
    match s.states.lookup key with
    | none => (s, [])
    | some state =>
      let t := s.fill cfg state rpt
      if rpt.status.terminal then
        { t with
          state := t.state.releaseOrder (s.isPerp rpt.orderId) rpt.instrumentId
          strategy :=
            { t.strategy with
              orderToKey := t.strategy.orderToKey.erase rpt.orderId
              orderIsPerp := t.strategy.orderIsPerp.erase rpt.orderId } }.finish key
      else t.finish key

/-! ## When a callback sends -/

/-- A leg is due: it is free, within the expiry and delta ranges, and rich enough to sell, or sold
and cheap enough to buy back. -/
structure LegDue (state : UnderlyingState) (rv : ℚ) (leg : OptionLeg) : Prop where
  free : leg.orderId = 0
  expiry : cfg.minTimeToExpiry ≤ leg.timeToExpiry ∧ leg.timeToExpiry ≤ cfg.maxTimeToExpiry
  delta : cfg.minAbsDelta ≤ |leg.delta| ∧ |leg.delta| ≤ cfg.maxAbsDelta
  due : (leg.positionQty = 0 ∧ cfg.ivRvThreshold ≤ leg.iv - rv ∧
      |state.portfolioVega| < cfg.maxPortfolioVega ∧
      |state.portfolioGamma| < cfg.maxPortfolioGamma ∧ 0 < leg.bidPrice ∧
      ¬ entryQtyNotPositive cfg leg) ∨
    (leg.positionQty < 0 ∧ leg.iv - rv ≤ cfg.ivRvExitThreshold ∧ 0 < leg.askPrice)

/-- The hedge is due: there is a perpetual with a market and no order of its own, and the delta to
trade is beyond the tolerance and worth a lot. -/
structure HedgeDue (state : UnderlyingState) : Prop where
  hasOrderManager : cfg.hasOrderManager = true
  perp : state.perpInstrumentId ≠ 0
  free : state.perpOrderId = 0
  market : 0 < state.perpBid ∧ 0 < state.perpAsk
  beyond : cfg.maxPortfolioDelta ≤ |deltaToTrade state|
  qty : 0 < hedgeQty state

/-- What gets past a guard. -/
theorem isSome_guard {α : Type*} {p : Prop} [Decidable p] {x : Option α} :
    (if p then none else x).isSome = true ↔ ¬ p ∧ x.isSome = true := by
  by_cases hp : p
  · rw [if_pos hp]
    exact iff_of_false Bool.false_ne_true fun h => h.1 hp
  · rw [if_neg hp]
    exact (and_iff_right hp).symm

theorem legOrder_isSome_iff (state : UnderlyingState) (rv : ℚ) (leg : OptionLeg) :
    (legOrder cfg state rv leg).isSome ↔ LegDue cfg state rv leg := by
  unfold legOrder
  constructor
  · intro h
    -- every guard that the order got past is a part of the condition
    rw [isSome_guard, isSome_guard, isSome_guard] at h
    obtain ⟨hfree, hexpiry, hdelta, h⟩ := h
    rw [not_or, not_lt, not_lt] at hexpiry hdelta
    refine ⟨not_not.mp hfree, hexpiry, hdelta, ?_⟩
    dsimp only at h
    by_cases hflat : leg.positionQty = 0
    · rw [if_pos hflat, isSome_guard, isSome_guard, isSome_guard, isSome_guard, isSome_guard] at h
      obtain ⟨hiv, hvega, hgamma, hbid, hqty, -⟩ := h
      exact Or.inl ⟨hflat, not_lt.mp hiv, not_le.mp hvega, not_le.mp hgamma, not_le.mp hbid, hqty⟩
    · rw [if_neg hflat] at h
      by_cases hshort : leg.positionQty < 0
      · rw [if_pos hshort, isSome_guard, isSome_guard] at h
        obtain ⟨hiv, hask, -⟩ := h
        exact Or.inr ⟨hshort, not_lt.mp hiv, not_le.mp hask⟩
      · rw [if_neg hshort] at h
        cases h
  · rintro ⟨hfree, hexpiry, hdelta, hdue⟩
    have hexpiry' : ¬ (leg.timeToExpiry < cfg.minTimeToExpiry ∨
        leg.timeToExpiry > cfg.maxTimeToExpiry) :=
      not_or.mpr ⟨not_lt.mpr hexpiry.1, not_lt.mpr hexpiry.2⟩
    have hdelta' : ¬ (|leg.delta| < cfg.minAbsDelta ∨ |leg.delta| > cfg.maxAbsDelta) :=
      not_or.mpr ⟨not_lt.mpr hdelta.1, not_lt.mpr hdelta.2⟩
    rw [if_neg (not_not.mpr hfree), if_neg hexpiry', if_neg hdelta']
    dsimp only
    rcases hdue with ⟨hflat, hiv, hvega, hgamma, hbid, hqty⟩ | ⟨hshort, hiv, hask⟩
    · rw [if_pos hflat, if_neg (not_lt.mpr hiv), if_neg (not_le.mpr hvega),
        if_neg (not_le.mpr hgamma), if_neg (not_le.mpr hbid), if_neg hqty]
      rfl
    · rw [if_neg (ne_of_lt hshort), if_pos hshort, if_neg (not_lt.mpr hiv),
        if_neg (not_le.mpr hask)]
      rfl

theorem hedgeOrder_isSome_iff (state : UnderlyingState) :
    (hedgeOrder cfg state).isSome ↔ HedgeDue cfg state := by
  unfold hedgeOrder
  constructor
  · intro h
    rw [isSome_guard, isSome_guard, isSome_guard, isSome_guard, isSome_guard, isSome_guard] at h
    obtain ⟨hmanager, hperp, hfree, hmarket, hbeyond, hqty, -⟩ := h
    rw [not_or, not_le, not_le] at hmarket
    exact ⟨not_not.mp hmanager, hperp, not_not.mp hfree, hmarket, not_lt.mp hbeyond,
      not_le.mp hqty⟩
  · rintro ⟨hmanager, hperp, hfree, hmarket, hbeyond, hqty⟩
    have hmarket' : ¬ (state.perpBid ≤ 0 ∨ state.perpAsk ≤ 0) :=
      not_or.mpr ⟨not_le.mpr hmarket.1, not_le.mpr hmarket.2⟩
    rw [if_neg (not_not.mpr hmanager), if_neg hperp, if_neg (not_not.mpr hfree), if_neg hmarket',
      if_neg (not_lt.mpr hbeyond), if_neg (not_le.mpr hqty)]
    rfl

instance (state : UnderlyingState) (rv : ℚ) (leg : OptionLeg) :
    Decidable (LegDue cfg state rv leg) :=
  decidable_of_iff _ (legOrder_isSome_iff cfg state rv leg)

instance (state : UnderlyingState) : Decidable (HedgeDue cfg state) :=
  decidable_of_iff _ (hedgeOrder_isSome_iff cfg state)

/-- An evaluation sends: it gets past its guards, and a leg or the hedge is due. -/
structure Evaluates (state : UnderlyingState) : Prop where
  hasOrderManager : cfg.hasOrderManager = true
  market : 0 < state.perpBid ∧ 0 < state.perpAsk
  ready : state.rvEstimator.ready
  due : (∃ entry ∈ state.options.entries,
      LegDue cfg state (state.rvEstimator.realizedVol cfg.num) entry.2) ∨ HedgeDue cfg state

instance (state : UnderlyingState) : Decidable (Evaluates cfg state) :=
  decidable_of_iff (cfg.hasOrderManager = true ∧ (0 < state.perpBid ∧ 0 < state.perpAsk) ∧
      state.rvEstimator.ready ∧ ((∃ entry ∈ state.options.entries,
        LegDue cfg state (state.rvEstimator.realizedVol cfg.num) entry.2) ∨ HedgeDue cfg state))
    ⟨fun ⟨h₁, h₂, h₃, h₄⟩ => ⟨h₁, h₂, h₃, h₄⟩, fun h => ⟨h.1, h.2, h.3, h.4⟩⟩

/-- A vol surface sends: its underlying is tracked, an evaluation is due, and it sends. -/
def SendsOnSurface (surface : VolSurface) : Prop :=
  ∃ state ∈ s.states.lookup (stateKey surface.exchangeId surface.underlying),
    cfg.evalIntervalNs ≤ u64Sub surface.timestampNs (state.onPoints surface.points).lastEvalNs ∧
      Evaluates cfg (state.onPoints surface.points)

/-- An execution report sends: it is an option fill of an order of the strategy, after which the
hedge is due. -/
def SendsOnFill (rpt : ExecReport) : Prop :=
  ∃ key ∈ s.orderToKey.lookup rpt.orderId, ∃ state ∈ s.states.lookup key,
    rpt.status.isFill = true ∧ s.isPerp rpt.orderId = false ∧ HedgeDue cfg (state.fillOption rpt)

namespace Turn

variable {cfg} (t : Turn)

@[simp] theorem send_sent_ne_nil (instrumentId : Nat) (isPerp : Bool)
    (order : OrderSide × ℚ × ℚ) : (t.send cfg instrumentId isPerp order).sent ≠ [] := by
  unfold send
  dsimp only
  split
  · simp
  · simp

@[simp] theorem send_state (instrumentId : Nat) (isPerp : Bool) (order : OrderSide × ℚ × ℚ) :
    (t.send cfg instrumentId isPerp order).state = t.state := by
  unfold send
  dsimp only
  split <;> rfl

theorem rebalanceHedge_sent :
    (t.rebalanceHedge cfg).sent ≠ [] ↔ t.sent ≠ [] ∨ HedgeDue cfg t.state := by
  rw [← hedgeOrder_isSome_iff, rebalanceHedge]
  cases hedgeOrder cfg t.state with
  | none => simp
  | some order =>
    refine iff_of_true ?_ (Or.inr rfl)
    show (t.sendPerpOrder cfg order).sent ≠ []
    unfold sendPerpOrder
    dsimp only
    split
    · exact send_sent_ne_nil t _ _ _
    · exact send_sent_ne_nil t _ _ _

variable (cfg) in
/-- A leg sends when it is due, and touches nothing but the legs. -/
theorem evaluateLeg_spec (rv : ℚ) (entry : Sigma fun _ : Nat => OptionLeg) :
    ((t.evaluateLeg cfg rv entry).sent ≠ [] ↔ t.sent ≠ [] ∨ LegDue cfg t.state rv entry.2) ∧
      ∃ options, (t.evaluateLeg cfg rv entry).state = { t.state with options := options } := by
  rw [← legOrder_isSome_iff, evaluateLeg]
  cases legOrder cfg t.state rv entry.2 with
  | none => exact ⟨by simp, t.state.options, rfl⟩
  | some order =>
    show ((t.sendOptionOrder cfg entry.1 entry.2 order).sent ≠ [] ↔ _) ∧ _
    unfold sendOptionOrder
    dsimp only
    split
    · refine ⟨iff_of_true (send_sent_ne_nil t _ _ _) (Or.inr rfl), t.state.options, ?_⟩
      exact send_state t _ _ _
    · refine ⟨iff_of_true (send_sent_ne_nil t _ _ _) (Or.inr rfl), t.state.options.insert entry.1
        { entry.2 with orderId := cfg.orderIds t.strategy.calls }, ?_⟩
      rw [send_state]

variable (cfg) in
/-- The legs send when one of them is due, each in the same portfolio. -/
theorem evaluateLegs_spec (rv : ℚ) (entries : List (Sigma fun _ : Nat => OptionLeg)) :
    ((entries.foldl (fun t entry => t.evaluateLeg cfg rv entry) t).sent ≠ [] ↔
        t.sent ≠ [] ∨ ∃ entry ∈ entries, LegDue cfg t.state rv entry.2) ∧
      ∃ options, (entries.foldl (fun t entry => t.evaluateLeg cfg rv entry) t).state =
        { t.state with options := options } := by
  -- an order changes only the legs of the state, and no leg's condition reads those
  induction entries generalizing t with
  | nil => exact ⟨by simp, t.state.options, rfl⟩
  | cons entry entries ih =>
    obtain ⟨hsent, options, hstate⟩ := t.evaluateLeg_spec cfg rv entry
    obtain ⟨hrest, options', hstate'⟩ := ih (t.evaluateLeg cfg rv entry)
    have hsame : ∀ leg, LegDue cfg (t.evaluateLeg cfg rv entry).state rv leg ↔
        LegDue cfg t.state rv leg := by
      intro leg
      rw [← legOrder_isSome_iff, ← legOrder_isSome_iff, hstate]
      exact Iff.rfl
    constructor
    · rw [List.foldl_cons, hrest, hsent]
      simp only [hsame, List.mem_cons, exists_eq_or_imp, or_assoc]
    · rw [List.foldl_cons, hstate', hstate]
      exact ⟨options', rfl⟩

theorem evaluate_sent (h : t.sent = []) :
    (t.evaluate cfg).sent ≠ [] ↔ Evaluates cfg t.state := by
  unfold evaluate
  split
  · next hmanager =>
    exact iff_of_false (not_not.mpr h) fun he => hmanager he.hasOrderManager
  next hmanager =>
  split
  · next hmarket =>
    refine iff_of_false (not_not.mpr h) fun he => ?_
    rcases hmarket with hbid | hask
    · exact not_le.mpr he.market.1 hbid
    · exact not_le.mpr he.market.2 hask
  next hmarket =>
  split
  · next hready =>
    exact iff_of_false (not_not.mpr h) fun he => hready he.ready
  next hready =>
  rw [not_or, not_le, not_le] at hmarket
  dsimp only
  rw [rebalanceHedge_sent]
  obtain ⟨hlegs, options, hstate⟩ := t.evaluateLegs_spec cfg
    (t.state.rvEstimator.realizedVol cfg.num) t.state.options.entries
  have hhedge : HedgeDue cfg { t.state with options := options } ↔ HedgeDue cfg t.state := by
    rw [← hedgeOrder_isSome_iff, ← hedgeOrder_isSome_iff]
    exact Iff.rfl
  -- the legs' orders leave the hedge as due as it was
  rw [hlegs, hstate, hhedge]
  constructor
  · rintro ((hsent | hleg) | hdue)
    · exact absurd h hsent
    · exact ⟨not_not.mp hmanager, hmarket, not_not.mp hready, Or.inl hleg⟩
    · exact ⟨not_not.mp hmanager, hmarket, not_not.mp hready, Or.inr hdue⟩
  · intro he
    rcases he.due with hleg | hdue
    · exact Or.inl (Or.inr hleg)
    · exact Or.inr hdue

theorem evaluateIfDue_sent (h : t.sent = []) (nowNs : Nat) :
    (t.evaluateIfDue cfg nowNs).sent ≠ [] ↔
      cfg.evalIntervalNs ≤ u64Sub nowNs t.state.lastEvalNs ∧ Evaluates cfg t.state := by
  unfold evaluateIfDue
  split
  · next hdue =>
    rw [and_iff_right hdue]
    exact t.evaluate_sent h
  · next hdue =>
    exact iff_of_false (not_not.mpr h) fun hboth => hdue hboth.1

end Turn

theorem onVolSurface_sends_iff (surface : VolSurface) :
    (s.onVolSurface cfg surface).2 ≠ [] ↔ SendsOnSurface cfg s surface := by
  cases hstate : s.states.lookup (stateKey surface.exchangeId surface.underlying) with
  | none => simp [onVolSurface, SendsOnSurface, hstate]
  | some state =>
    simp only [onVolSurface, SendsOnSurface, hstate, Option.mem_some_iff, exists_eq_left']
    apply Turn.evaluateIfDue_sent
    rfl

theorem onExecReport_sends_iff (rpt : ExecReport) :
    (s.onExecReport cfg rpt).2 ≠ [] ↔ SendsOnFill cfg s rpt := by
  have hfill : ∀ state, (s.fill cfg state rpt).sent ≠ [] ↔
      rpt.status.isFill = true ∧ s.isPerp rpt.orderId = false ∧
        HedgeDue cfg (state.fillOption rpt) := by
    intro state
    unfold fill
    split
    · next hnot => exact iff_of_false (not_not.mpr rfl) fun h => hnot h.1
    next hisFill =>
    split
    · next hperp =>
      refine iff_of_false (not_not.mpr rfl) fun h => ?_
      rw [hperp] at h
      cases h.2.1
    · next hperp =>
      rw [Turn.rebalanceHedge_sent]
      simp only [ne_eq, not_true_eq_false, false_or, not_not.mp hisFill,
        Bool.not_eq_true _ ▸ hperp, true_and]
  unfold onExecReport SendsOnFill
  cases s.orderToKey.lookup rpt.orderId with
  | none => simp
  | some key =>
    simp only [Option.mem_some_iff, exists_eq_left']
    cases s.states.lookup key with
    | none => simp
    | some state =>
      simp only [Option.mem_some_iff, exists_eq_left', ← hfill]
      split <;> exact Iff.rfl

end ShortVol

/-! ## Behind the interface -/

/-- None of the strategy's orders is an unwind: it has no flatten path. -/
def ShortVol.asSent (out : ShortVol × List NewOrderRequest) : ShortVol × List SentOrder :=
  (out.1, out.2.map fun request => { request := request })

theorem ShortVol.asSent_iff (out : ShortVol × List NewOrderRequest) :
    (∃ o ∈ (asSent out).2, o.unwind = false) ↔ out.2 ≠ [] := by
  unfold asSent
  cases out.2 with
  | nil => simp
  | cons request requests => simp

/-- `ShortVolStrategy`. The callbacks that it does not override are those that keep the state. -/
def shortVol (cfg : ShortVol.Config) : IStrategy where
  State := ShortVol
  initial := {}
  handle s c :=
    match c with
    | .onInstrumentSnapshot all => (s.onInstrumentSnapshot cfg all, [])
    | .onInstrumentDelta inst _ => (s.onInstrumentDelta cfg inst, [])
    | .onBbo tick => (s.onBbo cfg tick, [])
    | .onVolSurface surface => ShortVol.asSent (s.onVolSurface cfg surface)
    | .onExecReport rpt => ShortVol.asSent (s.onExecReport cfg rpt)
    | .start | .onTrade _ | .onOrderBook _ | .onToxicityUpdate _ | .onRefdataStaleChanged _
    | .onAccountSnapshot _ | .loadState _ _ | .onShutdownFlatten | .onFlattenTick => (s, [])
  sends s c :=
    match c with
    | .onVolSurface surface => s.SendsOnSurface cfg surface
    | .onExecReport rpt => s.SendsOnFill cfg rpt
    | _ => False
  sends_iff s c := by
    cases c with
    | onVolSurface surface =>
      exact ((ShortVol.asSent_iff _).trans (s.onVolSurface_sends_iff cfg surface)).symm
    | onExecReport rpt =>
      exact ((ShortVol.asSent_iff _).trans (s.onExecReport_sends_iff cfg rpt)).symm
    | _ => simp

end BptCore.Strategy
