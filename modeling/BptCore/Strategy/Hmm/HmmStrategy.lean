import BptCore.Strategy.AvellanedaStoikov.AvellanedaStoikovStrategy
import BptCore.Strategy.Hmm.HmmFilter
import BptCore.Strategy.Order.SendNewOrder
import BptCore.Strategy.Strategy.PositionTracker

/-!
# The hidden Markov strategy

Every instrument has a regime, and every regime a strategy of its own: momentum in the trends,
reversion to the average price, market making. When a bar finds another regime dominant the
instrument goes through a transition: what it has out is cancelled, its position closed, and then the
new regime begins. Execution reports come between the callbacks, as the service delivers them, never
from inside a send. What is only logged, the market data subscriptions and the handling of an
instrument whose exchange has no id are left out.

* **`Turn`** — one instrument and what it shares with the others, while a callback works on it.
* **`beginTransition`**, **`checkTransitionComplete`** — a transition.
* **`onBarClose`** — features, regime, and the signals of the regime.
* **`onExecReport`** — what a report means in each regime.
* **`step`** — one callback.
-/

namespace BptCore.Strategy

open BptCore.Features

namespace Hmm

/-! ## The state of an instrument -/

/-- `kReturnWindow`, `kVolWindow` and `kVwapWindow`, in bars. -/
def kWindow : Nat := 60

/-- One of the ring buffers of the last bars, with its running sum. -/
structure Ring where
  buf : List ℚ := List.replicate kWindow 0
  head : Nat := 0
  count : Nat := 0
  sum : ℚ := 0
  deriving DecidableEq, Repr

/-- A full ring gives up its oldest entry. -/
def Ring.push (r : Ring) (x : ℚ) : Ring where
  buf := r.buf.set r.head x
  head := (r.head + 1) % kWindow
  count := if r.count < kWindow then r.count + 1 else r.count
  sum := (if r.count = kWindow then r.sum - r.buf.getD r.head 0 else r.sum) + x

/-- An order id of 0 is no order. Of the volumes and of the terms of the average price there is one
ring for each running sum. -/
structure InstrumentState where
  exchangeId : ExchangeId
  tickSize : ℚ := 0
  lotSize : ℚ := 0
  bid : ℚ := 0
  ask : ℚ := 0
  lastBboNs : Nat := 0
  barHigh : ℚ := 0
  barLow : ℚ := 0
  barClose : ℚ := 0
  barStartNs : Nat := 0
  prevBarClose : ℚ := 0
  barAtr : ℚ := 0
  barAtrWarmup : Int := 0
  returns : Ring := {}
  ewmaVar : ℚ := 0
  bookImbalance : ℚ := 1 / 2
  barTradeVol : ℚ := 0
  vol : Ring := {}
  volSq : Ring := {}
  barVwapNum : ℚ := 0
  barVwapDen : ℚ := 0
  vwapNum : Ring := {}
  vwapDen : Ring := {}
  hmm : HmmFilter := { params := .defaultParams }
  regime : State := .meanRevert
  targetRegime : State := .meanRevert
  regimeDwell : Int := 0
  warmingUp : Bool := true
  transitioning : Bool := false
  closingPosition : Bool := false
  pendingCancels : List Nat := []
  closeOrderId : Nat := 0
  transitionStartNs : Nat := 0
  emaFast : ℚ := 0
  emaSlow : ℚ := 0
  emaWarmup : Int := 0
  hasMomentumPosition : Bool := false
  momentumStop : ℚ := 0
  momentumTarget : ℚ := 0
  momentumSide : OrderSide := .BUY
  momentumOrderId : Nat := 0
  hasReversionPosition : Bool := false
  reversionSide : OrderSide := .BUY
  reversionStop : ℚ := 0
  reversionOrderId : Nat := 0
  mmBidId : Nat := 0
  mmAskId : Nat := 0
  mmBidPrice : ℚ := 0
  mmAskPrice : ℚ := 0
  mmLastQuoteNs : Nat := 0
  consecutiveRejects : Nat := 0
  rejectCooldownUntilNs : Nat := 0

structure Config where
  confidenceThreshold : ℚ := 50 / 100
  minDwellBars : Int := 5
  ewmaLambda : ℚ := 94 / 100
  barIntervalNs : Nat := 1000000000
  emaFastPeriod : Int := 8
  emaSlowPeriod : Int := 21
  atrPeriod : Int := 14
  atrStopMult : ℚ := 15 / 10
  atrTargetMult : ℚ := 25 / 10
  momentumQtyUsd : ℚ := 500
  vwapDeviationAtr : ℚ := 12 / 10
  vwapCloseAtr : ℚ := 3 / 10
  vwapStopAtr : ℚ := 2
  reversionQtyUsd : ℚ := 500
  mmGamma : ℚ := 1 / 10
  mmK : ℚ := 15 / 10
  mmHorizonS : ℚ := 1
  mmQtyUsd : ℚ := 200
  mmMaxInventoryUsd : ℚ := 1000
  mmRequoteNs : Nat := 200000000
  mmMinSpreadBps : ℚ := 2
  aggressBps : ℚ := 1 / 2
  maxSpreadBps : ℚ := 30
  /-- `order_mgr_` is not null. -/
  hasOrderMgr : Bool := true

/-- `kTransitionTimeoutNs`. -/
def kTransitionTimeoutNs : Nat := 10000000000

/-- `kMinWarmupBars`. -/
def kMinWarmupBars : Nat := 30

/-- What a callback finds: the instruments, and the gateway's answer to an order. -/
structure Surroundings where
  cache : InstrumentCache
  accepts : OutboundNewOrder → Bool

/-- The calls of `send_order` in the source: a signal, the end of a position by a stop, a target or
a turn of the signal, a quote, and the close of a position in a transition. -/
inductive Purpose where
  | entry | exit | quote | close
  deriving DecidableEq, Repr

/-- What becomes of a call of `send_order`, and a cancel. -/
inductive Action where
  | sent (purpose : Purpose) (order : OutboundNewOrder)
  /-- There is no order manager, it drops the order, or the gateway does not take it. -/
  | unsent (purpose : Purpose)
  | cancel (request : CancelOrderRequest)
  deriving DecidableEq, Repr

/-- An instrument while a callback works on it, with what all instruments share. -/
structure Turn where
  id : Nat
  st : InstrumentState
  orderToInstrument : Table Nat Nat
  /-- Of the order manager. -/
  nextOrderId : Nat
  positions : PositionTracker
  actions : List Action := []

namespace InstrumentState

variable (cfg : Config) (st : InstrumentState)

def mid : ℚ := (st.bid + st.ask) / 2

def spreadBps : ℚ := (st.ask - st.bid) / st.mid * 10000

def rollingVwap : ℚ :=
  if st.vwapDen.sum ≤ 0 then st.mid else st.vwapNum.sum / st.vwapDen.sum

def roundQty (qtyUsd mid : ℚ) : ℚ :=
  if mid ≤ 0 then 0
  else
    let lot := if st.lotSize > 0 then st.lotSize else 1 / kScale
    (qtyUsd / mid / lot).floor * lot

def roundPrice (price : ℚ) (roundUp : Bool) : ℚ :=
  if st.tickSize ≤ 0 then price
  else if roundUp then (price / st.tickSize).ceil * st.tickSize
  else (price / st.tickSize).floor * st.tickSize

/-- The price of an order that is to trade at once: through the touch by `aggress_bps_`. -/
def aggressPrice : OrderSide → ℚ
  | .BUY => st.roundPrice (st.ask * (1 + cfg.aggressBps / 10000)) true
  | .SELL => st.roundPrice (st.bid * (1 - cfg.aggressBps / 10000)) false

/-- At the beginning of a transition nothing is waited for. -/
def inTransition (target : State) : InstrumentState :=
  { st with
    targetRegime := target
    transitioning := true
    closingPosition := false
    closeOrderId := 0
    transitionStartNs := st.lastBboNs
    pendingCancels := [] }

end InstrumentState

namespace Turn

variable (cfg : Config) (num : ExpNumerics) (env : Surroundings) (t : Turn)

def modify (f : InstrumentState → InstrumentState) : Turn := { t with st := f t.st }

/-! ## Orders -/

/-- The limit order that reaches the gateway, unless the order manager is missing or drops it. -/
def outboundOrder (side : OrderSide) (tif : TimeInForce) (price qty : ℚ) :
    Option OutboundNewOrder :=
  let request : NewOrderRequest :=
    { instrumentId := t.id
      exchangeId := some t.st.exchangeId
      side := side
      type := .LIMIT
      tif := tif
      price := price
      qty := qty }
  if cfg.hasOrderMgr then
    match normaliseAndValidate env.cache t.id side .LIMIT price qty with
    | none => none
    | some (price, quantity, symbol) =>
      some (OrderSends.outbound { nextOrderId := t.nextOrderId } request price quantity symbol)
  else none

/-- The id of the order, or 0. An id is spent on an order that the gateway does not take. -/
def sendOrder (purpose : Purpose) (side : OrderSide) (tif : TimeInForce) (price qty : ℚ) :
    Turn × Nat :=
  match t.outboundOrder cfg env side tif price qty with
  | none => ({ t with actions := t.actions ++ [.unsent purpose] }, 0)
  | some order =>
    let t := { t with nextOrderId := t.nextOrderId + 1 }
    if env.accepts order ∧ order.orderId ≠ 0 then
      ({ t with
          orderToInstrument := t.orderToInstrument.insert order.orderId t.id
          actions := t.actions ++ [.sent purpose order] }, order.orderId)
    else ({ t with actions := t.actions ++ [.unsent purpose] }, 0)

def cancelOrder (orderId : Nat) : Turn :=
  if ¬ cfg.hasOrderMgr ∨ orderId = 0 then t
  else
    { t with
      actions := t.actions ++
        [.cancel { orderId := orderId, exchangeId := t.st.exchangeId, instrumentId := t.id }] }

def netQty : Int := t.positions.netQty t.id t.st.exchangeId

/-- The side against the position. -/
def flatSide : OrderSide := if t.netQty > 0 then .SELL else .BUY

/-- An immediate-or-cancel order over the whole position. -/
def sendFlat (purpose : Purpose) : Turn × Nat :=
  t.sendOrder cfg env purpose t.flatSide .IOC (t.st.aggressPrice cfg t.flatSide)
    (ofE8 t.netQty.natAbs)

/-! ## Market making -/

def mmCancelQuotes : Turn :=
  let t :=
    if t.st.mmBidId ≠ 0 then
      (t.cancelOrder cfg t.st.mmBidId).modify ({ · with mmBidId := 0 })
    else t
  if t.st.mmAskId ≠ 0 then (t.cancelOrder cfg t.st.mmAskId).modify ({ · with mmAskId := 0 }) else t

/-- The two prices around the reservation price. -/
def mmPrices : ℚ × ℚ :=
  let st := t.st
  let mid := st.mid
  let barS : ℚ := cfg.barIntervalNs / 1000000000
  let barsPerYear := 365 * 24 * 3600 / barS
  let sigmaAnnual := num.sqrt (st.ewmaVar * barsPerYear)
  let sigmaT := sigmaAnnual * num.sqrt (cfg.mmHorizonS / (365 * 24 * 3600))
  let reservation := mid - cfg.mmGamma * (sigmaT * sigmaT) * ofE8 t.netQty
  let halfSpread := cfg.mmGamma * (sigmaT * sigmaT) / 2
    + 1 / cfg.mmGamma * num.log (1 + cfg.mmGamma / cfg.mmK)
  let feeFloor := mid * cfg.mmMinSpreadBps / 10000
  let halfSpread := if halfSpread < feeFloor then feeFloor else halfSpread
  (st.roundPrice (reservation - halfSpread) false, st.roundPrice (reservation + halfSpread) true)

/-- Either quote within a tick of the new price. -/
def mmUnmoved (newBid newAsk : ℚ) : Bool :=
  let tick := if t.st.tickSize > 0 then t.st.tickSize else t.st.mid * (1 / 10000)
  t.st.mmBidId ≠ 0 ∧ |newBid - t.st.mmBidPrice| < tick ∧ t.st.mmAskId ≠ 0 ∧
    |newAsk - t.st.mmAskPrice| < tick

/-- The quotes that the inventory leaves room for. -/
def mmSendQuotes (newBid newAsk qty : ℚ) : Turn :=
  let invUsd := ofE8 t.netQty * t.st.mid
  let t :=
    if invUsd < cfg.mmMaxInventoryUsd then
      let r := t.sendOrder cfg env .quote .BUY .GTC newBid qty
      r.1.modify ({ · with mmBidId := r.2, mmBidPrice := newBid })
    else t
  let t :=
    if invUsd > -cfg.mmMaxInventoryUsd then
      let r := t.sendOrder cfg env .quote .SELL .GTC newAsk qty
      r.1.modify ({ · with mmAskId := r.2, mmAskPrice := newAsk })
    else t
  t.modify fun st => { st with mmLastQuoteNs := st.lastBboNs }

def mmQuote : Turn :=
  if ¬ cfg.hasOrderMgr then t
  else if t.st.mmLastQuoteNs > 0 ∧
      u64Sub t.st.lastBboNs t.st.mmLastQuoteNs < cfg.mmRequoteNs then t
  else if t.st.mid ≤ 0 ∨ t.st.ewmaVar ≤ 0 then t
  else
    let (newBid, newAsk) := t.mmPrices cfg num
    if newBid ≤ 0 ∨ newAsk ≤ newBid then t
    else if t.mmUnmoved newBid newAsk then t
    else
      let t := t.mmCancelQuotes cfg
      let qty := t.st.roundQty cfg.mmQtyUsd t.st.mid
      if qty ≤ 0 then t else t.mmSendQuotes cfg env newBid newAsk qty

/-! ## Transitions -/

/-- The new regime begins. -/
def enterRegime : Turn :=
  let t := t.modify fun st =>
    { st with
      regime := st.targetRegime
      transitioning := false
      closingPosition := false
      regimeDwell := 0
      hasMomentumPosition := false
      hasReversionPosition := false }
  if t.st.regime = .highVol then t.mmQuote cfg num env else t

def checkTransitionComplete : Turn :=
  if t.st.pendingCancels ≠ [] then t
  else if t.st.closingPosition then t
  else if t.netQty ≠ 0 then
    let r := t.sendFlat cfg env .close
    let t := r.1.modify ({ · with closeOrderId := r.2 })
    if r.2 ≠ 0 then t.modify ({ · with closingPosition := true }) else t.enterRegime cfg num env
  else t.enterRegime cfg num env

/-- `cancel_tracked`, of the id that `get` reads and `clear` sets to 0. -/
def cancelTracked (get : InstrumentState → Nat) (clear : InstrumentState → InstrumentState) :
    Turn :=
  let orderId := get t.st
  if orderId ≠ 0 then
    (t.cancelOrder cfg orderId).modify fun st =>
      clear { st with pendingCancels := st.pendingCancels.insert orderId }
  else t

/-- All that the instrument has out is to be cancelled. -/
def withdraw : Turn :=
  (((t.cancelTracked cfg (·.momentumOrderId) ({ · with momentumOrderId := 0 })).cancelTracked cfg
    (·.reversionOrderId) ({ · with reversionOrderId := 0 })).cancelTracked cfg
    (·.mmBidId) ({ · with mmBidId := 0 })).cancelTracked cfg (·.mmAskId) ({ · with mmAskId := 0 })

def beginTransition (target : State) : Turn :=
  let t := (t.modify (·.inTransition target)).withdraw cfg
  if t.st.pendingCancels = [] then t.checkTransitionComplete cfg num env else t

end Turn

namespace InstrumentState

variable (num : ExpNumerics) (st : InstrumentState)

/-! ## The regime -/

/-- The observation vector of a bar. -/
def observation : Observation :=
  let score :=
    if st.vol.count ≥ 5 then
      let mean := st.vol.sum / st.vol.count
      let var := st.volSq.sum / st.vol.count - mean * mean
      let stdv := if var > 0 then num.sqrt var else 1
      (st.barTradeVol - mean) / stdv
    else 0
  ![st.returns.sum, num.sqrt st.ewmaVar, st.spreadBps, st.bookImbalance, score]

/-- The filter after the bar. -/
def observed : InstrumentState :=
  { st with hmm := st.hmm.update num (st.observation num), warmingUp := false }

end InstrumentState

namespace Turn

variable (cfg : Config) (num : ExpNumerics) (env : Surroundings) (t : Turn)

def evaluateRegime : Turn :=
  if t.st.mid ≤ 0 then t
  else
    let t := t.modify (·.observed num)
    if t.st.hmm.dominant = t.st.regime then
      t.modify fun st => { st with regimeDwell := st.regimeDwell + 1 }
    -- a new regime only on enough confidence, and after enough bars in the old one
    else if t.st.hmm.confidence < cfg.confidenceThreshold ∨ t.st.regimeDwell < cfg.minDwellBars then
      t
    else t.beginTransition cfg num env t.st.hmm.dominant

end Turn

/-! ## Signals -/

namespace InstrumentState

variable (cfg : Config) (st : InstrumentState)

/-- The side of a momentum entry: the trend, when the averages agree with it. -/
def momentumSignal : Option OrderSide :=
  if st.emaWarmup < cfg.emaSlowPeriod then none
  else if st.barAtrWarmup < cfg.atrPeriod ∨ st.barAtr < 1 / 1000000000000 then none
  else if st.lastBboNs < st.rejectCooldownUntilNs then none
  else if st.regime = .trendingUp then
    if st.emaFast ≤ st.emaSlow then none else some .BUY
  else
    if st.emaFast ≥ st.emaSlow then none else some .SELL

/-- Stop, target, or the averages have crossed back. -/
def momentumExitDue (mid : ℚ) : Bool :=
  match st.momentumSide with
  | .BUY => mid ≤ st.momentumStop ∨ mid ≥ st.momentumTarget ∨ st.emaFast < st.emaSlow
  | .SELL => mid ≥ st.momentumStop ∨ mid ≤ st.momentumTarget ∨ st.emaFast > st.emaSlow

/-- The side of a reversion entry: against the deviation from the average price. -/
def reversionSignal : Option OrderSide :=
  if st.barAtrWarmup < cfg.atrPeriod ∨ st.barAtr < 1 / 1000000000000 then none
  else if st.lastBboNs < st.rejectCooldownUntilNs then none
  else if st.vwapDen.sum ≤ 0 then none
  else
    let deviation := st.mid - st.rollingVwap
    if |deviation| < cfg.vwapDeviationAtr * st.barAtr then none
    else if deviation > 0 then some .SELL
    else some .BUY

/-- The deviation is gone, or it has grown to the stop. -/
def reversionExitDue (mid : ℚ) : Bool :=
  let deviation := mid - st.rollingVwap
  let closeThr := cfg.vwapCloseAtr * st.barAtr
  match st.reversionSide with
  | .SELL => deviation ≤ closeThr ∨ mid ≥ st.reversionStop
  | .BUY => deviation ≥ -closeThr ∨ mid ≤ st.reversionStop

end InstrumentState

namespace Turn

variable (cfg : Config) (num : ExpNumerics) (env : Surroundings) (t : Turn)

def momentumCheckSignal : Turn :=
  match t.st.momentumSignal cfg with
  | none => t
  | some side =>
    let qty := t.st.roundQty cfg.momentumQtyUsd t.st.mid
    if qty ≤ 0 then t
    else
      let t := t.modify ({ · with momentumSide := side })
      let r := t.sendOrder cfg env .entry side .IOC (t.st.aggressPrice cfg side) qty
      r.1.modify ({ · with momentumOrderId := r.2 })

def momentumClosePosition : Turn :=
  if t.netQty = 0 then t.modify ({ · with hasMomentumPosition := false })
  else
    let r := t.sendFlat cfg env .exit
    r.1.modify ({ · with momentumOrderId := r.2 })

def momentumCheckExit (mid : ℚ) : Turn :=
  if ¬ t.st.hasMomentumPosition ∨ t.st.momentumOrderId ≠ 0 then t
  else if t.st.momentumExitDue mid then t.momentumClosePosition cfg env
  else t

def reversionCheckSignal : Turn :=
  match t.st.reversionSignal cfg with
  | none => t
  | some side =>
    let qty := t.st.roundQty cfg.reversionQtyUsd t.st.mid
    if qty ≤ 0 then t
    else
      let t := t.modify fun st =>
        { st with
          reversionSide := side
          reversionStop :=
            if side = .SELL then st.mid + cfg.vwapStopAtr * st.barAtr
            else st.mid - cfg.vwapStopAtr * st.barAtr }
      let r := t.sendOrder cfg env .entry side .IOC (t.st.aggressPrice cfg side) qty
      r.1.modify ({ · with reversionOrderId := r.2 })

def reversionClosePosition : Turn :=
  if t.netQty = 0 then t.modify ({ · with hasReversionPosition := false })
  else
    let r := t.sendFlat cfg env .exit
    r.1.modify ({ · with reversionOrderId := r.2 })

def reversionCheckExit (mid : ℚ) : Turn :=
  if ¬ t.st.hasReversionPosition ∨ t.st.reversionOrderId ≠ 0 then t
  else if t.st.vwapDen.sum ≤ 0 then t
  else if t.st.reversionExitDue cfg mid then t.reversionClosePosition cfg env
  else t

end Turn

/-! ## Bars -/

namespace InstrumentState

variable (cfg : Config) (num : ExpNumerics) (st : InstrumentState)

/-- An exponential average over a number of bars. -/
def emaStep (period : Int) (x old : ℚ) : ℚ :=
  let alpha := 2 / (period + 1 : ℚ)
  alpha * x + (1 - alpha) * old

/-- The true range of the bar joins its average. -/
def closeAtr : InstrumentState :=
  let range := st.barHigh - st.barLow
  let tr :=
    if st.prevBarClose > 0 then
      max (max range |st.barHigh - st.prevBarClose|) |st.barLow - st.prevBarClose|
    else range
  if st.barAtrWarmup = 0 then { st with barAtr := tr, barAtrWarmup := 1 }
  else
    { st with
      barAtr := emaStep cfg.atrPeriod tr st.barAtr
      barAtrWarmup := st.barAtrWarmup + 1 }

/-- The log return of the bar, when there is a bar before it. -/
def closeReturn : InstrumentState :=
  let st :=
    if st.prevBarClose > 0 then
      let lr := num.log (st.barClose / st.prevBarClose)
      { st with
        returns := st.returns.push lr
        ewmaVar := cfg.ewmaLambda * st.ewmaVar + (1 - cfg.ewmaLambda) * lr * lr }
    else st
  { st with prevBarClose := st.barClose }

/-- The volume of the bar, and the terms of its average price. -/
def closeVolume : InstrumentState :=
  { st with
    vol := st.vol.push st.barTradeVol
    volSq := st.volSq.push (st.barTradeVol * st.barTradeVol)
    vwapNum := st.vwapNum.push st.barVwapNum
    vwapDen := st.vwapDen.push st.barVwapDen }

/-- `momentum_update_ema`. -/
def momentumUpdateEma : InstrumentState :=
  if st.emaWarmup = 0 then
    { st with emaFast := st.barClose, emaSlow := st.barClose, emaWarmup := 1 }
  else
    { st with
      emaFast := emaStep cfg.emaFastPeriod st.barClose st.emaFast
      emaSlow := emaStep cfg.emaSlowPeriod st.barClose st.emaSlow
      emaWarmup := st.emaWarmup + 1 }

/-- The features after a bar. -/
def closeFeatures : InstrumentState :=
  (((st.closeAtr cfg).closeReturn cfg num).closeVolume).momentumUpdateEma cfg

/-- The prices of a tick. -/
def quoted (tick : MdMarketData) : InstrumentState :=
  { st with bid := tick.bidPrice, ask := tick.askPrice, lastBboNs := tick.timestampNs }

/-- A bar begins with a tick. -/
def openBar : InstrumentState :=
  { st with
    barStartNs := st.lastBboNs
    barHigh := st.mid
    barLow := st.mid
    barClose := st.mid }

/-- A tick in a bar. -/
def extendBar : InstrumentState :=
  { st with
    barClose := st.mid
    barHigh := if st.mid > st.barHigh then st.mid else st.barHigh
    barLow := if st.mid < st.barLow then st.mid else st.barLow }

/-- The bar after the one that has been closed. -/
def nextBar : InstrumentState :=
  { st.openBar with barTradeVol := 0, barVwapNum := 0, barVwapDen := 0 }

end InstrumentState

namespace Turn

variable (cfg : Config) (num : ExpNumerics) (env : Surroundings) (t : Turn)

/-- The signals of the regime on a bar. -/
def dispatch : Turn :=
  let spreadOk : Bool := t.st.spreadBps ≤ cfg.maxSpreadBps
  match t.st.regime with
  | .trendingUp | .trendingDown =>
    if spreadOk ∧ ¬ t.st.hasMomentumPosition then t.momentumCheckSignal cfg env
    else if t.st.hasMomentumPosition then t.momentumCheckExit cfg env t.st.mid
    else t
  | .meanRevert =>
    if spreadOk ∧ ¬ t.st.hasReversionPosition then t.reversionCheckSignal cfg env
    else if t.st.hasReversionPosition then t.reversionCheckExit cfg env t.st.mid
    else t
  | .highVol => if spreadOk then t.mmQuote cfg num env else t.mmCancelQuotes cfg

def onBarClose : Turn :=
  let t := t.modify (·.closeFeatures cfg num)
  if t.st.returns.count < kMinWarmupBars then t.modify ({ · with warmingUp := true })
  else
    let t := t.evaluateRegime cfg num env
    if t.st.transitioning then t else t.dispatch cfg num env

/-- What a transition still waits for after ten seconds is forgotten. -/
def timeOut : Turn :=
  let orders := t.orderToInstrument
  let orders := t.st.pendingCancels.foldl (fun orders orderId => orders.erase orderId) orders
  let orders := if t.st.closeOrderId ≠ 0 then orders.erase t.st.closeOrderId else orders
  let t := { t with orderToInstrument := orders }
  (t.modify ({ · with pendingCancels := [], closeOrderId := 0, closingPosition := false }))
    |>.checkTransitionComplete cfg num env

/-- The exits that a tick within a bar may set off. -/
def intraBar : Turn :=
  match t.st.regime with
  | .trendingUp | .trendingDown =>
    if t.st.hasMomentumPosition then t.momentumCheckExit cfg env t.st.mid else t
  | .meanRevert =>
    if t.st.hasReversionPosition then t.reversionCheckExit cfg env t.st.mid else t
  | .highVol => t

/-- The bar that a tick belongs to, closed when its time is over. -/
def bar : Turn :=
  if t.st.barStartNs = 0 then t.modify (·.openBar)
  else
    let t := t.modify (·.extendBar)
    if u64Sub t.st.lastBboNs t.st.barStartNs ≥ cfg.barIntervalNs then
      (t.onBarClose cfg num env).modify (·.nextBar)
    else t

def onBbo (tick : MdMarketData) : Turn :=
  if tick.bidPrice ≤ 0 ∨ tick.askPrice ≤ 0 ∨ tick.askPrice ≤ tick.bidPrice then t
  else
    let t := (t.modify (·.quoted tick)).bar cfg num env
    if t.st.warmingUp ∨ t.st.transitioning then
      if t.st.transitioning ∧
          u64Sub t.st.lastBboNs t.st.transitionStartNs > kTransitionTimeoutNs then
        t.timeOut cfg num env
      else t
    else t.intraBar cfg env

end Turn

/-! ## Reports -/

namespace InstrumentState

variable (cfg : Config) (st : InstrumentState)

/-- The count of rejects in a row, and the pause after the third. -/
def backoff (status : ExecStatus) (source : RejectSource) : InstrumentState :=
  if status = .REJECTED then
    if source = .GATEWAY ∨ source = .RISK then st
    else
      let rejects := st.consecutiveRejects + 1
      if rejects ≥ 3 then
        { st with
          consecutiveRejects := rejects
          rejectCooldownUntilNs := (st.lastBboNs + 30000000000) % 2 ^ 64 }
      else { st with consecutiveRejects := rejects }
  else { st with consecutiveRejects := 0 }

/-- The end of an order in a trend. A fill that opens the position keeps the order's id. -/
def momentumReport (rpt : ExecReport) : InstrumentState :=
  if rpt.orderId = st.momentumOrderId then
    if rpt.status = .FILLED then
      if st.hasMomentumPosition then { st with hasMomentumPosition := false, momentumOrderId := 0 }
      else
        let entry := ofE8 rpt.price
        let stop := cfg.atrStopMult * st.barAtr
        let target := cfg.atrTargetMult * st.barAtr
        match st.momentumSide with
        | .BUY =>
          { st with
            hasMomentumPosition := true
            momentumStop := entry - stop
            momentumTarget := entry + target }
        | .SELL =>
          { st with
            hasMomentumPosition := true
            momentumStop := entry + stop
            momentumTarget := entry - target }
    else { st with momentumOrderId := 0 }
  else st

/-- The same while reverting. -/
def reversionReport (rpt : ExecReport) : InstrumentState :=
  if rpt.orderId = st.reversionOrderId then
    if rpt.status = .FILLED then
      if st.hasReversionPosition then
        { st with hasReversionPosition := false, reversionOrderId := 0 }
      else { st with hasReversionPosition := true }
    else { st with reversionOrderId := 0 }
  else st

def mmReport (rpt : ExecReport) : InstrumentState :=
  if rpt.orderId = st.mmBidId then { st with mmBidId := 0 }
  else if rpt.orderId = st.mmAskId then { st with mmAskId := 0 }
  else st

end InstrumentState

namespace Turn

variable (cfg : Config) (num : ExpNumerics) (env : Surroundings) (t : Turn)

/-- The transition waits for one order less. -/
def noLongerPending (rpt : ExecReport) : Turn :=
  let t := t.modify fun st =>
    { st with pendingCancels := st.pendingCancels.filter (· ≠ rpt.orderId) }
  if t.st.closingPosition ∧ rpt.orderId = t.st.closeOrderId then
    t.modify ({ · with closeOrderId := 0, closingPosition := false })
  else t

/-- The end of an order while the instrument is in transition. -/
def transitionReport (rpt : ExecReport) : Turn :=
  let t := t.noLongerPending rpt
  if t.st.pendingCancels = [] ∧ ¬ t.st.closingPosition then t.checkTransitionComplete cfg num env
  else t

/-- The strategy forgets the order. -/
def forget (orderId : Nat) : Turn :=
  { t with orderToInstrument := t.orderToInstrument.erase orderId }

/-- The end of an order. -/
def terminalReport (rpt : ExecReport) (source : RejectSource) : Turn :=
  let t := t.modify (·.backoff rpt.status source)
  let t :=
    if t.st.transitioning then t.transitionReport cfg num env rpt
    else
      match t.st.regime with
      | .trendingUp | .trendingDown => t.modify (·.momentumReport cfg rpt)
      | .meanRevert => t.modify (·.reversionReport rpt)
      | .highVol => t.modify (·.mmReport rpt)
  t.forget rpt.orderId

/-- The fill of a report, if it is one. -/
def filled (rpt : ExecReport) : Turn :=
  if rpt.status.isFill then
    { t with
      positions := t.positions.onFill t.id t.st.exchangeId rpt.side rpt.filledQty rpt.price }
  else t

def onExecReport (rpt : ExecReport) (source : RejectSource) : Turn :=
  let t := t.filled rpt
  if rpt.status.terminal then t.terminalReport cfg num env rpt source else t

end Turn

/-- An instrument that the configured ones resolve to. -/
structure Resolved where
  instrumentId : Nat
  exchangeId : ExchangeId
  tickSize : ℚ
  lotSize : ℚ
  deriving DecidableEq, Repr

/-- An instrument before any of its data. -/
def Resolved.fresh (r : Resolved) : InstrumentState where
  exchangeId := r.exchangeId
  tickSize := r.tickSize
  lotSize := r.lotSize

/-- A call of the strategy. -/
inductive Callback where
  | instrumentSnapshot (resolved : List Resolved)
  | instrumentDelta (inst : Instrument) (updateType : DeltaUpdateType)
  | bbo (tick : MdMarketData)
  | trade (tick : MdTrade)
  | orderBook (book : MdOrderBook)
  | execReport (rpt : ExecReport) (source : RejectSource)

end Hmm

open Hmm in
structure HmmStrategy where
  state : Table Nat InstrumentState := ∅
  orderToInstrument : Table Nat Nat := ∅
  nextOrderId : Nat
  positions : PositionTracker := {}

namespace HmmStrategy

open Hmm

variable (cfg : Config) (num : ExpNumerics) (env : Surroundings) (s : HmmStrategy)

/-- The turn of an instrument. -/
def turn (id : Nat) (st : InstrumentState) : Turn where
  id := id
  st := st
  orderToInstrument := s.orderToInstrument
  nextOrderId := s.nextOrderId
  positions := s.positions

/-- What a turn leaves behind. -/
def commit (t : Turn) : HmmStrategy × List Action :=
  ({ state := s.state.insert t.id t.st
     orderToInstrument := t.orderToInstrument
     nextOrderId := t.nextOrderId
     positions := t.positions }, t.actions)

/-- The turn of an instrument that the strategy has. -/
def withTurn (id : Nat) (f : Turn → Turn) : HmmStrategy × List Action :=
  match s.state.lookup id with
  | none => (s, [])
  | some st => s.commit (f (s.turn id st))

/-- A second snapshot is ignored. -/
def onInstrumentSnapshot (resolved : List Resolved) : HmmStrategy :=
  if s.state.keys = [] then
    { s with
      state := resolved.foldl (fun table r => table.emplace r.instrumentId r.fresh) ∅ }
  else s

/-- A trade joins the volume of the bar. -/
def tradeTurn (tick : MdTrade) (t : Turn) : Turn :=
  if tick.price ≤ 0 ∨ tick.qty ≤ 0 then t
  else
    t.modify fun st =>
      { st with
        barTradeVol := st.barTradeVol + tick.qty
        barVwapNum := st.barVwapNum + tick.price * tick.qty
        barVwapDen := st.barVwapDen + tick.qty }

/-- The imbalance of the best levels. -/
def bookTurn (book : MdOrderBook) (t : Turn) : Turn :=
  let bq := ((book.bids.head?.map Prod.snd).getD 0) / kScale
  let aq := ((book.asks.head?.map Prod.snd).getD 0) / kScale
  if bq + aq > 0 then t.modify ({ · with bookImbalance := bq / (bq + aq) }) else t

def step (s : HmmStrategy) : Hmm.Callback × Hmm.Surroundings → HmmStrategy × List Action
  | (.instrumentSnapshot resolved, _) => (s.onInstrumentSnapshot resolved, [])
  | (.instrumentDelta _ _, _) => (s, [])
  | (.bbo tick, env) => s.withTurn tick.instrumentId (·.onBbo cfg num env tick)
  | (.trade tick, _) => s.withTurn tick.instrumentId (tradeTurn tick)
  | (.orderBook book, _) => s.withTurn book.instrumentId (bookTurn book)
  | (.execReport rpt source, env) =>
    match s.orderToInstrument.lookup rpt.orderId with
    | none => (s, [])
    | some id => s.withTurn id (·.onExecReport cfg num env rpt source)

end HmmStrategy

end BptCore.Strategy
