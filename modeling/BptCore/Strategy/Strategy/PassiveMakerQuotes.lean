import BptCore.Features.VolatilityGate
import BptCore.Strategy.Order.SendNewOrder
import BptCore.Strategy.Strategy.PassiveMaker

/-!
# The passive maker's quotes

What `PassiveMakerStrategy` does on a tick and at shutdown: it cancels its quotes and forgets their
ids in the same breath, and places new ones. Reports may come from inside the calls that cancel and
send; they send nothing, so that they are folded into the calls. The estimators of volatility and
regime, which take logarithms and roots, are a parameter.

* **`cancelQuotes`**, **`placeSide`** — the calls, with what the gateway does before it returns.
* **`requote`** — both sides anew.
* **`onBbo`** — the gates and the triggers.
* **`step`** — one callback.
-/

namespace BptCore.Strategy

open BptCore.Features

namespace PassiveMaker

/-- `RealizedVolEstimator` and `RegimeClassifier` of an instrument, over their state. -/
structure Estimators (Sig : Type) where
  make : Sig
  update : Sig → ℚ → Nat → Sig
  /-- The realized volatility in basis points a minute, 0 until the estimator is ready. -/
  rvPerMinBps : Sig → ℚ
  /-- `classify` answers `CHOPPY`. -/
  classifyChoppy : Sig → Nat → Sig × Bool

structure Config (Sig : Type) where
  estimators : Estimators Sig
  halfSpreadBps : ℚ := 15
  inventoryPenalty : ℚ := 0
  requoteThresholdBps : ℚ := 50
  qtyPerQuote : ℚ := 50
  maxInventory : ℚ := 500
  spreadVolMult : ℚ := 0
  requoteVolMult : ℚ := 0
  regimeGatingEnabled : Bool := false
  volGate : VolGateConfig := {}
  /-- `order_mgr_` is not null. -/
  hasOrderMgr : Bool := true

/-- The rest of `InstrumentState`: the market, and the quotes as they were placed. -/
structure QuoteState (Sig : Type) where
  exchange : String
  tickSize : ℚ
  lotSize : ℚ
  bid : ℚ := 0
  ask : ℚ := 0
  bidSize : ℚ := 0
  askSize : ℚ := 0
  lastBookNs : Nat := 0
  bidOrderPrice : ℚ := 0
  askOrderPrice : ℚ := 0
  fvAtPlace : ℚ := 0
  volGate : VolatilityGate := {}
  signals : Sig
  flattenInProgress : Bool := false

/-- What the gateway does inside `send_new_order`: the reports that it delivers, and its answer. -/
structure Answer where
  accepted : Bool := true
  reports : List ExecReport := []

/-- What a callback finds. -/
structure QuoteSurroundings where
  cache : InstrumentCache
  gateway : OutboundNewOrder → Answer
  /-- The reports that come from inside `send_cancel`. -/
  cancels : CancelOrderRequest → List ExecReport
  /-- `SimClock::now_ns`. -/
  nowNs : Nat

/-- What the venue sees of the strategy's orders, and the strategy of the venue, in order. -/
inductive VenueEvent where
  | sent (order : OutboundNewOrder) (accepted : Bool)
  | cancel (request : CancelOrderRequest)
  | report (rpt : ExecReport)

end PassiveMaker

open PassiveMaker in
/-- The maker's quotes and inventories with the rest of its state. -/
structure PassiveMakerStrategy (Sig : Type) where
  maker : PassiveMaker := {}
  quotes : Table Nat (QuoteState Sig) := ∅
  /-- Of the order manager. -/
  nextOrderId : Nat

namespace PassiveMakerStrategy

open PassiveMaker

/-- A call of the strategy. The snapshot brings the instruments that the configured ones resolve
to. -/
inductive Callback where
  | instrumentSnapshot (resolved : List (Instrument × ExchangeId))
  | instrumentDelta (inst : Instrument) (updateType : DeltaUpdateType)
  | bbo (tick : MdMarketData)
  | trade (tick : MdTrade)
  | orderBook (book : MdOrderBook)
  | execReport (rpt : ExecReport)
  /-- The turn of one instrument in the loop of `on_shutdown_flatten`. -/
  | shutdownFlatten (instrumentId : Nat)

variable {Sig : Type} (cfg : Config Sig) (env : QuoteSurroundings) (s : PassiveMakerStrategy Sig)

/-! ## Prices and quantities -/

/-- The microprice; the mid when there are no sizes. -/
def computeFairValue (bid ask bidSz askSz : ℚ) : ℚ :=
  if bid ≤ 0 ∨ ask ≤ 0 then 0
  else if bidSz + askSz ≤ 0 then (bid + ask) / 2
  else (bid * askSz + ask * bidSz) / (bidSz + askSz)

def roundToTick (price tickSize : ℚ) (roundDown : Bool) : ℚ :=
  if tickSize ≤ 0 then price
  else (if roundDown then ((price / tickSize).floor : ℚ) else (price / tickSize).ceil) * tickSize

def scaleWithVol (base mult volBps : ℚ) : ℚ := base + mult * volBps

def minNotionalUsd (venue : String) : ℚ := if venue = "HYPERLIQUID" then 10 else 0

/-- With five percent of headroom. -/
def bumpQtyForMinNotional (qty price lotSize minNotional : ℚ) : ℚ :=
  if minNotional ≤ 0 ∨ price ≤ 0 ∨ lotSize ≤ 0 then qty
  else max qty ((minNotional * (105 / 100) / price / lotSize).ceil * lotSize)

def driftExceedsThreshold (q : QuoteState Sig) (fvNow : ℚ) : Bool :=
  if q.fvAtPlace ≤ 0 then true
  else
    |fvNow - q.fvAtPlace| / q.fvAtPlace * 10000 >
      scaleWithVol cfg.requoteThresholdBps cfg.requoteVolMult (cfg.estimators.rvPerMinBps q.signals)

/-- The price of a side around the reservation price, one tick inside the touch where it would
cross. -/
def quotePrice (q : QuoteState Sig) (inventory fv : ℚ) (side : OrderSide) : ℚ :=
  let r := fv - inventory * cfg.inventoryPenalty
  let halfBps :=
    scaleWithVol cfg.halfSpreadBps cfg.spreadVolMult (cfg.estimators.rvPerMinBps q.signals)
  let halfSpread := r * (halfBps / 10000)
  match side with
  | .BUY =>
    let px := roundToTick (r - halfSpread) q.tickSize true
    if px ≥ q.ask then roundToTick (q.ask - q.tickSize) q.tickSize true else px
  | .SELL =>
    let px := roundToTick (r + halfSpread) q.tickSize false
    if px ≤ q.bid then roundToTick (q.bid + q.tickSize) q.tickSize false else px

/-- The inventory leaves room for a side, and there is a price for it. -/
def posts (q : QuoteState Sig) (inventory fv : ℚ) (side : OrderSide) : Bool :=
  (match side with
    | .BUY => decide (inventory < cfg.maxInventory)
    | .SELL => decide (inventory > -cfg.maxInventory)) &&
  decide (0 < quotePrice cfg q inventory fv side)

/-! ## Quotes -/

def quoteId (st : InstrumentState) : OrderSide → Nat
  | .BUY => st.bidOrderId
  | .SELL => st.askOrderId

def setQuoteId (st : InstrumentState) (side : OrderSide) (orderId : Nat) : InstrumentState :=
  match side with
  | .BUY => { st with bidOrderId := orderId }
  | .SELL => { st with askOrderId := orderId }

/-- The id of a side's quote is set. -/
def assign (instrumentId : Nat) (side : OrderSide) (orderId : Nat) : PassiveMakerStrategy Sig :=
  match s.maker.state.lookup instrumentId with
  | none => s
  | some st =>
    { s with
      maker :=
        { s.maker with
          state := s.maker.state.insert instrumentId (setQuoteId st side orderId) } }

def report (rpt : ExecReport) : PassiveMakerStrategy Sig :=
  { s with maker := s.maker.onExecReport rpt }

/-- A quote is cancelled, and its id forgotten with the call. -/
def cancelSide (instrumentId : Nat) (side : OrderSide) :
    PassiveMakerStrategy Sig × List VenueEvent :=
  match s.maker.state.lookup instrumentId with
  | none => (s, [])
  | some st =>
    if quoteId st side ≠ 0 ∧ cfg.hasOrderMgr then
      let request : CancelOrderRequest :=
        { orderId := quoteId st side
          exchangeId := st.exchangeId
          instrumentId := instrumentId }
      let reports := env.cancels request
      ((reports.foldl report s).assign instrumentId side 0, .cancel request :: reports.map .report)
    else (s, [])

def cancelQuotes (instrumentId : Nat) : PassiveMakerStrategy Sig × List VenueEvent :=
  let bids := s.cancelSide cfg env instrumentId .BUY
  let asks := bids.1.cancelSide cfg env instrumentId .SELL
  (asks.1, bids.2 ++ asks.2)

/-- `send_new_order`, with the id that it returns: 0 when nothing was sent or taken. The order is
followed from the return of the call on. -/
def sendNewOrder (request : NewOrderRequest) : PassiveMakerStrategy Sig × Nat × List VenueEvent :=
  match normaliseAndValidate env.cache request.instrumentId request.side request.type request.price
      request.qty with
  | none => (s, 0, [])
  | some (price, quantity, symbol) =>
    let order :=
      OrderSends.outbound { nextOrderId := s.nextOrderId } request price quantity symbol
    let answer := env.gateway order
    let s := answer.reports.foldl report { s with nextOrderId := s.nextOrderId + 1 }
    let events := .sent order answer.accepted :: answer.reports.map .report
    if answer.accepted ∧ order.orderId ≠ 0 then
      ({ s with maker := s.maker.placed order.orderId request.instrumentId }, order.orderId, events)
    else (s, 0, events)

def quoteRequest (instrumentId : Nat) (exchangeId : ExchangeId) (q : QuoteState Sig)
    (side : OrderSide) (price : ℚ) : NewOrderRequest where
  instrumentId := instrumentId
  exchangeId := exchangeId
  side := side
  type := .LIMIT
  tif := .GTC
  price := price
  qty := bumpQtyForMinNotional cfg.qtyPerQuote price q.lotSize (minNotionalUsd q.exchange)

/-- `place_side`, with the assignment of the id that it returns. -/
def placeSide (instrumentId : Nat) (exchangeId : ExchangeId) (q : QuoteState Sig)
    (side : OrderSide) (price : ℚ) : PassiveMakerStrategy Sig × List VenueEvent :=
  if cfg.hasOrderMgr then
    let r := s.sendNewOrder env (quoteRequest cfg instrumentId exchangeId q side price)
    (r.1.assign instrumentId side r.2.1, r.2.2)
  else (s.assign instrumentId side 0, [])

/-- What is remembered of the quotes that rest after a requote. -/
def remember (instrumentId : Nat) (fv bidPx askPx : ℚ) : PassiveMakerStrategy Sig :=
  match s.maker.state.lookup instrumentId, s.quotes.lookup instrumentId with
  | some st, some q =>
    { s with
      quotes := s.quotes.insert instrumentId
        { q with
          bidOrderPrice := if st.bidOrderId ≠ 0 then bidPx else q.bidOrderPrice
          askOrderPrice := if st.askOrderId ≠ 0 then askPx else q.askOrderPrice
          fvAtPlace := fv } }
  | _, _ => s

/-- Both sides are cancelled, and those that the inventory leaves room for are placed anew. -/
def requote (instrumentId : Nat) (q : QuoteState Sig) (fv : ℚ) :
    PassiveMakerStrategy Sig × List VenueEvent :=
  let cancelled := s.cancelQuotes cfg env instrumentId
  match cancelled.1.maker.state.lookup instrumentId with
  | none => cancelled
  | some st =>
    let bidPx := quotePrice cfg q st.inventory fv .BUY
    let askPx := quotePrice cfg q st.inventory fv .SELL
    let bid :=
      if posts cfg q st.inventory fv .BUY then
        cancelled.1.placeSide cfg env instrumentId st.exchangeId q .BUY bidPx
      else (cancelled.1, [])
    let ask :=
      if posts cfg q st.inventory fv .SELL then
        bid.1.placeSide cfg env instrumentId st.exchangeId q .SELL askPx
      else (bid.1, [])
    (ask.1.remember instrumentId fv bidPx askPx, cancelled.2 ++ bid.2 ++ ask.2)

/-! ## Callbacks -/

/-- A second snapshot is ignored. -/
def onInstrumentSnapshot (resolved : List (Instrument × ExchangeId)) : PassiveMakerStrategy Sig :=
  if s.maker.state.keys = [] then
    { s with
      maker :=
        { s.maker with
          state := resolved.foldl
            (fun t r => t.emplace r.1.instrumentId { exchangeId := r.2 }) ∅ }
      quotes := resolved.foldl
        (fun t r =>
          t.emplace r.1.instrumentId
            { exchange := r.1.exchange
              tickSize := r.1.tickSize
              lotSize := r.1.lotSize
              signals := cfg.estimators.make }) ∅ }
  else s

/-- The prices of a tick. -/
def QuoteState.quoted (q : QuoteState Sig) (tick : MdMarketData) : QuoteState Sig :=
  { q with
    bid := tick.bidPrice
    ask := tick.askPrice
    bidSize := tick.bidQty
    askSize := tick.askQty
    lastBookNs := if env.nowNs = 0 then tick.timestampNs else env.nowNs }

/-- The estimators and the gate after a mid, and whether the gate is halted. -/
def QuoteState.observed (q : QuoteState Sig) : QuoteState Sig × Bool :=
  let mid := (q.bid + q.ask) / 2
  let gate := q.volGate.updateAndCheck cfg.volGate mid q.lastBookNs
  ({ q with
      signals := cfg.estimators.update q.signals mid q.lastBookNs
      volGate := gate.1 }, gate.2)

/-- The regime is classified when it gates the quotes. -/
def QuoteState.classified (q : QuoteState Sig) : QuoteState Sig × Bool :=
  if cfg.regimeGatingEnabled then
    let r := cfg.estimators.classifyChoppy q.signals q.lastBookNs
    ({ q with signals := r.1 }, r.2)
  else (q, false)

/-- One of the three triggers: no quotes, drift, or a quote that the inventory leaves no room for. -/
def requoteDue (st : InstrumentState) (q : QuoteState Sig) (fv : ℚ) : Bool :=
  (st.bidOrderId = 0 ∧ st.askOrderId = 0) ∨ driftExceedsThreshold cfg q fv ∨
    (|st.inventory| ≥ cfg.maxInventory ∧
      (st.inventory > 0 ∧ st.bidOrderId ≠ 0 ∨ st.inventory < 0 ∧ st.askOrderId ≠ 0))

/-- What a tick has the strategy do. -/
inductive Decision (Sig : Type) where
  | nothing
  | cancel
  | requote (q : QuoteState Sig) (fv : ℚ)

/-- The gates and the triggers, with the instrument's state after the tick. -/
def decision (st : InstrumentState) (q : QuoteState Sig) (tick : MdMarketData) :
    QuoteState Sig × Decision Sig :=
  let q := QuoteState.quoted env q tick
  if q.bid ≤ 0 ∨ q.ask ≤ 0 then (q, .nothing)
  else
    let observed := QuoteState.observed cfg q
    let q := observed.1
    if observed.2 then (q, .cancel)
    else if q.volGate.isHalted cfg.volGate q.lastBookNs then (q, .nothing)
    else if q.flattenInProgress then (q, .nothing)
    else
      let classified := QuoteState.classified cfg q
      let q := classified.1
      if classified.2 then (q, .cancel)
      else
        let fv := computeFairValue q.bid q.ask q.bidSize q.askSize
        if fv ≤ 0 then (q, .nothing)
        else if requoteDue cfg st q fv then (q, .requote q fv)
        else (q, .nothing)

def onBbo (tick : MdMarketData) : PassiveMakerStrategy Sig × List VenueEvent :=
  match s.maker.state.lookup tick.instrumentId, s.quotes.lookup tick.instrumentId with
  | some st, some q =>
    let decided := decision cfg env st q tick
    let s := { s with quotes := s.quotes.insert tick.instrumentId decided.1 }
    match decided.2 with
    | .nothing => (s, [])
    | .cancel => s.cancelQuotes cfg env tick.instrumentId
    | .requote q fv => s.requote cfg env tick.instrumentId q fv
  | _, _ => (s, [])

/-- The side that closes the inventory. -/
def unwindSide (inventory : ℚ) : OrderSide := if inventory > 0 then .SELL else .BUY

/-- An immediate-or-cancel order for the inventory, five basis points through the touch. -/
def unwindRequest (instrumentId : Nat) (st : InstrumentState) (q : QuoteState Sig) :
    NewOrderRequest where
  instrumentId := instrumentId
  exchangeId := st.exchangeId
  side := unwindSide st.inventory
  type := .LIMIT
  tif := .IOC
  price := match unwindSide st.inventory with
    | .SELL => q.bid * (1 - 5 / 10000)
    | .BUY => q.ask * (1 + 5 / 10000)
  qty := |st.inventory|

/-- There is an inventory to close, and a price. -/
def unwindDue (st : InstrumentState) (q : QuoteState Sig) : Bool :=
  |st.inventory| > 1 / 1000000000 ∧ 0 < (q.bid + q.ask) / 2

def onShutdownFlatten (instrumentId : Nat) : PassiveMakerStrategy Sig × List VenueEvent :=
  match s.quotes.lookup instrumentId with
  | none => (s, [])
  | some q =>
    let s := { s with quotes := s.quotes.insert instrumentId { q with flattenInProgress := true } }
    if cfg.hasOrderMgr then
      let cancelled := s.cancelQuotes cfg env instrumentId
      match cancelled.1.maker.state.lookup instrumentId with
      | none => cancelled
      | some st =>
        if unwindDue st q then
          let r := cancelled.1.sendNewOrder env (unwindRequest instrumentId st q)
          (r.1, cancelled.2 ++ r.2.2)
        else cancelled
    else (s, [])

def step (s : PassiveMakerStrategy Sig) :
    Callback × QuoteSurroundings → PassiveMakerStrategy Sig × List VenueEvent
  | (.instrumentSnapshot resolved, _) => (s.onInstrumentSnapshot cfg resolved, [])
  | (.instrumentDelta _ _, _) => (s, [])
  | (.bbo tick, env) => s.onBbo cfg env tick
  | (.trade _, _) => (s, [])
  | (.orderBook _, _) => (s, [])
  | (.execReport rpt, _) => (s.report rpt, [.report rpt])
  | (.shutdownFlatten instrumentId, env) => s.onShutdownFlatten cfg env instrumentId

end PassiveMakerStrategy

end BptCore.Strategy
