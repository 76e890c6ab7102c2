import BptCore.Features.OFICalculator
import BptCore.Features.VolatilityGate
import BptCore.Strategy.Order.SendNewOrder

/-!
# The order flow imbalance strategy

One instrument is flat, long or short by a label, which is set when an order is sent, and again when
an order ends without having been filled. Reports may come from inside the call that sends an order;
they send nothing, so that they are folded into the call. The mark-outs, which are only logged, and
the market data subscriptions are left out.

* **`fireOrder`** — an order, with what the gateway does before it returns.
* **`tryEnter`**, **`tryExit`** — the decisions on a book.
* **`onExecReport`** — the end of an order.
* **`step`** — one callback.
-/

namespace BptCore.Strategy

open BptCore.Features

namespace OFI

/-- What the label says of the position. -/
inductive Position where
  | FLAT | LONG | SHORT
  deriving DecidableEq, Repr

/-- An `activeOrderId` of 0 is no order in flight. -/
structure InstrumentState where
  exchangeId : Option ExchangeId := none
  bid : ℚ := 0
  ask : ℚ := 0
  lastBboNs : Nat := 0
  ofi : OFICalculator := {}
  pos : Position := .FLAT
  entryPrice : ℚ := 0
  entryNs : Nat := 0
  activeOrderId : Nat := 0
  cooldownTicksRemaining : Int := 0
  volGate : VolatilityGate := {}

structure Config where
  ofi : OFIConfig := {}
  volGate : VolGateConfig := {}
  entryThreshold : ℚ := 35 / 100
  exitThreshold : ℚ := 15 / 100
  stopBps : ℚ := 8
  targetBps : ℚ := 12
  maxHoldNs : Nat := 30000000000
  cooldownTicks : Int := 20
  qtyUsd : ℚ := 200
  maxSpreadBps : ℚ := 5
  /-- `order_mgr_` is not null. -/
  hasOrderMgr : Bool := true

/-- What the gateway does inside `send_new_order`: the reports that it delivers, and its answer. -/
structure Answer where
  accepted : Bool := true
  reports : List ExecReport := []

/-- What a callback finds. -/
structure Surroundings where
  cache : InstrumentCache
  gateway : OutboundNewOrder → Answer

/-- What the venue sees of the strategy's orders, and the strategy of the venue, in order. An entry
is an order that was sent with `active_is_entry`. -/
inductive VenueEvent where
  | sent (order : OutboundNewOrder) (isEntry : Bool)
  | report (rpt : ExecReport)
  /-- The gateway did not take the order. -/
  | refused (orderId : Nat)

end OFI

open OFI in
structure OFI where
  state : Table Nat InstrumentState := ∅
  orderToInstrument : Table Nat Nat := ∅
  /-- Of the order manager. -/
  nextOrderId : Nat

namespace OFI

/-- A call of the strategy. The snapshot brings the instruments that the configured ones resolve
to. -/
inductive Callback where
  | instrumentSnapshot (resolved : List (Nat × Option ExchangeId))
  | instrumentDelta (inst : Instrument) (updateType : DeltaUpdateType)
  | bbo (tick : MdMarketData)
  | trade (tick : MdTrade)
  | orderBook (book : MdOrderBook)
  | execReport (rpt : ExecReport)
  /-- The turn of one instrument in the loop of `on_shutdown_flatten`. -/
  | shutdownFlatten (instrumentId : Nat)

variable (cfg : Config) (env : Surroundings) (s : OFI)

def InstrumentState.mid (st : InstrumentState) : ℚ := (st.bid + st.ask) / 2

/-- The state of one instrument is changed. -/
def modify (instrumentId : Nat) (f : InstrumentState → InstrumentState) : OFI :=
  match s.state.lookup instrumentId with
  | none => s
  | some st => { s with state := s.state.insert instrumentId (f st) }

/-! ## Reports -/

/-- The label after the end of an order: it is flat when the order has not ended as filled, an entry
or not. -/
def InstrumentState.ended (st : InstrumentState) (rpt : ExecReport) : InstrumentState :=
  if rpt.orderId = st.activeOrderId then
    let st :=
      if rpt.status ≠ .FILLED then
        { st with pos := .FLAT, cooldownTicksRemaining := cfg.cooldownTicks }
      else st
    { st with activeOrderId := 0 }
  else st

def onExecReport (rpt : ExecReport) : OFI :=
  match s.orderToInstrument.lookup rpt.orderId with
  | none => s
  | some instrumentId =>
    match s.state.lookup instrumentId with
    | none => s
    | some st =>
      if rpt.status.terminal then
        { s with
          state := s.state.insert instrumentId (st.ended cfg rpt)
          orderToInstrument := s.orderToInstrument.erase rpt.orderId }
      else s

/-! ## Orders -/

/-- An immediate-or-cancel limit at the touch; `kAggressBps` is 0. -/
def orderRequest (instrumentId : Nat) (st : InstrumentState) (side : OrderSide) :
    NewOrderRequest where
  instrumentId := instrumentId
  exchangeId := st.exchangeId
  side := side
  type := .LIMIT
  tif := .IOC
  price := match side with
    | .BUY => st.ask
    | .SELL => st.bid
  qty := cfg.qtyUsd / st.mid

/-- The order that reaches the gateway, unless the order manager is missing or drops it. -/
def outboundOrder (instrumentId : Nat) (st : InstrumentState) (side : OrderSide) :
    Option OutboundNewOrder :=
  if cfg.hasOrderMgr ∧ 0 < st.mid then
    let request := orderRequest cfg instrumentId st side
    match normaliseAndValidate env.cache instrumentId side request.type request.price
        request.qty with
    | none => none
    | some (price, quantity, symbol) =>
      some (OrderSends.outbound { nextOrderId := s.nextOrderId } request price quantity symbol)
  else none

/-- `fire_order`: the strategy notes the order once the call has returned. -/
def fireOrder (instrumentId : Nat) (st : InstrumentState) (side : OrderSide) (isEntry : Bool) :
    OFI × List VenueEvent :=
  match s.outboundOrder cfg env instrumentId st side with
  | none => (s, [])
  | some order =>
    let answer := env.gateway order
    let s := { s with nextOrderId := s.nextOrderId + 1 }
    let s := answer.reports.foldl (onExecReport cfg) s
    let seen := .sent order isEntry :: answer.reports.map .report
    if answer.accepted then
      if order.orderId ≠ 0 then
        let s := s.modify instrumentId ({ · with activeOrderId := order.orderId })
        ({ s with orderToInstrument := s.orderToInstrument.insert order.orderId instrumentId }, seen)
      else (s, seen)
    else (s, seen ++ [.refused order.orderId])

/-- The side that closes a position. -/
def exitSide (pos : Position) : OrderSide := if pos = .LONG then .SELL else .BUY

/-- An exit, whatever comes of its order. -/
def exit (instrumentId : Nat) (st : InstrumentState) (after : InstrumentState → InstrumentState) :
    OFI × List VenueEvent :=
  let r := s.fireOrder cfg env instrumentId st (exitSide st.pos) false
  (r.1.modify instrumentId fun st => after { st with pos := .FLAT }, r.2)

def coolDown (st : InstrumentState) : InstrumentState :=
  { st with cooldownTicksRemaining := cfg.cooldownTicks }

/-! ## Decisions -/

/-- The side of an entry, if one is due. -/
def entrySide (st : InstrumentState) (ofiValue : ℚ) (nowNs : Nat) : Option OrderSide :=
  if st.cooldownTicksRemaining > 0 ∨ ¬ st.ofi.warm ∨ st.bid ≤ 0 ∨ st.ask ≤ 0 ∨
      st.volGate.isHalted cfg.volGate nowNs ∨
      (st.ask - st.bid) / st.mid * 10000 > cfg.maxSpreadBps then none
  else if ofiValue > cfg.entryThreshold then some .BUY
  else if ofiValue < -cfg.entryThreshold then some .SELL
  else none

def labelOf : OrderSide → Position
  | .BUY => .LONG
  | .SELL => .SHORT

/-- The label follows the side of the order, whatever comes of it. -/
def tryEnter (instrumentId : Nat) (st : InstrumentState) (ofiValue : ℚ) (nowNs : Nat) :
    OFI × List VenueEvent :=
  match entrySide cfg st ofiValue nowNs with
  | none => (s, [])
  | some side =>
    let r := s.fireOrder cfg env instrumentId st side true
    (r.1.modify instrumentId
      ({ · with pos := labelOf side, entryPrice := st.mid, entryNs := nowNs }), r.2)

/-- A position that is held for too long. -/
def overHeld (st : InstrumentState) (nowNs : Nat) : Bool :=
  cfg.maxHoldNs > 0 ∧ u64Sub nowNs st.entryNs > cfg.maxHoldNs

/-- Target, stop, time stop, or the signal has flipped. -/
def exitDue (st : InstrumentState) (ofiValue : ℚ) (nowNs : Nat) : Bool :=
  let moveBps := (st.mid - st.entryPrice) / st.entryPrice * 10000
  let isLong : Bool := st.pos = .LONG
  let pnlBps := if isLong then moveBps else -moveBps
  ¬ (st.bid ≤ 0 ∨ st.ask ≤ 0) ∧
    (cfg.targetBps > 0 ∧ pnlBps ≥ cfg.targetBps ∨ cfg.stopBps > 0 ∧ pnlBps ≤ -cfg.stopBps ∨
      overHeld cfg st nowNs ∨ isLong ∧ ofiValue < -cfg.exitThreshold ∨
      ¬ isLong ∧ ofiValue > cfg.exitThreshold)

def tryExit (instrumentId : Nat) (st : InstrumentState) (ofiValue : ℚ) (nowNs : Nat) :
    OFI × List VenueEvent :=
  if exitDue cfg st ofiValue nowNs then s.exit cfg env instrumentId st (coolDown cfg) else (s, [])

/-! ## Callbacks -/

/-- A second snapshot is ignored. -/
def onInstrumentSnapshot (resolved : List (Nat × Option ExchangeId)) : OFI :=
  if s.state.keys = [] then
    { s with state := resolved.foldl (fun t r => t.emplace r.1 { exchangeId := r.2 }) ∅ }
  else s

/-- The prices of a tick, and the gate's sample. -/
def InstrumentState.quoted (st : InstrumentState) (tick : MdMarketData) : InstrumentState :=
  { st with
    bid := tick.bidPrice
    ask := tick.askPrice
    lastBboNs := tick.timestampNs
    volGate := (st.volGate.updateAndCheck cfg.volGate ((tick.bidPrice + tick.askPrice) / 2)
      tick.timestampNs).1 }

/-- A position is held for too long on a tick, an order in flight or not. -/
def timeStop (st : InstrumentState) : Bool := st.pos ≠ .FLAT ∧ overHeld cfg st st.lastBboNs

def onBbo (tick : MdMarketData) : OFI × List VenueEvent :=
  match s.state.lookup tick.instrumentId with
  | none => (s, [])
  | some st =>
    if tick.bidPrice ≤ 0 ∨ tick.askPrice ≤ 0 ∨ tick.askPrice ≤ tick.bidPrice then (s, [])
    else
      let st := st.quoted cfg tick
      let s := { s with state := s.state.insert tick.instrumentId st }
      if timeStop cfg st then s.exit cfg env tick.instrumentId st (coolDown cfg) else (s, [])

/-- The instrument after a book: the signal is updated, and a tick of the cooldown is over. -/
def InstrumentState.booked (st : InstrumentState) (book : MdOrderBook) : InstrumentState :=
  { st with
    ofi := (st.ofi.update cfg.ofi book.bids book.asks book.timestampNs).1
    cooldownTicksRemaining :=
      if st.cooldownTicksRemaining > 0 then st.cooldownTicksRemaining - 1
      else st.cooldownTicksRemaining }

def onOrderBook (book : MdOrderBook) : OFI × List VenueEvent :=
  match s.state.lookup book.instrumentId with
  | none => (s, [])
  | some st =>
    let ofiValue := (st.ofi.update cfg.ofi book.bids book.asks book.timestampNs).2
    let st := st.booked cfg book
    let s := { s with state := s.state.insert book.instrumentId st }
    -- one order in flight at a time
    if st.activeOrderId ≠ 0 then (s, [])
    else if st.pos = .FLAT then s.tryEnter cfg env book.instrumentId st ofiValue book.timestampNs
    else s.tryExit cfg env book.instrumentId st ofiValue book.timestampNs

def onShutdownFlatten (instrumentId : Nat) : OFI × List VenueEvent :=
  match s.state.lookup instrumentId with
  | none => (s, [])
  | some st => if st.pos = .FLAT then (s, []) else s.exit cfg env instrumentId st id

def step (s : OFI) : Callback × Surroundings → OFI × List VenueEvent
  | (.instrumentSnapshot resolved, _) => (s.onInstrumentSnapshot resolved, [])
  | (.instrumentDelta _ _, _) => (s, [])
  | (.bbo tick, env) => s.onBbo cfg env tick
  | (.trade _, _) => (s, [])
  | (.orderBook book, env) => s.onOrderBook cfg env book
  | (.execReport rpt, _) => (s.onExecReport cfg rpt, [.report rpt])
  | (.shutdownFlatten instrumentId, env) => s.onShutdownFlatten cfg env instrumentId

end OFI

end BptCore.Strategy
