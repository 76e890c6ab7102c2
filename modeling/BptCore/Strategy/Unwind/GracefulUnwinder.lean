import BptCore.Lib.Sweep
import BptCore.Strategy.Order.SendNewOrder
import BptCore.Strategy.Strategy.PositionTracker

/-!
# The unwind of a shutdown

`GracefulUnwinder` closes the positions that a market maker shuts down with. It keeps a record of
every instrument: a passive order at the fair value first, stepped towards the market, then IOC
orders that cross by more each time. Its orders go out through the order manager, and a record
holds the handle of the last one.

* **`Desk`** — the order manager, with the unwind orders that are outstanding.
* **`armInstrument`**, **`tickRecord`**, **`onTerminal`** — what `arm`, `tick` and
  `on_exec_report` do for one record.
* **`step`** — the calls in any order, with the reports on their way through the strategy.
-/

namespace BptCore.Strategy

/-! ## Orders on their way -/

/-- An unwind order that the gateway took and no report has ended, with the part of it that no
report has filled. -/
structure OpenOrder where
  orderId : Nat
  instrumentId : Nat
  exchangeId : ExchangeId
  side : OrderSide
  remaining : Nat
  deriving DecidableEq, Repr

/-- The position that the order trades on. -/
def OpenOrder.key (o : OpenOrder) : Nat := PositionTracker.key o.instrumentId o.exchangeId

def OpenOrder.placed (order : OutboundNewOrder) : OpenOrder where
  orderId := order.orderId
  instrumentId := order.instrumentId
  exchangeId := order.exchangeId
  side := order.side
  remaining := order.quantity

/-- The order after a report that does not end it. -/
def OpenOrder.after (rpt : ExecReport) (o : OpenOrder) : OpenOrder :=
  if o.orderId = rpt.orderId ∧ rpt.status.isFill then
    { o with remaining := o.remaining - rpt.filledQty }
  else o

/-- What a call finds: the refdata, the gateway's answer to an order, `SimClock` and `WallClock`. -/
structure UnwindEnv where
  cache : InstrumentCache
  gateway : OutboundNewOrder → Bool
  nowNs : Nat
  wallNs : Nat

/-- The order manager, and the unwind orders outstanding. -/
structure Desk where
  orders : OrderSends
  outstanding : List OpenOrder := []

namespace Desk

variable (d : Desk)

/-- The gateway did not take the order: its id is used up. -/
def refuse : Desk := { d with orders := { d.orders with nextOrderId := d.orders.nextOrderId + 1 } }

def place (order : OutboundNewOrder) (price quantity : ℚ) (wallNs : Nat) : Desk where
  orders :=
    { d.orders with
      nextOrderId := d.orders.nextOrderId + 1
      om := d.orders.om.store (.placed order price quantity wallNs) }
  outstanding := .placed order :: d.outstanding

/-- `send_new_order`: the handle of the order, valid when the gateway took it. -/
def sendNewOrder (env : UnwindEnv) (request : NewOrderRequest) : Desk × Option Nat :=
  match normaliseAndValidate env.cache request.instrumentId request.side request.type request.price
      request.qty with
  | none => (d, none)
  | some (price, quantity, symbol) =>
    let order := d.orders.outbound request price quantity symbol
    if env.gateway order then (d.place order price quantity env.wallNs, some order.orderId)
    else (d.refuse, none)

/-- `OrderHandle::live`. -/
def live : Option Nat → Bool
  | none => false
  | some orderId =>
    match d.orders.om.lookup.lookup orderId with
    | none => false
    | some s => s.status.live

/-- `send_cancel` of a handle. -/
def sendCancel (handle : Option Nat) (wallNs : Nat) : Desk :=
  { d with orders := { d.orders with om := (d.orders.om.sendCancelHandle handle wallNs).1 } }

/-- The outstanding orders after a report: the one that it ends is out. -/
def outstandingAfter (rpt : ExecReport) (outstanding : List OpenOrder) : List OpenOrder :=
  if rpt.status.terminal then outstanding.filter (·.orderId ≠ rpt.orderId)
  else outstanding.map (OpenOrder.after rpt)

def report (rpt : ExecReport) (wallNs : Nat) : Desk where
  orders := { d.orders with om := d.orders.om.onExecReport rpt wallNs }
  outstanding := outstandingAfter rpt d.outstanding

/-- To the order manager a send is the two steps of one whose gateway call returns at once. -/
theorem sendNewOrder_orders (env : UnwindEnv) (request : NewOrderRequest) :
    (d.sendNewOrder env request).1.orders = d.orders ∨
      ∃ accepted, (d.sendNewOrder env request).1.orders =
        (d.orders.beginSend env.cache request).1.endSend accepted env.wallNs := by
  unfold sendNewOrder OrderSends.beginSend
  cases normaliseAndValidate env.cache request.instrumentId request.side request.type request.price
      request.qty with
  | none => exact Or.inl rfl
  | some sized =>
    right
    dsimp only
    split
    · exact ⟨true, rfl⟩
    · exact ⟨false, rfl⟩

end Desk

/-! ## The unwinder -/

namespace GracefulUnwinder

inductive Phase where
  | kPassive | kIoc | kDone
  deriving DecidableEq, Repr

structure Config where
  passiveTimeoutS : ℚ := 45
  stepIntervalS : ℚ := 8
  crossBps : ℚ := 20
  maxRetries : Nat := 3

/-- `GracefulUnwinder::Instrument`. -/
structure Instrument where
  instrumentId : Nat
  exchangeId : ExchangeId
  tickSize : ℚ
  lotSize : ℚ
  priceRef : ℚ
  deriving DecidableEq, Repr

structure Record where
  instrumentId : Nat
  exchangeId : ExchangeId
  tickSize : ℚ
  lotSize : ℚ
  phase : Phase := .kPassive
  startNs : Nat := 0
  lastStepNs : Nat := 0
  unwindPrice : ℚ := 0
  hUnwind : Option Nat := none
  retriesLeft : Nat := 0
  attempt : Nat := 0
  deriving DecidableEq, Repr

/-- The position of an instrument, and of the record of one. -/
def Instrument.key (inst : Instrument) : Nat :=
  PositionTracker.key inst.instrumentId inst.exchangeId

def Record.key (r : Record) : Nat := PositionTracker.key r.instrumentId r.exchangeId

/-- `min_lot`. -/
def minLot (lotSize : ℚ) : ℚ := if lotSize > 0 then lotSize else 1 / kScale

/-- `std::round(price / tick) * tick` of a positive price. -/
def roundToTick (price tick : ℚ) : ℚ := (price / tick + 1 / 2).floor * tick

/-- The tick size, where there is none the smallest price step. -/
def tickOf (tickSize : ℚ) : ℚ := if tickSize > 0 then tickSize else 1 / kScale

/-- The side that takes a position towards zero. -/
def unwindSide (netQty : ℚ) : OrderSide := if netQty > 0 then .SELL else .BUY

section

variable (cfg : Config) (positions : PositionTracker) (env : UnwindEnv)

/-- `net_and_abs`, its first component. -/
def netOf (r : Record) : ℚ := ofE8 (positions.netQty r.instrumentId r.exchangeId)

/-- The position is below the smallest order. -/
def flat (r : Record) : Bool := |netOf positions r| < minLot r.lotSize

def passiveRequest (r : Record) (side : OrderSide) (qty : ℚ) : NewOrderRequest where
  instrumentId := r.instrumentId
  exchangeId := some r.exchangeId
  side := side
  type := .LIMIT
  tif := .GTC
  price := roundToTick r.unwindPrice (tickOf r.tickSize)
  qty := qty

def sendPassive (d : Desk) (r : Record) (side : OrderSide) (qty : ℚ) : Desk × Record :=
  if r.unwindPrice ≤ 0 then (d, r)
  else
    let out := d.sendNewOrder env (passiveRequest r side qty)
    (out.1, { r with hUnwind := out.2 })

/-- The price that crosses the market by `crossBps`. -/
def crossPrice (unwindPrice : ℚ) (side : OrderSide) (crossBps : ℚ) : ℚ :=
  match side with
  | .BUY => unwindPrice * (1 + crossBps / 10000)
  | .SELL => unwindPrice * (1 - crossBps / 10000)

def iocRequest (r : Record) (side : OrderSide) (qty crossBps : ℚ) : NewOrderRequest where
  instrumentId := r.instrumentId
  exchangeId := some r.exchangeId
  side := side
  type := .LIMIT
  tif := .IOC
  price := crossPrice r.unwindPrice side crossBps
  qty := qty

def sendIoc (d : Desk) (r : Record) (side : OrderSide) (qty crossBps : ℚ) : Desk × Record :=
  if crossPrice r.unwindPrice side crossBps ≤ 0 then (d, r)
  else
    let out := d.sendNewOrder env (iocRequest r side qty crossBps)
    (out.1, { r with hUnwind := out.2 })

def advanceIoc (d : Desk) (r : Record) : Desk × Record :=
  if flat positions r then (d, { r with phase := .kDone })
  else if r.retriesLeft = 0 then (d, { r with phase := .kDone })
  else
    let r := { r with retriesLeft := r.retriesLeft - 1, attempt := r.attempt + 1 }
    sendIoc env d r (unwindSide (netOf positions r)) |netOf positions r|
      (cfg.crossBps + r.attempt * 10)

/-- `static_cast<uint64_t>(s * 1e9)`. -/
def toNs (s : ℚ) : Nat := (s * 1000000000).floor.toNat

/-- The passive phase has lasted `passive_timeout_s`. -/
def timedOut (r : Record) : Bool := toNs cfg.passiveTimeoutS ≤ u64Sub env.nowNs r.startNs

def stepDue (r : Record) : Bool := toNs cfg.stepIntervalS ≤ u64Sub env.nowNs r.lastStepNs

/-- The price one tick closer to the market. -/
def steppedPrice (r : Record) : ℚ :=
  match unwindSide (netOf positions r) with
  | .BUY => r.unwindPrice + tickOf r.tickSize
  | .SELL => r.unwindPrice - tickOf r.tickSize

/-- The turn of a record in `tick`. -/
def tickRecord (d : Desk) (r : Record) : Desk × Record :=
  if r.phase ≠ .kPassive then (d, r)
  else if flat positions r then (d, { r with phase := .kDone })
  else if timedOut cfg env r then
    let r := { r with phase := .kIoc }
    -- the report of the cancel brings the record forward
    if d.live r.hUnwind then (d.sendCancel r.hUnwind env.wallNs, r)
    else advanceIoc cfg positions env d r
  else if stepDue cfg env r then
    let r := { r with unwindPrice := steppedPrice positions r, lastStepNs := env.nowNs }
    -- the report of the cancel posts at the new price
    if d.live r.hUnwind then (d.sendCancel r.hUnwind env.wallNs, r)
    else sendPassive env d r (unwindSide (netOf positions r)) |netOf positions r|
  else (d, r)

/-- `on_exec_report` from the match on: the order of the record has ended. -/
def onTerminal (d : Desk) (r : Record) : Desk × Record :=
  let r := { r with hUnwind := none }
  if flat positions r then (d, { r with phase := .kDone })
  else
    match r.phase with
    | .kPassive => sendPassive env d r (unwindSide (netOf positions r)) |netOf positions r|
    | .kIoc => advanceIoc cfg positions env d r
    | .kDone => (d, r)

/-- The record that `arm` makes of an instrument. -/
def Record.armed (inst : Instrument) : Record where
  instrumentId := inst.instrumentId
  exchangeId := inst.exchangeId
  tickSize := inst.tickSize
  lotSize := inst.lotSize
  phase := if inst.priceRef ≤ 0 then .kIoc else .kPassive
  startNs := env.nowNs
  lastStepNs := env.nowNs
  unwindPrice := if inst.priceRef ≤ 0 then 0 else inst.priceRef
  retriesLeft := cfg.maxRetries

/-- The turn of an instrument in `arm`, which begins without records. -/
def armInstrument (s : Desk × List Record) (inst : Instrument) : Desk × List Record :=
  let r := Record.armed cfg env inst
  if flat positions r then s
  else if inst.priceRef ≤ 0 then (s.1, s.2 ++ [r])
  else
    let out := sendPassive env s.1 r (unwindSide (netOf positions r)) |netOf positions r|
    (out.1, s.2 ++ [out.2])

def arm (d : Desk) (instruments : List Instrument) : Desk × List Record :=
  instruments.foldl (armInstrument cfg positions env) (d, [])

def tick (d : Desk) (records : List Record) : Desk × List Record :=
  Sweep.sweep (tickRecord cfg positions env) d records

/-- The record whose order the report is about. -/
def isReported (rpt : ExecReport) (r : Record) : Bool :=
  r.instrumentId = rpt.instrumentId ∧ r.hUnwind = some rpt.orderId

def onExecReport (d : Desk) (records : List Record) (rpt : ExecReport) : Desk × List Record :=
  if rpt.status.terminal then
    Sweep.updateFirst (onTerminal cfg positions env) (isReported rpt) d records
  else (d, records)

end

def pending (records : List Record) : Bool := records.any (·.phase ≠ .kDone)

end GracefulUnwinder

/-! ## The unwinder in its strategy -/

open GracefulUnwinder

structure Unwinding where
  desk : Desk
  positions : PositionTracker
  records : List Record := []

inductive UnwindEvent where
  | arm (env : UnwindEnv) (instruments : List GracefulUnwinder.Instrument)
  | tick (env : UnwindEnv)
  | report (env : UnwindEnv) (rpt : ExecReport)
  /-- Something else moves the positions: the fill of a quote, an account snapshot. -/
  | moved (positions : PositionTracker)

namespace Unwinding

/-- The positions after a report on the order: the strategies count a fill before they hand the
report on. -/
def positionsAfter (w : Unwinding) (order : OrderState) (rpt : ExecReport) : PositionTracker :=
  if rpt.status.isFill then
    w.positions.onFill order.instrumentId order.exchangeId rpt.side rpt.filledQty rpt.price
  else w.positions

/-- The state after a call. -/
def next (cfg : Config) (w : Unwinding) : UnwindEvent → Unwinding
  | .arm env instruments =>
    let out := GracefulUnwinder.arm cfg w.positions env w.desk instruments
    { w with desk := out.1, records := out.2 }
  | .tick env =>
    let out := GracefulUnwinder.tick cfg w.positions env w.desk w.records
    { w with desk := out.1, records := out.2 }
  | .report env rpt =>
    match w.desk.orders.om.lookup.lookup rpt.orderId with
    -- not an order of this manager: the strategies drop the report
    | none => w
    | some order =>
      let positions := w.positionsAfter order rpt
      let out := GracefulUnwinder.onExecReport cfg positions env (w.desk.report rpt env.wallNs)
        w.records rpt
      { desk := out.1, positions := positions, records := out.2 }
  | .moved positions => { w with positions := positions }

/-- One call, which emits what `pending` says after it. -/
def step (cfg : Config) (w : Unwinding) (e : UnwindEvent) : Unwinding × List Bool :=
  (w.next cfg e, [pending (w.next cfg e).records])

end Unwinding

end BptCore.Strategy
