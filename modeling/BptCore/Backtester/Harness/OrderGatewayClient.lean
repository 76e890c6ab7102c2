import BptCore.Backtester.Matching.MatchingEngine
import BptCore.Strategy.Order.Requests

/-!
# The order gateway of a backtest

`InProcessOrderGatewayClient` stands between the strategy and the matching engine. Its calls run
the engine at once and report back through the strategy's `on_exec_report` before they return;
that callback may call the gateway again.

The gateway's own state is the table of live orders. What a call still has to do when it is
interrupted by a callback is a list of `Task`s, so that the functions here never nest: each does
its share and says what is left.
-/

namespace BptCore.Backtester

open Strategy (OutboundNewOrder CancelOrderRequest ModifyOrderRequest)

structure LiveOrder where
  strategyOrderId : Nat
  exchangeId : ExchangeId
  instrumentId : Nat
  side : OrderSide
  orderType : OrderType
  tif : TimeInForce
  price : Int
  quantity : Nat
  exchangeSymbol : String
  exchange : String
  cumulativeFilledQty : Nat := 0
  postOnly : Bool := false
  deriving DecidableEq, Repr

structure OrderGatewayClient where
  live : Table Nat LiveOrder := ∅
  simulationNowNs : Nat := 0
  execSeq : Nat := 0
  rejectedCount : Nat := 0

/-- `static_cast<uint64_t>(q * kQtyScale + 0.5)`. -/
def fillQtyScaled (q : ℚ) : Nat := (q * kScale + 1 / 2).floor.toNat

/-- The quantity of a fill, at the scale of the report, for one order. -/
def fillQtyOf (id : Nat) (fr : FillReport) : Nat :=
  if fr.orderId = id then fillQtyScaled fr.lastFillQty else 0

/-- `static_cast<int64_t>(p * kPriceScale + 0.5)`. -/
def fillPxScaled (p : ℚ) : Int :=
  let x := p * kScale + 1 / 2
  if 0 ≤ x then x.floor else x.ceil

/-- `exchange_id_string`. -/
def exchangeIdString : ExchangeId → String
  | .BINANCE => "BINANCE"
  | .OKX => "OKX"
  | .HYPERLIQUID => "HYPERLIQUID"
  | .DERIBIT => "DERIBIT"
  | .ALL => ""

def kExecInstPostOnlyMask : Nat := 0x01

def toMatchType (t : OrderType) (postOnly : Bool) : MatchType :=
  if postOnly then .POST_ONLY
  else match t with
    | .MARKET => .MARKET
    | .LIMIT => .LIMIT

def toMsgType : MatchType → OrderType
  | .MARKET => .MARKET
  | .LIMIT | .POST_ONLY => .LIMIT

/-- `ExecStatusEvent`: what a report is made of. -/
structure ExecStatusEvent where
  orderId : Nat
  exchangeId : ExchangeId
  instrumentId : Nat
  status : ExecStatus
  side : OrderSide
  orderType : OrderType
  price : Int
  quantity : Nat
  cumulativeFilledQty : Nat

namespace OrderGatewayClient

variable (c : OrderGatewayClient)

/-- `publish_exec_status`: the report that goes to the strategy. -/
def execReport (ev : ExecStatusEvent) : ExecReport where
  orderId := ev.orderId
  exchangeOrderId := ev.orderId
  exchangeId := ev.exchangeId
  instrumentId := ev.instrumentId
  status := ev.status
  side := ev.side
  orderType := ev.orderType
  price := ev.price
  -- the quantity of a fill is that of the slice, what remains goes by the cumulative one
  filledQty := if ev.status = .FILLED ∨ ev.status = .PARTIAL then ev.quantity else 0
  remainingQty := if ev.quantity > ev.cumulativeFilledQty then ev.quantity - ev.cumulativeFilledQty
    else 0
  rejectReason := if ev.status = .REJECTED then .INVALID_PRICE else .OK
  fee := 0
  feeCurrency := ""
  exchangeTsNs := c.simulationNowNs
  localTsNs := c.simulationNowNs

def publishExecStatus (ev : ExecStatusEvent) : OrderGatewayClient × ExecReport :=
  ({ c with execSeq := c.execSeq + 1 }, c.execReport ev)

/-- `publish_fill` up to its callback. The fill of an order that is not live is dropped, with a
warning. -/
def publishFill (fr : FillReport) : OrderGatewayClient × Option ExecReport :=
  match c.live.lookup fr.orderId with
  | none => (c, none)
  | some lo =>
    let lo := { lo with
      cumulativeFilledQty := lo.cumulativeFilledQty + fillQtyScaled fr.lastFillQty }
    let out := publishExecStatus { c with live := c.live.insert fr.orderId lo }
      { orderId := fr.orderId
        exchangeId := lo.exchangeId
        instrumentId := lo.instrumentId
        status := if fr.isFullyFilled then .FILLED else .PARTIAL
        side := fr.side
        orderType := toMsgType fr.orderType
        price := fillPxScaled fr.lastFillPrice
        quantity := fillQtyScaled fr.lastFillQty
        cumulativeFilledQty := lo.cumulativeFilledQty }
    (out.1, some out.2)

/-- The report of a fill of a live order. -/
structure ReportsFill (lo : LiveOrder) (fr : FillReport) (rpt : ExecReport) : Prop where
  orderId : rpt.orderId = fr.orderId
  exchangeId : rpt.exchangeId = lo.exchangeId
  instrumentId : rpt.instrumentId = lo.instrumentId
  status : rpt.status = if fr.isFullyFilled then .FILLED else .PARTIAL
  side : rpt.side = fr.side
  filledQty : rpt.filledQty = fillQtyScaled fr.lastFillQty

theorem ReportsFill.isFill {lo : LiveOrder} {fr : FillReport} {rpt : ExecReport}
    (h : ReportsFill lo fr rpt) : rpt.status.isFill = true := by
  rw [h.status]
  split <;> rfl

theorem ReportsFill.terminal {lo : LiveOrder} {fr : FillReport} {rpt : ExecReport}
    (h : ReportsFill lo fr rpt) : rpt.status.terminal = fr.isFullyFilled := by
  rw [h.status]
  cases fr.isFullyFilled <;> rfl

variable {c}

theorem publishFill_of_live {fr : FillReport} {lo : LiveOrder}
    (h : c.live.lookup fr.orderId = some lo) :
    ∃ rpt, (c.publishFill fr).2 = some rpt ∧ ReportsFill lo fr rpt ∧
      (c.publishFill fr).1.live = c.live.insert fr.orderId { lo with
        cumulativeFilledQty := lo.cumulativeFilledQty + fillQtyScaled fr.lastFillQty } := by
  have hfilled : (if fr.isFullyFilled then ExecStatus.FILLED else .PARTIAL) = .FILLED ∨
      (if fr.isFullyFilled then ExecStatus.FILLED else .PARTIAL) = .PARTIAL := by
    split
    · exact Or.inl rfl
    · exact Or.inr rfl
  simp only [publishFill, h]
  refine ⟨_, rfl, ⟨rfl, rfl, rfl, rfl, rfl, ?_⟩, rfl⟩
  simp only [publishExecStatus, execReport, if_pos hfilled]

variable (c)

def eraseLive (orderId : Nat) : OrderGatewayClient := { c with live := c.live.erase orderId }

end OrderGatewayClient

end BptCore.Backtester
