import BptCore.Lib.Table
import BptCore.OrderGateway.Adapter.OrderAdapter
import BptCore.OrderGateway.Adapter.WireDecimal

/-!
# The Binance decoder

`handleExecutionReport` decodes the `executionReport` events of the user-data stream,
`handleOrderResponse` the body of the response to a new order. Both read the order price and
the cumulative executed quantity of the order.
-/

namespace BptCore.OrderGateway

/-- The fields of an `executionReport` that the decoder reads, under their wire names. -/
structure BinanceExecutionReport where
  /-- `e`, the event type. -/
  eventType : String
  /-- `X`. -/
  execType : String
  /-- `c`, the client order id. -/
  clientOrderId : String
  /-- `i`, the venue's order id. -/
  orderId : Nat
  /-- `S`. -/
  side : String
  /-- `o`. -/
  orderType : String
  /-- `p`, the order price. -/
  price : ℚ
  /-- `z`, the cumulative filled quantity. -/
  cumulativeQty : ℚ
  /-- `q`, the order quantity. -/
  quantity : ℚ
  /-- `n`. -/
  commission : ℚ
  /-- `N`. -/
  commissionAsset : String
  /-- `T`, in milliseconds. -/
  transactionTime : Nat

/-- One element of `fills` in an order response. -/
structure BinanceFill where
  commission : ℚ
  commissionAsset : Option String

/-- The body of the response to a new order. -/
structure BinanceOrderResponse where
  code : Option Int
  orderId : Option Nat
  price : ℚ
  executedQty : ℚ
  origQty : ℚ
  transactTime : Option Nat
  fills : List BinanceFill
  status : String

structure BinanceExecDecoder where
  cloidToOrderId : Table String Nat := ∅

namespace BinanceExecDecoder

variable (d : BinanceExecDecoder)

def registerOrder (cloid : String) (orderId : Nat) : BinanceExecDecoder :=
  { d with cloidToOrderId := d.cloidToOrderId.insert cloid orderId }

/-- The order id of a client id; 0 stands for an unknown one. -/
def orderIdOf (cloid : String) : Nat := (d.cloidToOrderId.lookup cloid).getD 0

/-- The status of an `executionReport`; types that are not listed are ignored. -/
def reportStatus (execType : String) (remainingQty : Nat) : Option (ExecStatus × RejectReason) :=
  if execType = "NEW" then some (.ACKED, .OK)
  else if execType = "TRADE" then some (if remainingQty = 0 then .FILLED else .PARTIAL, .OK)
  else if execType = "CANCELED" ∨ execType = "EXPIRED" then some (.CANCELLED, .OK)
  else if execType = "REJECTED" then some (.REJECTED, .EXCHANGE_ERROR)
  else none

def handleExecutionReport (m : BinanceExecutionReport) (recvNs : Nat) : Option ExecEvent :=
  if m.eventType ≠ "executionReport" then none
  -- a client id that was never registered
  else if d.orderIdOf m.clientOrderId = 0 then none
  else
    let filledQty := truncE8Nat m.cumulativeQty
    let totalQty := truncE8Nat m.quantity
    let remainingQty := if totalQty > filledQty then totalQty - filledQty else 0
    (reportStatus m.execType remainingQty).map fun (status, reason) =>
      { orderId := d.orderIdOf m.clientOrderId
        exchangeOrderId := m.orderId
        exchangeId := .BINANCE
        instrumentId := 0
        status := status
        -- anything but the word `BUY` counts as a sell, as any type but `MARKET` as a limit
        side := if m.side = "BUY" then .BUY else .SELL
        orderType := if m.orderType = "MARKET" then .MARKET else .LIMIT
        price := truncE8 m.price
        filledQty := filledQty
        remainingQty := remainingQty
        rejectReason := reason
        fee := truncE8 m.commission
        feeCurrency := m.commissionAsset
        exchangeTsNs := m.transactionTime * 1000000
        localTsNs := recvNs }

/-- The fee of an order response: the sum over its fills, in the last currency they name. -/
def responseFee (fills : List BinanceFill) : Int × String :=
  fills.foldl (fun (fee, currency) f =>
    (fee + truncE8 f.commission, f.commissionAsset.getD currency)) (0, "USDT")

def responseStatus (status : String) : ExecStatus × RejectReason :=
  if status = "NEW" then (.ACKED, .OK)
  else if status = "FILLED" then (.FILLED, .OK)
  else if status = "PARTIALLY_FILLED" then (.PARTIAL, .OK)
  else if status = "CANCELED" ∨ status = "EXPIRED" then (.CANCELLED, .OK)
  else (.REJECTED, .EXCHANGE_ERROR)

/-- The order id, side and type are those of the order the response is to. -/
def handleOrderResponse (m : BinanceOrderResponse) (orderId : Nat) (side : OrderSide)
    (orderType : OrderType) (recvNs : Nat) : ExecEvent :=
  match m.code with
  -- a `code` field marks an error body: the venue took no order
  | some _ =>
    { orderId := orderId
      exchangeId := .BINANCE
      instrumentId := 0
      status := .REJECTED
      side := side
      orderType := orderType
      rejectReason := .EXCHANGE_ERROR
      exchangeTsNs := recvNs
      localTsNs := recvNs }
  | none =>
    let filledQty := truncE8Nat m.executedQty
    let totalQty := truncE8Nat m.origQty
    let (status, reason) := responseStatus m.status
    let (fee, feeCurrency) := responseFee m.fills
    { orderId := orderId
      exchangeOrderId := m.orderId.getD 0
      exchangeId := .BINANCE
      instrumentId := 0
      status := status
      side := side
      orderType := orderType
      price := truncE8 m.price
      filledQty := filledQty
      remainingQty := if totalQty > filledQty then totalQty - filledQty else 0
      rejectReason := reason
      fee := fee
      feeCurrency := feeCurrency
      exchangeTsNs := match m.transactTime with
        | some ms => ms * 1000000
        | none => recvNs
      localTsNs := recvNs }

/-! ## Which statuses carry a fill -/

theorem reportStatus_trade (remainingQty : Nat) :
    reportStatus "TRADE" remainingQty =
      some (if remainingQty = 0 then .FILLED else .PARTIAL, .OK) := rfl

theorem isFill_reportStatus_of_ne {execType : String} (h : execType ≠ "TRADE")
    {remainingQty : Nat} {s : ExecStatus × RejectReason}
    (hs : reportStatus execType remainingQty = some s) : s.1.isFill = false := by
  simp only [reportStatus, h, if_false] at hs
  split at hs
  · cases hs; rfl
  split at hs
  · cases hs; rfl
  split at hs
  · cases hs; rfl
  · cases hs

theorem isFill_responseStatus (status : String) :
    (responseStatus status).1.isFill =
      decide (status = "FILLED" ∨ status = "PARTIALLY_FILLED") := by
  unfold responseStatus
  split
  · next h => rw [h]; decide
  split
  · next h => rw [h]; decide
  split
  · next h => rw [h]; decide
  next hfilled hpartial =>
  split <;> simp [ExecStatus.isFill, hfilled, hpartial]

end BinanceExecDecoder

end BptCore.OrderGateway
