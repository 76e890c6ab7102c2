import BptCore.OrderGateway.OrderStateManager

/-!
# The adapter interface

What crosses the boundary between the order processor and a venue adapter: `ExecEvent` on the
way in, `AdapterCall` on the way out. An adapter's `send_*` copies the call onto its send queue
as a `SendWorkItem`; the venue's blocking hook runs later on the executor thread.
-/

namespace BptCore.OrderGateway

/-- `ExecEvent`: what a venue reports of an order, at the scale of the execution report. -/
structure ExecEvent where
  orderId : Nat := 0
  exchangeOrderId : Nat := 0
  exchangeId : ExchangeId
  instrumentId : Nat := 0
  status : ExecStatus
  side : OrderSide
  orderType : OrderType
  price : Int := 0
  filledQty : Nat := 0
  remainingQty : Nat := 0
  rejectReason : RejectReason := .OK
  fee : Int := 0
  feeCurrency : String := ""
  exchangeTsNs : Nat := 0
  localTsNs : Nat := 0
  deriving DecidableEq, Repr

/-- `to_report`: the fields one to one. -/
def ExecEvent.toReport (ev : ExecEvent) : ExecReport where
  orderId := ev.orderId
  exchangeOrderId := ev.exchangeOrderId
  exchangeId := ev.exchangeId
  instrumentId := ev.instrumentId
  status := ev.status
  side := ev.side
  orderType := ev.orderType
  price := ev.price
  filledQty := ev.filledQty
  remainingQty := ev.remainingQty
  rejectReason := ev.rejectReason
  fee := ev.fee
  feeCurrency := ev.feeCurrency
  exchangeTsNs := ev.exchangeTsNs
  localTsNs := ev.localTsNs

/-- What the processor reads of an adapter before routing an order to it. -/
structure AdapterStatus where
  isConnected : Bool
  isHalted : Bool
  deriving DecidableEq, Repr

/-- The calls of `IOrderAdapter` that reach the venue. -/
inductive AdapterCall where
  | sendNewOrder (order : NewOrderEvent)
  | sendCancel (cancel : CancelOrderEvent) (nativeSymbol : String)
  | sendCancelAll (instrumentId : Nat)
  | sendModify (modify : ModifyOrderEvent) (nativeSymbol : String)
  deriving DecidableEq, Repr

structure NewOrderRequest where
  orderId : Nat
  instrumentId : Nat
  price : Int
  quantity : Nat
  side : OrderSide
  orderType : OrderType
  tif : TimeInForce
  execInst : Nat
  exchangeSymbol : String
  deriving DecidableEq, Repr

structure CancelRequest where
  orderId : Nat
  nativeSymbol : String
  deriving DecidableEq, Repr

structure CancelAllRequest where
  instrumentId : Nat
  deriving DecidableEq, Repr

structure ModifyRequest where
  orderId : Nat
  newPrice : Int
  newQuantity : Nat
  nativeSymbol : String
  deriving DecidableEq, Repr

inductive SendWorkItem where
  | newOrder (req : NewOrderRequest)
  | cancel (req : CancelRequest)
  | cancelAll (req : CancelAllRequest)
  | modify (req : ModifyRequest)
  deriving DecidableEq, Repr

/-- The `send_*` of `OrderAdapterBase`: the work item a call pushes onto the send queue. -/
def AdapterCall.workItem : AdapterCall → SendWorkItem
  | .sendNewOrder o => .newOrder
      { orderId := o.orderId, instrumentId := o.instrumentId, price := o.price
        quantity := o.quantity, side := o.side, orderType := o.orderType, tif := o.tif
        execInst := o.execInst, exchangeSymbol := o.exchangeSymbol }
  | .sendCancel c sym => .cancel { orderId := c.orderId, nativeSymbol := sym }
  | .sendCancelAll inst => .cancelAll { instrumentId := inst }
  | .sendModify m sym => .modify
      { orderId := m.orderId, newPrice := m.newPrice, newQuantity := m.newQuantity
        nativeSymbol := sym }

/-- The sets by which the OKX and Deribit decoders drop a repeated report of an order: the orders
whose ACKED, and whose CANCELLED, has been passed on. -/
structure RepeatFilter where
  ackedOrders : List Nat := []
  cancelledOrders : List Nat := []

namespace RepeatFilter

variable (f : RepeatFilter)

/-- Whether the event is passed on, with the sets after it. -/
def letThrough (ev : ExecEvent) : RepeatFilter × Bool :=
  match ev.status with
  | .ACKED =>
    -- a repeat, as when a reconnect replays the open orders of the channel
    if ev.orderId ∈ f.ackedOrders then (f, false)
    else ({ f with ackedOrders := ev.orderId :: f.ackedOrders }, true)
  | .CANCELLED =>
    if ev.orderId ∈ f.cancelledOrders then (f, false)
    else
      ({ cancelledOrders := ev.orderId :: f.cancelledOrders
         ackedOrders := f.ackedOrders.filter (· ≠ ev.orderId) }, true)
  | .FILLED | .PARTIAL | .REJECTED =>
    -- the order has moved on: an ACKED that still comes is passed on again
    ({ f with ackedOrders := f.ackedOrders.filter (· ≠ ev.orderId) }, true)

/-- A fill is never taken for a repeat. -/
theorem letThrough_of_isFill {ev : ExecEvent} (h : ev.status.isFill = true) :
    (f.letThrough ev).2 = true := by
  unfold letThrough
  split
  · next hs => rw [hs] at h; cases h
  · next hs => rw [hs] at h; cases h
  · rfl
  · rfl
  · rfl

end RepeatFilter

end BptCore.OrderGateway
