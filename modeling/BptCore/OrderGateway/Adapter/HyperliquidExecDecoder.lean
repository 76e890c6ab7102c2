import BptCore.Lib.Table
import BptCore.OrderGateway.Adapter.OrderAdapter
import BptCore.OrderGateway.Adapter.WireDecimal

/-!
# The Hyperliquid decoder and emitter

The venue reports fills slice by slice under its own order id. The decoder keeps, for every
registered id, the client's order, its quantity, and what its slices add up to. The emitter has what
the executor thread makes of the answers to its own requests, and what the reconciler's thread makes
of a recovered order. Fills are not among it, a recovered one excepted.

* **`handleFill`**, **`handleFills`** — the slices of the `userFills` stream.
* **`emitOrderResponse`**, **`emitCancelResponse`** — the answers, with the venue id that the
  answer registers, or whether it ends the order.
* **`emitRejected`**, **`emitRecoveredAck`**, **`emitRecoveredFill`** — single events.
-/

namespace BptCore.OrderGateway

/-- A fill of the `userFills` channel. -/
structure HyperliquidFill where
  oid : Nat
  side : String
  px : ℚ
  sz : ℚ
  fee : ℚ
  time : Option Nat

structure PendingOrder where
  clientOrderId : Nat
  originalQtyE8 : Nat
  cumulativeFilledE8 : Nat
  deriving DecidableEq, Repr

/-- What one slice more leaves of an entry: nothing when it fills the order. -/
def PendingOrder.slice (po : PendingOrder) (n : Nat) : Option PendingOrder :=
  if po.originalQtyE8 ≤ po.cumulativeFilledE8 + n then none
  else some { po with cumulativeFilledE8 := po.cumulativeFilledE8 + n }

structure HyperliquidExecDecoder where
  pending : Table Nat PendingOrder := ∅

namespace HyperliquidExecDecoder

variable (d : HyperliquidExecDecoder)

/-- A second registration of an id starts its count of slices again. -/
def registerOrder (exchOid clientOrderId originalQtyE8 : Nat) : HyperliquidExecDecoder :=
  if exchOid = 0 then d
  else
    { pending := d.pending.insert exchOid
        { clientOrderId := clientOrderId, originalQtyE8 := originalQtyE8
          cumulativeFilledE8 := 0 } }

/-- The body of the loop of `handle_fills`: one fill. Fills of unknown ids are skipped. -/
def handleFill (fill : HyperliquidFill) (recvNs : Nat) :
    HyperliquidExecDecoder × Option ExecEvent :=
  match d.pending.lookup fill.oid with
  | none => (d, none)
  | some po =>
    let sliceQtyE8 := truncE8Nat fill.sz
    let po := { po with cumulativeFilledE8 := po.cumulativeFilledE8 + sliceQtyE8 }
    let fullyFilled := po.originalQtyE8 ≤ po.cumulativeFilledE8
    ({ pending := if fullyFilled then d.pending.erase fill.oid
                  else d.pending.insert fill.oid po },
     some
      { orderId := po.clientOrderId
        exchangeOrderId := fill.oid
        exchangeId := .HYPERLIQUID
        instrumentId := 0
        status := if fullyFilled then .FILLED else .PARTIAL
        side := if fill.side = "B" then .BUY else .SELL
        orderType := .LIMIT
        price := truncE8 fill.px
        filledQty := sliceQtyE8
        remainingQty := if fullyFilled then 0 else po.originalQtyE8 - po.cumulativeFilledE8
        rejectReason := .OK
        fee := truncE8 fill.fee
        feeCurrency := "USDT"
        exchangeTsNs := match fill.time with
          | some ms => ms * 1000000
          | none => recvNs
        localTsNs := recvNs })

/-- `handle_fills`: the fills of a frame one after the other. -/
def handleFills (d : HyperliquidExecDecoder) : List HyperliquidFill → Nat →
    HyperliquidExecDecoder × List ExecEvent
  | [], _ => (d, [])
  | fill :: fills, recvNs =>
    let (d', ev) := d.handleFill fill recvNs
    let (d'', evs) := handleFills d' fills recvNs
    (d'', ev.toList ++ evs)

/-! ## One fill -/

variable {d}

theorem handleFill_of_none {fill : HyperliquidFill} (recvNs : Nat)
    (hnone : d.pending.lookup fill.oid = none) : d.handleFill fill recvNs = (d, none) := by
  simp only [handleFill, hnone]

/-- The slice of an order that the decoder has an entry of. -/
theorem handleFill_of_lookup (fill : HyperliquidFill) (recvNs : Nat)
    {po : PendingOrder} (hpo : d.pending.lookup fill.oid = some po) :
    ∃ ev, d.handleFill fill recvNs =
      ({ pending :=
          if po.originalQtyE8 ≤ po.cumulativeFilledE8 + truncE8Nat fill.sz
          then d.pending.erase fill.oid
          else d.pending.insert fill.oid
            { po with cumulativeFilledE8 := po.cumulativeFilledE8 + truncE8Nat fill.sz } },
        some ev) ∧
      ev.orderId = po.clientOrderId ∧
      ev.filledQty = truncE8Nat fill.sz ∧
      ev.remainingQty =
        po.originalQtyE8 - po.cumulativeFilledE8 - truncE8Nat fill.sz ∧
      (ev.status = .FILLED ↔
        po.originalQtyE8 - po.cumulativeFilledE8 - truncE8Nat fill.sz = 0) := by
  simp only [handleFill, hpo]
  refine ⟨_, rfl, rfl, rfl, ?_, ?_⟩
  · dsimp only
    split <;> omega
  · dsimp only
    split
    · exact iff_of_true rfl (by omega)
    · exact iff_of_false (fun h => ExecStatus.noConfusion h) (by omega)

/-- A fill is a slice of the entry of its own id. -/
theorem lookup_handleFill_self (fill : HyperliquidFill) (recvNs : Nat) :
    (d.handleFill fill recvNs).1.pending.lookup fill.oid =
      (d.pending.lookup fill.oid).bind (·.slice (truncE8Nat fill.sz)) := by
  cases hlookup : d.pending.lookup fill.oid with
  | none =>
    rw [handleFill_of_none recvNs hlookup]
    exact hlookup
  | some po =>
    obtain ⟨ev, hout, -⟩ := handleFill_of_lookup fill recvNs hlookup
    rw [hout, Option.bind_some, PendingOrder.slice]
    dsimp only
    split
    · rw [Table.lookup_erase_eq, if_pos rfl]
    · rw [Table.lookup_insert_eq, if_pos rfl]

/-- A fill touches the entry of its own id only. -/
theorem lookup_handleFill_of_ne {fill : HyperliquidFill} (recvNs : Nat) {oid : Nat}
    (hne : oid ≠ fill.oid) :
    (d.handleFill fill recvNs).1.pending.lookup oid = d.pending.lookup oid := by
  cases hlookup : d.pending.lookup fill.oid with
  | none => rw [handleFill_of_none recvNs hlookup]
  | some po =>
    obtain ⟨ev, hout, -⟩ := handleFill_of_lookup fill recvNs hlookup
    rw [hout]
    dsimp only
    split
    · rw [Table.lookup_erase_eq, if_neg hne]
    · rw [Table.lookup_insert_eq, if_neg hne]

/-- A registration touches the entry of its own id only. -/
theorem lookup_registerOrder (exchOid clientOrderId qtyE8 oid : Nat) :
    (d.registerOrder exchOid clientOrderId qtyE8).pending.lookup oid =
      if oid = exchOid ∧ exchOid ≠ 0 then
        some { clientOrderId := clientOrderId, originalQtyE8 := qtyE8, cumulativeFilledE8 := 0 }
      else d.pending.lookup oid := by
  unfold registerOrder
  by_cases hzero : exchOid = 0
  · rw [if_pos hzero, if_neg fun h => h.2 hzero]
  · rw [if_neg hzero, Table.lookup_insert_eq]
    by_cases hoid : oid = exchOid
    · rw [if_pos hoid, if_pos ⟨hoid, hzero⟩]
    · rw [if_neg hoid, if_neg fun h => hoid h.1]

end HyperliquidExecDecoder

/-! ## The emitter -/

structure OrderContext where
  clientOrderId : Nat
  instrumentId : Nat
  side : OrderSide
  orderType : OrderType
  priceE8 : Int
  quantityE8 : Nat
  deriving DecidableEq, Repr

/-- `response.data.statuses[0]` of an order's answer: the keys it has, `oid` among theirs. -/
structure OrderStatusEntry where
  resting : Option (Option Nat) := none
  filled : Option (Option Nat) := none
  error : Option String := none
  deriving DecidableEq, Repr

/-- The answer to an order: `malformed` when parsing it throws. -/
inductive OrderResponse where
  | malformed
  | parsed (status : String) (entry : Option OrderStatusEntry)
  deriving DecidableEq, Repr

/-- The answer to a cancel, with `response.data.statuses[0].error` where there is one. -/
inductive CancelResponse where
  | malformed
  | parsed (status : String) (error : Option String)
  deriving DecidableEq, Repr

namespace HyperliquidExecEmitter

def makeSkeleton (ctx : OrderContext) (nowNs : Nat) (status : ExecStatus) : ExecEvent where
  orderId := ctx.clientOrderId
  exchangeId := .HYPERLIQUID
  instrumentId := ctx.instrumentId
  status := status
  side := ctx.side
  orderType := ctx.orderType
  price := ctx.priceE8
  feeCurrency := "USDT"
  exchangeTsNs := nowNs
  localTsNs := nowNs

def emitRejected (ctx : OrderContext) (nowNs : Nat) : ExecEvent :=
  { makeSkeleton ctx nowNs .REJECTED with
    rejectReason := .EXCHANGE_ERROR
    remainingQty := ctx.quantityE8 }

/-- The ACKED of an order that rests, with its venue id. -/
def ackedEvent (ctx : OrderContext) (exchOid nowNs : Nat) : ExecEvent :=
  { makeSkeleton ctx nowNs .ACKED with
    rejectReason := .NULL_VALUE
    exchangeOrderId := exchOid
    filledQty := 0
    remainingQty := ctx.quantityE8 }

def emitRecoveredAck (ctx : OrderContext) (exchOid nowNs : Nat) : ExecEvent :=
  ackedEvent ctx exchOid nowNs

/-- `on_acked` is called with the answer's venue id, unless that is 0. -/
def ackedOid (oid : Option Nat) : Option Nat :=
  if oid.getD 0 = 0 then none else some (oid.getD 0)

/-- The answer to an order: the id that `on_acked` is called with, and the event. An immediate
fill is not reported here, only its id. -/
def emitOrderResponse (resp : OrderResponse) (ctx : OrderContext) (nowNs : Nat) :
    Option Nat × List ExecEvent :=
  match resp with
  | .malformed => (none, [emitRejected ctx nowNs])
  | .parsed status entry =>
    if status ≠ "ok" then (none, [emitRejected ctx nowNs])
    else
      match entry with
      | none => (none, [])
      | some s0 =>
        match s0.resting, s0.filled, s0.error with
        | some oid, _, _ => (ackedOid oid, [ackedEvent ctx (oid.getD 0) nowNs])
        | none, some oid, _ => (ackedOid oid, [])
        | none, none, some _ => (none, [emitRejected ctx nowNs])
        | none, none, none => (none, [])

/-- Whether a text has the word "filled" in it: `err.find("filled") != npos`. -/
def saysFilled (err : String) : Bool := err.toList.tails.any ("filled".toList.isPrefixOf ·)

/-- The answer to a cancel: whether `on_cancelled` is called, and the event. A cancel that may
have met a fill reports nothing. -/
def emitCancelResponse (resp : CancelResponse) (clientOrderId nowNs : Nat) :
    Bool × List ExecEvent :=
  match resp with
  | .malformed => (false, [])
  | .parsed status error =>
    if status ≠ "ok" then (false, [])
    else if (error.map saysFilled).getD false then (false, [])
    else
      (true,
        [{ orderId := clientOrderId
           exchangeId := .HYPERLIQUID
           status := .CANCELLED
           side := .BUY
           orderType := .MARKET
           rejectReason := .NULL_VALUE
           feeCurrency := "USDT"
           exchangeTsNs := nowNs
           localTsNs := nowNs }])

def emitRecoveredFill (ctx : OrderContext) (exchOid : Nat) (fillPriceE8 fillFeeE8 : Int)
    (fillQtyE8 fillTimeNs nowNs : Nat) : ExecEvent :=
  let full : Bool := ctx.quantityE8 ≤ fillQtyE8
  { makeSkeleton ctx nowNs (if full then .FILLED else .PARTIAL) with
    price := fillPriceE8
    exchangeOrderId := exchOid
    filledQty := fillQtyE8
    remainingQty := if full then 0 else ctx.quantityE8 - fillQtyE8
    fee := fillFeeE8
    exchangeTsNs := if fillTimeNs ≠ 0 then fillTimeNs else nowNs
    rejectReason := .OK }

end HyperliquidExecEmitter

end BptCore.OrderGateway
