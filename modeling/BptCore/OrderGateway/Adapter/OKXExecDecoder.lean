import BptCore.Common.Util.Json
import BptCore.Lib.Table
import BptCore.OrderGateway.Adapter.OrderAdapter
import BptCore.OrderGateway.Adapter.WireDecimal

/-!
# The OKX decoder

`handleOrdersChannelItem` decodes the items of the orders channel: the order price, and the size
of the last fill in contracts. `handleOrderAck` decodes the response to an order request, which
is of interest when it refuses the order.

The messages of the session are events, answers to operations, and pushes of a channel.
`OKXMessage.read` is the way through `handle_message` to the one place where something is done, and
`OKXExecDecoder.readOrderAck` reads an item of the answer to an order request; `none` is an
exception, which ends the session.
-/

namespace BptCore.OrderGateway

/-- An element of the response to an order request. Absent fields are empty. -/
structure OKXOrderAck where
  clOrdId : String
  ordId : String
  sCode : String
  sMsg : String

/-- An item of the orders channel. A price that does not parse, such as the empty one of a
market order, is `none`. -/
structure OKXOrderItem where
  clOrdId : String
  ordId : Nat
  side : String
  ordType : String
  px : Option ℚ
  instId : String
  fillSz : ℚ
  sz : ℚ
  fee : ℚ
  feeCcy : String
  uTime : Option Nat
  state : String

structure OKXExecDecoder where
  cloidToOrderId : Table String Nat := ∅
  repeats : RepeatFilter := {}
  contractSizes : Table String ℚ := ∅

namespace OKXExecDecoder

variable (d : OKXExecDecoder)

def registerOrder (cloid : String) (orderId : Nat) : OKXExecDecoder :=
  { d with cloidToOrderId := d.cloidToOrderId.insert cloid orderId }

/-- On reconnect the two sets that suppress repeated reports are cleared. -/
def reset : OKXExecDecoder := { d with repeats := {} }

def orderIdOf (cloid : String) : Nat := (d.cloidToOrderId.lookup cloid).getD 0

/-- The contract value of an instrument; 1 when it was not fetched. -/
def contractSize (instId : String) : ℚ := (d.contractSizes.lookup instId).getD 1

def handleOrderAck (m : OKXOrderAck) (recvNs : Nat) : Option ExecEvent :=
  if d.orderIdOf m.clOrdId = 0 then none
  else if m.sCode = "0" then none
  else some
    { orderId := d.orderIdOf m.clOrdId
      exchangeId := .OKX
      instrumentId := 0
      status := .REJECTED
      -- a placeholder: the response does not say the side
      side := .BUY
      orderType := .MARKET
      rejectReason := .EXCHANGE_ERROR
      exchangeTsNs := recvNs
      localTsNs := recvNs }

def itemStatus (state : String) : ExecStatus × RejectReason :=
  if state = "live" then (.ACKED, .OK)
  else if state = "partially_filled" then (.PARTIAL, .OK)
  else if state = "filled" then (.FILLED, .OK)
  else if state = "canceled" then (.CANCELLED, .OK)
  else (.REJECTED, .EXCHANGE_ERROR)

/-- The event of an item, repeated reports not yet suppressed. A price that does not parse
throws, and the item is lost. -/
def itemEvent (m : OKXOrderItem) (recvNs : Nat) : Option ExecEvent :=
  if d.orderIdOf m.clOrdId = 0 then none
  else m.px.map fun px =>
    let ctVal := d.contractSize m.instId
    let filledQty := roundE8Nat (m.fillSz * ctVal)
    let totalQty := roundE8Nat (m.sz * ctVal)
    let (status, reason) := itemStatus m.state
    { orderId := d.orderIdOf m.clOrdId
      exchangeOrderId := m.ordId
      exchangeId := .OKX
      instrumentId := 0
      status := status
      side := if m.side = "buy" then .BUY else .SELL
      orderType := if m.ordType = "market" then .MARKET else .LIMIT
      price := truncE8 px
      filledQty := filledQty
      remainingQty := if totalQty > filledQty then totalQty - filledQty else 0
      rejectReason := reason
      fee := truncE8 m.fee
      feeCurrency := m.feeCcy
      exchangeTsNs := match m.uTime with
        | some ms => ms * 1000000
        | none => recvNs
      localTsNs := recvNs }

/-- A second ACKED and a second CANCELLED of an order are dropped. -/
def suppressRepeat (ev : ExecEvent) : OKXExecDecoder × Option ExecEvent :=
  let (repeats, admitted) := d.repeats.letThrough ev
  ({ d with repeats := repeats }, if admitted then some ev else none)

def handleOrdersChannelItem (m : OKXOrderItem) (recvNs : Nat) :
    OKXExecDecoder × Option ExecEvent :=
  match d.itemEvent m recvNs with
  | none => (d, none)
  | some ev => d.suppressRepeat ev

/-! ## Which statuses carry a fill -/

theorem isFill_itemStatus (state : String) :
    (itemStatus state).1.isFill = decide (state = "partially_filled" ∨ state = "filled") := by
  unfold itemStatus
  split
  · next h => rw [h]; decide
  split
  · next h => rw [h]; decide
  split
  · next h => rw [h]; decide
  next hpartial hfilled =>
  split <;> simp [ExecStatus.isFill, hfilled, hpartial]

theorem suppressRepeat_of_isFill {ev : ExecEvent} (h : ev.status.isFill = true) :
    (d.suppressRepeat ev).2 = some ev := by
  simp only [suppressRepeat, d.repeats.letThrough_of_isFill h, if_true]

theorem eq_of_mem_suppressRepeat {ev ev' : ExecEvent} (h : ev' ∈ (d.suppressRepeat ev).2) :
    ev' = ev := by
  simp only [suppressRepeat, Option.mem_def] at h
  split at h
  · exact (Option.some.inj h).symm
  · cases h

end OKXExecDecoder

/-! ## The messages of the session -/

open Common (Json JsonObject)

/-- What is done on a message. -/
inductive OKXMessage where
  /-- nothing but a log line -/
  | ignored
  | login
  /-- the answer to an order request -/
  | orderAcks (items : List Json)
  /-- of the orders channel -/
  | orders (items : List Json)

namespace OKXMessage

def readEvent (o : JsonObject) (event : Json) : Option OKXMessage := do
  let name ← event.asString
  if name = "error" then
    let _ ← o.stringOrThrow "code"
    let _ ← o.stringOrThrow "msg"
  return if name = "login" then login else ignored

def readOp (o : JsonObject) (op : Json) : Option OKXMessage := do
  let name ← op.asString
  if name ≠ "order" then return ignored
  match o.find "data" with
  | some (.arr items) => some (orderAcks items)
  | _ => some ignored

def readChannel (o : JsonObject) : Option OKXMessage :=
  match o.find "arg", o.find "data" with
  | some arg, some (.arr (item :: items)) => do
    let fields ← arg.asObject
    let channel ← (← fields.find "channel").asString
    return if channel = "orders" then orders (item :: items) else ignored
  | _, _ => some ignored

/-- `handle_message`, up to what it does. -/
def read (root : Json) : Option OKXMessage :=
  match root with
  | .obj o =>
    match JsonObject.find o "event" with
    | some event => readEvent o event
    | none =>
      match JsonObject.find o "op" with
      | some op => readOp o op
      | none => readChannel o
  | _ => some ignored

end OKXMessage

/-- Whether `std::stoull` returns: blanks, a sign, and digits that fit. -/
def parsesUInt64 (s : String) : Bool :=
  let unsigned := match s.toList.dropWhile Char.isWhitespace with
    | '+' :: rest | '-' :: rest => rest
    | rest => rest
  let digits := unsigned.takeWhile Char.isDigit
  digits ≠ [] ∧ digits.foldl (fun n c => 10 * n + (c.toNat - '0'.toNat)) 0 < 2 ^ 64

namespace OKXExecDecoder

variable (d : OKXExecDecoder)

/-- An item as `handle_order_ack` reads it: of an order that it does not know only the client id,
and the venue's id only when the order was taken. -/
def readOrderAck (item : Json) : Option OKXOrderAck := do
  let o ← item.asObject
  let clOrdId ← o.stringOrThrow "clOrdId"
  if d.orderIdOf clOrdId = 0 then return ⟨clOrdId, "", "", ""⟩
  let sCode ← o.stringOrThrow "sCode"
  let sMsg ← o.stringOrThrow "sMsg"
  if sCode ≠ "0" then return ⟨clOrdId, "", sCode, sMsg⟩
  let ordId ← o.stringOrThrow "ordId"
  if ordId = "" ∨ parsesUInt64 ordId then some ⟨clOrdId, ordId, sCode, sMsg⟩ else none

/-- The items of an answer, up to the first that throws. -/
def handleOrderAcks : List Json → Nat → List ExecEvent
  | [], _ => []
  | item :: items, recvNs =>
    match d.readOrderAck item with
    | none => []
    | some ack => (d.handleOrderAck ack recvNs).toList ++ handleOrderAcks items recvNs

/-- What `handle_message` makes of an answer to a request. -/
def handleAnswer (root : Json) (recvNs : Nat) : List ExecEvent :=
  match OKXMessage.read root with
  | some (.orderAcks items) => d.handleOrderAcks items recvNs
  | _ => []

end OKXExecDecoder

end BptCore.OrderGateway
