import BptCore.Common.Util.Json
import BptCore.Lib.Table
import BptCore.OrderGateway.Adapter.OrderAdapter
import BptCore.OrderGateway.Adapter.WireDecimal

/-!
# The Deribit decoder

Notifications of the user-orders channel and the order object of the response to a buy or sell
have one shape, `DeribitOrder`. `handleSubscriptionEvent` decodes the former,
`handleOrderResponse` the latter when the order is already at its end.

Notifications have a `method`, answers to requests the `id` of theirs. `DeribitMessage.read` is the
way through `handle_message` to the one place where something is done; `none` is an exception, which
ends the session.
-/

namespace BptCore.OrderGateway

/-- The order object. A field is `none` when it is absent or not of the type read: the price of
a market order is the string `market_price`. -/
structure DeribitOrder where
  label : Option String
  orderId : Option String
  direction : Option String
  orderType : Option String
  price : Option ℚ
  averagePrice : Option ℚ
  filledAmount : Option ℚ
  amount : Option ℚ
  commission : Option ℚ
  instrumentName : Option String
  lastUpdateTimestamp : Option Nat
  orderState : Option String

/-- `exchOidNumber` is the number the code makes of a venue id: its leading digits, or else the
standard library's hash of the string. -/
structure DeribitExecDecoder where
  exchOidNumber : String → Nat
  labelToOrderId : Table String Nat := ∅
  exchOidToOrderId : Table String Nat := ∅
  orderIdToExchOid : Table Nat String := ∅
  repeats : RepeatFilter := {}

namespace DeribitExecDecoder

variable (d : DeribitExecDecoder)

/-- The fee currency is not on the wire; it is read off the instrument's name. -/
def inferFeeCurrency (instrumentName : String) : String :=
  if instrumentName.startsWith "BTC" then "BTC"
  else if instrumentName.startsWith "ETH" then "ETH"
  else "USDT"

def registerOrder (label : String) (orderId : Nat) : DeribitExecDecoder :=
  { d with labelToOrderId := d.labelToOrderId.insert label orderId }

def getExchangeOrderId (orderId : Nat) : String := (d.orderIdToExchOid.lookup orderId).getD ""

def reset : DeribitExecDecoder := { d with repeats := {} }

def orderIdOf (label : Option String) : Nat := (d.labelToOrderId.lookup (label.getD "")).getD 0

/-- Both handlers remember the venue's id of the order, when there is one. -/
def rememberExchOid (exchOid : String) (orderId : Nat) : DeribitExecDecoder :=
  if exchOid = "" then d
  else
    { d with
      exchOidToOrderId := d.exchOidToOrderId.insert exchOid orderId
      orderIdToExchOid := d.orderIdToExchOid.insert orderId exchOid }

def exchangeOrderIdOf (exchOid : String) : Nat :=
  if exchOid = "" then 0 else d.exchOidNumber exchOid

def sideOf (direction : Option String) : OrderSide :=
  match direction with
  | some dir => if dir = "buy" then .BUY else .SELL
  | none => .BUY

def notificationStatus (state : String) (filledAmount : ℚ) : ExecStatus × RejectReason :=
  if state = "open" then (if 0 < filledAmount then .PARTIAL else .ACKED, .OK)
  else if state = "filled" then (.FILLED, .OK)
  else if state = "cancelled" then (.CANCELLED, .OK)
  else if state = "rejected" then (.REJECTED, .EXCHANGE_ERROR)
  else if state = "untriggered" ∨ state = "triggered" then (.ACKED, .OK)
  else (.REJECTED, .EXCHANGE_ERROR)

/-- The event of a notification: the order price when there is one, else the average price, and
the cumulative filled amount. -/
def notificationEvent (m : DeribitOrder) (recvNs : Nat) : ExecEvent :=
  let filledAmount := m.filledAmount.getD 0
  let filledQty := truncE8Nat filledAmount
  let totalQty := truncE8Nat (m.amount.getD 0)
  let (status, reason) := notificationStatus (m.orderState.getD "") filledAmount
  { orderId := d.orderIdOf m.label
    exchangeOrderId := d.exchangeOrderIdOf (m.orderId.getD "")
    exchangeId := .DERIBIT
    instrumentId := 0
    status := status
    side := sideOf m.direction
    orderType := match m.orderType with
      | some t => if t = "market" then .MARKET else .LIMIT
      | none => .MARKET
    -- an order priced by the market carries no number here
    price := match m.price, m.averagePrice with
      | some price, _ => truncE8 price
      | none, some averagePrice => truncE8 averagePrice
      | none, none => 0
    filledQty := filledQty
    remainingQty := if totalQty > filledQty then totalQty - filledQty else 0
    rejectReason := reason
    fee := match m.commission with
      | some commission => truncE8 commission
      | none => 0
    feeCurrency := inferFeeCurrency (m.instrumentName.getD "")
    exchangeTsNs := match m.lastUpdateTimestamp with
      | some ms => ms * 1000000
      | none => recvNs
    localTsNs := recvNs }

/-- A second ACKED and a second CANCELLED of an order are dropped. -/
def suppressRepeat (ev : ExecEvent) : DeribitExecDecoder × Option ExecEvent :=
  let (repeats, admitted) := d.repeats.letThrough ev
  ({ d with repeats := repeats }, if admitted then some ev else none)

def handleSubscriptionEvent (m : DeribitOrder) (recvNs : Nat) :
    DeribitExecDecoder × Option ExecEvent :=
  if d.orderIdOf m.label = 0 then (d, none)
  else
    let ev := d.notificationEvent m recvNs
    (d.rememberExchOid (m.orderId.getD "") ev.orderId).suppressRepeat ev

/-- The event of a response that reports the order at its end. -/
def responseEvent (m : DeribitOrder) (recvNs : Nat) : ExecEvent :=
  let filledQty := match m.filledAmount with
    | some filledAmount => truncE8Nat filledAmount
    | none => 0
  let state := m.orderState.getD ""
  { orderId := d.orderIdOf m.label
    exchangeOrderId := d.exchangeOrderIdOf (m.orderId.getD "")
    exchangeId := .DERIBIT
    status := if state = "filled" then .FILLED
      else if state = "cancelled" then .CANCELLED else .REJECTED
    side := sideOf m.direction
    orderType := .LIMIT
    price := match m.averagePrice with
      | some averagePrice => truncE8 averagePrice
      | none => 0
    filledQty := filledQty
    remainingQty := if state = "cancelled" then
        match m.amount with
        -- no guard here: the difference is taken before it is scaled
        | some amount => truncE8Nat (amount - ofE8 filledQty)
        | none => 0
      else 0
    rejectReason := if state = "filled" ∨ state = "cancelled" then .OK else .EXCHANGE_ERROR
    exchangeTsNs := match m.lastUpdateTimestamp with
      | some ms => ms * 1000000
      | none => recvNs
    localTsNs := recvNs }

/-- Orders that are still working are left to the notifications. -/
def handleOrderResponse (m : DeribitOrder) (recvNs : Nat) :
    DeribitExecDecoder × Option ExecEvent :=
  let state := m.orderState.getD ""
  if d.orderIdOf m.label = 0 then (d, none)
  else
    let d' := d.rememberExchOid (m.orderId.getD "") (d.orderIdOf m.label)
    -- an order still working is left to the notifications
    if state ≠ "filled" ∧ state ≠ "cancelled" ∧ state ≠ "rejected" then (d', none)
    else (d', some (d.responseEvent m recvNs))

/-! ## Which statuses carry a fill -/

theorem isFill_notificationStatus (state : String) (filledAmount : ℚ) :
    (notificationStatus state filledAmount).1.isFill =
      decide ((state = "open" ∧ 0 < filledAmount) ∨ state = "filled") := by
  unfold notificationStatus
  split
  · next h =>
    rw [h]
    by_cases hpos : 0 < filledAmount
    · simp [hpos, ExecStatus.isFill]
    · simp [hpos, ExecStatus.isFill]
  split
  · next h => rw [h]; simp [ExecStatus.isFill]
  next hopen hfilled =>
  split
  · simp [ExecStatus.isFill, hopen, hfilled]
  split
  · simp [ExecStatus.isFill, hopen, hfilled]
  split <;> simp [ExecStatus.isFill, hopen, hfilled]

theorem suppressRepeat_of_isFill {ev : ExecEvent} (h : ev.status.isFill = true) :
    (d.suppressRepeat ev).2 = some ev := by
  simp only [suppressRepeat, d.repeats.letThrough_of_isFill h, if_true]

theorem eq_of_mem_suppressRepeat {ev ev' : ExecEvent} (h : ev' ∈ (d.suppressRepeat ev).2) :
    ev' = ev := by
  simp only [suppressRepeat, Option.mem_def] at h
  split at h
  · exact (Option.some.inj h).symm
  · cases h

end DeribitExecDecoder

/-! ## The messages of the session -/

open Common (Json JsonObject)

/-- The order of a notification or of the answer to a buy or sell. -/
def DeribitOrder.ofJson (o : JsonObject) : DeribitOrder where
  label := o.findString "label"
  orderId := o.findString "order_id"
  direction := o.findString "direction"
  orderType := o.findString "order_type"
  price := o.findNumber "price"
  averagePrice := o.findNumber "average_price"
  filledAmount := o.findNumber "filled_amount"
  amount := o.findNumber "amount"
  commission := o.findNumber "commission"
  instrumentName := o.findString "instrument_name"
  lastUpdateTimestamp := (o.findNumber "last_update_timestamp").map fun x => x.floor.toNat
  orderState := o.findString "order_state"

/-- The timestamp of a notification, when it is there, has to be a whole number. -/
def hasWholeTimestamp (o : JsonObject) : Bool :=
  match o.findNumber "last_update_timestamp" with
  | none => true
  | some x => (Json.num x).toUInt64.isSome

/-- What is done on a message. -/
inductive DeribitMessage where
  /-- nothing -/
  | ignored
  /-- the heartbeat asks for a sign of life -/
  | testRequest
  /-- of the user-orders channel; without a whole timestamp the order is not read to its end -/
  | orderNotification (order : DeribitOrder) (wholeTimestamp : Bool)
  /-- the thread that waits for this answer gets it -/
  | awaited (rpcId : Nat)
  /-- logged -/
  | error (rpcId : Nat)
  | authenticated
  | orderResponse (order : DeribitOrder)

namespace DeribitMessage

def readHeartbeat (o : JsonObject) : Option DeribitMessage :=
  match o.find "params" with
  | some (.obj params) =>
    match JsonObject.find params "type" with
    | some type => type.asString.map fun t => if t = "test_request" then testRequest else ignored
    | none => some ignored
  | _ => some ignored

def readSubscription (o : JsonObject) : Option DeribitMessage :=
  match o.find "params" with
  | some (.obj params) =>
    match JsonObject.find params "channel" with
    | none => some ignored
    | some channel => do
      if (← channel.asString) ≠ "user.orders.any.raw" then return ignored
      match JsonObject.find params "data" with
      | some (.obj data) => some (orderNotification (.ofJson data) (hasWholeTimestamp data))
      | _ => some ignored
  | _ => some ignored

/-- The error object is read for the log line: its code has to be a number, its message a
string. -/
def readError (rpcId : Nat) (err : Json) : Option DeribitMessage := do
  let fields ← err.asObject
  let _ ← match fields.find "code" with
    | none => some 0
    | some code => code.toInt64
  let _ ← fields.stringOrThrow "message"
  some (error rpcId)

def readResult (o : JsonObject) : Option DeribitMessage :=
  match o.find "result" with
  | some (.obj res) =>
    match JsonObject.find res "access_token" with
    | some _ => some authenticated
    | none =>
      match JsonObject.find res "order" with
      | some order => order.asObject.map fun fields => orderResponse (.ofJson fields)
      | none => some ignored
  | _ => some ignored

/-- An answer goes to the thread that waits for it, or is an error, or has a result. -/
def readAnswer (awaited : Nat → Bool) (o : JsonObject) (id : Json) : Option DeribitMessage := do
  let rpcId ← id.toUInt64
  if awaited rpcId then return .awaited rpcId
  match o.find "error" with
  | some err => readError rpcId err
  | none => readResult o

/-- `handle_message`, up to what it does. -/
def read (awaited : Nat → Bool) (root : Json) : Option DeribitMessage :=
  match root with
  | .obj o =>
    match JsonObject.find o "method" with
    | some method => do
      match ← method.asString with
      | "heartbeat" => readHeartbeat o
      | "subscription" => readSubscription o
      | _ => some ignored
    | none =>
      match JsonObject.find o "id" with
      | some id => readAnswer awaited o id
      | none => some ignored
  | _ => some ignored

end DeribitMessage

end BptCore.OrderGateway
