import BptCore.Lib.Machine
import BptCore.OrderGateway.Adapter.HyperliquidExecDecoder
import BptCore.OrderGateway.Adapter.HyperliquidReconciler

/-!
# The Hyperliquid adapter

Three threads share the adapter of one wallet: the executor sends orders and cancels and waits
for each answer, the reader takes the `userFills` stream, the reconciler resolves the orders whose
answer was lost. What they share is the pair of id maps and the decoder's table; the venue names
an order by its own id only.

* **`HyperliquidOrderAdapter.Event`** — what one of the threads does without another between.
* **`HyperliquidOrderAdapter.step`** — the adapter after an event, with the events it reports.
* **`HyperliquidOrderAdapter.assignment`** — the ids that an event ties together.
-/

namespace BptCore.OrderGateway

/-- What `post_action` made of an order: `lost` when it throws or times out. -/
inductive OrderReply where
  | lost
  | body (resp : OrderResponse)
  deriving DecidableEq, Repr

structure HyperliquidOrderAdapter where
  /-- The symbols of `asset_meta_`. -/
  assetMeta : List String
  clientToExchOid : Table Nat Nat := ∅
  exchOidToClient : Table Nat Nat := ∅
  decoder : HyperliquidExecDecoder := {}
  /-- The queue of the reconciler. -/
  candidates : List Candidate := []
  /-- The cancel whose answer the executor waits for: client id and venue id. -/
  cancelInFlight : Option (Nat × Nat) := none

namespace HyperliquidOrderAdapter

/-- One USD. -/
def priceTickE8 : Int := 100000000

/-- What the threads do. The answer to an order is handled where it is waited for; a cancel reads
the maps when it is sent and writes them when it is answered. The reader's frames come fill by
fill, since another thread may run between two of them. -/
inductive Event where
  | newOrder (req : NewOrderRequest) (reply : OrderReply) (nowNs : Nat)
  | cancel (req : CancelRequest)
  | cancelReply (reply : Option CancelResponse) (nowNs : Nat)
  | reconcile (openOrders : List HyperliquidOpenOrder) (userFills : List HyperliquidUserFill)
      (nowNs : Nat)
  | userFill (fill : HyperliquidFill) (recvNs : Nat)

variable (a : HyperliquidOrderAdapter)

def context (req : NewOrderRequest) : OrderContext where
  clientOrderId := req.orderId
  instrumentId := req.instrumentId
  side := req.side
  orderType := req.orderType
  priceE8 := req.price
  quantityE8 := req.quantity

def candidate (req : NewOrderRequest) (nowNs : Nat) : Candidate where
  clientOrderId := req.orderId
  instrumentId := req.instrumentId
  side := req.side
  orderType := req.orderType
  priceE8 := req.price
  quantityE8 := req.quantity
  exchangeSymbol := req.exchangeSymbol
  sentNs := nowNs

def candidateContext (c : Candidate) : OrderContext where
  clientOrderId := c.clientOrderId
  instrumentId := c.instrumentId
  side := c.side
  orderType := c.orderType
  priceE8 := c.priceE8
  quantityE8 := c.quantityE8

/-- The three writes of `on_acked` and of either recovery. -/
def assign (clientId exchOid qtyE8 : Nat) : HyperliquidOrderAdapter :=
  { a with
    clientToExchOid := a.clientToExchOid.insert clientId exchOid
    exchOidToClient := a.exchOidToClient.insert exchOid clientId
    decoder := a.decoder.registerOrder exchOid clientId qtyE8 }

open HyperliquidExecEmitter

/-- `do_send_new_order_blocking`, from the answer on. -/
def sendNewOrder (req : NewOrderRequest) (reply : OrderReply) (nowNs : Nat) :
    HyperliquidOrderAdapter × List ExecEvent :=
  if req.exchangeSymbol ∉ a.assetMeta then (a, [emitRejected (context req) nowNs])
  else
    match reply with
    | .lost => ({ a with candidates := a.candidates ++ [candidate req nowNs] }, [])
    | .body resp =>
      let (acked, events) := emitOrderResponse resp (context req) nowNs
      match acked with
      | none => (a, events)
      | some exchOid => (a.assign req.orderId exchOid req.quantity, events)

/-- `do_send_cancel_blocking`, up to the wait for the answer. -/
def sendCancel (req : CancelRequest) : HyperliquidOrderAdapter :=
  match a.clientToExchOid.lookup req.orderId with
  | none => a
  | some exchOid =>
    if req.nativeSymbol ∈ a.assetMeta then { a with cancelInFlight := some (req.orderId, exchOid) }
    else a

/-- The rest of it: a `reply` of `none` is a `post_action` that threw. -/
def answerCancel (clientId exchOid : Nat) (reply : Option CancelResponse) (nowNs : Nat) :
    HyperliquidOrderAdapter × List ExecEvent :=
  let idle := { a with cancelInFlight := none }
  match reply with
  | none => (idle, [])
  | some resp =>
    let (cancelled, events) := emitCancelResponse resp clientId nowNs
    if cancelled then
      ({ idle with
          clientToExchOid := a.clientToExchOid.erase clientId
          exchOidToClient := a.exchOidToClient.erase exchOid }, events)
    else (idle, events)

/-- `on_reconcile_terminal`. -/
def onReconcileTerminal (c : Candidate) (r : MatchResult) (nowNs : Nat) :
    HyperliquidOrderAdapter × List ExecEvent :=
  -- the answer arrived late and has registered the order
  if c.clientOrderId ∈ a.clientToExchOid then (a, [])
  else
    match r.kind with
    | .OpenOrder =>
      (a.assign c.clientOrderId r.exchOid c.quantityE8,
        [emitRecoveredAck (candidateContext c) r.exchOid nowNs])
    | .UserFill =>
      (a.assign c.clientOrderId r.exchOid c.quantityE8,
        [emitRecoveredFill (candidateContext c) r.exchOid r.fillPriceE8 r.fillFeeE8 r.fillQtyE8
          r.fillTimeNs nowNs])
    | .None | .Ambiguous => (a, [emitRejected (candidateContext c) nowNs])

/-- One event. The executor is at one order at a time: while a cancel waits for its answer it
starts no other, and there is no answer without one. -/
def step (a : HyperliquidOrderAdapter) : Event → HyperliquidOrderAdapter × List ExecEvent
  | .newOrder req reply nowNs =>
    if a.cancelInFlight.isSome then (a, []) else a.sendNewOrder req reply nowNs
  | .cancel req => if a.cancelInFlight.isSome then (a, []) else (a.sendCancel req, [])
  | .cancelReply reply nowNs =>
    match a.cancelInFlight with
    | none => (a, [])
    | some (clientId, exchOid) => a.answerCancel clientId exchOid reply nowNs
  | .reconcile openOrders userFills nowNs =>
    match a.candidates with
    | [] => (a, [])
    | c :: candidates =>
      let r := HyperliquidReconciler.tryMatch c openOrders userFills priceTickE8
      { a with candidates := candidates }.onReconcileTerminal c r nowNs
  | .userFill fill recvNs =>
    let (decoder, event) := a.decoder.handleFill fill recvNs
    ({ a with decoder := decoder }, event.toList)

/-- The ids that the answer to an order ties together, client's and venue's, and the quantity it
registers. -/
def answered (assetMeta : List String) (req : NewOrderRequest) (resp : OrderResponse)
    (nowNs : Nat) : Option (Nat × Nat × Nat) :=
  if req.exchangeSymbol ∈ assetMeta then
    (emitOrderResponse resp (context req) nowNs).1.map fun x => (req.orderId, x, req.quantity)
  else none

/-- The ids that an event ties together, and the quantity it registers. -/
def assignment : Event → Option (Nat × Nat × Nat)
  | .newOrder req (.body resp) nowNs =>
    if a.cancelInFlight.isSome then none else answered a.assetMeta req resp nowNs
  | .reconcile openOrders userFills _ =>
    match a.candidates with
    | [] => none
    | c :: _ =>
      if c.clientOrderId ∈ a.clientToExchOid then none
      else
        let r := HyperliquidReconciler.tryMatch c openOrders userFills priceTickE8
        match r.kind with
        | .OpenOrder | .UserFill => some (c.clientOrderId, r.exchOid, c.quantityE8)
        | .None | .Ambiguous => none
  | _ => none

/-- An order's answer writes what it ties together, if anything. -/
theorem sendNewOrder_body (req : NewOrderRequest) (resp : OrderResponse) (nowNs : Nat) :
    (a.sendNewOrder req (.body resp) nowNs).1 =
      match answered a.assetMeta req resp nowNs with
      | none => a
      | some (clientId, exchOid, qty) => a.assign clientId exchOid qty := by
  unfold sendNewOrder answered
  by_cases hsym : req.exchangeSymbol ∈ a.assetMeta
  · rw [if_neg (not_not_intro hsym), if_pos hsym]
    dsimp only
    cases (emitOrderResponse resp (context req) nowNs).1 <;> rfl
  · rw [if_pos hsym, if_neg hsym]

/-- An answer registers no id of 0. -/
theorem answered_oid_ne_zero {assetMeta : List String} {req : NewOrderRequest}
    {resp : OrderResponse} {nowNs c x q : Nat}
    (h : answered assetMeta req resp nowNs = some (c, x, q)) : x ≠ 0 := by
  have hacked : ∀ oid, ackedOid oid = some x → x ≠ 0 := by
    intro oid hx
    unfold ackedOid at hx
    split at hx
    · cases hx
    next hne =>
      rw [← Option.some.inj hx]
      exact hne
  unfold answered at h
  split at h
  · obtain ⟨y, hy, heq⟩ := Option.map_eq_some_iff.mp h
    obtain rfl : y = x := (Prod.mk.inj (Prod.mk.inj heq).2).1
    unfold emitOrderResponse at hy
    split at hy
    · cases hy
    · split at hy
      · cases hy
      · split at hy
        · cases hy
        · split at hy
          · exact hacked _ hy
          · exact hacked _ hy
          · cases hy
          · cases hy
  · cases h

end HyperliquidOrderAdapter

end BptCore.OrderGateway
