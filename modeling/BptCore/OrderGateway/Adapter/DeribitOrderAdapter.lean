import BptCore.OrderGateway.Adapter.DeribitExecDecoder
import BptCore.OrderGateway.Adapter.SendExecutor

/-!
# The Deribit adapter's two threads

The IO thread runs the sessions: it connects, logs in, and on the answer to the login it raises
`logged_in_` and sends what has been queued. The send executor takes new orders and cancels: an
order that finds the flag down is queued. Checking the flag is one step of it, queueing or sending
the frame another, and each frame that the IO thread sends from the queue is a step.

* **`DeribitOrderAdapter`** — what the threads share, and where either stands.
* **`DeribitOrderAdapter.step`** — the next step of a thread.

A frame is sent when it is handed to the session's `send`, which the IO thread writes from.
`cancelAccepted` is history: the orders whose cancel the adapter has taken and is done with.
-/

namespace BptCore.OrderGateway

open Common (Json)

/-- The text of a `private/buy` or `private/sell`, by what it is made of. -/
structure NewOrderFrame where
  rpcId : Nat
  label : String
  request : NewOrderRequest
  deriving DecidableEq, Repr

/-- What a `send` comes to: queued for the socket, refused without a running session, or an
exception. -/
inductive SendResult where
  | sent | refused | threw
  deriving DecidableEq, Repr

/-- Where the IO thread stands. -/
inductive IoPoint where
  | down
  | connecting
  /-- reads, the login not answered -/
  | up
  /-- has raised the flag, about to take the mutex of the queue -/
  | authenticated
  /-- holds the mutex -/
  | draining
  /-- reads, the queue drained -/
  | ready
  deriving DecidableEq, Repr

/-- Where the send executor stands. -/
inductive ExecutorPoint where
  | idle
  /-- found the flag down -/
  | queueing (frame : NewOrderFrame)
  /-- found the flag up -/
  | sending (frame : NewOrderFrame)
  | cancelling (orderId : Nat) (exchOid : String) (rpcId : Nat)
  deriving DecidableEq, Repr

structure DeribitOrderAdapter where
  sessionPrefix : String
  decoder : DeribitExecDecoder
  loggedIn : Bool := false
  jsonrpcId : Nat := 1
  pendingSends : List NewOrderFrame := []
  pendingResponses : List Nat := []
  io : IoPoint := .down
  executor : ExecutorPoint := .idle
  cancelAccepted : List Nat := []

namespace DeribitOrderAdapter

inductive Event where
  /-- the executor takes a request -/
  | newOrder (req : NewOrderRequest)
  | cancel (req : CancelRequest)
  /-- and goes on with it; `failing` is an exception in `send` -/
  | executor (failing : Bool) (nowNs : Nat)
  | connect
  | handshake
  /-- a message, `none` when it is no JSON document -/
  | message (root : Option Json) (recvNs : Nat)
  /-- the IO thread goes on with the answer to the login -/
  | io (failing : Bool)
  | disconnect
  /-- a thread asks something else and waits for the answer -/
  | sendAndWait
  | giveUp (rpcId : Nat)

inductive Output where
  | newOrder (frame : NewOrderFrame) (result : SendResult)
  | cancel (exchOid : String) (rpcId : Nat)
  | request (method : String) (rpcId : Nat)
  | exec (ev : ExecEvent)
  deriving DecidableEq, Repr

variable (a : DeribitOrderAdapter)

/-- `running_` of the session. -/
def running : Bool := a.io ≠ .down ∧ a.io ≠ .connecting

def send (failing : Bool) : SendResult :=
  if a.running = false then .refused else if failing then .threw else .sent

/-- `emit_rejection`. -/
def rejection (req : NewOrderRequest) (nowNs : Nat) : ExecEvent where
  orderId := req.orderId
  exchangeId := .DERIBIT
  instrumentId := req.instrumentId
  status := .REJECTED
  side := req.side
  orderType := req.orderType
  rejectReason := .EXCHANGE_ERROR
  exchangeTsNs := nowNs
  localTsNs := nowNs

/-! ## The send executor -/

/-- `do_send_new_order_blocking`, up to the test of the flag. -/
def beginNewOrder (req : NewOrderRequest) : DeribitOrderAdapter :=
  let label := clientOrderId a.sessionPrefix req.orderId
  let frame : NewOrderFrame := ⟨a.jsonrpcId, label, req⟩
  { a with
    decoder := a.decoder.registerOrder label req.orderId
    jsonrpcId := a.jsonrpcId + 1
    executor := if a.loggedIn then .sending frame else .queueing frame }

/-- `do_send_cancel_blocking`, up to the send: an order whose venue id is not known is only
logged. -/
def beginCancel (req : CancelRequest) : DeribitOrderAdapter :=
  let exchOid := a.decoder.getExchangeOrderId req.orderId
  if exchOid = "" then { a with cancelAccepted := req.orderId :: a.cancelAccepted }
  else
    { a with
      jsonrpcId := a.jsonrpcId + 1
      executor := .cancelling req.orderId exchOid a.jsonrpcId }

/-- What is left of a request. -/
def continueExecutor (failing : Bool) (nowNs : Nat) : DeribitOrderAdapter × List Output :=
  match a.executor with
  | .idle => (a, [])
  | .queueing frame =>
    -- the drain holds the mutex
    if a.io = .draining then (a, [])
    else ({ a with executor := .idle, pendingSends := a.pendingSends ++ [frame] }, [])
  | .sending frame =>
    ({ a with executor := .idle },
      .newOrder frame (a.send failing) ::
        if a.send failing = .sent then [] else [.exec (rejection frame.request nowNs)])
  | .cancelling orderId exchOid rpcId =>
    ({ a with executor := .idle, cancelAccepted := orderId :: a.cancelAccepted },
      if a.send failing = .sent then [.cancel exchOid rpcId] else [])

/-! ## The IO thread -/

/-- `connect_and_run`, before the session runs. -/
def beginSession : DeribitOrderAdapter :=
  { a with io := .connecting, loggedIn := false, decoder := a.decoder.reset }

/-- `on_handshake_complete`: the login is asked for. -/
def completeHandshake : DeribitOrderAdapter × List Output :=
  ({ a with io := .up, jsonrpcId := a.jsonrpcId + 1 }, [.request "public/auth" a.jsonrpcId])

/-- The end of a session; the flag stays as it is. -/
def endSession : DeribitOrderAdapter := { a with io := .down }

/-- `handle_message`, for the answer to the login only the raising of the flag. -/
def handleMessage (root : Option Json) (recvNs : Nat) : DeribitOrderAdapter × List Output :=
  match root.bind (DeribitMessage.read (a.pendingResponses.contains ·)) with
  | none => (a.endSession, [])
  | some .ignored | some (.error _) => (a, [])
  | some .testRequest =>
    ({ a with jsonrpcId := a.jsonrpcId + 1 }, [.request "public/test" a.jsonrpcId])
  | some (.orderNotification order wholeTimestamp) =>
    if a.decoder.orderIdOf order.label = 0 then (a, [])
    else if wholeTimestamp = false then
      let decoder := a.decoder.rememberExchOid (order.orderId.getD "")
        (a.decoder.orderIdOf order.label)
      ({ a with decoder := decoder }.endSession, [])
    else
      let (decoder, ev) := a.decoder.handleSubscriptionEvent order recvNs
      ({ a with decoder := decoder }, ev.toList.map .exec)
  | some (.awaited rpcId) =>
    ({ a with pendingResponses := a.pendingResponses.erase rpcId }, [])
  | some .authenticated => ({ a with loggedIn := true, io := .authenticated }, [])
  | some (.orderResponse order) =>
    let (decoder, ev) := a.decoder.handleOrderResponse order recvNs
    ({ a with decoder := decoder }, ev.toList.map .exec)

/-- The answer to the login, after the flag: three requests, then the queue, frame by frame. -/
def continueIo (failing : Bool) : DeribitOrderAdapter × List Output :=
  match a.io with
  | .authenticated =>
    if failing then (a.endSession, [])
    else
      ({ a with io := .draining, jsonrpcId := a.jsonrpcId + 3 },
        [.request "private/enable_cancel_on_disconnect" a.jsonrpcId,
          .request "public/set_heartbeat" (a.jsonrpcId + 1),
          .request "private/subscribe" (a.jsonrpcId + 2)])
  | .draining =>
    match a.pendingSends with
    | [] => ({ a with io := .ready }, [])
    | frame :: rest =>
      match a.send failing with
      | .sent => ({ a with pendingSends := rest }, [.newOrder frame .sent])
      -- a frame that threw is dropped, the others wait for the next login
      | .threw => ({ a with pendingSends := rest, io := .ready }, [.newOrder frame .threw])
      | .refused => ({ a with io := .ready }, [.newOrder frame .refused])
  | _ => (a, [])

/-- The next step of one of the threads; a thread that stands elsewhere does nothing. -/
def step (a : DeribitOrderAdapter) : Event → DeribitOrderAdapter × List Output
  | .newOrder req => (if a.executor = .idle then a.beginNewOrder req else a, [])
  | .cancel req => (if a.executor = .idle then a.beginCancel req else a, [])
  | .executor failing nowNs => a.continueExecutor failing nowNs
  | .connect => (if a.io = .down then a.beginSession else a, [])
  | .handshake => if a.io = .connecting then a.completeHandshake else (a, [])
  | .message root recvNs =>
    if a.io = .up ∨ a.io = .ready then a.handleMessage root recvNs else (a, [])
  | .io failing => a.continueIo failing
  | .disconnect =>
    (if a.io = .connecting ∨ a.io = .up ∨ a.io = .ready then a.endSession else a, [])
  | .sendAndWait =>
    if a.loggedIn then
      ({ a with
          jsonrpcId := a.jsonrpcId + 1
          pendingResponses := if a.running then a.jsonrpcId :: a.pendingResponses
            else a.pendingResponses }, [])
    else (a, [])
  | .giveUp rpcId => ({ a with pendingResponses := a.pendingResponses.erase rpcId }, [])

end DeribitOrderAdapter

end BptCore.OrderGateway
