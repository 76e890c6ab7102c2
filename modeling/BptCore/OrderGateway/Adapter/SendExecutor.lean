import BptCore.OrderGateway.Adapter.OrderAdapter

/-!
# What the venue adapters send

The send executor of an adapter takes one work item at a time and runs the venue's blocking
hook. `VenueRequest` is what a hook puts on the wire, less the envelope of the venue's protocol;
the `do_send_*_blocking` hooks of the Binance, OKX and Deribit adapters follow.

Binance and OKX address an order by the client id the adapter gave it, Deribit by the id the
venue gave it, which the adapter knows once the venue has answered.
-/

namespace BptCore.OrderGateway

/-- A request as the venue reads it. -/
inductive VenueRequest where
  | newOrder (symbol : String) (side : OrderSide) (orderType : OrderType) (tif : TimeInForce)
      (price : Int) (quantity : Nat) (execInst : Nat) (clientOrderId : String)
  | cancelByClientId (symbol clientOrderId : String)
  | cancelByExchangeId (exchangeOrderId : String)
  | amendByClientId (symbol clientOrderId : String) (newPrice : Int) (newQuantity : Nat)
  | amendByExchangeId (exchangeOrderId : String) (newPrice : Int) (newQuantity : Nat)
  deriving DecidableEq, Repr

/-- What the hooks read of the adapters' own state. The prefix is drawn once per session; an
order the venue has not answered has the empty id. The Hyperliquid adapter is left abstract. -/
structure AdapterSessions where
  okxPrefix : String
  deribitPrefix : String
  deribitExchangeOrderId : Nat → String
  hyperliquid : SendWorkItem → List VenueRequest

/-- The client id of an order: the session's prefix, `G`, and the id in decimal. -/
def clientOrderId (sessionPrefix : String) (orderId : Nat) : String :=
  sessionPrefix ++ "G" ++ toString orderId

theorem clientOrderId_injective {sessionPrefix : String} {n m : Nat}
    (h : clientOrderId sessionPrefix n = clientOrderId sessionPrefix m) : n = m := by
  have hlist := congrArg String.toList h
  simp only [clientOrderId, String.toList_append, List.append_cancel_left_eq] at hlist
  have hdigits : Nat.toDigits 10 n = Nat.toDigits 10 m := by simpa using hlist
  have hvalue := congrArg (fun ds => Nat.ofDigitChars 10 ds 0) hdigits
  simpa using hvalue

namespace BinanceOrderAdapter

def doSendNewOrderBlocking (req : NewOrderRequest) : List VenueRequest :=
  [.newOrder req.exchangeSymbol req.side req.orderType req.tif req.price req.quantity
    req.execInst (clientOrderId "" req.orderId)]

def doSendCancelBlocking (req : CancelRequest) : List VenueRequest :=
  [.cancelByClientId req.nativeSymbol (clientOrderId "" req.orderId)]

/-- Logs the call. -/
def doSendCancelAllBlocking (_req : CancelAllRequest) : List VenueRequest := []

/-- Cancel and replace; the replacement is a GTC limit BUY under a new client id. -/
def doSendModifyBlocking (req : ModifyRequest) : List VenueRequest :=
  [.cancelByClientId req.nativeSymbol (clientOrderId "" req.orderId),
    .newOrder req.nativeSymbol .BUY .LIMIT .GTC req.newPrice req.newQuantity 0
      (clientOrderId "" req.orderId ++ "m")]

end BinanceOrderAdapter

namespace OKXOrderAdapter

def doSendNewOrderBlocking (sessionPrefix : String) (req : NewOrderRequest) :
    List VenueRequest :=
  [.newOrder req.exchangeSymbol req.side req.orderType req.tif req.price req.quantity
    req.execInst (clientOrderId sessionPrefix req.orderId)]

def doSendCancelBlocking (sessionPrefix : String) (req : CancelRequest) : List VenueRequest :=
  [.cancelByClientId req.nativeSymbol (clientOrderId sessionPrefix req.orderId)]

/-- Logs the call. -/
def doSendCancelAllBlocking (_req : CancelAllRequest) : List VenueRequest := []

def doSendModifyBlocking (sessionPrefix : String) (req : ModifyRequest) : List VenueRequest :=
  [.amendByClientId req.nativeSymbol (clientOrderId sessionPrefix req.orderId) req.newPrice
    req.newQuantity]

end OKXOrderAdapter

namespace DeribitOrderAdapter

def doSendNewOrderBlocking (sessionPrefix : String) (req : NewOrderRequest) :
    List VenueRequest :=
  [.newOrder req.exchangeSymbol req.side req.orderType req.tif req.price req.quantity
    req.execInst (clientOrderId sessionPrefix req.orderId)]

def doSendCancelBlocking (exchangeOrderId : Nat → String) (req : CancelRequest) :
    List VenueRequest :=
  if exchangeOrderId req.orderId = "" then []
  else [.cancelByExchangeId (exchangeOrderId req.orderId)]

/-- Logs the call as not supported without an instrument name. -/
def doSendCancelAllBlocking (_req : CancelAllRequest) : List VenueRequest := []

def doSendModifyBlocking (exchangeOrderId : Nat → String) (req : ModifyRequest) :
    List VenueRequest :=
  if exchangeOrderId req.orderId = "" then []
  else [.amendByExchangeId (exchangeOrderId req.orderId) req.newPrice req.newQuantity]

end DeribitOrderAdapter

namespace AdapterSessions

variable (sessions : AdapterSessions)

/-- `run_send_executor`: the hook of the venue for one work item. -/
def runSendExecutor (venue : ExchangeId) (item : SendWorkItem) : List VenueRequest :=
  match venue with
  | .ALL => []
  | .HYPERLIQUID => sessions.hyperliquid item
  | .BINANCE =>
    match item with
    | .newOrder req => BinanceOrderAdapter.doSendNewOrderBlocking req
    | .cancel req => BinanceOrderAdapter.doSendCancelBlocking req
    | .cancelAll req => BinanceOrderAdapter.doSendCancelAllBlocking req
    | .modify req => BinanceOrderAdapter.doSendModifyBlocking req
  | .OKX =>
    match item with
    | .newOrder req => OKXOrderAdapter.doSendNewOrderBlocking sessions.okxPrefix req
    | .cancel req => OKXOrderAdapter.doSendCancelBlocking sessions.okxPrefix req
    | .cancelAll req => OKXOrderAdapter.doSendCancelAllBlocking req
    | .modify req => OKXOrderAdapter.doSendModifyBlocking sessions.okxPrefix req
  | .DERIBIT =>
    match item with
    | .newOrder req => DeribitOrderAdapter.doSendNewOrderBlocking sessions.deribitPrefix req
    | .cancel req =>
      DeribitOrderAdapter.doSendCancelBlocking sessions.deribitExchangeOrderId req
    | .cancelAll req => DeribitOrderAdapter.doSendCancelAllBlocking req
    | .modify req =>
      DeribitOrderAdapter.doSendModifyBlocking sessions.deribitExchangeOrderId req

/-- The venue reads the request as a cancel of the order. -/
def Cancels (st : OrderState) : VenueRequest → Prop
  | .cancelByClientId symbol cloid =>
    symbol = st.exchangeSymbol ∧
      match st.exchangeId with
      | .BINANCE => cloid = clientOrderId "" st.orderId
      | .OKX => cloid = clientOrderId sessions.okxPrefix st.orderId
      | _ => False
  | .cancelByExchangeId oid =>
    st.exchangeId = .DERIBIT ∧ oid = sessions.deribitExchangeOrderId st.orderId
  | _ => False

end AdapterSessions

end BptCore.OrderGateway
