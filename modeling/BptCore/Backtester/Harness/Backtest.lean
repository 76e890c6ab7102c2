import BptCore.Backtester.Harness.OrderGatewayClient
import BptCore.Lib.Machine

/-!
# A backtest, step by step

The engine, the gateway and the calls in progress. A call runs until it reports to the strategy;
then the strategy is in control, inside its callback, and may call the gateway again or return.
The calls in progress form a stack of `Activation`s, innermost first, each with the `Task`s it
has left, so any nesting of calls inside callbacks is a run of this machine.

* **`BacktestEvent`** — a market event or the clock, when no call is in progress; a call of the
  strategy, when it is in control; **`resume`**, the innermost call going on with its next task.
* **`step`** — one event, with what it makes observable: the fills the engine matched and the
  reports published.
-/

namespace BptCore.Backtester

open Strategy (OutboundNewOrder CancelOrderRequest ModifyOrderRequest)

/-- What a gateway call has left to do. -/
inductive Task where
  /-- Hand a fill to `publish_fill`. -/
  | deliver (fr : FillReport)
  /-- `live_.erase`. -/
  | eraseLive (orderId : Nat)
  /-- The end of `send_new_order`: report ACKED when the order still rests. -/
  | acknowledge (order : OutboundNewOrder)
  /-- One order of `send_cancel_all`. -/
  | cancel (cancel : CancelOrderRequest)

structure Activation where
  tasks : List Task
  /-- The call waits for the strategy's callback to return. -/
  inCallback : Bool := false

structure Backtest where
  engine : MatchingEngine := {}
  client : OrderGatewayClient := {}
  calls : List Activation := []

inductive StrategyCall where
  | sendNewOrder (order : OutboundNewOrder)
  | sendCancel (cancel : CancelOrderRequest)
  | sendCancelAll (exchangeId : ExchangeId) (instrumentId : Nat)
  | sendModify (modify : ModifyOrderRequest)

inductive BacktestEvent where
  | market (event : MarketEvent)
  | setSimulationTime (nowNs : Nat)
  | call (c : StrategyCall)
  | resume

inductive Observation where
  | matched (fr : FillReport)
  | published (report : ExecReport)

/-- The engine's order for a live order that is submitted again, filled as far as was published. -/
def LiveOrder.replacement (lo : LiveOrder) (orderId nowNs : Nat) : OpenOrder where
  orderId := orderId
  clientOrderId := orderId
  exchange := lo.exchange
  symbol := lo.exchangeSymbol
  type := if lo.postOnly then .POST_ONLY else .LIMIT
  side := lo.side
  price := ofE8 lo.price
  quantity := ofE8 lo.quantity
  filledQty := ofE8 lo.cumulativeFilledQty
  submittedTs := nowNs

namespace Backtest

variable (s : Backtest)

/-- The strategy is in control at top level and inside its callback. -/
def strategyInControl : Bool :=
  match s.calls with
  | [] => true
  | a :: _ => a.inCallback

/-- The engine went through an entry point; the call goes on with the deliveries, then `tasks`. -/
def enter (out : MatchingEngine.Outcome) (client : OrderGatewayClient) (tasks : List Task) :
    Backtest × List Observation :=
  ({ engine := out.engine
     client := client
     calls := { tasks := out.deliveries.map .deliver ++ tasks } :: s.calls },
   out.matched.map .matched)

/-- The call publishes a report and waits for the callback, with `tasks` left. -/
def publish (engine : MatchingEngine) (out : OrderGatewayClient × ExecReport)
    (calls : List Activation) (tasks : List Task) : Backtest × List Observation :=
  ({ engine := engine
     client := out.1
     calls := { tasks := tasks, inCallback := true } :: calls },
   [.published out.2])

/-- The call goes on without a report. -/
def proceed (engine : MatchingEngine) (client : OrderGatewayClient) (calls : List Activation)
    (tasks : List Task) : Backtest × List Observation :=
  ({ engine := engine, client := client, calls := { tasks := tasks } :: calls }, [])

/-- `send_new_order`. The order is live before the engine sees it, an id that is live already
keeps its order, and a refused order is taken out again without a report. -/
def sendNewOrder (order : OutboundNewOrder) : Backtest × List Observation :=
  -- the guards log and return: no report tells the strategy
  if order.quantity = 0 ∨ (order.orderType ≠ .MARKET ∧ order.price ≤ 0) ∨
      order.exchangeSymbol = "" then (s, [])
  else
    let postOnly := decide (order.execInst &&& kExecInstPostOnlyMask ≠ 0)
    let exchange := exchangeIdString order.exchangeId
    let live := Table.emplace order.orderId
      { strategyOrderId := order.orderId
        exchangeId := order.exchangeId
        instrumentId := order.instrumentId
        side := order.side
        orderType := order.orderType
        tif := order.tif
        price := order.price
        quantity := order.quantity
        exchangeSymbol := order.exchangeSymbol
        exchange := exchange
        postOnly := postOnly } s.client.live
    let out := s.engine.submitOrder
      { orderId := order.orderId
        clientOrderId := order.orderId
        exchange := exchange
        symbol := order.exchangeSymbol
        type := toMatchType order.orderType postOnly
        side := order.side
        price := ofE8 order.price
        quantity := ofE8 order.quantity
        submittedTs := s.client.simulationNowNs }
    if out.2.rejected then
      s.enter out.1
        { s.client with live := live.erase order.orderId
                        rejectedCount := s.client.rejectedCount + 1 } []
    else s.enter out.1 { s.client with live := live } [.acknowledge order]

/-- `send_cancel`, in a call with `tasks` left: an order that the engine still has is cancelled
there, reported CANCELLED, and only then no longer live. -/
def sendCancel (cancel : CancelOrderRequest) (calls : List Activation) (tasks : List Task) :
    Backtest × List Observation :=
  match s.client.live.lookup cancel.orderId with
  | none => proceed s.engine s.client calls tasks
  | some lo =>
    let (engine, ok) := s.engine.cancelOrder lo.exchange lo.exchangeSymbol cancel.orderId
    if ok then
      publish engine
        (s.client.publishExecStatus
          { orderId := cancel.orderId
            exchangeId := cancel.exchangeId
            instrumentId := cancel.instrumentId
            status := .CANCELLED
            side := lo.side
            orderType := lo.orderType
            price := lo.price
            quantity := lo.quantity
            cumulativeFilledQty := lo.cumulativeFilledQty })
        calls (.eraseLive cancel.orderId :: tasks)
    else proceed engine s.client calls tasks

/-- `send_cancel_all`: the live orders of the instrument, one after the other. -/
def sendCancelAll (exchangeId : ExchangeId) (instrumentId : Nat) : Backtest × List Observation :=
  let targets := s.client.live.entries.filter fun entry =>
    entry.2.exchangeId == exchangeId && entry.2.instrumentId == instrumentId
  proceed s.engine s.client s.calls <| targets.map fun entry =>
    .cancel { orderId := entry.1, exchangeId := exchangeId, instrumentId := instrumentId }

/-- `send_modify`: cancel without a report, and submit again under the same id with the new price
and quantity. -/
def sendModify (modify : ModifyOrderRequest) : Backtest × List Observation :=
  match s.client.live.lookup modify.orderId with
  | none => (s, [])
  | some lo =>
    let engine := (s.engine.cancelOrder lo.exchange lo.exchangeSymbol modify.orderId).1
    let lo := { lo with price := modify.newPrice, quantity := modify.newQuantity }
    let client := { s.client with live := s.client.live.insert modify.orderId lo }
    let out := engine.submitOrder (lo.replacement modify.orderId s.client.simulationNowNs)
    if out.2.rejected then
      publish out.1.engine
        (client.publishExecStatus
          { orderId := modify.orderId
            exchangeId := lo.exchangeId
            instrumentId := lo.instrumentId
            status := .CANCELLED
            side := lo.side
            orderType := lo.orderType
            price := modify.newPrice
            quantity := modify.newQuantity
            cumulativeFilledQty := lo.cumulativeFilledQty })
        s.calls [.eraseLive modify.orderId]
    else s.enter out.1 client []

def onCall : StrategyCall → Backtest × List Observation
  | .sendNewOrder order => s.sendNewOrder order
  | .sendCancel cancel => s.sendCancel cancel s.calls []
  | .sendCancelAll exchangeId instrumentId => s.sendCancelAll exchangeId instrumentId
  | .sendModify modify => s.sendModify modify

/-- The next task of a call that has `tasks` left after it. -/
def runTask (task : Task) (calls : List Activation) (tasks : List Task) :
    Backtest × List Observation :=
  match task with
  | .deliver fr =>
    match s.client.publishFill fr with
    | (client, none) => proceed s.engine client calls tasks
    | (client, some report) =>
      publish s.engine (client, report) calls
        (if fr.isFullyFilled then .eraseLive fr.orderId :: tasks else tasks)
  | .eraseLive orderId => proceed s.engine (s.client.eraseLive orderId) calls tasks
  | .acknowledge order =>
    match s.client.live.lookup order.orderId with
    | some lo =>
      if lo.cumulativeFilledQty < order.quantity then
        publish s.engine
          (s.client.publishExecStatus
            { orderId := order.orderId
              exchangeId := order.exchangeId
              instrumentId := order.instrumentId
              status := .ACKED
              side := order.side
              orderType := order.orderType
              price := order.price
              quantity := order.quantity
              cumulativeFilledQty := lo.cumulativeFilledQty })
          calls tasks
      else proceed s.engine s.client calls tasks
    | none => proceed s.engine s.client calls tasks
  | .cancel cancel => s.sendCancel cancel calls tasks

/-- An event that is not possible where the run stands changes nothing. -/
def step (s : Backtest) : BacktestEvent → Backtest × List Observation
  | .market event =>
    match s.calls with
    | [] => s.enter (s.engine.onMarketEvent event) s.client []
    | _ :: _ => (s, [])
  | .setSimulationTime nowNs =>
    match s.calls with
    | [] => ({ s with client := { s.client with simulationNowNs := nowNs } }, [])
    | _ :: _ => (s, [])
  | .call c => if s.strategyInControl then s.onCall c else (s, [])
  | .resume =>
    match s.calls with
    | [] => (s, [])
    | a :: calls =>
      match a.tasks with
      | [] => ({ s with calls := calls }, [])
      | task :: tasks => s.runTask task calls tasks

end Backtest

end BptCore.Backtester
