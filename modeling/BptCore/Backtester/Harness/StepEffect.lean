import BptCore.Backtester.Harness.Backtest
import BptCore.Backtester.Matching.EntryPoints

/-!
# What a step of a backtest does

A step changes the engine, the table of live orders and the tasks that calls have left, and the
engine may match fills on the way. This module says once which changes there are.

* **`View`** — the parts of a backtest that its orders depend on.
* **`Effect`** — the ways in which a step may change them.
* **`step_effect`** — every step is one of them.
-/

namespace BptCore.Backtester

open Machine OpenItems
open Strategy (OutboundNewOrder CancelOrderRequest ModifyOrderRequest)

/-- The order that a task is about to take out of the live orders. -/
def Task.closes : Task → Option Nat
  | .deliver fr => if fr.isFullyFilled then some fr.orderId else none
  | .eraseLive orderId => some orderId
  | .acknowledge _ | .cancel _ => none

theorem closes_deliver (fr : FillReport) :
    (Task.deliver fr).closes = if fr.isFullyFilled then some fr.orderId else none := rfl

/-- The live order that `send_new_order` makes. -/
def newLiveOrder (order : OutboundNewOrder) : LiveOrder where
  strategyOrderId := order.orderId
  exchangeId := order.exchangeId
  instrumentId := order.instrumentId
  side := order.side
  orderType := order.orderType
  tif := order.tif
  price := order.price
  quantity := order.quantity
  exchangeSymbol := order.exchangeSymbol
  exchange := exchangeIdString order.exchangeId
  postOnly := decide (order.execInst &&& kExecInstPostOnlyMask ≠ 0)

/-- The live order with the price and the quantity of a modify. -/
def LiveOrder.modified (lo : LiveOrder) (modify : ModifyOrderRequest) : LiveOrder :=
  { lo with price := modify.newPrice, quantity := modify.newQuantity }

/-- The engine's order that `send_new_order` makes. -/
def newOpenOrder (order : OutboundNewOrder) (nowNs : Nat) : OpenOrder where
  orderId := order.orderId
  clientOrderId := order.orderId
  exchange := exchangeIdString order.exchangeId
  symbol := order.exchangeSymbol
  type := toMatchType order.orderType (decide (order.execInst &&& kExecInstPostOnlyMask ≠ 0))
  side := order.side
  price := ofE8 order.price
  quantity := ofE8 order.quantity
  submittedTs := nowNs

namespace Backtest

variable (s : Backtest)

/-- The guards of `send_new_order` let the order through. -/
def sendable (order : OutboundNewOrder) : Prop :=
  ¬ (order.quantity = 0 ∨ (order.orderType ≠ .MARKET ∧ order.price ≤ 0) ∨ order.exchangeSymbol = "")

instance (order : OutboundNewOrder) : Decidable (sendable order) :=
  inferInstanceAs (Decidable (¬ _))

/-- What the calls in progress have left to do, the innermost first. -/
def tasks : List Task := s.calls.flatMap Activation.tasks

/-- The task that the innermost call goes on with. -/
def nextTask : Option Task := s.calls.head?.bind fun a => a.tasks.head?

/-- The parts of a backtest that its orders depend on, with the fills that a step matched. -/
structure View where
  engine : MatchingEngine
  live : Table Nat LiveOrder
  tasks : List Task
  matched : List FillReport

def matchedIn (obs : List Observation) : List FillReport :=
  obs.filterMap fun
    | .matched fr => some fr
    | .published _ => none

def view (out : Backtest × List Observation) : View where
  engine := out.1.engine
  live := out.1.client.live
  tasks := out.1.tasks
  matched := matchedIn out.2

/-- The engine once `send_modify` has cancelled the live order. -/
def withdrawn (lo : LiveOrder) (orderId : Nat) : MatchingEngine :=
  (s.engine.cancelOrder lo.exchange lo.exchangeSymbol orderId).1

/-- The engine's order that `send_modify` makes. -/
def replacing (lo : LiveOrder) (modify : ModifyOrderRequest) : OpenOrder :=
  (lo.modified modify).replacement modify.orderId s.client.simulationNowNs

/-- The changes that a step can make. -/
inductive Effect : BacktestEvent → View → Prop
  /-- Nothing, or tasks that close no order. A live order is not modified to no effect. -/
  | idle {ev : BacktestEvent} (more : List Task) (hmore : ∀ task ∈ more, task.closes = none)
      (hev : ∀ modify, ev = .call (.sendModify modify) → s.strategyInControl = true →
        modify.orderId ∉ s.client.live) :
      Effect ev ⟨s.engine, s.client.live, more ++ s.tasks, []⟩
  /-- A task is done without a change, perhaps that of an order that is not live. -/
  | skip {task : Task} {rest : List Task} (htasks : s.tasks = task :: rest)
      (hcloses : ∀ id ∈ task.closes, id ∉ s.client.live) :
      Effect .resume ⟨s.engine, s.client.live, rest, []⟩
  | market (event : MarketEvent) (htop : s.calls = []) :
      Effect (.market event)
        ⟨(s.engine.onMarketEvent event).engine, s.client.live,
          (s.engine.onMarketEvent event).deliveries.map .deliver ++ s.tasks,
          (s.engine.onMarketEvent event).matched⟩
  | newOrder (order : OutboundNewOrder) (hcontrol : s.strategyInControl = true)
      (hsendable : sendable order)
      (haccepted : (s.engine.submitOrder (newOpenOrder order s.client.simulationNowNs)).2.rejected =
        false) :
      Effect (.call (.sendNewOrder order))
        ⟨(s.engine.submitOrder (newOpenOrder order s.client.simulationNowNs)).1.engine,
          Table.emplace order.orderId (newLiveOrder order) s.client.live,
          (s.engine.submitOrder (newOpenOrder order s.client.simulationNowNs)).1.deliveries.map
            .deliver ++ .acknowledge order :: s.tasks,
          (s.engine.submitOrder (newOpenOrder order s.client.simulationNowNs)).1.matched⟩
  | refused (order : OutboundNewOrder) (hcontrol : s.strategyInControl = true)
      (hsendable : sendable order) :
      Effect (.call (.sendNewOrder order))
        ⟨s.engine,
          (Table.emplace order.orderId (newLiveOrder order) s.client.live).erase order.orderId,
          s.tasks, []⟩
  | cancel {ev : BacktestEvent} {rest : List Task} (cancel : CancelOrderRequest) {lo : LiveOrder}
      (hev : ev = .call (.sendCancel cancel) ∨ ev = .resume)
      (htasks : s.tasks = rest ∨ s.tasks = .cancel cancel :: rest)
      (hlive : s.client.live.lookup cancel.orderId = some lo) :
      Effect ev
        ⟨s.withdrawn lo cancel.orderId, s.client.live, .eraseLive cancel.orderId :: rest, []⟩
  | modify (modify : ModifyOrderRequest) {lo : LiveOrder} (hcontrol : s.strategyInControl = true)
      (hlive : s.client.live.lookup modify.orderId = some lo)
      (haccepted :
        ((s.withdrawn lo modify.orderId).submitOrder (s.replacing lo modify)).2.rejected = false) :
      Effect (.call (.sendModify modify))
        ⟨((s.withdrawn lo modify.orderId).submitOrder (s.replacing lo modify)).1.engine,
          s.client.live.insert modify.orderId (lo.modified modify),
          ((s.withdrawn lo modify.orderId).submitOrder (s.replacing lo modify)).1.deliveries.map
            .deliver ++ s.tasks,
          ((s.withdrawn lo modify.orderId).submitOrder (s.replacing lo modify)).1.matched⟩
  | modifyRefused (modify : ModifyOrderRequest) {lo : LiveOrder}
      (hcontrol : s.strategyInControl = true)
      (hlive : s.client.live.lookup modify.orderId = some lo) :
      Effect (.call (.sendModify modify))
        ⟨s.withdrawn lo modify.orderId, s.client.live.insert modify.orderId (lo.modified modify),
          .eraseLive modify.orderId :: s.tasks, []⟩
  | deliver {fr : FillReport} {lo : LiveOrder} {rest : List Task}
      (htasks : s.tasks = .deliver fr :: rest)
      (hlive : s.client.live.lookup fr.orderId = some lo) :
      Effect .resume
        ⟨s.engine, s.client.live.insert fr.orderId { lo with
            cumulativeFilledQty := lo.cumulativeFilledQty + fillQtyScaled fr.lastFillQty },
          if fr.isFullyFilled then .eraseLive fr.orderId :: rest else rest, []⟩
  | eraseLive {orderId : Nat} {rest : List Task} (hnext : s.nextTask = some (.eraseLive orderId))
      (htasks : s.tasks = .eraseLive orderId :: rest) :
      Effect .resume ⟨s.engine, s.client.live.erase orderId, rest, []⟩

variable {s}

/-! ## The shapes of a result -/

theorem view_enter (out : MatchingEngine.Outcome) (client : OrderGatewayClient)
    (tasks : List Task) :
    view (s.enter out client tasks) = ⟨out.engine, client.live,
      out.deliveries.map .deliver ++ (tasks ++ s.tasks), out.matched⟩ := by
  have hmatched : matchedIn (out.matched.map .matched) = out.matched := by
    rw [matchedIn, List.filterMap_map]
    exact List.filterMap_some
  have htasks : ((s.enter out client tasks).1).tasks =
      out.deliveries.map .deliver ++ (tasks ++ s.tasks) := by
    rw [Backtest.tasks, enter, List.flatMap_cons, List.append_assoc]
    rfl
  rw [view, htasks]
  exact congrArg _ hmatched

theorem view_publish (engine : MatchingEngine) (out : OrderGatewayClient × ExecReport)
    (calls : List Activation) (tasks : List Task) :
    view (publish engine out calls tasks) =
      ⟨engine, out.1.live, tasks ++ calls.flatMap Activation.tasks, []⟩ :=
  rfl

theorem view_proceed (engine : MatchingEngine) (client : OrderGatewayClient)
    (calls : List Activation) (tasks : List Task) :
    view (proceed engine client calls tasks) =
      ⟨engine, client.live, tasks ++ calls.flatMap Activation.tasks, []⟩ :=
  rfl

theorem effect_idle {ev : BacktestEvent} (hev : ∀ modify, ev = .call (.sendModify modify) →
    s.strategyInControl = true → modify.orderId ∉ s.client.live) : s.Effect ev (view (s, [])) :=
  .idle [] (fun _ h => absurd h List.not_mem_nil) hev

/-! ## The calls -/

theorem sendNewOrder_effect {order : OutboundNewOrder} (hcontrol : s.strategyInControl = true) :
    s.Effect (.call (.sendNewOrder order)) (view (s.sendNewOrder order)) := by
  unfold sendNewOrder
  by_cases hguard : order.quantity = 0 ∨ (order.orderType ≠ .MARKET ∧ order.price ≤ 0) ∨
      order.exchangeSymbol = ""
  · rw [if_pos hguard]
    exact effect_idle fun _ h => nomatch h
  · rw [if_neg hguard]
    dsimp only
    split
    · next hrejected =>
      have hrefuses := (MatchingEngine.submitOrder_rejected rfl).symm.trans hrejected
      rw [view_enter, MatchingEngine.submitOrder_of_refuses hrefuses]
      exact .refused order hcontrol hguard
    · next haccepted =>
      rw [view_enter]
      exact .newOrder order hcontrol hguard (Bool.not_eq_true _ |>.mp haccepted)

/-- A cancel finds its order live and withdraws it, or it changes nothing. -/
theorem view_sendCancel (cancel : CancelOrderRequest) (calls : List Activation)
    (tasks : List Task) :
    view (s.sendCancel cancel calls tasks) =
        ⟨s.engine, s.client.live, tasks ++ calls.flatMap Activation.tasks, []⟩ ∨
      ∃ lo, s.client.live.lookup cancel.orderId = some lo ∧
        view (s.sendCancel cancel calls tasks) =
          ⟨s.withdrawn lo cancel.orderId, s.client.live,
            .eraseLive cancel.orderId :: (tasks ++ calls.flatMap Activation.tasks), []⟩ := by
  unfold sendCancel
  split
  · exact Or.inl rfl
  · next lo hlive =>
    dsimp only
    split
    · exact Or.inr ⟨lo, hlive, rfl⟩
    · next hok =>
      refine Or.inl ?_
      rw [view_proceed, MatchingEngine.cancelOrder_of_not_ok _ (Bool.not_eq_true _ |>.mp hok)]

theorem sendModify_effect {modify : ModifyOrderRequest} (hcontrol : s.strategyInControl = true) :
    s.Effect (.call (.sendModify modify)) (view (s.sendModify modify)) := by
  unfold sendModify
  split
  · next hnone =>
    refine effect_idle fun modify' hev _ => ?_
    cases hev
    exact AList.lookup_eq_none.mp hnone
  · next lo hlive =>
    dsimp only
    split
    · next hrejected =>
      have hrefuses := (MatchingEngine.submitOrder_rejected rfl).symm.trans hrejected
      rw [view_publish, MatchingEngine.submitOrder_of_refuses hrefuses]
      exact .modifyRefused modify hcontrol hlive
    · next haccepted =>
      rw [view_enter]
      exact .modify modify hcontrol hlive (Bool.not_eq_true _ |>.mp haccepted)

theorem sendCancelAll_effect (exchangeId : ExchangeId) (instrumentId : Nat) :
    s.Effect (.call (.sendCancelAll exchangeId instrumentId))
      (view (s.sendCancelAll exchangeId instrumentId)) := by
  refine .idle _ (fun task htask => ?_) fun _ h => nomatch h
  obtain ⟨entry, -, rfl⟩ := List.mem_map.mp htask
  rfl

theorem runTask_effect {task : Task} {calls : List Activation} {tasks : List Task}
    (hnext : s.nextTask = some task)
    (htasks : s.tasks = task :: (tasks ++ calls.flatMap Activation.tasks)) :
    s.Effect .resume (view (s.runTask task calls tasks)) := by
  cases task with
  | deliver fr =>
    cases hlive : s.client.live.lookup fr.orderId with
    | none =>
      have hnot : fr.orderId ∉ s.client.live := AList.lookup_eq_none.mp hlive
      simp only [runTask, OrderGatewayClient.publishFill, hlive]
      refine .skip htasks fun id hid hmem => ?_
      rw [closes_deliver] at hid
      cases hfull : fr.isFullyFilled with
      | true => rw [hfull] at hid; cases hid; exact hnot hmem
      | false => rw [hfull] at hid; cases hid
    | some lo =>
      obtain ⟨rpt, hrpt, -, hafter⟩ := OrderGatewayClient.publishFill_of_live hlive
      have hpublish : s.client.publishFill fr = ((s.client.publishFill fr).1, some rpt) :=
        Prod.ext rfl hrpt
      rw [runTask, hpublish]
      dsimp only
      rw [view_publish, hafter]
      have heffect := Effect.deliver htasks hlive
      split
      · next hfull =>
        rw [if_pos hfull] at heffect
        exact heffect
      · next hopen =>
        rw [if_neg hopen] at heffect
        exact heffect
  | eraseLive orderId => exact .eraseLive hnext htasks
  | acknowledge order =>
    have hskip := Effect.skip htasks fun _ h => absurd h (Option.not_mem_none _)
    unfold runTask
    dsimp only
    split
    · split <;> exact hskip
    · exact hskip
  | cancel cancel =>
    rcases view_sendCancel (s := s) cancel calls tasks with hsame | ⟨lo, hlive, hcancelled⟩
    · rw [runTask, hsame]
      exact .skip htasks fun _ h => absurd h (Option.not_mem_none _)
    · rw [runTask, hcancelled]
      exact .cancel cancel (Or.inr rfl) (Or.inr htasks) hlive

/-- **What a step does.** -/
theorem step_effect (s : Backtest) (ev : BacktestEvent) : s.Effect ev (view (s.step ev)) := by
  cases ev with
  | market event =>
    cases hs : s.calls with
    | nil =>
      simp only [step, hs]
      rw [view_enter]
      exact .market event hs
    | cons a calls =>
      simp only [step, hs]
      exact effect_idle fun _ h => nomatch h
  | setSimulationTime nowNs =>
    cases hs : s.calls with
    | nil =>
      have htasks : s.tasks = [] := by rw [tasks, hs]; rfl
      have heffect : s.Effect (.setSimulationTime nowNs)
        ⟨s.engine, s.client.live, [] ++ s.tasks, []⟩ := effect_idle fun _ h => nomatch h
      rw [htasks] at heffect
      simp only [step, hs]
      exact heffect
    | cons a calls =>
      simp only [step, hs]
      exact effect_idle fun _ h => nomatch h
  | call c =>
    simp only [step]
    split
    · next hcontrol =>
      cases c with
      | sendNewOrder order => exact sendNewOrder_effect hcontrol
      | sendCancel cancel =>
        rcases view_sendCancel (s := s) cancel s.calls [] with hsame | ⟨lo, hlive, hcancelled⟩
        · rw [onCall, hsame]
          exact effect_idle fun _ h => nomatch h
        · rw [onCall, hcancelled]
          exact .cancel cancel (Or.inl rfl) (Or.inl rfl) hlive
      | sendCancelAll exchangeId instrumentId => exact sendCancelAll_effect _ _
      | sendModify modify => exact sendModify_effect hcontrol
    · next hcontrol => exact effect_idle fun _ _ h => absurd h hcontrol
  | resume =>
    cases hs : s.calls with
    | nil =>
      simp only [step, hs]
      exact effect_idle fun _ h => nomatch h
    | cons a calls =>
      have htasks : s.tasks = a.tasks ++ calls.flatMap Activation.tasks := by
        rw [tasks, hs]
        rfl
      cases ha : a.tasks with
      | nil =>
        simp only [step, hs, ha]
        have heffect : s.Effect .resume ⟨s.engine, s.client.live, [] ++ s.tasks, []⟩ :=
          effect_idle fun _ h => nomatch h
        rw [htasks, ha] at heffect
        exact heffect
      | cons task tasks =>
        simp only [step, hs, ha]
        have hnext : s.nextTask = some task := by
          rw [nextTask, hs]
          exact congrArg List.head? ha
        rw [ha] at htasks
        exact runTask_effect hnext htasks

end Backtest

end BptCore.Backtester
