import BptCore.Backtester.Harness.Backtest

/-!
# From the engine's match to the strategy's report

A matched fill waits in the engine, then in the call that hands it over, and is then published,
or dropped when its order is no longer live.

* **`step_accounts`** — every step accounts for every fill: matched, in flight, published, lost.
* **`fills_published_iff`** — once nothing is in flight, every order's published quantity is its
  matched one exactly when no fill was handed over for an order that was not live.
-/

namespace BptCore.Backtester

open Machine

/-- The quantity matched for the order. -/
def Observation.matchedQty (id : Nat) : Observation → Nat
  | matched fr => fillQtyOf id fr
  | published _ => 0

/-- The quantity published for the order as PARTIAL or FILLED. -/
def Observation.publishedQty (id : Nat) : Observation → Nat
  | matched _ => 0
  | published report => if report.orderId = id ∧ report.status.isFill then report.filledQty else 0

/-- The quantity that a task is about to hand over. -/
def Task.fillQty (id : Nat) : Task → Nat
  | .deliver fr => fillQtyOf id fr
  | .eraseLive _ | .acknowledge _ | .cancel _ => 0

namespace Backtest

variable (s : Backtest)

def tasksQty (id : Nat) (tasks : List Task) : Nat := (tasks.map (Task.fillQty id)).sum

def callsQty (id : Nat) (calls : List Activation) : Nat :=
  (calls.map fun a => tasksQty id a.tasks).sum

/-- What is matched and not handed over yet, in the engine or in the calls. -/
def inFlight (id : Nat) : Nat := s.engine.heldQty (fillQtyOf id) + callsQty id s.calls

/-- Nothing waits to be matched, reported or handed over. -/
def Drained : Prop :=
  s.engine.pendingSubmits = [] ∧ s.engine.pendingFills = [] ∧ s.calls = []

/-- The fill that an event hands to `publish_fill`. -/
def handedFill (e : BacktestEvent) : Option FillReport :=
  match e, s.calls with
  | .resume, a :: _ =>
    match a.tasks with
    | .deliver fr :: _ => some fr
    | _ => none
  | _, _ => none

/-- A fill that is handed over finds its order live, or is one of nothing. -/
def KeepsFill (e : BacktestEvent) : Prop :=
  ∀ fr ∈ s.handedFill e, fr.orderId ∈ s.client.live ∨ fillQtyScaled fr.lastFillQty = 0

instance (e : BacktestEvent) : Decidable (s.KeepsFill e) :=
  inferInstanceAs (Decidable (∀ fr ∈ s.handedFill e, _ ∨ _))

/-- The quantity that an event drops. -/
def lostQty (id : Nat) (e : BacktestEvent) : Nat :=
  match s.handedFill e with
  | some fr => if fr.orderId ∈ s.client.live then 0 else fillQtyOf id fr
  | none => 0

/-! ## Every step accounts for every fill -/

@[simp] theorem tasksQty_nil (id : Nat) : tasksQty id [] = 0 := rfl

@[simp] theorem tasksQty_cons (id : Nat) (task : Task) (tasks : List Task) :
    tasksQty id (task :: tasks) = task.fillQty id + tasksQty id tasks := rfl

@[simp] theorem callsQty_cons (id : Nat) (a : Activation) (calls : List Activation) :
    callsQty id (a :: calls) = tasksQty id a.tasks + callsQty id calls := rfl

@[simp] theorem fillQty_deliver (id : Nat) (fr : FillReport) :
    (Task.deliver fr).fillQty id = fillQtyOf id fr := rfl

@[simp] theorem fillQty_eraseLive (id orderId : Nat) :
    (Task.eraseLive orderId).fillQty id = 0 := rfl

theorem tasksQty_deliveries (id : Nat) (deliveries : List FillReport) (tasks : List Task) :
    tasksQty id (deliveries.map .deliver ++ tasks) =
      (deliveries.map (fillQtyOf id)).sum + tasksQty id tasks := by
  rw [tasksQty, List.map_append, List.sum_append, List.map_map]
  rfl

variable {s}

/-- What a step did with the fills of an order, from `before`. -/
def Accounts (before : Backtest) (id lost : Nat) (out : Backtest × List Observation) : Prop :=
  before.inFlight id + (out.2.map (Observation.matchedQty id)).sum =
    out.1.inFlight id + ((out.2.map (Observation.publishedQty id)).sum + lost)

/-- Entering the engine: what it matches comes in, what it delivers goes to the call. -/
theorem enter_accounts {before : MatchingEngine} {out : MatchingEngine.Outcome}
    {client : OrderGatewayClient} {tasks : List Task} {id : Nat}
    (hbefore : before.pendingFills = s.engine.pendingFills)
    (hout : out.Conserves (fillQtyOf id) before) (htasks : tasksQty id tasks = 0) :
    s.Accounts id 0 (s.enter out client tasks) := by
  have hheld : before.heldQty (fillQtyOf id) = s.engine.heldQty (fillQtyOf id) :=
    MatchingEngine.heldQty_congr _ hbefore
  have hmatched : ((out.matched.map Observation.matched).map (Observation.matchedQty id)).sum =
      (out.matched.map (fillQtyOf id)).sum := by
    rw [List.map_map]
    rfl
  have hpublished :
      ((out.matched.map Observation.matched).map (Observation.publishedQty id)).sum = 0 := by
    rw [List.map_map]
    exact List.sum_eq_zero fun n hn => by
      obtain ⟨fr, -, rfl⟩ := List.mem_map.mp hn
      rfl
  have hcalls := tasksQty_deliveries id out.deliveries tasks
  have hconserves : before.heldQty (fillQtyOf id) + (out.matched.map (fillQtyOf id)).sum =
    out.engine.heldQty (fillQtyOf id) + (out.deliveries.map (fillQtyOf id)).sum := hout
  show s.engine.heldQty (fillQtyOf id) + callsQty id s.calls + _ =
    out.engine.heldQty (fillQtyOf id) +
      (tasksQty id (out.deliveries.map .deliver ++ tasks) + callsQty id s.calls) + (_ + 0)
  simp only [enter] at *
  omega

/-- A report takes its quantity out of the call. -/
theorem publish_accounts {engine : MatchingEngine} {out : OrderGatewayClient × ExecReport}
    {calls : List Activation} {tasks : List Task} {id : Nat}
    (hengine : engine.pendingFills = s.engine.pendingFills)
    (hcalls : callsQty id s.calls =
      tasksQty id tasks + callsQty id calls + (Observation.published out.2).publishedQty id) :
    s.Accounts id 0 (publish engine out calls tasks) := by
  have hheld : engine.heldQty (fillQtyOf id) = s.engine.heldQty (fillQtyOf id) :=
    MatchingEngine.heldQty_congr _ hengine
  show s.engine.heldQty (fillQtyOf id) + callsQty id s.calls + 0 =
    engine.heldQty (fillQtyOf id) + (tasksQty id tasks + callsQty id calls) +
      ((Observation.published out.2).publishedQty id + 0 + 0)
  omega

/-- Going on without a report loses what the task was to hand over. -/
theorem proceed_accounts {engine : MatchingEngine} {client : OrderGatewayClient}
    {calls : List Activation} {tasks : List Task} {id lost : Nat}
    (hengine : engine.pendingFills = s.engine.pendingFills)
    (hcalls : callsQty id s.calls = tasksQty id tasks + callsQty id calls + lost) :
    s.Accounts id lost (proceed engine client calls tasks) := by
  have hheld : engine.heldQty (fillQtyOf id) = s.engine.heldQty (fillQtyOf id) :=
    MatchingEngine.heldQty_congr _ hengine
  show s.engine.heldQty (fillQtyOf id) + callsQty id s.calls + 0 =
    engine.heldQty (fillQtyOf id) + (tasksQty id tasks + callsQty id calls) + (0 + lost)
  omega

/-- Nothing happens. -/
theorem stay_accounts {id : Nat} : s.Accounts id 0 (s, []) := rfl

theorem publishedQty_of_not_isFill {client : OrderGatewayClient} {ev : ExecStatusEvent} {id : Nat}
    (h : ev.status.isFill = false) :
    (Observation.published (client.publishExecStatus ev).2).publishedQty id = 0 := by
  have hstatus : (client.publishExecStatus ev).2.status.isFill = false := h
  simp only [Observation.publishedQty, hstatus, Bool.false_eq_true, and_false, if_false]

/-- A cancel, from a call with the tasks it has left, moves no fill. -/
theorem sendCancel_accounts {cancel : Strategy.CancelOrderRequest} {calls : List Activation}
    {tasks : List Task} {id : Nat}
    (hcalls : callsQty id s.calls = tasksQty id tasks + callsQty id calls) :
    s.Accounts id 0 (s.sendCancel cancel calls tasks) := by
  unfold sendCancel
  split
  · exact proceed_accounts rfl hcalls
  · next lo hlo =>
    have hengine := s.engine.cancelOrder_pendingFills lo.exchange lo.exchangeSymbol cancel.orderId
    dsimp only
    split
    · apply publish_accounts hengine
      rw [publishedQty_of_not_isFill rfl, tasksQty_cons, fillQty_eraseLive]
      omega
    · exact proceed_accounts hengine hcalls

theorem sendNewOrder_accounts (order : Strategy.OutboundNewOrder) (id : Nat) :
    s.Accounts id 0 (s.sendNewOrder order) := by
  unfold sendNewOrder
  split
  · exact stay_accounts
  · dsimp only
    split
    · exact enter_accounts rfl (MatchingEngine.Outcome.conserves_submitOrder _ _ _) rfl
    · exact enter_accounts rfl (MatchingEngine.Outcome.conserves_submitOrder _ _ _) rfl

theorem sendModify_accounts (modify : Strategy.ModifyOrderRequest) (id : Nat) :
    s.Accounts id 0 (s.sendModify modify) := by
  unfold sendModify
  split
  · exact stay_accounts
  · next lo hlo =>
    have hengine := s.engine.cancelOrder_pendingFills lo.exchange lo.exchangeSymbol modify.orderId
    dsimp only
    split
    · next hrejected =>
      -- a refused order leaves the engine as the cancel left it
      apply publish_accounts
      · rw [MatchingEngine.submitOrder_of_rejected _ _ rfl hrejected]
        exact hengine
      · rw [publishedQty_of_not_isFill rfl, tasksQty_cons, fillQty_eraseLive, tasksQty_nil]
        omega
    · exact enter_accounts hengine (MatchingEngine.Outcome.conserves_submitOrder _ _ _) rfl

theorem sendCancelAll_accounts (exchangeId : ExchangeId) (instrumentId id : Nat) :
    s.Accounts id 0 (s.sendCancelAll exchangeId instrumentId) := by
  apply proceed_accounts rfl
  have htasks : ∀ entries : List (Sigma fun _ : Nat => LiveOrder),
      tasksQty id (entries.map fun entry => Task.cancel
        { orderId := entry.1, exchangeId := exchangeId, instrumentId := instrumentId }) = 0 := by
    intro entries
    induction entries with
    | nil => rfl
    | cons entry entries ih => exact (Nat.zero_add _).trans ih
  rw [htasks]
  omega

/-- A task, taken from the front of the innermost call, hands over its fill or drops it. -/
theorem runTask_accounts {a : Activation} {task : Task} {calls : List Activation}
    {tasks : List Task} (hs : s.calls = a :: calls) (ha : a.tasks = task :: tasks) (id : Nat) :
    s.Accounts id (s.lostQty id .resume) (s.runTask task calls tasks) := by
  have hcalls : callsQty id s.calls = task.fillQty id + tasksQty id tasks + callsQty id calls := by
    rw [hs, callsQty_cons, ha, tasksQty_cons]
  cases task with
  | deliver fr =>
    have hhanded : s.handedFill .resume = some fr := by simp only [handedFill, hs, ha]
    -- the one place where a fill can get lost
    cases hlive : s.client.live.lookup fr.orderId with
    | none =>
      -- the order is gone: the whole fill is lost
      have hnot : fr.orderId ∉ s.client.live := AList.lookup_eq_none.mp hlive
      simp only [runTask, OrderGatewayClient.publishFill, hlive, lostQty, hhanded, if_neg hnot]
      apply proceed_accounts rfl
      rw [hcalls, fillQty_deliver]
      omega
    | some lo =>
      have hmem : fr.orderId ∈ s.client.live := Table.mem_of_lookup hlive
      obtain ⟨rpt, hrpt, hfill, -⟩ := OrderGatewayClient.publishFill_of_live hlive
      have hpublish : s.client.publishFill fr = ((s.client.publishFill fr).1, some rpt) :=
        Prod.ext rfl hrpt
      have hlost : s.lostQty id .resume = 0 := by simp only [lostQty, hhanded, if_pos hmem]
      have htasks : tasksQty id
          (if fr.isFullyFilled then Task.eraseLive fr.orderId :: tasks else tasks) =
          tasksQty id tasks := by
        split
        · exact Nat.zero_add _
        · rfl
      -- what leaves the call is what is published, so nothing is lost
      have hpublished : (Observation.published rpt).publishedQty id = fillQtyOf id fr := by
        simp only [Observation.publishedQty, hfill.orderId, hfill.isFill, hfill.filledQty, and_true,
          fillQtyOf]
      rw [runTask, hpublish, hlost]
      apply publish_accounts rfl
      rw [htasks, hpublished, hcalls, fillQty_deliver]
      omega
  | eraseLive orderId =>
    have hlost : s.lostQty id .resume = 0 := by simp only [lostQty, handedFill, hs, ha]
    rw [hlost]
    apply proceed_accounts rfl
    rw [hcalls, fillQty_eraseLive]
    omega
  | acknowledge order =>
    have hlost : s.lostQty id .resume = 0 := by simp only [lostQty, handedFill, hs, ha]
    rw [hlost]
    have hcalls' : callsQty id s.calls = tasksQty id tasks + callsQty id calls :=
      hcalls.trans (by rw [Task.fillQty, Nat.zero_add])
    unfold runTask
    dsimp only
    split
    · split
      · apply publish_accounts rfl
        rw [publishedQty_of_not_isFill rfl, hcalls']
        rfl
      · exact proceed_accounts rfl hcalls'
    · exact proceed_accounts rfl hcalls'
  | cancel cancel =>
    have hlost : s.lostQty id .resume = 0 := by simp only [lostQty, handedFill, hs, ha]
    rw [hlost]
    apply sendCancel_accounts
    rw [hcalls, Task.fillQty, Nat.zero_add]

/-- **The step lemma.** -/
theorem step_accounts (s : Backtest) (e : BacktestEvent) (id : Nat) :
    s.Accounts id (s.lostQty id e) (s.step e) := by
  cases e with
  | market event =>
    cases hs : s.calls with
    | nil =>
      simp only [step, hs]
      exact enter_accounts rfl (MatchingEngine.Outcome.conserves_onMarketEvent _ _ _) rfl
    | cons a calls =>
      simp only [step, hs]
      exact stay_accounts
  | setSimulationTime nowNs =>
    cases hs : s.calls with
    | nil =>
      simp only [step, hs]
      show s.engine.heldQty (fillQtyOf id) + callsQty id s.calls + 0 =
        s.engine.heldQty (fillQtyOf id) + callsQty id [] + (0 + 0)
      rw [hs]
    | cons a calls =>
      simp only [step, hs]
      exact stay_accounts
  | call c =>
    simp only [step]
    split
    · cases c with
      | sendNewOrder order => exact sendNewOrder_accounts order id
      | sendCancel cancel => exact sendCancel_accounts (by rw [tasksQty_nil, Nat.zero_add])
      | sendCancelAll exchangeId instrumentId => exact sendCancelAll_accounts _ _ id
      | sendModify modify => exact sendModify_accounts modify id
    · exact stay_accounts
  | resume =>
    cases hs : s.calls with
    | nil =>
      have hlost : s.lostQty id .resume = 0 := by simp only [lostQty, handedFill, hs]
      simp only [step, hs, hlost]
      exact stay_accounts
    | cons a calls =>
      cases ha : a.tasks with
      | nil =>
        have hlost : s.lostQty id .resume = 0 := by simp only [lostQty, handedFill, hs, ha]
        simp only [step, hs, ha, hlost]
        show s.engine.heldQty (fillQtyOf id) + callsQty id s.calls + 0 =
          s.engine.heldQty (fillQtyOf id) + callsQty id calls + (0 + 0)
        rw [hs, callsQty_cons, ha, tasksQty_nil]
        omega
      | cons task tasks =>
        simp only [step, hs, ha]
        exact runTask_accounts hs ha id

/-! ## The run -/

/-- The backtest at its start, with the delays that the latency model will draw. -/
def init (latency : Nat → Nat) : Backtest := { engine := { latency := latency } }

/-- What the engine matched for the order, and what was published for it. -/
def matchedTotal (id : Nat) (obs : List Observation) : Nat :=
  (obs.map (Observation.matchedQty id)).sum

def publishedTotal (id : Nat) (obs : List Observation) : Nat :=
  (obs.map (Observation.publishedQty id)).sum

/-- No fill was lost, and none published twice. -/
def AllPublished (obs : List Observation) : Prop :=
  ∀ id, publishedTotal id obs = matchedTotal id obs

theorem Drained.inFlight {s : Backtest} (h : s.Drained) (id : Nat) : s.inFlight id = 0 := by
  obtain ⟨-, hfills, hcalls⟩ := h
  rw [Backtest.inFlight, MatchingEngine.heldQty, hfills, hcalls]
  rfl

instance (s : Backtest) : Decidable s.Drained := inferInstanceAs (Decidable (_ ∧ _ ∧ _))

/-- An event drops nothing of any order exactly when it keeps its fill. -/
theorem lostQty_eq_zero_iff {e : BacktestEvent} :
    (∀ id, s.lostQty id e = 0) ↔ s.KeepsFill e := by
  unfold lostQty KeepsFill
  cases s.handedFill e with
  | none => exact iff_of_true (fun _ => rfl) (fun _ h => nomatch h)
  | some fr =>
    dsimp only
    constructor
    · intro h fr' hfr'
      obtain rfl : fr = fr' := Option.some.inj hfr'
      have hlost := h fr.orderId
      by_cases hlive : fr.orderId ∈ s.client.live
      · exact Or.inl hlive
      · rw [if_neg hlive, fillQtyOf, if_pos rfl] at hlost
        exact Or.inr hlost
    · intro h id
      rcases h fr rfl with hlive | hzero
      · exact if_pos hlive
      · rw [fillQtyOf, hzero, ite_self, ite_self]

/-- The run law: what was matched is in flight, published, or lost. -/
theorem matchedTotal_eq (latency : Nat → Nat) (es : List BacktestEvent) (id : Nat) :
    matchedTotal id (outputs step (init latency) es) =
      (exec step (init latency) es).inFlight id +
        (publishedTotal id (outputs step (init latency) es) +
          total step (fun s e => s.lostQty id e) (init latency) es) := by
  have hstart : (init latency).inFlight id = 0 := rfl
  have hbalance := total_balance (fun s => s.inFlight id)
    (fun s e => ((step s e).2.map (Observation.matchedQty id)).sum)
    (fun s e => ((step s e).2.map (Observation.publishedQty id)).sum + s.lostQty id e)
    (fun s e => step_accounts s e id) (init latency) es
  rw [total_add, ← sum_outputs, ← sum_outputs, hstart, Nat.zero_add] at hbalance
  exact hbalance

/-- **When no fill is lost.** Take any run of a backtest, under any latency, at whose end nothing
is in flight. What was published for every order is what was matched for it exactly when every
fill that was handed over found its order live (or was one of nothing). -/
theorem fills_published_iff (latency : Nat → Nat) (es : List BacktestEvent)
    (hdrained : (exec step (init latency) es).Drained) :
    AllPublished (outputs step (init latency) es) ↔
      AlongRun step KeepsFill (init latency) es := by
  have hlost : ∀ id, publishedTotal id (outputs step (init latency) es) =
        matchedTotal id (outputs step (init latency) es) ↔
      AlongRun step (fun s e => s.lostQty id e = 0) (init latency) es := by
    intro id
    have hzero : total step (fun s e => s.lostQty id e) (init latency) es = 0 ↔
        AlongRun step (fun s e => s.lostQty id e = 0) (init latency) es := total_eq_zero_iff
    rw [matchedTotal_eq latency es id, hdrained.inFlight id, ← hzero]
    omega
  rw [AllPublished, forall_congr' hlost, forall_alongRun_iff]
  exact alongRun_congr (J := fun _ => True) (fun _ _ _ => trivial)
    (fun _ _ _ => lostQty_eq_zero_iff) trivial es

/-! ## A cancel that overtakes a fill

A buy of 2 at 100 rests alone, and a print of 1 fills half of it. The report of the fill takes 10
nanoseconds. Meanwhile the strategy cancels the order, which is then no longer live when the
report arrives. -/

namespace CancelOvertakesFill

def latency (n : Nat) : Nat := if n = 1 then 10 else 0

def book : MarketEvent :=
  .orderBook
    { timestampNs := 1, exchange := "HYPERLIQUID", symbol := "BTC"
      bidPx := ![98, 0, 0, 0, 0], bidSz := ![1, 0, 0, 0, 0]
      askPx := ![101, 0, 0, 0, 0], askSz := ![1, 0, 0, 0, 0] }

def print (timestampNs : Nat) (price : ℚ) : MarketEvent :=
  .trade
    { timestampNs := timestampNs, price := price, quantity := 1, side := .SELL
      exchange := "HYPERLIQUID", symbol := "BTC" }

def buy : StrategyCall :=
  .sendNewOrder
    { orderId := 1, exchangeId := .HYPERLIQUID, instrumentId := 7, side := .BUY
      orderType := .LIMIT, tif := .GTC, price := 10000000000, quantity := 200000000, execInst := 0
      exchangeSymbol := "BTC" }

/-- The order rests, acknowledged, and is half filled. -/
def halfFilled : List BacktestEvent :=
  [.market book, .resume, .call buy, .resume, .resume, .market (print 2 100), .resume]

def events : List BacktestEvent :=
  halfFilled ++
    [.call (.sendCancel { orderId := 1, exchangeId := .HYPERLIQUID, instrumentId := 7 }),
     .resume, .resume, .market (print 20 50), .resume, .resume]

def eventsWithoutCancel : List BacktestEvent :=
  halfFilled ++ [.market (print 20 50), .resume, .resume]

end CancelOvertakesFill

open CancelOvertakesFill in
theorem fills_published_iff_withoutCancel :
    AllPublished (outputs step (init latency) eventsWithoutCancel) :=
  (fills_published_iff latency eventsWithoutCancel (by decide +kernel)).mpr (by decide +kernel)

open CancelOvertakesFill in
theorem not_fills_published_of_cancel :
    (exec step (init latency) events).Drained ∧
      ¬ AllPublished (outputs step (init latency) events) := by
  refine ⟨by decide +kernel, fun h => ?_⟩
  -- 100000000 were matched and nothing published
  exact absurd (h 1) (by decide +kernel)

end Backtest

end BptCore.Backtester
