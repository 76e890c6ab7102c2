import BptCore.OrderGateway.Adapter.OrderAdapter
import BptCore.OrderGateway.Risk.PnlTracker
import BptCore.OrderGateway.Risk.BreakerWindows
import BptCore.OrderGateway.Risk.RiskChecker

/-!
# The pre-trade risk gate

`PreTradeRiskGate` owns the risk state of the order processor: the pre-trade test of every new
order and, on every exchange event, the reject-rate breaker, the realized P&L with its
daily-loss latch, and the release of the order's slot.

* **`evaluate_spec`** — a passing call claims a slot and leaves the P&L alone; a failing call
  leaves slots and switch as they were.
* **`onExecEvent_*`** — the effect of an exchange event, one lemma for each part of the state.
-/

namespace BptCore.OrderGateway

/-- The limits the gate and its parts are built with. -/
structure RiskSettings where
  limits : RiskLimits
  maxPositionUsd : ℚ
  maxDailyLossUsd : ℚ
  breaker : RejectRateBreaker.Config

structure PreTradeRiskGate where
  riskChecker : RiskChecker := {}
  pnlTracker : PnlTracker := {}
  dailyLossLatched : Bool := false
  rejectRateBreaker : RejectRateBreaker := {}

namespace PreTradeRiskGate

variable (cfg : RiskSettings) (g : PreTradeRiskGate)

/-- The USD exposure of `(exchange, instrument)` if the quantity filled at the price. -/
def projectedUsd (exchange : ExchangeId) (instrumentId : Nat) (side : OrderSide) (price : Int)
    (quantity : Nat) : ℚ :=
  |ofE8 (g.pnlTracker.netQtyE8 exchange instrumentId + side.signed quantity) * ofE8 price|

/-- The gate after the call, with the reason of a refusal. -/
def evaluate (order : NewOrderEvent) (nowS : Nat) : PreTradeRiskGate × Option RejectReason :=
  match RiskChecker.check cfg.limits g.riskChecker order.exchangeId order.price order.quantity
      order.orderId nowS with
  | (rc, .error reason) => ({ g with riskChecker := rc }, some reason)
  | (rc, .ok ()) =>
    if cfg.maxPositionUsd > 0 ∧ order.price > 0 ∧
        g.projectedUsd order.exchangeId order.instrumentId order.side order.price
          order.quantity > cfg.maxPositionUsd then
      -- the checker has claimed the slot already: it is given back
      ({ g with riskChecker := rc.onOrderClosed order.exchangeId }, some .RISK_REJECTED)
    else ({ g with riskChecker := rc }, none)

def releaseSlot (exchange : ExchangeId) : PreTradeRiskGate :=
  { g with riskChecker := g.riskChecker.onOrderClosed exchange }

def disableTrading : PreTradeRiskGate :=
  { g with riskChecker := g.riskChecker.setTradingEnabled false }

/-- The breaker's share of `on_exec_event`: a trip turns trading off. -/
def recordOutcome (event : ExecEvent) : PreTradeRiskGate :=
  let breaker := g.rejectRateBreaker.record cfg.breaker (event.status == .REJECTED)
    event.localTsNs
  -- only the transition into the tripped state acts
  let g' := { g with rejectRateBreaker := breaker }
  if !g.rejectRateBreaker.tripped && breaker.tripped then g'.disableTrading else g'

/-- The daily-loss test after a fill: a loss beyond the limit latches and turns trading off. -/
def latchDailyLoss (nowNs : Nat) : PreTradeRiskGate :=
  if !g.dailyLossLatched ∧ cfg.maxDailyLossUsd > 0 then
    -- asking for the day's P&L may itself begin a new day
    let daily := g.pnlTracker.dailyRealizedPnlUsd nowNs
    if daily.1 < -cfg.maxDailyLossUsd then
      disableTrading { g with pnlTracker := daily.2, dailyLossLatched := true }
    else { g with pnlTracker := daily.2 }
  else g

/-- The P&L's share of `on_exec_event`: a fill is booked and the day's loss tested. -/
def bookFill (event : ExecEvent) : PreTradeRiskGate :=
  if event.status.isFill ∧ event.filledQty > 0 then
    latchDailyLoss cfg
      { g with
        pnlTracker := g.pnlTracker.onFill event.exchangeId event.instrumentId event.side
          event.price event.filledQty event.localTsNs }
      event.localTsNs
  else g

def onExecEvent (event : ExecEvent) : PreTradeRiskGate :=
  let g := (g.recordOutcome cfg event).bookFill cfg event
  if event.status.terminal then g.releaseSlot event.exchangeId else g

/-! ## What a call to `evaluate` does -/

/-- The position test of an accepted order: it applies to priced orders when a limit is set. -/
def PositionOk (order : NewOrderEvent) : Prop :=
  0 < cfg.maxPositionUsd → 0 < order.price →
    g.projectedUsd order.exchangeId order.instrumentId order.side order.price order.quantity ≤
      cfg.maxPositionUsd

/-- **The two outcomes of `evaluate`.** Only the checker changes. Either all of its tests and the
position test passed and a slot is claimed, or the call refused and the switch and the slots are
as before. -/
theorem evaluate_spec (order : NewOrderEvent) (nowS : Nat) :
    let out := g.evaluate cfg order nowS
    out.1 = { g with riskChecker := out.1.riskChecker } ∧
    ((out.2 = none ∧ g.PositionOk cfg order ∧
        RiskChecker.Accepted cfg.limits g.riskChecker order.exchangeId order.price
          order.quantity order.orderId out.1.riskChecker) ∨
      ((∃ reason, out.2 = some reason) ∧
        out.1.riskChecker.tradingEnabled = g.riskChecker.tradingEnabled ∧
        out.1.riskChecker.openOrders = g.riskChecker.openOrders)) := by
  have hcheck := RiskChecker.check_spec cfg.limits g.riskChecker
    order.exchangeId order.price order.quantity order.orderId nowS
  simp only [evaluate]
  split
  -- refused by the checker: its spec lemma has switch and slots
  · next rc reason heq =>
    rw [heq] at hcheck
    rcases hcheck with ⟨hok, -⟩ | ⟨-, hrefused⟩
    · cases hok
    · exact ⟨rfl, .inr ⟨⟨_, rfl⟩, hrefused.switch, hrefused.slots⟩⟩
  -- accepted by the checker: what is left is the position test
  · next rc heq =>
    rw [heq] at hcheck
    rcases hcheck with ⟨-, hacc⟩ | ⟨⟨_, herr⟩, -⟩
    · split
      · next hpos =>
        exact ⟨rfl, .inr ⟨⟨_, rfl⟩, hacc.stillEnabled, hacc.openOrders_onOrderClosed⟩⟩
      · next hpos =>
        refine ⟨rfl, .inl ⟨rfl, fun hmax hprice => ?_, hacc⟩⟩
        exact not_lt.mp fun hgt => hpos ⟨hmax, hprice, hgt⟩
    · cases herr

/-! ## What an exchange event does -/

theorem recordOutcome_openOrders (event : ExecEvent) :
    (g.recordOutcome cfg event).riskChecker.openOrders = g.riskChecker.openOrders := by
  simp only [recordOutcome]
  split <;> rfl

theorem recordOutcome_pnlTracker (event : ExecEvent) :
    (g.recordOutcome cfg event).pnlTracker = g.pnlTracker := by
  simp only [recordOutcome]
  split <;> rfl

/-- The daily-loss test does nothing, rolls the day over, or latches. -/
theorem latchDailyLoss_cases (nowNs : Nat) :
    g.latchDailyLoss cfg nowNs = g ∨
    g.latchDailyLoss cfg nowNs =
      { g with pnlTracker := g.pnlTracker.rollDayIfNeeded nowNs } ∨
    g.latchDailyLoss cfg nowNs =
      disableTrading { g with pnlTracker := g.pnlTracker.rollDayIfNeeded nowNs
                              dailyLossLatched := true } := by
  simp only [latchDailyLoss]
  split
  · split
    · exact .inr (.inr rfl)
    · exact .inr (.inl rfl)
  · exact .inl rfl

theorem latchDailyLoss_openOrders (nowNs : Nat) :
    (g.latchDailyLoss cfg nowNs).riskChecker.openOrders = g.riskChecker.openOrders := by
  rcases latchDailyLoss_cases cfg g nowNs with h | h | h <;> rw [h]
  rfl

/-- The daily-loss test of a fill's own day leaves the tracker alone. -/
theorem latchDailyLoss_pnlTracker {nowNs : Nat}
    (h : g.pnlTracker.currentUtcDay = PnlTracker.utcDayOf nowNs) :
    (g.latchDailyLoss cfg nowNs).pnlTracker = g.pnlTracker := by
  have hroll : g.pnlTracker.rollDayIfNeeded nowNs = g.pnlTracker :=
    g.pnlTracker.rollDayIfNeeded_of_currentUtcDay h
  rcases latchDailyLoss_cases cfg g nowNs with h' | h' | h'
  · rw [h']
  · rw [h']
    exact hroll
  · rw [h']
    exact hroll

/-- What giving back one slot keeps, giving back the slots of many orders keeps. -/
theorem foldl_releaseSlot {I : PreTradeRiskGate → Prop}
    (hrelease : ∀ g exchange, I g → I (g.releaseSlot exchange)) {g : PreTradeRiskGate} (hg : I g)
    (l : List OrderState) : I (l.foldl (fun g st => g.releaseSlot st.exchangeId) g) := by
  induction l generalizing g with
  | nil => exact hg
  | cons st l ih => exact ih (hrelease g st.exchangeId hg)

theorem bookFill_openOrders (event : ExecEvent) :
    (g.bookFill cfg event).riskChecker.openOrders = g.riskChecker.openOrders := by
  unfold bookFill
  split
  · rw [latchDailyLoss_openOrders]
  · rfl

/-- The slots after an exchange event: a terminal one gives back a slot of its exchange. -/
theorem onExecEvent_openOrders (event : ExecEvent) (i : Fin kMaxVenues) :
    (g.onExecEvent cfg event).riskChecker.openOrders i =
      if event.status.terminal ∧ i = venueIdx event.exchangeId
      then g.riskChecker.openOrders i - 1 else g.riskChecker.openOrders i := by
  simp only [onExecEvent]
  split
  · next hterm =>
    simp only [releaseSlot, RiskChecker.onOrderClosed_openOrders, bookFill_openOrders,
      recordOutcome_openOrders, hterm, true_and]
  · next hterm =>
    simp only [bookFill_openOrders, recordOutcome_openOrders, hterm, false_and, if_false,
      Bool.false_eq_true]

/-- The tracker after an exchange event: a fill of something is booked under the event's own
exchange and instrument. -/
theorem onExecEvent_pnlTracker (event : ExecEvent) :
    (g.onExecEvent cfg event).pnlTracker =
      if event.status.isFill ∧ event.filledQty > 0 then
        g.pnlTracker.onFill event.exchangeId event.instrumentId event.side event.price
          event.filledQty event.localTsNs
      else g.pnlTracker := by
  -- giving back a slot is no matter of the tracker
  have hrelease : (g.onExecEvent cfg event).pnlTracker =
      ((g.recordOutcome cfg event).bookFill cfg event).pnlTracker := by
    simp only [onExecEvent]
    split <;> rfl
  rw [hrelease, ← recordOutcome_pnlTracker cfg g event, bookFill]
  split
  · exact latchDailyLoss_pnlTracker cfg _ (PnlTracker.onFill_currentUtcDay _ _ _ _ _ _ _)
  · rfl

/-! ## Trading, once off, stays off -/

variable {cfg g}

theorem recordOutcome_tradingEnabled_of_false (h : g.riskChecker.tradingEnabled = false)
    (event : ExecEvent) : (g.recordOutcome cfg event).riskChecker.tradingEnabled = false := by
  simp only [recordOutcome]
  split
  · rfl
  · exact h

theorem latchDailyLoss_tradingEnabled_of_false (h : g.riskChecker.tradingEnabled = false)
    (nowNs : Nat) : (g.latchDailyLoss cfg nowNs).riskChecker.tradingEnabled = false := by
  rcases latchDailyLoss_cases cfg g nowNs with h' | h' | h' <;> rw [h']
  · exact h
  · exact h
  · rfl

theorem bookFill_tradingEnabled_of_false (h : g.riskChecker.tradingEnabled = false)
    (event : ExecEvent) : (g.bookFill cfg event).riskChecker.tradingEnabled = false := by
  unfold bookFill
  split
  · refine latchDailyLoss_tradingEnabled_of_false ?_ _
    exact h
  · exact h

theorem onExecEvent_tradingEnabled (event : ExecEvent) :
    (g.onExecEvent cfg event).riskChecker.tradingEnabled =
      ((g.recordOutcome cfg event).bookFill cfg event).riskChecker.tradingEnabled := by
  simp only [onExecEvent]
  split <;> rfl

theorem onExecEvent_tradingEnabled_of_false (h : g.riskChecker.tradingEnabled = false)
    (event : ExecEvent) : (g.onExecEvent cfg event).riskChecker.tradingEnabled = false := by
  rw [onExecEvent_tradingEnabled]
  exact bookFill_tradingEnabled_of_false (recordOutcome_tradingEnabled_of_false h event) event

variable (g) in
/-- A gate whose breaker or daily-loss latch has fired has trading turned off. -/
structure Latched : Prop where
  breaker : g.rejectRateBreaker.tripped = true → g.riskChecker.tradingEnabled = false
  dailyLoss : g.dailyLossLatched = true → g.riskChecker.tradingEnabled = false

/-- The breaker's share keeps the latches: a trip that is new turns trading off, one that is not
finds it off. -/
theorem Latched.recordOutcome (h : g.Latched) (event : ExecEvent) :
    (g.recordOutcome cfg event).Latched := by
  simp only [PreTradeRiskGate.recordOutcome]
  split
  · exact ⟨fun _ => rfl, fun _ => rfl⟩
  · next hnew =>
    refine ⟨fun htripped => ?_, h.dailyLoss⟩
    cases hold : g.rejectRateBreaker.tripped with
    | true => exact h.breaker hold
    | false => exact absurd (by rw [hold]; exact htripped) hnew

theorem Latched.latchDailyLoss (h : g.Latched) (nowNs : Nat) :
    (g.latchDailyLoss cfg nowNs).Latched := by
  rcases latchDailyLoss_cases cfg g nowNs with h' | h' | h' <;> rw [h']
  · exact h
  · exact ⟨h.breaker, h.dailyLoss⟩
  · exact ⟨fun _ => rfl, fun _ => rfl⟩

theorem Latched.onExecEvent (h : g.Latched) (event : ExecEvent) :
    (g.onExecEvent cfg event).Latched := by
  have hrec : (g.recordOutcome cfg event).Latched := h.recordOutcome event
  have hbook : ((g.recordOutcome cfg event).bookFill cfg event).Latched := by
    unfold bookFill
    split
    · refine Latched.latchDailyLoss ?_ _
      exact ⟨hrec.breaker, hrec.dailyLoss⟩
    · exact hrec
  simp only [PreTradeRiskGate.onExecEvent]
  split
  · exact ⟨hbook.breaker, hbook.dailyLoss⟩
  · exact hbook

end PreTradeRiskGate

end BptCore.OrderGateway
