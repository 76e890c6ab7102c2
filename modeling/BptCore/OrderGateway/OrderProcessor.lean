import BptCore.Lib.Machine
import BptCore.OrderGateway.Risk.PreTradeRiskGate

/-!
# The order processor

`OrderProcessor` routes inbound requests to the venue adapters and exchange events to the
strategies. Its state is the risk gate and the map of held orders; everything else it reads,
the clocks and the connection of an adapter, comes with the event.

* **`step`** — one event: the state after it and its `Effect`s, the reports published and the
  adapter calls made, in order.
* **`onNewOrder_spec`**, **`onExecEvent_get`** — what the two state-changing handlers do.
* **`Emits`** — everything a step can do to the outside, and when.
* **`HeldWell`** — the invariant of every run: a held order is open, is held under its own id,
  and belongs to a registered venue.
-/

namespace BptCore.OrderGateway

/-- What the processor is built with. No adapter is ever built for the wildcard exchange. -/
structure ProcessorSettings where
  risk : RiskSettings
  tradingEnabled : Bool := true
  adapters : List ExchangeId
  all_notMem : ExchangeId.ALL ∉ adapters

structure OrderProcessor where
  riskGate : PreTradeRiskGate := {}
  stateMgr : OrderStateManager := {}

/-- What a step does to the outside. -/
inductive Effect where
  | publish (report : ExecReport)
  | call (adapter : ExchangeId) (call : AdapterCall)
  deriving DecidableEq, Repr

/-- An event of the poll loop, with the readings of clock and adapter its handler makes. -/
inductive ProcessorEvent where
  | newOrder (order : NewOrderEvent) (nowNs nowS : Nat) (status : AdapterStatus)
  | execEvent (event : ExecEvent) (nowNs : Nat)
  | cancel (cancel : CancelOrderEvent)
  | cancelAll (cancelAll : CancelAllEvent)
  | modify (modify : ModifyOrderEvent)
  | checkStaleOrders (staleTimeoutNs nowNs : Nat)
  deriving DecidableEq, Repr

/-- `exec_status_to_lifecycle`. -/
def execStatusToLifecycle : ExecStatus → OrderLifecycle
  | .ACKED => .ACKED
  | .PARTIAL => .PARTIALLY_FILLED
  | .FILLED => .FILLED
  | .CANCELLED => .CANCELLED
  | .REJECTED => .REJECTED

namespace OrderProcessor

variable (cfg : ProcessorSettings) (p : OrderProcessor)

/-- The processor at start-up: no order, no slot taken, no fill booked. -/
def init : OrderProcessor :=
  { riskGate := { riskChecker := { tradingEnabled := cfg.tradingEnabled } } }

/-- `find_adapter`: the registered adapter of the exchange. -/
def findAdapter (id : ExchangeId) : Option ExchangeId :=
  if id ∈ cfg.adapters then some id else none

def onExecEvent (event : ExecEvent) (nowNs : Nat) : OrderProcessor × List Effect :=
  let newLc := execStatusToLifecycle event.status
  let stateMgr := p.stateMgr.update event.orderId newLc event.exchangeOrderId event.filledQty
    event.remainingQty nowNs
  let riskGate := p.riskGate.onExecEvent cfg.risk event
  -- the gate and the report do not ask whether the order is held
  let terminal := newLc == .FILLED || newLc == .CANCELLED || newLc == .REJECTED
  ({ riskGate := riskGate
     stateMgr := if terminal then stateMgr.remove event.orderId else stateMgr },
   [.publish event.toReport])

def onNewOrder (order : NewOrderEvent) (nowNs nowS : Nat) (status : AdapterStatus) :
    OrderProcessor × List Effect :=
  match p.riskGate.evaluate cfg.risk order nowS with
  | (riskGate, some reason) =>
    ({ p with riskGate := riskGate }, [.publish (order.toRejectReport reason nowNs)])
  | (riskGate, none) =>
    match findAdapter cfg order.exchangeId with
    | some adapter =>
      -- the slot claimed by the gate goes back when the order cannot be sent
      if !status.isConnected || status.isHalted then
        ({ p with riskGate := riskGate.releaseSlot order.exchangeId },
          [.publish (order.toRejectReport .EXCHANGE_ERROR nowNs)])
      else
        ({ riskGate := riskGate, stateMgr := p.stateMgr.insert (order.toOrderState nowNs) },
          [.call adapter (.sendNewOrder order)])
    | none =>
      ({ p with riskGate := riskGate.releaseSlot order.exchangeId },
        [.publish (order.toRejectReport .EXCHANGE_ERROR nowNs)])

def onCancel (cancel : CancelOrderEvent) : OrderProcessor × List Effect :=
  match findAdapter cfg cancel.exchangeId, p.stateMgr.get cancel.orderId with
  | some adapter, some st => (p, [.call adapter (.sendCancel cancel st.exchangeSymbol)])
  | _, _ => (p, [])

/-- The kill switch asks the adapter of every open order to cancel all of its instrument. -/
def onCancelAll (cancelAll : CancelAllEvent) : OrderProcessor × List Effect :=
  if cancelAll.exchangeId = .ALL then
    ({ p with riskGate := p.riskGate.disableTrading },
      p.stateMgr.openOrders.filterMap fun st =>
        (findAdapter cfg st.exchangeId).map fun adapter =>
          .call adapter (.sendCancelAll st.instrumentId))
  else
    match findAdapter cfg cancelAll.exchangeId with
    | some adapter => (p, [.call adapter (.sendCancelAll cancelAll.instrumentId)])
    | none => (p, [])

def onModify (modify : ModifyOrderEvent) : OrderProcessor × List Effect :=
  match findAdapter cfg modify.exchangeId, p.stateMgr.get modify.orderId with
  | some adapter, some st => (p, [.call adapter (.sendModify modify st.exchangeSymbol)])
  | _, _ => (p, [])

/-- Slots and reports while the map is gone through, removals afterwards. -/
def checkStaleOrders (staleTimeoutNs nowNs : Nat) : OrderProcessor × List Effect :=
  let stale := p.stateMgr.staleOrders nowNs staleTimeoutNs
  ({ riskGate := stale.foldl (fun g st => g.releaseSlot st.exchangeId) p.riskGate
     stateMgr := p.stateMgr.removeAll (stale.map OrderState.orderId) },
   stale.map fun st => .publish (st.toCancelReport nowNs))

def step (p : OrderProcessor) : ProcessorEvent → OrderProcessor × List Effect
  | .newOrder order nowNs nowS status => p.onNewOrder cfg order nowNs nowS status
  | .execEvent event nowNs => p.onExecEvent cfg event nowNs
  | .cancel cancel => p.onCancel cfg cancel
  | .cancelAll cancelAll => p.onCancelAll cfg cancelAll
  | .modify modify => p.onModify cfg modify
  | .checkStaleOrders staleTimeoutNs nowNs => p.checkStaleOrders staleTimeoutNs nowNs

/-! ## What a new order can do -/

/-- The order passes the gate and its adapter is up: it is held and sent. -/
def Routes (order : NewOrderEvent) (nowS : Nat) (status : AdapterStatus) : Prop :=
  (p.riskGate.evaluate cfg.risk order nowS).2 = none ∧ order.exchangeId ∈ cfg.adapters ∧
    status.isConnected = true ∧ status.isHalted = false

instance (order : NewOrderEvent) (nowS : Nat) (status : AdapterStatus) :
    Decidable (p.Routes cfg order nowS status) := by
  unfold Routes
  infer_instance

/-- A new order that was routed, from `p`, with the gate's verdict spelled out. -/
structure Routed (order : NewOrderEvent) (nowNs : Nat) (out : OrderProcessor × List Effect) :
    Prop where
  registered : order.exchangeId ∈ cfg.adapters
  position : p.riskGate.PositionOk cfg.risk order
  accepted : RiskChecker.Accepted cfg.risk.limits p.riskGate.riskChecker order.exchangeId
    order.price order.quantity order.orderId out.1.riskGate.riskChecker
  gate : out.1.riskGate = { p.riskGate with riskChecker := out.1.riskGate.riskChecker }
  held : out.1.stateMgr = p.stateMgr.insert (order.toOrderState nowNs)
  sent : out.2 = [.call order.exchangeId (.sendNewOrder order)]

/-- A new order that was turned away, by the gate or for want of an adapter. -/
structure TurnedAway (order : NewOrderEvent) (nowNs : Nat) (out : OrderProcessor × List Effect) :
    Prop where
  switch : out.1.riskGate.riskChecker.tradingEnabled = p.riskGate.riskChecker.tradingEnabled
  slots : out.1.riskGate.riskChecker.openOrders = p.riskGate.riskChecker.openOrders
  gate : out.1.riskGate = { p.riskGate with riskChecker := out.1.riskGate.riskChecker }
  held : out.1.stateMgr = p.stateMgr
  sent : ∃ reason, out.2 = [.publish (order.toRejectReport reason nowNs)]

/-- **The two outcomes of a new order.** -/
theorem onNewOrder_spec (order : NewOrderEvent) (nowNs nowS : Nat) (status : AdapterStatus) :
    (p.Routes cfg order nowS status ∧
        p.Routed cfg order nowNs (p.onNewOrder cfg order nowNs nowS status)) ∨
      (¬ p.Routes cfg order nowS status ∧
        p.TurnedAway order nowNs (p.onNewOrder cfg order nowNs nowS status)) := by
  obtain ⟨hgate, hverdict⟩ := p.riskGate.evaluate_spec cfg.risk order nowS
  unfold onNewOrder Routes
  revert hgate hverdict
  generalize p.riskGate.evaluate cfg.risk order nowS = out
  obtain ⟨g, verdict⟩ := out
  intro hgate hverdict
  cases verdict with
  | some reason =>
    -- refused by the gate
    rcases hverdict with ⟨hnone, -⟩ | ⟨-, hswitch, hslots⟩
    · cases hnone
    · exact .inr ⟨by simp, hswitch, hslots, hgate, rfl, _, rfl⟩
  | none =>
    rcases hverdict with ⟨-, hpos, hacc⟩ | ⟨⟨_, hsome⟩, -⟩
    · -- accepted: what is left is the adapter
      have haway : ∀ sent, (∃ reason, sent = [.publish (order.toRejectReport reason nowNs)]) →
          p.TurnedAway order nowNs
            ({ p with riskGate := g.releaseSlot order.exchangeId }, sent) := fun sent hsent =>
        { switch := hacc.stillEnabled
          slots := hacc.openOrders_onOrderClosed
          gate := congrArg (PreTradeRiskGate.releaseSlot · order.exchangeId) hgate
          held := rfl
          sent := hsent }
      simp only [findAdapter]
      by_cases hreg : order.exchangeId ∈ cfg.adapters
      · simp only [if_pos hreg]
        have hup : (!status.isConnected || status.isHalted) = true ↔
            ¬ (status.isConnected = true ∧ status.isHalted = false) := by
          cases status.isConnected <;> cases status.isHalted <;> decide
        by_cases hdown : (!status.isConnected || status.isHalted) = true
        · rw [if_pos hdown]
          exact .inr ⟨fun h => hup.mp hdown h.2.2, haway _ ⟨_, rfl⟩⟩
        · rw [if_neg hdown]
          have hroutes := not_not.mp (mt hup.mpr hdown)
          exact .inl ⟨⟨trivial, hreg, hroutes⟩, hreg, hpos, hacc, hgate, rfl, rfl⟩
      · simp only [if_neg hreg]
        exact .inr ⟨by simp [hreg], haway _ ⟨_, rfl⟩⟩
    · cases hsome

/-! ## Requests on held orders leave the state alone -/

theorem onCancel_fst (cancel : CancelOrderEvent) : (p.onCancel cfg cancel).1 = p := by
  unfold onCancel
  split <;> rfl

theorem onModify_fst (modify : ModifyOrderEvent) : (p.onModify cfg modify).1 = p := by
  unfold onModify
  split <;> rfl

theorem onCancelAll_fst (cancelAll : CancelAllEvent) :
    (p.onCancelAll cfg cancelAll).1 =
      if cancelAll.exchangeId = .ALL then { p with riskGate := p.riskGate.disableTrading }
      else p := by
  unfold onCancelAll
  split
  · rfl
  · split <;> rfl

/-! ## What an exchange event leaves of its order -/

theorem execStatusToLifecycle_isOpen (status : ExecStatus) :
    (execStatusToLifecycle status).isOpen = !status.terminal := by
  cases status <;> rfl

theorem onExecEvent_stateMgr (event : ExecEvent) (nowNs : Nat) :
    (p.onExecEvent cfg event nowNs).1.stateMgr =
      let m := p.stateMgr.update event.orderId (execStatusToLifecycle event.status)
        event.exchangeOrderId event.filledQty event.remainingQty nowNs
      if event.status.terminal then m.remove event.orderId else m := by
  unfold onExecEvent
  cases event.status <;> rfl

/-- A terminal event takes its order out of the map; another one leaves it there, updated. -/
theorem onExecEvent_get (event : ExecEvent) (nowNs id : Nat) :
    (p.onExecEvent cfg event nowNs).1.stateMgr.get id =
      if id = event.orderId then
        if event.status.terminal then none
        else (p.stateMgr.get id).map fun st =>
          OrderStateManager.updated st (execStatusToLifecycle event.status)
            event.exchangeOrderId event.filledQty event.remainingQty nowNs
      else p.stateMgr.get id := by
  rw [onExecEvent_stateMgr]
  by_cases hid : id = event.orderId
  · subst hid
    split <;> simp [OrderStateManager.get_remove, OrderStateManager.get_update, *]
  · split <;> simp [OrderStateManager.get_remove, OrderStateManager.get_update, hid]

/-! ## What a step can do to the outside -/

theorem findAdapter_eq_some {id adapter : ExchangeId} :
    findAdapter cfg id = some adapter ↔ id ∈ cfg.adapters ∧ id = adapter := by
  unfold findAdapter
  split <;> simp [*]

/-- The effects of a step on the event, one rule for each kind. An order reaches an adapter by
passing the gate; a modify does so by being of a held order. -/
inductive Emits : ProcessorEvent → Effect → Prop
  | publish (e : ProcessorEvent) (report : ExecReport) : Emits e (.publish report)
  | sendNewOrder (order : NewOrderEvent) (nowNs nowS : Nat) (status : AdapterStatus)
      (routes : p.Routes cfg order nowS status)
      (routed : p.Routed cfg order nowNs (p.onNewOrder cfg order nowNs nowS status)) :
      Emits (.newOrder order nowNs nowS status) (.call order.exchangeId (.sendNewOrder order))
  | sendCancel (cancel : CancelOrderEvent) (st : OrderState) :
      Emits (.cancel cancel) (.call cancel.exchangeId (.sendCancel cancel st.exchangeSymbol))
  | sendCancelAll (cancelAll : CancelAllEvent) (adapter : ExchangeId) (instrumentId : Nat)
      (registered : adapter ∈ cfg.adapters) :
      Emits (.cancelAll cancelAll) (.call adapter (.sendCancelAll instrumentId))
  | sendModify (modify : ModifyOrderEvent) (st : OrderState)
      (registered : modify.exchangeId ∈ cfg.adapters)
      (held : p.stateMgr.get modify.orderId = some st) :
      Emits (.modify modify) (.call modify.exchangeId (.sendModify modify st.exchangeSymbol))

theorem emits_of_mem {e : ProcessorEvent} {eff : Effect} (h : eff ∈ (p.step cfg e).2) :
    p.Emits cfg e eff := by
  cases e with
  | newOrder order nowNs nowS status =>
    rcases p.onNewOrder_spec cfg order nowNs nowS status with ⟨hroutes, hrouted⟩ | ⟨-, haway⟩
    · rw [step, hrouted.sent, List.mem_singleton] at h
      rw [h]
      exact .sendNewOrder order nowNs nowS status hroutes hrouted
    · obtain ⟨reason, hsent⟩ := haway.sent
      rw [step, hsent, List.mem_singleton] at h
      rw [h]
      exact .publish _ _
  | execEvent event nowNs =>
    rw [List.mem_singleton.mp h]
    exact .publish _ _
  | checkStaleOrders staleTimeoutNs nowNs =>
    obtain ⟨st, -, rfl⟩ := List.mem_map.mp h
    exact .publish _ _
  | cancel cancel =>
    simp only [step, onCancel] at h
    split at h
    · next adapter st hfind _ =>
      obtain ⟨-, rfl⟩ := (findAdapter_eq_some cfg).mp hfind
      rw [List.mem_singleton.mp h]
      exact .sendCancel cancel st
    · cases h
  | cancelAll cancelAll =>
    simp only [step, onCancelAll] at h
    split at h
    · obtain ⟨st, -, hst⟩ := List.mem_filterMap.mp h
      obtain ⟨adapter, hfind, rfl⟩ := Option.map_eq_some_iff.mp hst
      obtain ⟨hreg, rfl⟩ := (findAdapter_eq_some cfg).mp hfind
      exact .sendCancelAll cancelAll _ _ hreg
    · split at h
      · next adapter hfind =>
        obtain ⟨hreg, rfl⟩ := (findAdapter_eq_some cfg).mp hfind
        rw [List.mem_singleton.mp h]
        exact .sendCancelAll cancelAll _ _ hreg
      · cases h
  | modify modify =>
    simp only [step, onModify] at h
    split at h
    · next adapter st hfind hget =>
      obtain ⟨hreg, rfl⟩ := (findAdapter_eq_some cfg).mp hfind
      rw [List.mem_singleton.mp h]
      exact .sendModify modify st hreg hget
    · cases h

/-- A modify of a held order is always passed on. -/
theorem sendModify_mem {modify : ModifyOrderEvent} {st : OrderState}
    (hreg : modify.exchangeId ∈ cfg.adapters)
    (hget : p.stateMgr.get modify.orderId = some st) :
    .call modify.exchangeId (.sendModify modify st.exchangeSymbol) ∈
      (p.step cfg (.modify modify)).2 := by
  simp [step, onModify, findAdapter, hreg, hget]

/-! ## The invariant of the held orders -/

/-- Every held order is open, under its own id, on a registered venue. -/
structure HeldWell : Prop where
  key : ∀ id st, p.stateMgr.get id = some st → st.orderId = id
  isOpen : ∀ id st, p.stateMgr.get id = some st → st.lifecycle.isOpen = true
  venue : ∀ id st, p.stateMgr.get id = some st → st.exchangeId ∈ cfg.adapters

theorem init_heldWell : (init cfg).HeldWell cfg where
  key id st h := by simp [init, OrderStateManager.get] at h
  isOpen id st h := by simp [init, OrderStateManager.get] at h
  venue id st h := by simp [init, OrderStateManager.get] at h

variable {cfg p}

/-- The invariant speaks of the held orders only; fewer of them are held well too. -/
theorem HeldWell.of_subset {q : OrderProcessor} (h : p.HeldWell cfg)
    (hsub : ∀ id st, q.stateMgr.get id = some st → p.stateMgr.get id = some st) :
    q.HeldWell cfg where
  key id st hq := h.key id st (hsub id st hq)
  isOpen id st hq := h.isOpen id st (hsub id st hq)
  venue id st hq := h.venue id st (hsub id st hq)

theorem HeldWell.onNewOrder (h : p.HeldWell cfg) (order : NewOrderEvent) (nowNs nowS : Nat)
    (status : AdapterStatus) : (p.onNewOrder cfg order nowNs nowS status).1.HeldWell cfg := by
  rcases p.onNewOrder_spec cfg order nowNs nowS status with ⟨-, hrouted⟩ | ⟨-, haway⟩
  · -- what is held afterwards is the new order or was held before
    have hget : ∀ id st, (p.onNewOrder cfg order nowNs nowS status).1.stateMgr.get id = some st →
        (st = order.toOrderState nowNs ∧ id = order.orderId) ∨ p.stateMgr.get id = some st := by
      intro id st hst
      rw [hrouted.held, OrderStateManager.get_insert] at hst
      split at hst
      · next hnew => exact .inl ⟨(Option.some.inj hst).symm, hnew.1⟩
      · exact .inr hst
    constructor
    · intro id st hst
      rcases hget id st hst with ⟨rfl, rfl⟩ | hst
      · rfl
      · exact h.key id st hst
    · intro id st hst
      rcases hget id st hst with ⟨rfl, rfl⟩ | hst
      · rfl
      · exact h.isOpen id st hst
    · intro id st hst
      rcases hget id st hst with ⟨rfl, rfl⟩ | hst
      · exact hrouted.registered
      · exact h.venue id st hst
  · exact h.of_subset fun id st hst => by rwa [haway.held] at hst

theorem HeldWell.onExecEvent (h : p.HeldWell cfg) (event : ExecEvent) (nowNs : Nat) :
    (p.onExecEvent cfg event nowNs).1.HeldWell cfg := by
  -- what is held afterwards was held before, up to the update of a non-terminal event
  have hget : ∀ id st, (p.onExecEvent cfg event nowNs).1.stateMgr.get id = some st →
      ∃ st₀, p.stateMgr.get id = some st₀ ∧ st.orderId = st₀.orderId ∧
        st.exchangeId = st₀.exchangeId ∧ st.lifecycle.isOpen = true := by
    intro id st hst
    rw [onExecEvent_get] at hst
    split at hst
    · split at hst
      · cases hst
      · next hterm =>
        obtain ⟨st₀, hst₀, rfl⟩ := Option.map_eq_some_iff.mp hst
        refine ⟨st₀, hst₀, rfl, rfl, ?_⟩
        rw [OrderStateManager.updated, execStatusToLifecycle_isOpen]
        simpa using hterm
    · exact ⟨st, hst, rfl, rfl, h.isOpen id st hst⟩
  constructor
  · intro id st hst
    obtain ⟨st₀, hst₀, hkey, -, -⟩ := hget id st hst
    rw [hkey, h.key id st₀ hst₀]
  · intro id st hst
    obtain ⟨-, -, -, -, hopen⟩ := hget id st hst
    exact hopen
  · intro id st hst
    obtain ⟨st₀, hst₀, -, hvenue, -⟩ := hget id st hst
    rw [hvenue]
    exact h.venue id st₀ hst₀

theorem HeldWell.checkStaleOrders (h : p.HeldWell cfg) (staleTimeoutNs nowNs : Nat) :
    (p.checkStaleOrders staleTimeoutNs nowNs).1.HeldWell cfg :=
  h.of_subset fun _ _ hst => p.stateMgr.get_of_get_removeAll hst

/-- **Every step keeps the held orders well.** -/
theorem HeldWell.step (h : p.HeldWell cfg) (e : ProcessorEvent) :
    (p.step cfg e).1.HeldWell cfg := by
  cases e with
  | newOrder order nowNs nowS status => exact h.onNewOrder order nowNs nowS status
  | execEvent event nowNs => exact h.onExecEvent event nowNs
  | checkStaleOrders staleTimeoutNs nowNs => exact h.checkStaleOrders staleTimeoutNs nowNs
  | cancel cancel =>
    rw [OrderProcessor.step, onCancel_fst]
    exact h
  | cancelAll cancelAll =>
    rw [OrderProcessor.step, onCancelAll_fst]
    split
    · exact h.of_subset fun _ _ hst => hst
    · exact h
  | modify modify =>
    rw [OrderProcessor.step, onModify_fst]
    exact h

end OrderProcessor

end BptCore.OrderGateway
