import BptCore.OrderGateway.OrderProcessor

/-!
# Open-order slots against open orders

`RiskChecker` bounds the open orders of a venue by a counter of slots. The counter and the map
of held orders are written by different objects: a slot is claimed by the pre-trade check,
given back by the gate on every terminal exchange event, by the processor when an order cannot
be routed, and by the stale check. This module settles when the two agree.

* **`SlotsExact`** — every registered venue's counter is its number of open held orders.
* **`SlotSafe`** — the condition on an event under which a step keeps the agreement: a
  terminal exchange event finds its order held under the exchange it names, or finds no open
  order of the slot it gives back; a routed order does not reuse the id of a held one.
* **`SlotsExact.step_iff`** — the step lemma: from an exact state, exactly the safe events lead
  to an exact state.
* **`slots_exact_iff_safe`** — the run-level result.
-/

namespace BptCore.OrderGateway

open Machine

namespace OrderProcessor

variable (cfg : ProcessorSettings) (p : OrderProcessor)

/-- The slot counter of every registered venue is the number of its open orders. -/
def SlotsExact : Prop :=
  ∀ v ∈ cfg.adapters,
    p.riskGate.riskChecker.openOrders (venueIdx v) = p.stateMgr.openOrderCount v

/-- The venues' open orders are within the limit. -/
def OpenOrdersBounded : Prop :=
  ∀ v ∈ cfg.adapters, p.stateMgr.openOrderCount v ≤ cfg.risk.limits.maxOpenOrdersPerVenue

instance : Decidable (p.SlotsExact cfg) := by
  unfold SlotsExact
  infer_instance

instance : Decidable (p.OpenOrdersBounded cfg) := by
  unfold OpenOrdersBounded
  infer_instance

/-- The events that cannot unbalance the slots of `p`. -/
def SlotSafe : ProcessorEvent → Prop
  | .newOrder order _ nowS status =>
    p.Routes cfg order nowS status → p.stateMgr.get order.orderId = none
  | .execEvent event _ =>
    event.status.terminal = true →
      match p.stateMgr.get event.orderId with
      | some st => venueIdx st.exchangeId = venueIdx event.exchangeId
      | none => ∀ v ∈ cfg.adapters, venueIdx v = venueIdx event.exchangeId →
          p.stateMgr.openOrderCount v = 0
  | .cancel _ | .cancelAll _ | .modify _ | .checkStaleOrders _ _ => True

variable {cfg p}

/-! ## The slots of the registered venues are their own -/

theorem venueIdx_eq_iff {v w : ExchangeId} (hv : v ∈ cfg.adapters) (hw : w ∈ cfg.adapters) :
    venueIdx v = venueIdx w ↔ v = w := by
  constructor
  · exact venueIdx_injOn (fun h => cfg.all_notMem (h ▸ hv)) (fun h => cfg.all_notMem (h ▸ hw))
  · exact congrArg venueIdx

/-! ## One event at a time -/

theorem onExecEvent_openOrderCount_of_none {event : ExecEvent}
    (hget : p.stateMgr.get event.orderId = none) (nowNs : Nat) (v : ExchangeId) :
    (p.onExecEvent cfg event nowNs).1.stateMgr.openOrderCount v =
      p.stateMgr.openOrderCount v := by
  simp only [onExecEvent_stateMgr, p.stateMgr.update_of_get_eq_none hget]
  split
  · rw [p.stateMgr.remove_of_get_eq_none hget]
  · rfl

/-- A terminal event on a held order takes one off the count of its venue. -/
theorem onExecEvent_openOrderCount_of_terminal {event : ExecEvent} {st : OrderState}
    (hheld : p.HeldWell cfg) (hget : p.stateMgr.get event.orderId = some st)
    (hterm : event.status.terminal = true) (nowNs : Nat) (v : ExchangeId) :
    p.stateMgr.openOrderCount v =
      (p.onExecEvent cfg event nowNs).1.stateMgr.openOrderCount v +
        if st.exchangeId = v then 1 else 0 := by
  simp only [onExecEvent_stateMgr, if_pos hterm]
  rw [p.stateMgr.openOrderCount_remove_update hget]
  exact p.stateMgr.openOrderCount_remove hget (hheld.isOpen _ _ hget) v

theorem onExecEvent_openOrderCount_of_not_terminal {event : ExecEvent}
    (hheld : p.HeldWell cfg) (hterm : ¬ event.status.terminal = true) (nowNs : Nat)
    (v : ExchangeId) :
    (p.onExecEvent cfg event nowNs).1.stateMgr.openOrderCount v =
      p.stateMgr.openOrderCount v := by
  cases hget : p.stateMgr.get event.orderId with
  | none => exact onExecEvent_openOrderCount_of_none hget nowNs v
  | some st =>
    simp only [onExecEvent_stateMgr, if_neg hterm]
    refine p.stateMgr.openOrderCount_update hget ?_ _ _ _ _ v
    rw [execStatusToLifecycle_isOpen, hheld.isOpen _ _ hget]
    simpa using hterm

/-- **The exchange event.** A terminal event keeps the slots exact when it finds its order held
in the slot it gives back, or finds no open order of that slot; no other way. -/
theorem SlotsExact.onExecEvent_iff (hheld : p.HeldWell cfg) (h : p.SlotsExact cfg)
    (event : ExecEvent) (nowNs : Nat) :
    (p.onExecEvent cfg event nowNs).1.SlotsExact cfg ↔
      p.SlotSafe cfg (.execEvent event nowNs) := by
  have hslots : ∀ v, (p.onExecEvent cfg event nowNs).1.riskGate.riskChecker.openOrders
      (venueIdx v) = if event.status.terminal ∧ venueIdx v = venueIdx event.exchangeId
        then p.riskGate.riskChecker.openOrders (venueIdx v) - 1
        else p.riskGate.riskChecker.openOrders (venueIdx v) :=
    fun v => p.riskGate.onExecEvent_openOrders cfg.risk event (venueIdx v)
  by_cases hterm : event.status.terminal = true
  · simp only [SlotSafe, hterm, forall_const]
    cases hget : p.stateMgr.get event.orderId with
    | none =>
      -- nothing leaves the map: the slot given back must have been free of open orders
      constructor
      · intro hafter v hv hidx
        have hv' := hafter v hv
        rw [hslots, if_pos ⟨hterm, hidx⟩, h v hv,
          onExecEvent_openOrderCount_of_none hget] at hv'
        omega
      · intro hsafe v hv
        rw [hslots, onExecEvent_openOrderCount_of_none hget, h v hv]
        split
        · next hidx => rw [hsafe v hv hidx.2]
        · rfl
    | some st =>
      have hst : st.exchangeId ∈ cfg.adapters := hheld.venue _ _ hget
      have hcount := onExecEvent_openOrderCount_of_terminal hheld hget hterm nowNs
      constructor
      · -- the venue of the order lost an open order, so its slot must be the one given back
        intro hafter
        by_contra hidx
        have hv' := hafter _ hst
        have hc := hcount st.exchangeId
        rw [if_pos rfl, ← h _ hst] at hc
        rw [hslots, if_neg (fun hboth => hidx hboth.2)] at hv'
        omega
      · intro hidx v hv
        have hc := hcount v
        have hown := venueIdx_eq_iff hv hst
        rw [hidx] at hown
        rw [hslots, h v hv]
        by_cases hvst : v = st.exchangeId
        · rw [if_pos hvst.symm] at hc
          rw [if_pos ⟨hterm, hown.mpr hvst⟩]
          omega
        · rw [if_neg (Ne.symm hvst)] at hc
          rw [if_neg (fun hboth => hvst (hown.mp hboth.2))]
          omega
  · -- a non-terminal event moves neither side
    refine iff_of_true (fun v hv => ?_) (fun hterm' => absurd hterm' hterm)
    rw [hslots, if_neg (fun hboth => hterm hboth.1),
      onExecEvent_openOrderCount_of_not_terminal hheld hterm, h v hv]

/-- **The new order.** A routed order keeps the slots exact when its id is not held; an order
turned away always does. -/
theorem SlotsExact.onNewOrder_iff (h : p.SlotsExact cfg) (order : NewOrderEvent)
    (nowNs nowS : Nat) (status : AdapterStatus) :
    (p.onNewOrder cfg order nowNs nowS status).1.SlotsExact cfg ↔
      p.SlotSafe cfg (.newOrder order nowNs nowS status) := by
  rcases p.onNewOrder_spec cfg order nowNs nowS status with ⟨hroutes, hrouted⟩ | ⟨hno, haway⟩
  · simp only [SlotSafe, hroutes, forall_const]
    have hslot : ∀ v ∈ cfg.adapters,
        (p.onNewOrder cfg order nowNs nowS status).1.riskGate.riskChecker.openOrders
          (venueIdx v) =
        p.stateMgr.openOrderCount v + if order.exchangeId = v then 1 else 0 := by
      intro v hv
      have hown := venueIdx_eq_iff hv hrouted.registered
      rw [hrouted.accepted.slots, ← h v hv]
      by_cases hvo : v = order.exchangeId
      · rw [hvo, Function.update_self, if_pos rfl]
      · rw [Function.update_of_ne (mt hown.mp hvo), if_neg (Ne.symm hvo), Nat.add_zero]
    cases hget : p.stateMgr.get order.orderId with
    | none =>
      refine iff_of_true (fun v hv => ?_) rfl
      rw [hslot v hv, hrouted.held]
      have hnew : (order.toOrderState nowNs).lifecycle.isOpen = true := rfl
      exact (p.stateMgr.openOrderCount_insert_of_notMem hget hnew v).symm
    | some held =>
      -- the slot is claimed, but the map keeps the order that holds the id
      refine iff_of_false (fun hafter => ?_) (by simp)
      have hv := hafter _ hrouted.registered
      rw [hslot _ hrouted.registered, if_pos rfl, hrouted.held,
        p.stateMgr.insert_of_mem hget] at hv
      omega
  · refine iff_of_true (fun v hv => ?_) (fun hroutes => absurd hroutes hno)
    rw [haway.slots, haway.held]
    exact h v hv

/-! ## The stale check

The check gives back the slots of all stale orders and then removes them; the two passes have
the effect of giving back and removing one order at a time, which keeps the slots exact. -/

/-- Giving back the slot of a held order and removing the order keeps the slots exact. -/
theorem SlotsExact.releaseSlot_remove (h : p.SlotsExact cfg) {st : OrderState}
    (hget : p.stateMgr.get st.orderId = some st) (hopen : st.lifecycle.isOpen = true)
    (hvenue : st.exchangeId ∈ cfg.adapters) :
    SlotsExact cfg { riskGate := p.riskGate.releaseSlot st.exchangeId
                     stateMgr := p.stateMgr.remove st.orderId } := by
  intro v hv
  have hc := p.stateMgr.openOrderCount_remove hget hopen v
  have hown := venueIdx_eq_iff hv hvenue
  simp only [PreTradeRiskGate.releaseSlot, RiskChecker.onOrderClosed_openOrders, h v hv]
  by_cases hvst : v = st.exchangeId
  · rw [if_pos hvst.symm] at hc
    rw [if_pos (hown.mpr hvst)]
    omega
  · rw [if_neg (Ne.symm hvst)] at hc
    rw [if_neg (mt hown.mp hvst)]
    omega

/-- The two passes of the stale check over any list of distinct held orders. -/
theorem SlotsExact.releaseAll (l : List OrderState) (h : p.SlotsExact cfg)
    (hget : ∀ st ∈ l, p.stateMgr.get st.orderId = some st)
    (hopen : ∀ st ∈ l, st.lifecycle.isOpen = true)
    (hvenue : ∀ st ∈ l, st.exchangeId ∈ cfg.adapters)
    (hnodup : (l.map OrderState.orderId).Nodup) :
    SlotsExact cfg
      { riskGate := l.foldl (fun g st => g.releaseSlot st.exchangeId) p.riskGate
        stateMgr := p.stateMgr.removeAll (l.map OrderState.orderId) } := by
  induction l generalizing p with
  | nil => exact h
  | cons st l ih =>
    simp only [List.map_cons, List.nodup_cons, List.mem_map, not_exists, not_and] at hnodup
    have hone := h.releaseSlot_remove (hget st List.mem_cons_self)
      (hopen st List.mem_cons_self) (hvenue st List.mem_cons_self)
    refine ih hone (fun st' hst' => ?_) (fun st' hst' => hopen st' (List.mem_cons_of_mem _ hst'))
      (fun st' hst' => hvenue st' (List.mem_cons_of_mem _ hst')) hnodup.2
    -- the other stale orders are under other ids and still held
    rw [OrderStateManager.get_remove, if_neg (hnodup.1 st' hst')]
    exact hget st' (List.mem_cons_of_mem _ hst')

theorem SlotsExact.checkStaleOrders (hheld : p.HeldWell cfg) (h : p.SlotsExact cfg)
    (staleTimeoutNs nowNs : Nat) :
    (p.checkStaleOrders staleTimeoutNs nowNs).1.SlotsExact cfg := by
  -- a stale order is held, under its own id
  have hfind : ∀ st ∈ p.stateMgr.staleOrders nowNs staleTimeoutNs,
      p.stateMgr.get st.orderId = some st := by
    intro st hst
    obtain ⟨id, hid⟩ := Table.mem_vals_iff.mp (List.mem_of_mem_filter hst)
    rw [hheld.key id st hid]
    exact hid
  have hids : ((Table.vals p.stateMgr.orders).map OrderState.orderId).Nodup := by
    rw [Table.map_vals_eq_keys hheld.key]
    exact p.stateMgr.orders.keys_nodup
  exact h.releaseAll _ hfind (fun st hst => hheld.isOpen _ _ (hfind st hst))
    (fun st hst => hheld.venue _ _ (hfind st hst))
    (hids.sublist (List.filter_sublist.map _))

/-! ## Runs -/

theorem init_slotsExact : (init cfg).SlotsExact cfg := fun _ _ => rfl

/-- **The step lemma.** From an exact state, exactly the safe events lead to an exact state. -/
theorem SlotsExact.step_iff (hheld : p.HeldWell cfg) (h : p.SlotsExact cfg)
    (e : ProcessorEvent) : (p.step cfg e).1.SlotsExact cfg ↔ p.SlotSafe cfg e := by
  cases e with
  | newOrder order nowNs nowS status => exact h.onNewOrder_iff order nowNs nowS status
  | execEvent event nowNs => exact h.onExecEvent_iff hheld event nowNs
  | checkStaleOrders staleTimeoutNs nowNs =>
    exact iff_of_true (h.checkStaleOrders hheld staleTimeoutNs nowNs) trivial
  | cancel cancel =>
    rw [step, onCancel_fst]
    exact iff_of_true h trivial
  | cancelAll cancelAll =>
    rw [step, onCancelAll_fst]
    refine iff_of_true ?_ trivial
    split
    · exact h
    · exact h
  | modify modify =>
    rw [step, onModify_fst]
    exact iff_of_true h trivial

/-- No counter goes beyond the limit, whatever the events. -/
def SlotsWithinLimit (cfg : ProcessorSettings) (p : OrderProcessor) : Prop :=
  ∀ i, p.riskGate.riskChecker.openOrders i ≤ cfg.risk.limits.maxOpenOrdersPerVenue

theorem releaseSlot_openOrders_le (g : PreTradeRiskGate) (ex : ExchangeId) (i : Fin kMaxVenues) :
    (g.releaseSlot ex).riskChecker.openOrders i ≤ g.riskChecker.openOrders i := by
  rw [PreTradeRiskGate.releaseSlot, RiskChecker.onOrderClosed_openOrders]
  split
  · exact Nat.sub_le _ _
  · exact Nat.le_refl _

theorem SlotsWithinLimit.step (h : p.SlotsWithinLimit cfg) (e : ProcessorEvent) :
    (p.step cfg e).1.SlotsWithinLimit cfg := by
  intro i
  cases e with
  | newOrder order nowNs nowS status =>
    rcases p.onNewOrder_spec cfg order nowNs nowS status with ⟨-, hrouted⟩ | ⟨-, haway⟩
    · rw [OrderProcessor.step, hrouted.accepted.slots, Function.update_apply]
      split
      · exact hrouted.accepted.slotFree
      · exact h i
    · rw [OrderProcessor.step, haway.slots]
      exact h i
  | execEvent event nowNs =>
    have hslot := p.riskGate.onExecEvent_openOrders cfg.risk event i
    have hi := h i
    rw [OrderProcessor.step, onExecEvent, hslot]
    split
    · omega
    · exact hi
  | checkStaleOrders staleTimeoutNs nowNs =>
    exact PreTradeRiskGate.foldl_releaseSlot
      (I := fun g => g.riskChecker.openOrders i ≤ cfg.risk.limits.maxOpenOrdersPerVenue)
      (fun g ex hg => (releaseSlot_openOrders_le g ex i).trans hg) (h i) _
  | cancel cancel =>
    rw [OrderProcessor.step, onCancel_fst]
    exact h i
  | cancelAll cancelAll =>
    rw [OrderProcessor.step, onCancelAll_fst]
    split
    · exact h i
    · exact h i
  | modify modify =>
    rw [OrderProcessor.step, onModify_fst]
    exact h i

/-- Exact slots bound the real number of open orders by the limit. -/
theorem SlotsExact.openOrdersBounded (h : p.SlotsExact cfg) (hlimit : p.SlotsWithinLimit cfg) :
    p.OpenOrdersBounded cfg := by
  intro v hv
  rw [← h v hv]
  exact hlimit _

/-- **When the slots count the open orders.** Along a run from start-up every registered
venue's slot counter is its number of open orders, and the limit bounds that number, exactly
when every event of the run is safe in the state it meets. -/
theorem slots_exact_iff_safe (cfg : ProcessorSettings) (es : List ProcessorEvent) :
    AllStates (step cfg) (fun p => p.SlotsExact cfg ∧ p.OpenOrdersBounded cfg) (init cfg) es ↔
      AlongRun (step cfg) (SlotSafe cfg) (init cfg) es := by
  refine allStates_iff_alongRun (J := fun p => p.HeldWell cfg ∧ p.SlotsWithinLimit cfg)
    (fun p e hJ => ⟨hJ.1.step e, hJ.2.step e⟩) (fun p e hJ hP => ?_)
    ⟨init_heldWell cfg, fun _ => Nat.zero_le _⟩
    ⟨init_slotsExact, fun _ _ => Nat.zero_le _⟩ es
  constructor
  · exact fun hafter => (hP.1.step_iff hJ.1 e).mp hafter.1
  · intro hsafe
    have hexact := (hP.1.step_iff hJ.1 e).mpr hsafe
    exact ⟨hexact, hexact.openOrdersBounded (hJ.2.step e)⟩

/-! ## A duplicated terminal report

Two orders are open on one venue with room for two. The first is filled, and the report of the
fill comes twice: both slots are given back. Two more orders are then let through, and the venue
has three open orders. -/

namespace DuplicateFill

def settings : ProcessorSettings where
  risk :=
    { limits := { maxOrderSizeUsd := 1000, maxNotionalPerOrderUsd := 1000
                  maxOpenOrdersPerVenue := 2, maxOrdersPerSecond := 10 }
      maxPositionUsd := 0
      maxDailyLossUsd := 0
      breaker := {} }
  adapters := [.BINANCE]
  all_notMem := by decide

def order (id : Nat) : ProcessorEvent :=
  .newOrder
    { orderId := id, instrumentId := 7, exchangeId := .BINANCE, side := .BUY
      orderType := .LIMIT, tif := .GTC, price := 100000000, quantity := 100000000, execInst := 0
      exchangeSymbol := "BTCUSDT" }
    1000 1 { isConnected := true, isHalted := false }

def filled (id : Nat) : ProcessorEvent :=
  .execEvent
    { orderId := id, exchangeId := .BINANCE, status := .FILLED, side := .BUY
      orderType := .LIMIT, price := 100000000, filledQty := 100000000 }
    2000

def events : List ProcessorEvent := [order 1, order 2, filled 1, filled 1, order 3, order 4]

end DuplicateFill

theorem not_slots_exact_of_duplicateFill :
    ¬ AllStates (step DuplicateFill.settings)
        (fun p => p.SlotsExact DuplicateFill.settings ∧
          p.OpenOrdersBounded DuplicateFill.settings)
        (init DuplicateFill.settings) DuplicateFill.events ∧
      (exec (step DuplicateFill.settings) (init DuplicateFill.settings)
        DuplicateFill.events).stateMgr.openOrderCount .BINANCE = 3 := by
  decide +kernel

end OrderProcessor

end BptCore.OrderGateway
