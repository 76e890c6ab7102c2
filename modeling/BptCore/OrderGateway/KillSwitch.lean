import BptCore.OrderGateway.Adapter.SendExecutor
import BptCore.OrderGateway.OrderProcessor

/-!
# The kill switch

Trading is turned off by a cancel-all of every exchange, by the reject-rate breaker and by the
daily-loss latch, and nothing in the processor turns it on again. Two questions follow: what may
still reach an adapter afterwards, and which orders a cancel-all reaches at the venues.

* **`HaltTriggered.disabled`** — each trigger has trading off from then on.
* **`halted_sends_iff`** — the adapter calls after a halt.
* **`cancelAll_covers_iff`** — the open orders a cancel-all covers.
-/

namespace BptCore.OrderGateway

open Machine

/-- The calls that create an order at the venue or enlarge one. -/
def Effect.OpensExposure : Effect → Prop
  | .call _ (.sendNewOrder _) | .call _ (.sendModify _ _) => True
  | _ => False

instance : (eff : Effect) → Decidable eff.OpensExposure
  | .call _ (.sendNewOrder _) | .call _ (.sendModify _ _) => isTrue trivial
  | .call _ (.sendCancel _ _) | .call _ (.sendCancelAll _) | .publish _ => isFalse not_false

/-- No effect of the list creates or enlarges an order at a venue. -/
def OnlyCancels (effects : List Effect) : Prop := ∀ eff ∈ effects, ¬ eff.OpensExposure

instance (effects : List Effect) : Decidable (OnlyCancels effects) :=
  inferInstanceAs (Decidable (∀ eff ∈ effects, ¬ eff.OpensExposure))

namespace OrderProcessor

/-! ## Trading, once off -/

section Halt

variable (cfg : ProcessorSettings) (p : OrderProcessor)

def TradingDisabled : Prop := p.riskGate.riskChecker.tradingEnabled = false

variable {cfg p}

/-- With trading off every new order is turned away. -/
theorem TradingDisabled.not_routes (h : p.TradingDisabled) (order : NewOrderEvent) (nowS : Nat)
    (status : AdapterStatus) : ¬ p.Routes cfg order nowS status := by
  intro hroutes
  rcases p.onNewOrder_spec cfg order 0 nowS status with ⟨-, hrouted⟩ | ⟨hno, -⟩
  · have henabled := hrouted.accepted.enabled
    rw [show p.riskGate.riskChecker.tradingEnabled = false from h] at henabled
    cases henabled
  · exact hno hroutes

/-- No event turns trading on. -/
theorem TradingDisabled.step (h : p.TradingDisabled) (e : ProcessorEvent) :
    (p.step cfg e).1.TradingDisabled := by
  cases e with
  | newOrder order nowNs nowS status =>
    rcases p.onNewOrder_spec cfg order nowNs nowS status with ⟨hroutes, -⟩ | ⟨-, haway⟩
    · exact absurd hroutes (h.not_routes order nowS status)
    · exact haway.switch.trans h
  | execEvent event nowNs =>
    exact PreTradeRiskGate.onExecEvent_tradingEnabled_of_false h event
  | checkStaleOrders staleTimeoutNs nowNs =>
    exact PreTradeRiskGate.foldl_releaseSlot (I := fun g => g.riskChecker.tradingEnabled = false)
      (fun _ _ hg => hg) h _
  | cancel cancel =>
    rw [OrderProcessor.step, onCancel_fst]
    exact h
  | cancelAll cancelAll =>
    rw [OrderProcessor.step, onCancelAll_fst]
    split
    · rfl
    · exact h
  | modify modify =>
    rw [OrderProcessor.step, onModify_fst]
    exact h

/-- A latch that has fired has trading off, whatever came after. -/
theorem latched_step (h : p.riskGate.Latched) (e : ProcessorEvent) :
    (p.step cfg e).1.riskGate.Latched := by
  cases e with
  | newOrder order nowNs nowS status =>
    have hswitch : (p.onNewOrder cfg order nowNs nowS status).1.riskGate.riskChecker.tradingEnabled
        = p.riskGate.riskChecker.tradingEnabled := by
      rcases p.onNewOrder_spec cfg order nowNs nowS status with ⟨-, hrouted⟩ | ⟨-, haway⟩
      · exact hrouted.accepted.stillEnabled
      · exact haway.switch
    have hgate : (p.onNewOrder cfg order nowNs nowS status).1.riskGate =
        { p.riskGate with
          riskChecker := (p.onNewOrder cfg order nowNs nowS status).1.riskGate.riskChecker } := by
      rcases p.onNewOrder_spec cfg order nowNs nowS status with ⟨-, hrouted⟩ | ⟨-, haway⟩
      · exact hrouted.gate
      · exact haway.gate
    rw [OrderProcessor.step, hgate]
    exact ⟨fun htripped => hswitch.trans (h.breaker htripped),
      fun hlatched => hswitch.trans (h.dailyLoss hlatched)⟩
  | execEvent event nowNs => exact h.onExecEvent event
  | checkStaleOrders staleTimeoutNs nowNs =>
    exact PreTradeRiskGate.foldl_releaseSlot (I := PreTradeRiskGate.Latched)
      (fun _ _ hg => ⟨hg.breaker, hg.dailyLoss⟩) h _
  | cancel cancel =>
    rw [OrderProcessor.step, onCancel_fst]
    exact h
  | cancelAll cancelAll =>
    rw [OrderProcessor.step, onCancelAll_fst]
    split
    · exact ⟨fun _ => rfl, fun _ => rfl⟩
    · exact h
  | modify modify =>
    rw [OrderProcessor.step, onModify_fst]
    exact h

variable (cfg)

/-- One of the three triggers has fired in the run `es` from start-up. -/
def HaltTriggered (es : List ProcessorEvent) : Prop :=
  (∃ cancelAll, .cancelAll cancelAll ∈ es ∧ cancelAll.exchangeId = .ALL) ∨
    (exec (step cfg) (init cfg) es).riskGate.rejectRateBreaker.tripped = true ∨
    (exec (step cfg) (init cfg) es).riskGate.dailyLossLatched = true

variable {cfg}

/-- A kill switch thrown anywhere in a run has trading off at its end. -/
theorem tradingDisabled_of_cancelAll {cancelAll : CancelAllEvent} {es : List ProcessorEvent}
    (hmem : .cancelAll cancelAll ∈ es) (hall : cancelAll.exchangeId = .ALL) :
    (exec (OrderProcessor.step cfg) p es).TradingDisabled := by
  -- from the event on, trading is off; what came before does not matter
  obtain ⟨before, after, rfl⟩ := List.append_of_mem hmem
  rw [exec_append, exec_cons]
  refine exec_of_inductive (fun q e hq => hq.step e) ?_ after
  rw [OrderProcessor.step, onCancelAll_fst, if_pos hall]
  rfl

/-- **Each trigger turns trading off for good.** -/
theorem HaltTriggered.disabled {es : List ProcessorEvent} (h : HaltTriggered cfg es) :
    (exec (OrderProcessor.step cfg) (init cfg) es).TradingDisabled := by
  have hlatched : (exec (OrderProcessor.step cfg) (init cfg) es).riskGate.Latched :=
    exec_of_inductive (I := fun p : OrderProcessor => p.riskGate.Latched)
      (fun q e hq => latched_step hq e)
      ⟨fun h => absurd h (by simp [init]), fun h => absurd h (by simp [init])⟩ es
  rcases h with ⟨cancelAll, hmem, hall⟩ | htripped | hdaily
  · exact tradingDisabled_of_cancelAll hmem hall
  · exact hlatched.breaker htripped
  · exact hlatched.dailyLoss hdaily

/-! ## What reaches an adapter with trading off -/

variable (cfg p) in
/-- The event is not a modify that the processor would pass on: its exchange has no adapter or
its order is not held. -/
def ModifyBlocked : ProcessorEvent → Prop
  | .modify modify =>
    modify.exchangeId ∈ cfg.adapters → p.stateMgr.get modify.orderId = none
  | _ => True

instance : (e : ProcessorEvent) → Decidable (p.ModifyBlocked cfg e)
  | .modify modify =>
    inferInstanceAs (Decidable (modify.exchangeId ∈ cfg.adapters →
      p.stateMgr.get modify.orderId = none))
  | .newOrder _ _ _ _ | .execEvent _ _ | .cancel _ | .cancelAll _ | .checkStaleOrders _ _ =>
    isTrue trivial

/-- With trading off, a modify of a held order is the one event that opens exposure. -/
theorem TradingDisabled.effects_iff (h : p.TradingDisabled) (e : ProcessorEvent) :
    OnlyCancels (p.step cfg e).2 ↔ p.ModifyBlocked cfg e := by
  constructor
  · intro hsafe
    cases e with
    | modify modify =>
      intro hreg
      cases hget : p.stateMgr.get modify.orderId with
      | none => rfl
      | some st => exact absurd trivial (hsafe _ (p.sendModify_mem cfg hreg hget))
    | newOrder | execEvent | cancel | cancelAll | checkStaleOrders => trivial
  · intro hblocked eff heff hopens
    cases p.emits_of_mem cfg heff with
    | publish | sendCancel | sendCancelAll => exact hopens
    | sendNewOrder order nowNs nowS status hroutes =>
      exact h.not_routes order nowS status hroutes
    | sendModify modify st hreg hget =>
      rw [hblocked hreg] at hget
      cases hget

/-- **The adapter calls after a halt.** Once a trigger has fired, the events that follow make no
`send_new_order` and no `send_modify` exactly when none of them is a modify of a held order
through a registered adapter. -/
theorem halted_sends_iff (cfg : ProcessorSettings) (es fs : List ProcessorEvent)
    (h : HaltTriggered cfg es) :
    OnlyCancels (outputs (step cfg) (exec (step cfg) (init cfg) es) fs) ↔
      AlongRun (step cfg) (ModifyBlocked cfg) (exec (step cfg) (init cfg) es) fs :=
  forall_outputs_iff_alongRun.trans
    (alongRun_congr (J := TradingDisabled) (fun _ e hq => TradingDisabled.step hq e)
      (fun _ e hq => TradingDisabled.effects_iff hq e) h.disabled fs)

/-! ## A modify after the kill switch

One order is open when the kill switch is thrown; its owner then doubles it. -/

namespace ModifyAfterHalt

def settings : ProcessorSettings where
  risk :=
    { limits := { maxOrderSizeUsd := 1000, maxNotionalPerOrderUsd := 1000
                  maxOpenOrdersPerVenue := 10, maxOrdersPerSecond := 10 }
      maxPositionUsd := 0
      maxDailyLossUsd := 0
      breaker := {} }
  adapters := [.OKX]
  all_notMem := by decide

def halted : List ProcessorEvent :=
  [.newOrder
    { orderId := 1, instrumentId := 7, exchangeId := .OKX, side := .BUY, orderType := .LIMIT
      tif := .GTC, price := 100000000, quantity := 100000000, execInst := 0
      exchangeSymbol := "BTC-USDT" }
    1000 1 { isConnected := true, isHalted := false },
   .cancelAll { exchangeId := .ALL, instrumentId := 0 }]

def cancel : List ProcessorEvent := [.cancel { orderId := 1, exchangeId := .OKX }]

def modify : List ProcessorEvent :=
  [.modify { orderId := 1, exchangeId := .OKX, newPrice := 100000000, newQuantity := 200000000 }]

end ModifyAfterHalt

theorem halted_sends_iff_cancel :
    OnlyCancels (outputs (step ModifyAfterHalt.settings)
      (exec (step ModifyAfterHalt.settings) (init ModifyAfterHalt.settings)
        ModifyAfterHalt.halted) ModifyAfterHalt.cancel) :=
  (halted_sends_iff ModifyAfterHalt.settings ModifyAfterHalt.halted ModifyAfterHalt.cancel
    (.inl ⟨_, List.mem_cons_of_mem _ List.mem_cons_self, rfl⟩)).mpr (by decide +kernel)

theorem halted_sends_modify :
    HaltTriggered ModifyAfterHalt.settings ModifyAfterHalt.halted ∧
      ¬ OnlyCancels (outputs (step ModifyAfterHalt.settings)
        (exec (step ModifyAfterHalt.settings) (init ModifyAfterHalt.settings)
          ModifyAfterHalt.halted) ModifyAfterHalt.modify) :=
  ⟨.inl ⟨_, List.mem_cons_of_mem _ List.mem_cons_self, rfl⟩, by decide +kernel⟩

end Halt

/-! ## What a cancel-all reaches at the venues

The processor hands a cancel-all down as one `send_cancel_all` for each open order, or for the
one exchange named; the venue sees what the adapters' hooks make of it. -/

section Coverage

variable (cfg : ProcessorSettings) (sessions : AdapterSessions) (p : OrderProcessor)

/-- The venue requests that a step's effects lead to, through queue and executor. -/
def venueRequests (effects : List Effect) : List VenueRequest :=
  effects.flatMap fun
    | .publish _ => []
    | .call adapter call => sessions.runSendExecutor adapter call.workItem

/-- The orders a cancel-all is about; instrument 0 stands for all instruments. -/
def InScope (cancelAll : CancelAllEvent) (st : OrderState) : Prop :=
  cancelAll.exchangeId = .ALL ∨
    (st.exchangeId = cancelAll.exchangeId ∧
      (cancelAll.instrumentId = 0 ∨ st.instrumentId = cancelAll.instrumentId))

/-- The venues are asked to cancel exactly the open orders in scope. -/
def CancelAllCovers (cancelAll : CancelAllEvent) : Prop :=
  ∀ id st, p.stateMgr.get id = some st → st.lifecycle.isOpen = true →
    ((∃ req ∈ venueRequests sessions (p.onCancelAll cfg cancelAll).2, sessions.Cancels st req) ↔
      InScope cancelAll st)

variable {cfg sessions p}

/-- The three adapters send nothing for a cancel-all. -/
theorem runSendExecutor_cancelAll {venue : ExchangeId} (h : venue ≠ .HYPERLIQUID)
    (instrumentId : Nat) :
    sessions.runSendExecutor venue (AdapterCall.sendCancelAll instrumentId).workItem = [] := by
  cases venue with
  | HYPERLIQUID => exact absurd rfl h
  | ALL | BINANCE | OKX | DERIBIT => rfl

theorem venueRequests_onCancelAll (hvenues : .HYPERLIQUID ∉ cfg.adapters)
    (cancelAll : CancelAllEvent) :
    venueRequests sessions (p.onCancelAll cfg cancelAll).2 = [] := by
  refine List.flatMap_eq_nil_iff.mpr fun eff heff => ?_
  cases p.emits_of_mem (e := .cancelAll cancelAll) cfg heff with
  | publish => rfl
  | sendCancelAll cancelAll adapter instrumentId hreg =>
    exact runSendExecutor_cancelAll (fun h => hvenues (h ▸ hreg)) instrumentId

/-- **The coverage of a cancel-all.** In every reachable state over the Binance, OKX and Deribit
adapters, a cancel-all covers exactly the open orders in its scope precisely when there is none:
whatever is open in scope is left alone by the venues. -/
theorem cancelAll_covers_iff (cfg : ProcessorSettings) (hvenues : .HYPERLIQUID ∉ cfg.adapters)
    (sessions : AdapterSessions) (es : List ProcessorEvent) (cancelAll : CancelAllEvent) :
    CancelAllCovers cfg sessions (exec (step cfg) (init cfg) es) cancelAll ↔
      ∀ id st, (exec (step cfg) (init cfg) es).stateMgr.get id = some st →
        ¬ InScope cancelAll st := by
  have hheld : (exec (step cfg) (init cfg) es).HeldWell cfg :=
    exec_of_inductive (fun p e hp => hp.step e) (init_heldWell cfg) es
  simp only [CancelAllCovers, venueRequests_onCancelAll hvenues, List.not_mem_nil, false_and,
    exists_false, false_iff]
  constructor
  · exact fun h id st hst => h id st hst (hheld.isOpen id st hst)
  · exact fun h id st hst _ => h id st hst

end Coverage

/-! ## Open orders under a kill switch

One order is open on each of the three venues. Neither the kill switch nor the cancel-all of one
venue's instrument leads to any cancel request. -/

namespace OpenOnThreeVenues

def settings : ProcessorSettings where
  risk := ModifyAfterHalt.settings.risk
  adapters := [.BINANCE, .OKX, .DERIBIT]
  all_notMem := by decide

def sessions : AdapterSessions where
  okxPrefix := "s"
  deribitPrefix := "s"
  deribitExchangeOrderId := fun _ => "ETH-1"
  hyperliquid := fun _ => []

def order (id : Nat) (exchange : ExchangeId) : NewOrderEvent :=
  { orderId := id, instrumentId := 7, exchangeId := exchange, side := .BUY, orderType := .LIMIT
    tif := .GTC, price := 100000000, quantity := 100000000, execInst := 0
    exchangeSymbol := "BTC" }

def events : List ProcessorEvent :=
  [(1, .BINANCE), (2, .OKX), (3, .DERIBIT)].map fun (id, exchange) =>
    .newOrder (order id exchange) 1000 1 { isConnected := true, isHalted := false }

def killSwitch : CancelAllEvent := { exchangeId := .ALL, instrumentId := 0 }

def binanceOnly : CancelAllEvent := { exchangeId := .BINANCE, instrumentId := 7 }

end OpenOnThreeVenues

theorem cancelAll_covers_iff_nothing_open :
    CancelAllCovers OpenOnThreeVenues.settings OpenOnThreeVenues.sessions
      (exec (step OpenOnThreeVenues.settings) (init OpenOnThreeVenues.settings) [])
      OpenOnThreeVenues.killSwitch :=
  (cancelAll_covers_iff OpenOnThreeVenues.settings (by decide) OpenOnThreeVenues.sessions []
    OpenOnThreeVenues.killSwitch).mpr fun id st h => by cases h

theorem not_cancelAll_covers_openOnThreeVenues :
    ¬ CancelAllCovers OpenOnThreeVenues.settings OpenOnThreeVenues.sessions
        (exec (step OpenOnThreeVenues.settings) (init OpenOnThreeVenues.settings)
          OpenOnThreeVenues.events) OpenOnThreeVenues.killSwitch ∧
      ¬ CancelAllCovers OpenOnThreeVenues.settings OpenOnThreeVenues.sessions
        (exec (step OpenOnThreeVenues.settings) (init OpenOnThreeVenues.settings)
          OpenOnThreeVenues.events) OpenOnThreeVenues.binanceOnly := by
  have hopen : (exec (step OpenOnThreeVenues.settings) (init OpenOnThreeVenues.settings)
      OpenOnThreeVenues.events).stateMgr.get 1 =
      some ((OpenOnThreeVenues.order 1 .BINANCE).toOrderState 1000) := by decide +kernel
  have hnone : ∀ cancelAll, venueRequests OpenOnThreeVenues.sessions
      ((exec (step OpenOnThreeVenues.settings) (init OpenOnThreeVenues.settings)
        OpenOnThreeVenues.events).onCancelAll OpenOnThreeVenues.settings cancelAll).2 = [] :=
    fun cancelAll => venueRequests_onCancelAll (by decide) cancelAll
  constructor
  · intro h
    obtain ⟨req, hreq, -⟩ := (h 1 _ hopen rfl).mpr (.inl rfl)
    rw [hnone] at hreq
    cases hreq
  · intro h
    obtain ⟨req, hreq, -⟩ := (h 1 _ hopen rfl).mpr (.inr ⟨rfl, .inr rfl⟩)
    rw [hnone] at hreq
    cases hreq

end OrderProcessor

end BptCore.OrderGateway
