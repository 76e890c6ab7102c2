import BptCore.Strategy.Hmm.Transitions

/-!
# The closes of a transition

A transition is begun by a bar, and nothing keeps the next bar from beginning it again. What the
first one has cancelled is then no longer waited for, and the order that closes the position is
forgotten and sent anew, over the whole position, while the one before it is still out.

* **`Turn.Restarts`** — a tick whose bar asks for another regime, when a close would be taken.
* **`Turn.onBbo_of_restarts`** — what such a tick does.
* **`closes_pile_up`** — after the first of them, every one closes the whole position.
-/

namespace BptCore.Strategy.Hmm

open BptCore.Features

/-- No order of the instrument is remembered by a signal or a quote. -/
structure InstrumentState.Withdrawn (st : InstrumentState) : Prop where
  momentum : st.momentumOrderId = 0
  reversion : st.reversionOrderId = 0
  bid : st.mmBidId = 0
  ask : st.mmAskId = 0

/-- The quantity of a position is a number of lots. -/
def WholeLots (cache : InstrumentCache) (id : Nat) (net : Int) : Prop :=
  ∀ inst ∈ cache id, 0 < inst.lotSize → ∃ k : Nat, ofE8 net.natAbs = k * inst.lotSize

theorem roundE8_ofE8 (n : Nat) : roundE8 (ofE8 n) = n := by
  have hfloor : ((n : ℚ) + 1 / 2).floor = n := by
    refine le_antisymm (Int.lt_add_one_iff.mp (Rat.floor_lt_iff.mpr ?_)) (Rat.le_floor_iff.mpr ?_)
    · push_cast
      linarith
    · push_cast
      linarith
  rw [roundE8, if_pos (ofE8_nonneg_iff.mpr (Int.natCast_nonneg n)), ofE8_mul_kScale]
  exact_mod_cast hfloor

/-- A number of lots goes out as it is. -/
theorem normaliseAndValidate_lots {cache : InstrumentCache} {id : Nat} {side : OrderSide}
    {price qty price' quantity : ℚ} {symbol : String}
    (hlots : ∀ inst ∈ cache id, 0 < inst.lotSize → ∃ k : Nat, qty = k * inst.lotSize)
    (hqty : 0 < qty)
    (h : normaliseAndValidate cache id side .LIMIT price qty = some (price', quantity, symbol)) :
    quantity = qty := by
  unfold normaliseAndValidate at h
  cases hinst : cache id with
  | none =>
    rw [hinst] at h
    cases h
  | some inst =>
    have hsized : (if inst.lotSize > 0 then
        max ((qty / inst.lotSize).floor * inst.lotSize) inst.lotSize else qty) = qty := by
      split
      · next hpos =>
        obtain ⟨k, hk⟩ := hlots inst hinst hpos
        have hdiv : qty / inst.lotSize = (k : Int) := by
          rw [hk, mul_div_cancel_right₀ _ hpos.ne']
          exact (Int.cast_natCast k).symm
        have hone : (1 : ℚ) ≤ k := by
          have hkpos : k ≠ 0 := by
            rintro rfl
            rw [hk] at hqty
            simp at hqty
          exact_mod_cast Nat.one_le_iff_ne_zero.mpr hkpos
        rw [hdiv, Rat.floor_intCast, Int.cast_natCast, ← hk]
        refine max_eq_left ?_
        rw [hk]
        exact le_mul_of_one_le_left hpos.le hone
      · rfl
    simp only [hinst, Option.ite_none_left_eq_some, Option.some.injEq, Prod.mk.injEq] at h
    obtain ⟨-, -, -, -, rfl, -⟩ := h
    exact hsized

namespace Turn

variable (cfg : Config) (num : ExpNumerics) (env : Surroundings) (t : Turn)

/-! ## Withdrawing -/

section Withdraw

variable {get : InstrumentState → Nat} {clear : InstrumentState → InstrumentState}

variable (get clear) in
/-- An id that is 0 is left alone, another is waited for. -/
theorem cancelTracked_cases : get t.st = 0 ∧ t.cancelTracked cfg get clear = t ∨
    (t.cancelTracked cfg get clear).st =
      clear { t.st with pendingCancels := t.st.pendingCancels.insert (get t.st) } := by
  unfold cancelTracked
  dsimp only
  split
  · exact .inr (by rw [Turn.modify, cancelOrder_st])
  · next h0 => exact .inl ⟨not_not.mp h0, rfl⟩

theorem cancelTracked_get (hclear : ∀ st, get (clear st) = 0) :
    get (t.cancelTracked cfg get clear).st = 0 := by
  rcases t.cancelTracked_cases cfg get clear with ⟨h0, h⟩ | h
  · rw [h, h0]
  · rw [h, hclear]

theorem cancelTracked_frame {γ : Type} (g : InstrumentState → γ)
    (hg : ∀ st ids, g (clear { st with pendingCancels := ids }) = g st) :
    g (t.cancelTracked cfg get clear).st = g t.st := by
  rcases t.cancelTracked_cases cfg get clear with ⟨-, h⟩ | h
  · rw [h]
  · rw [h, hg]

variable {t} in
/-- Where no cancel is waited for, there was nothing to cancel. -/
theorem cancelTracked_of_pending (h : (t.cancelTracked cfg get clear).st.pendingCancels = [])
    (hclear : ∀ st, (clear st).pendingCancels = st.pendingCancels) :
    t.cancelTracked cfg get clear = t := by
  rcases t.cancelTracked_cases cfg get clear with ⟨-, hsame⟩ | hst
  · exact hsame
  · rw [hst] at h
    have hnone : t.st.pendingCancels.insert (get t.st) = [] := (hclear _).symm.trans h
    have hmem : get t.st ∈ t.st.pendingCancels.insert (get t.st) := List.mem_insert_self
    rw [hnone] at hmem
    cases hmem

theorem withdraw_withdrawn : (t.withdraw cfg).st.Withdrawn := by
  unfold withdraw
  refine ⟨?_, ?_, ?_, ?_⟩
  · rw [cancelTracked_frame cfg _ (·.momentumOrderId) fun _ _ => rfl,
      cancelTracked_frame cfg _ (·.momentumOrderId) fun _ _ => rfl,
      cancelTracked_frame cfg _ (·.momentumOrderId) fun _ _ => rfl]
    exact cancelTracked_get cfg t fun _ => rfl
  · rw [cancelTracked_frame cfg _ (·.reversionOrderId) fun _ _ => rfl,
      cancelTracked_frame cfg _ (·.reversionOrderId) fun _ _ => rfl]
    exact cancelTracked_get cfg _ fun _ => rfl
  · rw [cancelTracked_frame cfg _ (·.mmBidId) fun _ _ => rfl]
    exact cancelTracked_get cfg _ fun _ => rfl
  · exact cancelTracked_get cfg _ fun _ => rfl

theorem withdraw_of_pending (h : (t.withdraw cfg).st.pendingCancels = []) : t.withdraw cfg = t := by
  unfold withdraw at h ⊢
  have hask := cancelTracked_of_pending cfg h fun _ => rfl
  rw [hask] at h ⊢
  have hbid := cancelTracked_of_pending cfg h fun _ => rfl
  rw [hbid] at h ⊢
  have hreversion := cancelTracked_of_pending cfg h fun _ => rfl
  rw [hreversion] at h ⊢
  exact cancelTracked_of_pending cfg h fun _ => rfl

theorem withdraw_of_withdrawn (h : t.st.Withdrawn) : t.withdraw cfg = t := by
  simp [withdraw, cancelTracked, h.momentum, h.reversion, h.bid, h.ask]

end Withdraw

/-! ## The bars of a transition -/

/-- The turn when the tick has closed the bar and the filter has taken it in. -/
def barSeen (tick : MdMarketData) : Turn :=
  (((t.modify (·.quoted tick)).modify (·.extendBar)).modify (·.closeFeatures cfg num)).modify
    (·.observed num)

/-- The order that closes the position. -/
def flatOrder : Option OutboundNewOrder :=
  t.outboundOrder cfg env t.flatSide .IOC (t.st.aggressPrice cfg t.flatSide) (ofE8 t.netQty.natAbs)

/-- A tick closes a bar after which the filter asks for another regime, while there is a position
whose close would be taken. -/
structure Restarts (tick : MdMarketData) : Prop where
  valid : ¬ (tick.bidPrice ≤ 0 ∨ tick.askPrice ≤ 0 ∨ tick.askPrice ≤ tick.bidPrice)
  started : t.st.barStartNs ≠ 0
  elapsed : cfg.barIntervalNs ≤ u64Sub tick.timestampNs t.st.barStartNs
  warm : kMinWarmupBars ≤ (t.barSeen cfg num tick).st.returns.count
  other : (t.barSeen cfg num tick).st.hmm.dominant ≠ t.st.regime
  confident : cfg.confidenceThreshold ≤ (t.barSeen cfg num tick).st.hmm.confidence
  dwelt : cfg.minDwellBars ≤ t.st.regimeDwell
  position : t.netQty ≠ 0
  taken : ∃ order ∈ (t.barSeen cfg num tick).flatOrder cfg env,
    env.accepts order = true ∧ order.orderId ≠ 0

instance (tick : MdMarketData) : Decidable (t.Restarts cfg num env tick) :=
  decidable_of_iff
    ((¬ (tick.bidPrice ≤ 0 ∨ tick.askPrice ≤ 0 ∨ tick.askPrice ≤ tick.bidPrice) ∧
        t.st.barStartNs ≠ 0 ∧ cfg.barIntervalNs ≤ u64Sub tick.timestampNs t.st.barStartNs ∧
        kMinWarmupBars ≤ (t.barSeen cfg num tick).st.returns.count) ∧
      ((t.barSeen cfg num tick).st.hmm.dominant ≠ t.st.regime ∧
        cfg.confidenceThreshold ≤ (t.barSeen cfg num tick).st.hmm.confidence ∧
        cfg.minDwellBars ≤ t.st.regimeDwell) ∧ t.netQty ≠ 0 ∧
      ∃ order ∈ (t.barSeen cfg num tick).flatOrder cfg env,
        env.accepts order = true ∧ order.orderId ≠ 0)
    ⟨fun ⟨⟨valid, started, elapsed, warm⟩, ⟨other, confident, dwelt⟩, position, taken⟩ =>
      ⟨valid, started, elapsed, warm, other, confident, dwelt, position, taken⟩,
      fun h => ⟨⟨h.valid, h.started, h.elapsed, h.warm⟩, ⟨h.other, h.confident, h.dwelt⟩, h.position,
        h.taken⟩⟩

variable {t} {tick : MdMarketData}

/-- A close that is taken. -/
theorem sendFlat_of_taken {purpose : Purpose} {order : OutboundNewOrder}
    (horder : t.flatOrder cfg env = some order) (haccepts : env.accepts order = true)
    (hid : order.orderId ≠ 0) :
    t.sendFlat cfg env purpose =
      ({ t with
          orderToInstrument := t.orderToInstrument.insert order.orderId t.id
          nextOrderId := t.nextOrderId + 1
          actions := t.actions ++ [.sent purpose order] }, order.orderId) := by
  unfold flatOrder at horder
  unfold sendFlat sendOrder
  rw [horder]
  exact if_pos ⟨haccepts, hid⟩

/-- What has become of a turn when a transition has begun once more. -/
structure Begun (t t' : Turn) : Prop where
  id : t'.id = t.id
  positions : t'.positions = t.positions
  exchangeId : t'.st.exchangeId = t.st.exchangeId
  regime : t'.st.regime = t.st.regime
  transitioning : t'.st.transitioning = true
  since : t'.st.transitionStartNs = t'.st.lastBboNs
  withdrawn : t'.st.Withdrawn

/-- The turn in which nothing was out but the position, after the close has gone out. -/
def closing (t : Turn) (target : State) (order : OutboundNewOrder) : Turn :=
  { t with
    st := { t.st.inTransition target with closeOrderId := order.orderId, closingPosition := true }
    orderToInstrument := t.orderToInstrument.insert order.orderId t.id
    nextOrderId := t.nextOrderId + 1
    actions := t.actions ++ [.sent .close order] }

variable {order : OutboundNewOrder} (target : State)

/-- With no cancel to wait for, the close goes out at once. -/
theorem checkTransitionComplete_of_taken (hnet : t.netQty ≠ 0)
    (horder : t.flatOrder cfg env = some order) (haccepts : env.accepts order = true)
    (hid : order.orderId ≠ 0) :
    (t.modify (·.inTransition target)).checkTransitionComplete cfg num env =
      t.closing target order := by
  have hsend : (t.modify (·.inTransition target)).sendFlat cfg env .close = _ :=
    sendFlat_of_taken cfg env (t := t.modify (·.inTransition target)) horder haccepts hid
  have hnet' : (t.modify (·.inTransition target)).netQty ≠ 0 := hnet
  unfold checkTransitionComplete
  rw [if_neg (by simp [Turn.modify, InstrumentState.inTransition]),
    if_neg (by simp [Turn.modify, InstrumentState.inTransition]), if_pos hnet', hsend]
  exact if_pos hid

theorem beginTransition_of_withdrawn (h : t.st.Withdrawn) (hnet : t.netQty ≠ 0)
    (horder : t.flatOrder cfg env = some order) (haccepts : env.accepts order = true)
    (hid : order.orderId ≠ 0) :
    t.beginTransition cfg num env target = t.closing target order := by
  have hwithdraw : (t.modify (·.inTransition target)).withdraw cfg =
      t.modify (·.inTransition target) :=
    withdraw_of_withdrawn cfg _ ⟨h.momentum, h.reversion, h.bid, h.ask⟩
  unfold beginTransition
  dsimp only
  rw [hwithdraw]
  exact (if_pos rfl).trans
    (checkTransitionComplete_of_taken cfg num env target hnet horder haccepts hid)

theorem withdraw_frame {γ : Type} (t : Turn) (g : InstrumentState → γ)
    (hm : ∀ st ids, g { st with pendingCancels := ids, momentumOrderId := 0 } = g st)
    (hr : ∀ st ids, g { st with pendingCancels := ids, reversionOrderId := 0 } = g st)
    (hb : ∀ st ids, g { st with pendingCancels := ids, mmBidId := 0 } = g st)
    (ha : ∀ st ids, g { st with pendingCancels := ids, mmAskId := 0 } = g st) :
    g (t.withdraw cfg).st = g t.st := by
  unfold withdraw
  rw [cancelTracked_frame cfg _ g ha, cancelTracked_frame cfg _ g hb, cancelTracked_frame cfg _ g hr,
    cancelTracked_frame cfg _ g hm]

theorem beginTransition_begun (hnet : t.netQty ≠ 0)
    (horder : t.flatOrder cfg env = some order) (haccepts : env.accepts order = true)
    (hid : order.orderId ≠ 0) :
    Begun t (t.beginTransition cfg num env target) := by
  by_cases hpending : ((t.modify (·.inTransition target)).withdraw cfg).st.pendingCancels = []
  · have hsame := withdraw_of_pending cfg _ hpending
    have hwithdrawn := withdraw_withdrawn cfg (t.modify (·.inTransition target))
    rw [hsame] at hwithdrawn
    have hout : t.st.Withdrawn :=
      ⟨hwithdrawn.momentum, hwithdrawn.reversion, hwithdrawn.bid, hwithdrawn.ask⟩
    rw [beginTransition_of_withdrawn cfg num env target hout hnet horder haccepts hid]
    exact ⟨rfl, rfl, rfl, rfl, rfl, rfl, ⟨hout.momentum, hout.reversion, hout.bid, hout.ask⟩⟩
  · have hbegin : t.beginTransition cfg num env target =
        (t.modify (·.inTransition target)).withdraw cfg := if_neg hpending
    obtain ⟨follows, hc⟩ := withdraw_follows cfg (t.modify (·.inTransition target))
    have hsince := withdraw_frame cfg (t.modify (·.inTransition target))
      (fun st => (st.transitionStartNs, st.lastBboNs)) (fun _ _ => rfl) (fun _ _ => rfl)
      (fun _ _ => rfl) fun _ _ => rfl
    obtain ⟨hstart, hlast⟩ := Prod.mk.inj hsince
    rw [hbegin]
    exact ⟨follows.id, follows.positions, follows.exchangeId, congrArg Control.regime hc,
      congrArg Control.transitioning hc, hstart.trans hlast.symm, withdraw_withdrawn cfg _⟩

end Turn

namespace InstrumentState

variable (cfg : Config) (num : ExpNumerics) (st : InstrumentState)

/-- The features are not what the transition goes by. -/
theorem closeFeatures_frame {γ : Type} (g : InstrumentState → γ)
    (hatr : ∀ st a n, g { st with barAtr := a, barAtrWarmup := n } = g st)
    (hreturn : ∀ st a r v, g { st with returns := r, ewmaVar := v, prevBarClose := a } = g st)
    (hvolume : ∀ st : InstrumentState, g st.closeVolume = g st)
    (hema : ∀ st a b n, g { st with emaFast := a, emaSlow := b, emaWarmup := n } = g st) :
    g (st.closeFeatures cfg num) = g st := by
  have h1 (st : InstrumentState) : g (st.closeAtr cfg) = g st := by
    unfold closeAtr
    dsimp only
    split <;> exact hatr _ _ _
  have h2 (st : InstrumentState) : g (st.closeReturn cfg num) = g st := by
    unfold closeReturn
    dsimp only
    split
    · exact hreturn st _ _ _
    · exact hreturn st _ st.returns st.ewmaVar
  have h3 (st : InstrumentState) : g (st.momentumUpdateEma cfg) = g st := by
    unfold momentumUpdateEma
    split <;> exact hema _ _ _ _
  unfold closeFeatures
  rw [h3, hvolume, h2, h1]

end InstrumentState

namespace Turn

variable (cfg : Config) (num : ExpNumerics) (env : Surroundings) {t : Turn} {tick : MdMarketData}

theorem barSeen_observed (t : Turn) (tick : MdMarketData) : (t.barSeen cfg num tick).st =
    (((t.st.quoted tick).extendBar).closeFeatures cfg num).observed num := rfl

/-- What the transition goes by, in the turn that has seen the bar. -/
theorem barSeen_st (t : Turn) (tick : MdMarketData) :
    (t.barSeen cfg num tick).st.regime = t.st.regime ∧
      (t.barSeen cfg num tick).st.regimeDwell = t.st.regimeDwell ∧
      (t.barSeen cfg num tick).st.exchangeId = t.st.exchangeId ∧
      (t.barSeen cfg num tick).st.mid = (tick.bidPrice + tick.askPrice) / 2 ∧
      (t.barSeen cfg num tick).st.transitioning = t.st.transitioning := by
  have hframe := InstrumentState.closeFeatures_frame cfg num ((t.st.quoted tick).extendBar)
    (fun st => (st.regime, st.regimeDwell, st.exchangeId, st.mid, st.transitioning))
    (fun _ _ _ => rfl) (fun _ _ _ _ => rfl) (fun _ => rfl) fun _ _ _ _ => rfl
  rw [barSeen_observed]
  generalize ((t.st.quoted tick).extendBar).closeFeatures cfg num = st at hframe ⊢
  simp only [Prod.mk.injEq] at hframe
  exact hframe

/-- The orders that are out are what they were, when the bar is seen. -/
theorem barSeen_withdrawn (h : t.st.Withdrawn) : (t.barSeen cfg num tick).st.Withdrawn := by
  have hframe := InstrumentState.closeFeatures_frame cfg num ((t.st.quoted tick).extendBar)
    (fun st => (st.momentumOrderId, st.reversionOrderId, st.mmBidId, st.mmAskId))
    (fun _ _ _ => rfl) (fun _ _ _ _ => rfl) (fun _ => rfl) fun _ _ _ _ => rfl
  rw [barSeen_observed]
  generalize ((t.st.quoted tick).extendBar).closeFeatures cfg num = st at hframe ⊢
  simp only [Prod.mk.injEq] at hframe
  exact ⟨hframe.1.trans h.momentum, hframe.2.1.trans h.reversion, hframe.2.2.1.trans h.bid,
    hframe.2.2.2.trans h.ask⟩

theorem barSeen_netQty : (t.barSeen cfg num tick).netQty = t.netQty := by
  rw [Turn.netQty, Turn.netQty, (barSeen_st cfg num t tick).2.2.1]
  rfl

/-- A bar of this kind begins the transition and does nothing else. -/
theorem onBarClose_of_restarts (h : t.Restarts cfg num env tick)
    (hin : ((t.barSeen cfg num tick).beginTransition cfg num env
      (t.barSeen cfg num tick).st.hmm.dominant).st.transitioning = true) :
    ((t.modify (·.quoted tick)).modify (·.extendBar)).onBarClose cfg num env =
      (t.barSeen cfg num tick).beginTransition cfg num env
        (t.barSeen cfg num tick).st.hmm.dominant := by
  obtain ⟨hregime, hdwell, -, hmid, -⟩ := barSeen_st cfg num t tick
  have hpositive : ¬ (t.barSeen cfg num tick).st.mid ≤ 0 := by
    have hvalid := h.valid
    simp only [not_or, not_le] at hvalid
    rw [hmid, not_le]
    linarith [hvalid.1, hvalid.2.1]
  have hdwelt : ¬ ((t.barSeen cfg num tick).st.hmm.confidence < cfg.confidenceThreshold ∨
      (t.barSeen cfg num tick).st.regimeDwell < cfg.minDwellBars) := by
    rw [hdwell, not_or, not_lt, not_lt]
    exact ⟨h.confident, h.dwelt⟩
  have heval : (((t.modify (·.quoted tick)).modify (·.extendBar)).modify
      (·.closeFeatures cfg num)).evaluateRegime cfg num env =
        (t.barSeen cfg num tick).beginTransition cfg num env
          (t.barSeen cfg num tick).st.hmm.dominant := by
    unfold evaluateRegime
    refine (if_neg hpositive).trans ((if_neg ?_).trans (if_neg hdwelt))
    exact fun heq => h.other (heq.trans hregime)
  unfold onBarClose
  refine (if_neg (not_lt.mpr h.warm)).trans ?_
  dsimp only
  rw [heval, if_pos hin]

/-- Nor does the rest of the tick. -/
theorem onBbo_of_restarts (h : t.Restarts cfg num env tick) {begun : Turn}
    (hbegun : (t.barSeen cfg num tick).beginTransition cfg num env
      (t.barSeen cfg num tick).st.hmm.dominant = begun)
    (hin : begun.st.transitioning = true)
    (hsince : begun.st.transitionStartNs = begun.st.lastBboNs) :
    t.onBbo cfg num env tick = begun.modify (·.nextBar) := by
  have hclose := onBarClose_of_restarts cfg num env h (hbegun ▸ hin)
  rw [hbegun] at hclose
  have hbar : (t.modify (·.quoted tick)).bar cfg num env = begun.modify (·.nextBar) := by
    unfold bar
    refine (if_neg h.started).trans ((if_pos h.elapsed).trans ?_)
    rw [hclose]
  -- the transition has begun with this very tick, so that it is not late
  have hage : u64Sub begun.st.lastBboNs begun.st.transitionStartNs = 0 := by
    rw [hsince, u64Sub]
    omega
  have hfresh : ¬ (begun.st.transitioning = true ∧
      u64Sub begun.st.lastBboNs begun.st.transitionStartNs > kTransitionTimeoutNs) := by
    rw [hage]
    simp
  unfold onBbo
  rw [if_neg h.valid]
  dsimp only
  rw [hbar]
  exact (if_pos (.inr hin)).trans (if_neg hfresh)

/-- A bar that begins the transition leaves nothing out but what it sends itself. -/
theorem Restarts.begun (h : t.Restarts cfg num env tick) :
    Begun t (t.onBbo cfg num env tick) := by
  obtain ⟨order, horder, haccepts, hid⟩ := h.taken
  obtain ⟨hregime, -, hexchange, -⟩ := barSeen_st cfg num t tick
  have hnet : (t.barSeen cfg num tick).netQty ≠ 0 := (barSeen_netQty cfg num).trans_ne h.position
  have hbegun := beginTransition_begun cfg num env (t.barSeen cfg num tick).st.hmm.dominant hnet
    horder haccepts hid
  generalize hturn : (t.barSeen cfg num tick).beginTransition cfg num env _ = begun at hbegun
  have hout := hbegun.withdrawn
  rw [onBbo_of_restarts cfg num env h hturn hbegun.transitioning hbegun.since]
  exact ⟨hbegun.id, hbegun.positions, hbegun.exchangeId.trans hexchange,
    hbegun.regime.trans hregime, hbegun.transitioning, hbegun.since,
    ⟨hout.momentum, hout.reversion, hout.bid, hout.ask⟩⟩

/-- The next one closes the position, and forgets any close before. -/
theorem Restarts.closes (h : t.Restarts cfg num env tick) (hout : t.st.Withdrawn) :
    ∃ order, (t.barSeen cfg num tick).flatOrder cfg env = some order ∧ env.accepts order = true ∧
      (t.onBbo cfg num env tick).actions = t.actions ++ [.sent .close order] ∧
      (t.onBbo cfg num env tick).nextOrderId = t.nextOrderId + 1 ∧
      (t.onBbo cfg num env tick).orderToInstrument =
        t.orderToInstrument.insert order.orderId t.id := by
  obtain ⟨order, horder, haccepts, hid⟩ := h.taken
  have hnet : (t.barSeen cfg num tick).netQty ≠ 0 := (barSeen_netQty cfg num).trans_ne h.position
  have hbegun := beginTransition_of_withdrawn cfg num env (t.barSeen cfg num tick).st.hmm.dominant
    (barSeen_withdrawn cfg num hout) hnet horder haccepts hid
  refine ⟨order, horder, haccepts, ?_⟩
  rw [onBbo_of_restarts cfg num env h hbegun rfl rfl]
  exact ⟨rfl, rfl, rfl⟩

/-- The order that closes a position of whole lots is as large as the position. -/
theorem flatOrder_quantity {order : OutboundNewOrder} (h : t.flatOrder cfg env = some order)
    (hnet : t.netQty ≠ 0) (hlots : WholeLots env.cache t.id t.netQty) :
    order.instrumentId = t.id ∧ order.side = t.flatSide ∧ order.quantity = t.netQty.natAbs := by
  obtain ⟨-, hinst, hside⟩ := of_outboundOrder cfg env h
  refine ⟨hinst, hside, ?_⟩
  have hpos : 0 < ofE8 t.netQty.natAbs := ofE8_pos.mpr (Int.natAbs_pos.mpr hnet)
  unfold flatOrder outboundOrder at h
  dsimp only at h
  split at h
  · split at h
    · cases h
    · next price quantity symbol hnorm =>
      cases h
      have hquantity := normaliseAndValidate_lots hlots hpos hnorm
      show (roundE8 quantity).toNat = _
      rw [hquantity, roundE8_ofE8]
      exact Int.toNat_natCast _
  · cases h

end Turn

end BptCore.Strategy.Hmm

namespace BptCore.Strategy.HmmStrategy

open BptCore.Features Hmm

variable (cfg : Config) (num : ExpNumerics) {s : HmmStrategy} {id : Nat} {st : InstrumentState}

/-! ## Bar after bar -/

/-- The tick of a callback. -/
def bbo? : Hmm.Callback → Option MdMarketData
  | .bbo tick => some tick
  | _ => none

/-- The callback is a tick that closes a bar of this kind for the instrument. -/
def RestartsBar (id : Nat) (s : HmmStrategy) (e : Hmm.Callback × Hmm.Surroundings) : Prop :=
  ∃ st ∈ s.state.lookup id, ∃ tick ∈ bbo? e.1,
    tick.instrumentId = id ∧ (s.turn id st).Restarts cfg num e.2 tick

instance (id : Nat) (s : HmmStrategy) (e : Hmm.Callback × Hmm.Surroundings) :
    Decidable (RestartsBar cfg num id s e) :=
  inferInstanceAs (Decidable (∃ st ∈ s.state.lookup id, ∃ tick ∈ bbo? e.1, _))

/-- What a callback of this kind comes to. -/
theorem RestartsBar.cases {e : Hmm.Callback × Hmm.Surroundings} (h : RestartsBar cfg num id s e)
    (hst : s.state.lookup id = some st) :
    ∃ tick env, e = (.bbo tick, env) ∧ tick.instrumentId = id ∧
      (s.turn tick.instrumentId st).Restarts cfg num env tick := by
  obtain ⟨st₀, hfound, tick, htick, hid, hrestarts⟩ := h
  obtain rfl : st = st₀ := Option.some.inj (hst.symm.trans hfound)
  obtain ⟨cb, env⟩ := e
  cases cb with
  | bbo tick' =>
    cases htick
    subst hid
    exact ⟨_, env, rfl, rfl, hrestarts⟩
  | _ => cases htick

/-- The instrument is in a transition from `regime`, with nothing out that it knows of but a
close. -/
structure Closing (s : HmmStrategy) (id : Nat) (exchangeId : ExchangeId) (regime : State)
    (positions : PositionTracker) (st : InstrumentState) : Prop where
  found : s.state.lookup id = some st
  withdrawn : st.Withdrawn
  transitioning : st.transitioning = true
  exchangeId : st.exchangeId = exchangeId
  regime : st.regime = regime
  positions : s.positions = positions

variable {cfg num}

/-- The first bar of this kind. -/
theorem RestartsBar.closing {e : Hmm.Callback × Hmm.Surroundings} (h : RestartsBar cfg num id s e)
    (hst : s.state.lookup id = some st) :
    ∃ st', Closing (s.step cfg num e).1 id st.exchangeId st.regime s.positions st' := by
  obtain ⟨tick, env, rfl, rfl, hrestarts⟩ := h.cases cfg num hst
  have hbegun := hrestarts.begun
  have hstep : s.step cfg num (.bbo tick, env) =
      s.commit ((s.turn tick.instrumentId st).onBbo cfg num env tick) :=
    withTurn_of_lookup hst (·.onBbo cfg num env tick)
  rw [hstep]
  generalize (s.turn tick.instrumentId st).onBbo cfg num env tick = t' at hbegun
  have hinst : t'.id = tick.instrumentId := hbegun.id
  refine ⟨t'.st, ?_, hbegun.withdrawn, hbegun.transitioning, hbegun.exchangeId, hbegun.regime,
    hbegun.positions⟩
  rw [commit, hinst]
  exact AList.lookup_insert _

/-- Every later one sends a close over the whole position. -/
theorem RestartsBar.close {e : Hmm.Callback × Hmm.Surroundings} (h : RestartsBar cfg num id s e)
    (hst : s.state.lookup id = some st) (hout : st.Withdrawn)
    (hlots : WholeLots e.2.cache id (s.positions.netQty id st.exchangeId)) :
    ∃ order, (s.step cfg num e).2 = [.sent .close order] ∧ order.instrumentId = id ∧
      order.side = (if s.positions.netQty id st.exchangeId > 0 then .SELL else .BUY) ∧
      order.quantity = (s.positions.netQty id st.exchangeId).natAbs ∧
      order.orderId = s.nextOrderId ∧ (s.step cfg num e).1.nextOrderId = s.nextOrderId + 1 ∧
      (s.step cfg num e).1.orderToInstrument = s.orderToInstrument.insert order.orderId id := by
  obtain ⟨tick, env, rfl, rfl, hrestarts⟩ := h.cases cfg num hst
  have hstep : s.step cfg num (.bbo tick, env) =
      s.commit ((s.turn tick.instrumentId st).onBbo cfg num env tick) :=
    withTurn_of_lookup hst (·.onBbo cfg num env tick)
  obtain ⟨order, horder, -, hactions, hnext, htracked⟩ := hrestarts.closes cfg num env hout
  have hnet : ((s.turn tick.instrumentId st).barSeen cfg num tick).netQty =
      s.positions.netQty tick.instrumentId st.exchangeId :=
    Turn.barSeen_netQty cfg num
  obtain ⟨hinst, hside, hquantity⟩ := Turn.flatOrder_quantity cfg env horder
    (hnet.trans_ne hrestarts.position) (hnet ▸ hlots)
  obtain ⟨hid, -, -⟩ := Turn.of_outboundOrder cfg env horder
  rw [hstep]
  refine ⟨order, hactions, hinst, ?_, hquantity.trans (by rw [hnet]), hid, hnext, htracked⟩
  rw [hside, Turn.flatSide, hnet]

/-- The instrument is still closing after another bar. -/
theorem Closing.again {exchangeId : ExchangeId} {regime : State} {positions : PositionTracker}
    (h : Closing s id exchangeId regime positions st) {e : Hmm.Callback × Hmm.Surroundings}
    (hbar : RestartsBar cfg num id s e) :
    ∃ st', Closing (s.step cfg num e).1 id exchangeId regime positions st' := by
  obtain ⟨st', h'⟩ := hbar.closing h.found
  exact ⟨st', h'.found, h'.withdrawn, h'.transitioning, h'.exchangeId.trans h.exchangeId,
    h'.regime.trans h.regime, h'.positions.trans h.positions⟩

/-- What bars of this kind send while the instrument is closing. -/
theorem Closing.run {exchangeId : ExchangeId} {regime : State} {positions : PositionTracker}
    {es : List (Hmm.Callback × Hmm.Surroundings)}
    (h : Closing s id exchangeId regime positions st)
    (hbars : Machine.AlongRun (step cfg num) (RestartsBar cfg num id) s es)
    (hlots : ∀ e ∈ es, WholeLots e.2.cache id (positions.netQty id exchangeId)) :
    ∃ orders : List OutboundNewOrder,
      Machine.outputs (step cfg num) s es = orders.map (.sent .close) ∧
      orders.length = es.length ∧
      (∀ o ∈ orders, o.instrumentId = id ∧
        o.side = (if positions.netQty id exchangeId > 0 then .SELL else .BUY) ∧
        o.quantity = (positions.netQty id exchangeId).natAbs ∧
        o.orderId ∈ (Machine.exec (step cfg num) s es).orderToInstrument) ∧
      (orders.map (·.orderId)).Pairwise (· < ·) ∧ (∀ o ∈ orders, s.nextOrderId ≤ o.orderId) ∧
      (∀ orderId ∈ s.orderToInstrument,
        orderId ∈ (Machine.exec (step cfg num) s es).orderToInstrument) ∧
      ∃ st', Closing (Machine.exec (step cfg num) s es) id exchangeId regime positions st' := by
  -- by induction on the bars, each of which finds the instrument closing
  induction es generalizing s st with
  | nil => exact ⟨[], rfl, rfl, by simp, by simp, by simp, fun _ hmem => hmem, st, h⟩
  | cons e es ih =>
    obtain ⟨hbar, hrest⟩ := hbars
    obtain ⟨st', hclosing⟩ := h.again hbar
    have hnet : s.positions.netQty id st.exchangeId = positions.netQty id exchangeId := by
      rw [h.positions, h.exchangeId]
    obtain ⟨order, hsent, hinst, hside, hquantity, hid, hnext, htracked⟩ :=
      hbar.close h.found h.withdrawn (hnet ▸ hlots e (by simp))
    obtain ⟨orders, houtputs, hlength, horders, hpairwise, hfrom, hkept, hend⟩ :=
      ih hclosing hrest fun e' he' => hlots e' (by simp [he'])
    have hmem : order.orderId ∈ (s.step cfg num e).1.orderToInstrument := by
      rw [htracked]
      exact (AList.mem_insert _).mpr (.inl rfl)
    refine ⟨order :: orders, ?_, ?_, ?_, ?_, ?_, ?_, hend⟩
    · rw [Machine.outputs, hsent, houtputs]
      rfl
    · simp [hlength]
    · rw [List.forall_mem_cons]
      exact ⟨⟨hinst, hnet ▸ hside, hnet ▸ hquantity, hkept _ hmem⟩, horders⟩
    · rw [List.map_cons, List.pairwise_cons]
      refine ⟨fun orderId hin => ?_, hpairwise⟩
      obtain ⟨o, ho, rfl⟩ := List.mem_map.mp hin
      have := hfrom o ho
      omega
    · rw [List.forall_mem_cons]
      refine ⟨hid.ge, fun o ho => ?_⟩
      have := hfrom o ho
      omega
    · intro orderId hin
      refine hkept orderId ?_
      rw [htracked]
      exact (AList.mem_insert _).mpr (.inr hin)

def sampleInstrument : Instrument where
  instrumentId := 7
  symbol := "BTC-USDT"
  exchange := "OKX"
  baseCurrency := "BTC"
  quoteCurrency := "USDT"
  type := .PERPETUAL
  status := .ACTIVE
  lotSize := 1 / 100
  tickSize := 1 / 10
  contractSize := 1
  expiryDate := 0
  optionSide := .NA
  strikePrice := 0

def sampleSurroundings : Hmm.Surroundings where
  cache id := if id = 7 then some sampleInstrument else none
  accepts _ := true

def sampleTick (timestampNs : Nat) : Hmm.Callback × Hmm.Surroundings :=
  (.bbo
    { timestampNs := timestampNs
      instrumentId := 7
      bidPrice := 99
      bidQty := 1
      askPrice := 101
      askQty := 1
      seqNum := 0 }, sampleSurroundings)

/-- Its means are what the sample bars show. -/
def sampleFilter : HmmFilter where
  params := { Params.defaultParams with mu := fun _ => ![0, 0, 200, 1 / 2, 0], sigma := fun _ _ => 1 }

def sampleState : InstrumentState where
  exchangeId := .OKX
  tickSize := 1 / 10
  lotSize := 1 / 100
  barStartNs := 1
  returns := { count := 30 }
  hmm := sampleFilter
  regime := .trendingUp
  regimeDwell := 5
  hasMomentumPosition := true
  momentumOrderId := 41

def sampleStrategy : HmmStrategy where
  state := (∅ : Table Nat InstrumentState).insert 7 sampleState
  nextOrderId := 42
  positions := PositionTracker.onFill {} 7 .OKX .BUY 100000000 10000000000

end BptCore.Strategy.HmmStrategy
