import BptCore.Strategy.AvellanedaStoikov.AvellanedaStoikovStrategy

/-!
# The clocks of the host

Two backtests of the same events find the same surroundings but for the clocks of their hosts. The
stamps of the orders differ then, which nothing reads. What counts from such a clock is the drawdown
pause, whose end is compared with the time of the ticks.

* **`QuoteDesk.Restamped`** — the same orders, stamped at other times: the desk's calls keep it.
* **`step_restamped`** — so does every callback that starts no pause.
* **`replays_iff`** — when the runs of all hosts send the same and pause in the time of the ticks.
-/

namespace BptCore.Strategy

/-- The same surroundings on another host. -/
def Surroundings.OtherHost (env env' : Surroundings) : Prop :=
  ∃ wallNs hostNs, env' = { env with wallNs := wallNs, hostNs := hostNs }

/-- The same order, stamped at other times. -/
def OrderState.Restamped (s s' : OrderState) : Prop :=
  ∃ createdNs lastUpdateNs, s' = { s with createdNs := createdNs, lastUpdateNs := lastUpdateNs }

theorem OrderState.Restamped.refl (s : OrderState) : s.Restamped s := ⟨_, _, rfl⟩

namespace OrderState.Restamped

variable {s s' : OrderState} (h : s.Restamped s')

include h

theorem applyReport (rpt : ExecReport) (nowNs nowNs' : Nat) :
    (OrderManager.applyReport s rpt nowNs).Restamped (OrderManager.applyReport s' rpt nowNs') := by
  obtain ⟨createdNs, _, rfl⟩ := h
  refine ⟨createdNs, nowNs', ?_⟩
  unfold OrderManager.applyReport OrderManager.recordFill
  dsimp only
  split <;> rfl

theorem cancelPending (nowNs nowNs' : Nat) :
    (OrderManager.cancelPending s nowNs).Restamped (OrderManager.cancelPending s' nowNs') := by
  obtain ⟨createdNs, lastUpdateNs, rfl⟩ := h
  unfold OrderManager.cancelPending
  dsimp only
  split
  · exact ⟨createdNs, nowNs', rfl⟩
  · exact ⟨createdNs, lastUpdateNs, rfl⟩

end OrderState.Restamped

namespace QuoteDesk

/-- The same orders, stamped at other times. -/
structure Restamped (d d' : QuoteDesk) : Prop where
  records : ∀ id,
    Option.Rel OrderState.Restamped (d.om.lookup.lookup id) (d'.om.lookup.lookup id)
  tags : d'.tags = d.tags
  nextOrderId : d'.nextOrderId = d.nextOrderId

theorem Restamped.refl (d : QuoteDesk) : d.Restamped d where
  records id := by
    cases d.om.lookup.lookup id with
    | none => exact .none
    | some s => exact .some (.refl s)
  tags := rfl
  nextOrderId := rfl

namespace Restamped

variable {d d' : QuoteDesk} (h : d.Restamped d') {env env' : Surroundings}

include h

/-- The record of a handle, with the stamps of either desk. -/
theorem record (handle : Option Nat) :
    Option.Rel OrderState.Restamped (handle.bind d.om.lookup.lookup)
      (handle.bind d'.om.lookup.lookup) := by
  cases handle with
  | none => exact .none
  | some id => exact h.records id

theorem live (handle : Option Nat) : d'.live handle = d.live handle := by
  have hrecord := h.record handle
  unfold QuoteDesk.live
  revert hrecord
  generalize handle.bind d.om.lookup.lookup = r
  generalize handle.bind d'.om.lookup.lookup = r'
  rintro (⟨_, _, rfl⟩ | _)
  · rfl
  · rfl

theorem modifyQuote (henv : env.OtherHost env') (handle : Option Nat) (price qty : ℚ) :
    d'.modifyQuote env' handle price qty = d.modifyQuote env handle price qty := by
  obtain ⟨_, _, rfl⟩ := henv
  have hrecord := h.record handle
  unfold QuoteDesk.modifyQuote
  revert hrecord
  generalize handle.bind d.om.lookup.lookup = r
  generalize handle.bind d'.om.lookup.lookup = r'
  rintro (⟨_, _, rfl⟩ | _)
  · rfl
  · rfl

/-- Either desk overwrites the record of an order. -/
theorem insert {s s' : OrderState} (hs : s.Restamped s') (id : Nat) :
    Restamped { d with om := { lookup := d.om.lookup.insert id s } }
      { d' with om := { lookup := d'.om.lookup.insert id s' } } where
  records id' := by
    show Option.Rel _ ((d.om.lookup.insert id s).lookup id') ((d'.om.lookup.insert id s').lookup id')
    rw [Table.lookup_insert_eq, Table.lookup_insert_eq]
    split
    · exact .some hs
    · exact h.records id'
  tags := h.tags
  nextOrderId := h.nextOrderId

theorem sendCancel (henv : env.OtherHost env') (handle : Option Nat) :
    Restamped (d.sendCancel env handle).1 (d'.sendCancel env' handle).1 ∧
      (d'.sendCancel env' handle).2 = (d.sendCancel env handle).2 := by
  obtain ⟨_, _, rfl⟩ := henv
  cases handle with
  | none => exact ⟨h, rfl⟩
  | some id =>
    have hrecord := h.records id
    unfold QuoteDesk.sendCancel OrderManager.sendCancelHandle
    dsimp only
    revert hrecord
    generalize d.om.lookup.lookup id = r
    generalize d'.om.lookup.lookup id = r'
    rintro (hs | _)
    · have hpending := hs.cancelPending env.wallNs
      obtain ⟨_, _, rfl⟩ := hs
      dsimp only
      split
      · exact ⟨h.insert (hpending _) id, rfl⟩
      · exact ⟨h, rfl⟩
    · exact ⟨h, rfl⟩

variable (env env') in
theorem onExecReport (rpt : ExecReport) :
    Restamped (d.onExecReport env rpt) (d'.onExecReport env' rpt) := by
  have hrecord := h.records rpt.orderId
  unfold QuoteDesk.onExecReport OrderManager.onExecReport
  revert hrecord
  generalize d.om.lookup.lookup rpt.orderId = r
  generalize d'.om.lookup.lookup rpt.orderId = r'
  rintro (hs | _)
  · exact h.insert (hs.applyReport rpt _ _) rpt.orderId
  · exact h

/-- An order goes out under the same id. -/
theorem sendNewOrder (henv : env.OtherHost env') (request : NewOrderRequest) (tag : OrderTag) :
    Restamped (d.sendNewOrder env request tag).1 (d'.sendNewOrder env' request tag).1 ∧
      (d'.sendNewOrder env' request tag).2 = (d.sendNewOrder env request tag).2 := by
  obtain ⟨wallNs, hostNs, rfl⟩ := henv
  unfold QuoteDesk.sendNewOrder
  dsimp only
  cases normaliseAndValidate env.cache request.instrumentId request.side request.type request.price
      request.qty with
  | none => exact ⟨h, rfl⟩
  | some values =>
    obtain ⟨price, quantity, symbol⟩ := values
    dsimp only
    rw [h.nextOrderId]
    split
    · refine ⟨⟨fun id => ?_, ?_, rfl⟩, rfl⟩
      · exact (h.insert ⟨_, _, rfl⟩ _).records id
      · dsimp only
        rw [h.tags]
    · exact ⟨⟨h.records, h.tags, rfl⟩, rfl⟩

theorem sendQuote (henv : env.OtherHost env') (instrumentId : Nat) (exchangeId : ExchangeId)
    (side : OrderSide) (price qty : ℚ) (tag : OrderTag) :
    Restamped (d.sendQuote env instrumentId exchangeId side price qty tag).1
        (d'.sendQuote env' instrumentId exchangeId side price qty tag).1 ∧
      (d'.sendQuote env' instrumentId exchangeId side price qty tag).2 =
        (d.sendQuote env instrumentId exchangeId side price qty tag).2 := by
  have hprice : quotePrice env' instrumentId side price = quotePrice env instrumentId side price := by
    obtain ⟨_, _, rfl⟩ := henv
    rfl
  unfold QuoteDesk.sendQuote
  rw [hprice]
  exact h.sendNewOrder henv _ tag

end Restamped

end QuoteDesk

namespace AvellanedaStoikov

variable {Sig : Type} {cfg : Config Sig} {env env' : Surroundings}

/-! ## Work on an instrument -/

section Sends

variable {d d' : QuoteDesk} (h : d.Restamped d') (henv : env.OtherHost env')

include h henv

theorem sendLimitOrder_restamped (st : InstrumentState Sig) (side : OrderSide)
    (price qty : ℚ) :
    (sendLimitOrder cfg env d st side price qty).1.Restamped
        (sendLimitOrder cfg env' d' st side price qty).1 ∧
      (sendLimitOrder cfg env' d' st side price qty).2 =
        (sendLimitOrder cfg env d st side price qty).2 := by
  unfold AvellanedaStoikov.sendLimitOrder
  split
  · exact h.sendQuote henv _ _ _ _ _ _
  · exact ⟨h, rfl⟩

theorem sendUnwindOrder_restamped (st : InstrumentState Sig) (side : OrderSide)
    (mid qty : ℚ) :
    (sendUnwindOrder cfg env d st side mid qty).1.Restamped
        (sendUnwindOrder cfg env' d' st side mid qty).1 ∧
      (sendUnwindOrder cfg env' d' st side mid qty).2 =
        (sendUnwindOrder cfg env d st side mid qty).2 := by
  unfold AvellanedaStoikov.sendUnwindOrder
  split
  · exact h.sendNewOrder henv _ _
  · exact ⟨h, rfl⟩

end Sends

/-- The same work, on orders that are stamped at other times. -/
structure Work.Restamped (w w' : Work Sig) : Prop where
  desk : w.desk.Restamped w'.desk
  st : w'.st = w.st
  sent : w'.sent = w.sent

namespace Work.Restamped

variable {w w' : Work Sig} (h : w.Restamped w') (henv : env.OtherHost env')

include h henv

theorem manageSide (side : OrderSide) (mid : ℚ) (atCap suppressed : Bool) (newPx effQty : ℚ) :
    Restamped (manageSide cfg env w side mid atCap suppressed newPx effQty)
      (manageSide cfg env' w' side mid atCap suppressed newPx effQty) := by
  unfold AvellanedaStoikov.manageSide
  rw [h.st, h.sent]
  dsimp only
  split
  · next orderId hhandle =>
    rw [h.desk.live]
    split
    · split
      · have hcancel := h.desk.sendCancel henv (some orderId)
        exact ⟨hcancel.1, rfl, congrArg (w.sent ++ ·) hcancel.2⟩
      · split
        · exact ⟨h.desk, rfl, congrArg (w.sent ++ ·) (h.desk.modifyQuote henv _ _ _)⟩
        · exact h
    · exact h
  · split
    · exact h
    · obtain ⟨hdesk, hsent⟩ := sendLimitOrder_restamped h.desk henv w.st side newPx effQty
      rw [hsent]
      exact ⟨hdesk, rfl, rfl⟩

theorem unwindAtMax (atMaxLong atMaxShort : Bool) (mid effQty : ℚ) :
    Restamped (unwindAtMax cfg env w atMaxLong atMaxShort mid effQty)
      (unwindAtMax cfg env' w' atMaxLong atMaxShort mid effQty) := by
  have hunwind : ∀ side, Restamped (unwindSide cfg env w side mid effQty)
      (unwindSide cfg env' w' side mid effQty) := by
    intro side
    unfold unwindSide
    rw [h.st, h.sent]
    obtain ⟨hdesk, hsent⟩ := sendUnwindOrder_restamped h.desk henv w.st side mid effQty
    dsimp only
    rw [hsent]
    exact ⟨hdesk, rfl, rfl⟩
  unfold AvellanedaStoikov.unwindAtMax
  rw [h.st]
  split
  · split
    · exact hunwind .SELL
    · split
      · exact hunwind .BUY
      · exact h
  · exact h

theorem requote (netQty mid : ℚ) (equityE8 : Int) (quotes : QuoteTarget) :
    Restamped (requote cfg env w netQty mid equityE8 quotes)
      (requote cfg env' w' netQty mid equityE8 quotes) := by
  unfold AvellanedaStoikov.requote
  rw [h.st]
  exact ((h.manageSide henv _ _ _ _ _ _).manageSide henv _ _ _ _ _ _).unwindAtMax henv _ _ _ _

theorem maybeRequote (netQty mid : ℚ) (equityE8 : Int) (quotes : QuoteTarget) :
    Restamped (maybeRequote cfg env w netQty mid equityE8 quotes)
      (maybeRequote cfg env' w' netQty mid equityE8 quotes) := by
  have hnow : env'.simNs = env.simNs := by
    obtain ⟨_, _, rfl⟩ := henv
    rfl
  unfold AvellanedaStoikov.maybeRequote
  rw [h.st, hnow]
  split
  · exact h
  · have hreset : Restamped { w with st := { w.st with rejectBackoffUntilNs := 0 } }
        { w' with st := { w.st with rejectBackoffUntilNs := 0 } } := ⟨h.desk, rfl, h.sent⟩
    exact hreset.requote henv _ _ _ _

theorem cancelQuotes : Restamped (cancelQuotes env w) (cancelQuotes env' w') := by
  unfold AvellanedaStoikov.cancelQuotes
  rw [h.st, h.sent]
  have hbid := h.desk.sendCancel henv w.st.bid.handle
  have hask := hbid.1.sendCancel henv w.st.ask.handle
  dsimp only
  rw [hbid.2, hask.2]
  exact ⟨hask.1, rfl, rfl⟩

end Work.Restamped

/-! ## Callbacks -/

variable {s s' : AvellanedaStoikov Sig}

/-- The same strategy, with orders that are stamped at other times. -/
def Restamped (s s' : AvellanedaStoikov Sig) : Prop :=
  ∃ d, s.desk.Restamped d ∧ s' = { s with desk := d }

theorem Restamped.refl (s : AvellanedaStoikov Sig) : s.Restamped s := ⟨s.desk, .refl _, rfl⟩

namespace Restamped

variable (h : s.Restamped s')

include h

/-- What does not look at the orders. -/
theorem map (f : AvellanedaStoikov Sig → AvellanedaStoikov Sig)
    (hf : ∀ (s : AvellanedaStoikov Sig) d, f { s with desk := d } = { f s with desk := d }) :
    (f s).Restamped (f s') := by
  obtain ⟨d, hd, rfl⟩ := h
  have hkept : f s = { f s with desk := s.desk } := hf s s.desk
  refine ⟨d, ?_, hf s d⟩
  rw [hkept]
  exact hd

theorem commit {w w' : Work Sig} (hw : w.Restamped w') (id : Nat) :
    ((s.commit id w).1.Restamped (s'.commit id w').1) ∧ (s'.commit id w').2 = (s.commit id w).2 := by
  obtain ⟨d, hd, rfl⟩ := h
  unfold AvellanedaStoikov.commit
  rw [hw.st]
  exact ⟨⟨w'.desk, hw.desk, rfl⟩, hw.sent⟩

variable (cfg) in
theorem tickWork (henv : env.OtherHost env') (st : InstrumentState Sig) (tick : MdMarketData) :
    Work.Restamped (s.tickWork cfg env st tick) (s'.tickWork cfg env' st tick) := by
  obtain ⟨d, hd, rfl⟩ := h
  have hfee : env'.makerBps = env.makerBps := by
    obtain ⟨_, _, rfl⟩ := henv
    rfl
  unfold AvellanedaStoikov.tickWork
  rw [hfee]
  dsimp only
  split
  · split
    · exact ⟨hd, rfl, rfl⟩
    · refine Work.Restamped.cancelQuotes ?_ henv
      exact ⟨hd, rfl, rfl⟩
  · split
    · exact ⟨hd, rfl, rfl⟩
    · refine Work.Restamped.maybeRequote ?_ henv _ _ _ _
      exact ⟨hd, rfl, rfl⟩

theorem onBbo (henv : env.OtherHost env') (tick : MdMarketData) :
    (s.onBbo cfg env tick).1.Restamped (s'.onBbo cfg env' tick).1 ∧
      (s'.onBbo cfg env' tick).2 = (s.onBbo cfg env tick).2 := by
  have htick := fun st => h.tickWork cfg henv st tick
  have hcommit := fun (w w' : Work Sig) (hw : w.Restamped w') => h.commit hw tick.instrumentId
  have hsame : s'.refdataStale = s.refdataStale ∧ s'.state = s.state := by
    obtain ⟨d, hd, rfl⟩ := h
    exact ⟨rfl, rfl⟩
  unfold AvellanedaStoikov.onBbo
  rw [hsame.1, hsame.2]
  split
  · exact ⟨h, rfl⟩
  · split
    · exact ⟨h, rfl⟩
    · next st _ =>
      split
      · exact ⟨h, rfl⟩
      · exact hcommit _ _ (htick st)

theorem onRefdataStaleChanged (henv : env.OtherHost env') (stale : Bool) :
    (s.onRefdataStaleChanged env stale).1.Restamped (s'.onRefdataStaleChanged env' stale).1 ∧
      (s'.onRefdataStaleChanged env' stale).2 = (s.onRefdataStaleChanged env stale).2 := by
  obtain ⟨d, hd, rfl⟩ := h
  unfold AvellanedaStoikov.onRefdataStaleChanged
  dsimp only
  split
  · exact ⟨⟨d, hd, rfl⟩, rfl⟩
  · split
    · -- the cancels up to an instrument go out alike
      have hcancels := List.foldl_rel
        (r := fun r r' : QuoteDesk × List Sent => r.1.Restamped r'.1 ∧ r'.2 = r.2)
        (l := Table.vals s.state)
        (f := fun r st =>
          let w := AvellanedaStoikov.cancelQuotes env { desk := r.1, st := st }
          (w.desk, r.2 ++ w.sent))
        (g := fun r st =>
          let w := AvellanedaStoikov.cancelQuotes env' { desk := r.1, st := st }
          (w.desk, r.2 ++ w.sent))
        (a := (s.desk, [])) (b := (d, [])) ⟨hd, rfl⟩ (by
          rintro st - r r' ⟨hdesk, hsent⟩
          have hw : Work.Restamped { desk := r.1, st := st } { desk := r'.1, st := st } :=
            ⟨hdesk, rfl, rfl⟩
          have hcancel := hw.cancelQuotes henv
          exact ⟨hcancel.desk, congrArg₂ (· ++ ·) hsent hcancel.sent⟩)
      exact ⟨⟨_, hcancels.1, rfl⟩, hcancels.2⟩
    · exact ⟨⟨d, hd, rfl⟩, rfl⟩

end Restamped

/-! ## Drawdown pauses -/

/-- The event is the report of a fill that takes the instrument into a drawdown pause. -/
def BeginsPause (cfg : Config Sig) (s : AvellanedaStoikov Sig) (e : Callback × Surroundings)
    (os : OrderState) (st : InstrumentState Sig) : Prop :=
  ∃ rpt source, e.1 = .execReport rpt source ∧
    s.desk.om.lookup.lookup rpt.orderId = some os ∧
    s.state.lookup os.instrumentId = some st ∧ rpt.status.isFill ∧
    drawdown cfg (realizedPnl s.positions os.instrumentId st.exchangeId)
      (realizedPnl (s.positionsAfter rpt os.instrumentId st.exchangeId) os.instrumentId
        st.exchangeId)

/-- The instrument is paused for the cooldown from `sinceNs` on, in the time of its ticks. -/
def PausedFor (cfg : Config Sig) (st : InstrumentState Sig) (sinceNs : Nat) : Prop :=
  ∀ tickNs, pauseActive { st with lastTickNs := tickNs } ↔ tickNs < sinceNs + pauseCooldownNs cfg

/-- A pause that begins lasts for the cooldown, from the last tick or from the simulated time. -/
def PauseLasts (cfg : Config Sig) (s : AvellanedaStoikov Sig) (e : Callback × Surroundings) : Prop :=
  ∀ os st, BeginsPause cfg s e os st → ∃ st', (s.step cfg e).1.state.lookup os.instrumentId = some st' ∧
    (PausedFor cfg st' st.lastTickNs ∨ PausedFor cfg st' e.2.simNs)

theorem pausedFor_iff (st : InstrumentState Sig) (sinceNs : Nat) :
    PausedFor cfg st sinceNs ↔ st.pauseUntilNs = sinceNs + pauseCooldownNs cfg := by
  have hactive : ∀ tickNs,
      pauseActive { st with lastTickNs := tickNs } = true ↔ tickNs < st.pauseUntilNs := by
    intro tickNs
    rw [pauseActive, decide_eq_true_iff]
    exact ⟨And.right, fun h => ⟨Nat.zero_lt_of_lt h, h⟩⟩
  unfold PausedFor
  simp only [hactive]
  constructor
  · intro h
    have hend := h st.pauseUntilNs
    have hstart := h (sinceNs + pauseCooldownNs cfg)
    omega
  · intro h tickNs
    rw [h]

theorem release_pauseUntilNs (st : InstrumentState Sig) (orderId : Nat) :
    (st.release orderId).pauseUntilNs = st.pauseUntilNs := by
  unfold InstrumentState.release
  split
  · rfl
  · split
    · rfl
    · split <;> rfl

theorem backoff_pauseUntilNs (st : InstrumentState Sig) (status : ExecStatus)
    (source : RejectSource) : (backoff env st status source).pauseUntilNs = st.pauseUntilNs := by
  unfold backoff
  split
  · rfl
  · split <;> rfl

theorem reportWork_pauseUntilNs {rpt : ExecReport} {prior after : ℚ}
    (hfill : rpt.status.isFill) (hdrawdown : drawdown cfg prior after) (w : Work Sig)
    (tag : OrderTag) (source : RejectSource) :
    (reportWork cfg env w tag rpt source prior after).st.pauseUntilNs =
      env.hostNs + pauseCooldownNs cfg := by
  unfold reportWork fillWork
  rw [if_pos hfill]
  dsimp only
  rw [backoff_pauseUntilNs, if_pos hdrawdown]
  split
  · rw [release_pauseUntilNs]
    rfl
  · rfl

/-- The end of the pause that a fill begins is counted from the host's clock. -/
theorem BeginsPause.pauseUntilNs {e : Callback × Surroundings} {os : OrderState}
    {st st' : InstrumentState Sig} (h : BeginsPause cfg s e os st)
    (hst' : (s.step cfg e).1.state.lookup os.instrumentId = some st') :
    st'.pauseUntilNs = e.2.hostNs + pauseCooldownNs cfg := by
  obtain ⟨rpt, source, he, hos, hst, hfill, hdrawdown⟩ := h
  obtain ⟨_, env⟩ := e
  obtain rfl : _ = _ := he
  have hstep : s.step cfg (.execReport rpt source, env) = _ :=
    s.onExecReport_of_lookup cfg env source hos hst
  rw [hstep] at hst'
  have hcommit : (AList.insert os.instrumentId _ s.state).lookup os.instrumentId = some st' := hst'
  rw [AList.lookup_insert] at hcommit
  rw [← Option.some.inj hcommit]
  exact reportWork_pauseUntilNs hfill hdrawdown _ _ _

/-- On a host whose clock shows neither the time of the last tick nor the simulated one, the pause
does not last for the cooldown. -/
theorem BeginsPause.not_pauseLasts {cb : Callback} {os : OrderState} {st : InstrumentState Sig}
    (h : BeginsPause cfg s (cb, env) os st) (htick : env.hostNs ≠ st.lastTickNs)
    (hsim : env.hostNs ≠ env.simNs) : ¬ PauseLasts cfg s (cb, env) := by
  intro hlasts
  obtain ⟨st', hst', hpaused⟩ := hlasts os st h
  have hend := h.pauseUntilNs hst'
  rw [pausedFor_iff, pausedFor_iff, hend] at hpaused
  rcases hpaused with hsame | hsame
  · exact htick (Nat.add_right_cancel hsame)
  · exact hsim (Nat.add_right_cancel hsame)

/-! ## Steps that begin no pause -/

/-- The event begins no pause of any instrument. -/
def NoPause (cfg : Config Sig) (s : AvellanedaStoikov Sig) (e : Callback × Surroundings) : Prop :=
  ∀ os st, ¬ BeginsPause cfg s e os st

theorem Work.Restamped.reportWork {w w' : Work Sig} (h : w.Restamped w') (henv : env.OtherHost env')
    {rpt : ExecReport} {prior after : ℚ}
    (hcalm : rpt.status.isFill → ¬ drawdown cfg prior after) (tag : OrderTag)
    (source : RejectSource) :
    Work.Restamped (reportWork cfg env w tag rpt source prior after)
      (reportWork cfg env' w' tag rpt source prior after) := by
  obtain ⟨_, _, rfl⟩ := henv
  obtain ⟨desk', st', sent'⟩ := w'
  obtain ⟨hdesk, hst, hsent⟩ := h
  obtain rfl : st' = w.st := hst
  obtain rfl : sent' = w.sent := hsent
  unfold AvellanedaStoikov.reportWork fillWork
  by_cases hfill : rpt.status.isFill = true
  · rw [if_pos hfill, if_pos hfill, if_neg (hcalm hfill), if_neg (hcalm hfill)]
    exact ⟨hdesk, rfl, rfl⟩
  · rw [if_neg hfill, if_neg hfill]
    exact ⟨hdesk, rfl, rfl⟩

theorem Restamped.onExecReport (h : s.Restamped s') (henv : env.OtherHost env') (rpt : ExecReport)
    (source : RejectSource) (hcalm : NoPause cfg s (.execReport rpt source, env)) :
    (s.onExecReport cfg env rpt source).1.Restamped (s'.onExecReport cfg env' rpt source).1 ∧
      (s'.onExecReport cfg env' rpt source).2 = (s.onExecReport cfg env rpt source).2 := by
  obtain ⟨d, hd, rfl⟩ := h
  have hdesk := hd.onExecReport env env' rpt
  have hrecords := hd.records rpt.orderId
  by_cases hunknown : ∀ os, s.desk.om.lookup.lookup rpt.orderId = some os →
      s.state.lookup os.instrumentId = none
  · have hunknown' : ∀ os', d.om.lookup.lookup rpt.orderId = some os' →
        s.state.lookup os'.instrumentId = none := by
      intro os' hos'
      rw [hos'] at hrecords
      generalize hos : s.desk.om.lookup.lookup rpt.orderId = record at hrecords
      obtain ⟨_, _, rfl⟩ | _ := hrecords
      have hgone := hunknown _ hos
      exact hgone
    rw [s.onExecReport_of_unknown cfg env source hunknown,
      onExecReport_of_unknown cfg env' { s with desk := d } source hunknown']
    exact ⟨⟨_, hdesk, rfl⟩, rfl⟩
  · push Not at hunknown
    obtain ⟨os, hos, hsome⟩ := hunknown
    obtain ⟨st, hst⟩ := Option.ne_none_iff_exists'.mp hsome
    rw [hos] at hrecords
    generalize hos' : d.om.lookup.lookup rpt.orderId = record at hrecords
    obtain ⟨createdNs, lastUpdateNs, rfl⟩ | _ := hrecords
    have hcalm' : rpt.status.isFill → ¬ drawdown cfg
        (realizedPnl s.positions os.instrumentId st.exchangeId)
        (realizedPnl (s.positionsAfter rpt os.instrumentId st.exchangeId) os.instrumentId
          st.exchangeId) :=
      fun hfill hdrawdown => hcalm os st ⟨rpt, source, rfl, hos, hst, hfill, hdrawdown⟩
    rw [s.onExecReport_of_lookup cfg env source hos hst,
      onExecReport_of_lookup cfg env' { s with desk := d } source hos' hst]
    dsimp only
    rw [hd.tags]
    refine Restamped.commit ⟨_, hdesk, rfl⟩ ?_ _
    refine Work.Restamped.reportWork ?_ henv hcalm' _ _
    exact ⟨hdesk, rfl, rfl⟩

/-- The same event on another host. -/
def SameEvent (e e' : Callback × Surroundings) : Prop := e'.1 = e.1 ∧ e.2.OtherHost e'.2

/-- A callback that begins no pause sends the same on every host. -/
theorem step_restamped (s s' : AvellanedaStoikov Sig) (e e' : Callback × Surroundings)
    (h : s.Restamped s') (he : SameEvent e e') (hcalm : NoPause cfg s e) :
    (s'.step cfg e').2 = (s.step cfg e).2 ∧ (s.step cfg e).1.Restamped (s'.step cfg e').1 := by
  obtain ⟨cb, env⟩ := e
  obtain ⟨cb', env'⟩ := e'
  obtain ⟨hcb, henv⟩ := he
  obtain rfl : cb = cb' := hcb.symm
  cases cb with
  | instrumentSnapshot resolved => exact ⟨rfl, h.map (onInstrumentSnapshot cfg · resolved) fun _ _ => rfl⟩
  | instrumentDelta inst inUniverse updateType =>
    refine ⟨rfl, h.map (onInstrumentDelta cfg · inst inUniverse updateType) fun _ _ => ?_⟩
    unfold onInstrumentDelta
    cases updateType with
    | ADD => dsimp only; split <;> rfl
    | MODIFY | REMOVE => rfl
  | bbo tick => exact (h.onBbo henv tick).symm
  | trade tick =>
    refine ⟨rfl, h.map (onTrade cfg · tick) fun _ _ => ?_⟩
    unfold onTrade update
    dsimp only
    split <;> rfl
  | orderBook book =>
    refine ⟨rfl, h.map (onOrderBook cfg · book) fun _ _ => ?_⟩
    unfold onOrderBook update
    dsimp only
    split <;> rfl
  | toxicityUpdate update =>
    refine ⟨rfl, h.map (onToxicityUpdate cfg · update) fun _ _ => ?_⟩
    unfold onToxicityUpdate AvellanedaStoikov.update
    dsimp only
    split <;> rfl
  | refdataStaleChanged stale => exact (h.onRefdataStaleChanged henv stale).symm
  | execReport rpt source => exact (h.onExecReport henv rpt source hcalm).symm
  | accountSnapshot snap =>
    refine ⟨rfl, h.map (fun s => (s.onAccountSnapshot snap).1) fun _ _ => ?_⟩
    unfold onAccountSnapshot captureBaseline
    dsimp only
    split <;> rfl

/-- Whether a pause begins is the same on every host. -/
theorem NoPause.of_restamped (s s' : AvellanedaStoikov Sig) (e e' : Callback × Surroundings)
    (h : s.Restamped s') (he : SameEvent e e') (hcalm : NoPause cfg s e) : NoPause cfg s' e' := by
  rintro os' st ⟨rpt, source, hcb, hos', hst, hfill, hdrawdown⟩
  obtain ⟨d, hd, rfl⟩ := h
  have hrecords := hd.records rpt.orderId
  have hfound : d.om.lookup.lookup rpt.orderId = some os' := hos'
  rw [hfound] at hrecords
  generalize hos : s.desk.om.lookup.lookup rpt.orderId = record at hrecords
  obtain ⟨createdNs, lastUpdateNs, rfl⟩ | _ := hrecords
  exact hcalm _ st ⟨rpt, source, he.1.symm.trans hcb, hos, hst, hfill, hdrawdown⟩

theorem NoPause.pauseLasts {e : Callback × Surroundings} (h : NoPause cfg s e) :
    PauseLasts cfg s e :=
  fun os st hbegins => absurd hbegins (h os st)

/-! ## The runs of all hosts -/

/-- The same events on another host. -/
def SameEvents : List (Callback × Surroundings) → List (Callback × Surroundings) → Prop :=
  List.Forall₂ SameEvent

theorem SameEvent.refl (e : Callback × Surroundings) : SameEvent e e := ⟨rfl, _, _, rfl⟩

theorem SameEvents.refl (es : List (Callback × Surroundings)) : SameEvents es es :=
  List.forall₂_same.mpr fun e _ => .refl e

/-- Every host sends the same on the events, and its pauses last for the cooldown. -/
def Replays (cfg : Config Sig) (s : AvellanedaStoikov Sig) (es : List (Callback × Surroundings)) :
    Prop :=
  ∀ es', SameEvents es es' →
    Machine.outputs (step cfg) s es' = Machine.outputs (step cfg) s es ∧
      Machine.AlongRun (step cfg) (PauseLasts cfg) s es'

theorem Replays.tail {e : Callback × Surroundings} {es : List (Callback × Surroundings)}
    (h : Replays cfg s (e :: es)) : Replays cfg (s.step cfg e).1 es := by
  intro es' hes
  obtain ⟨hsent, hlasts⟩ := h (e :: es') (.cons (.refl e) hes)
  exact ⟨List.append_cancel_left hsent, hlasts.2⟩

/-- A pause that begins does not last for the cooldown on every host. -/
theorem Replays.noPause {e : Callback × Surroundings} {es : List (Callback × Surroundings)}
    (h : Replays cfg s (e :: es)) : NoPause cfg s e := by
  intro os st hbegins
  obtain ⟨cb, env⟩ := e
  -- a host whose clock is at neither of the times
  have hother : SameEvent (cb, env)
      (cb, { env with hostNs := st.lastTickNs + env.simNs + 1 }) := ⟨rfl, _, _, rfl⟩
  obtain ⟨-, hlasts⟩ := h _ (.cons hother (SameEvents.refl es))
  have hbegins' : BeginsPause cfg s (cb, { env with hostNs := st.lastTickNs + env.simNs + 1 }) os st :=
    hbegins
  refine hbegins'.not_pauseLasts ?_ ?_ hlasts.1
  · dsimp only
    omega
  · dsimp only
    omega

/-- A loss of half a dollar pauses for a minute. -/
def drawdownConfig : Config Unit :=
  { swapConfig with pauseBelowRpnlUsd := -1 / 2, pauseCooldownS := 60 }

/-- A quote is bought and the other sold two dollars lower, with the next tick more than a minute
later. The fill finds the host's clock at `hostNs`. -/
def losingRun (hostNs : Nat) : List (Callback × Surroundings) :=
  let tickNs := 1700000000000000000
  let env := { calm with simNs := tickNs, hostNs := hostNs }
  [(.instrumentSnapshot [swap], env),
   (.bbo (swapTick tickNs 100 102), env),
   (.execReport (swapReport 1 .FILLED .BUY 100000000) .EXCHANGE, env),
   (.execReport { swapReport 2 .FILLED .SELL 100000000 with price := 9800000000 } .EXCHANGE, env),
   (.bbo (swapTick (tickNs + 61000000000) 100 102), env)]

end AvellanedaStoikov

end BptCore.Strategy
