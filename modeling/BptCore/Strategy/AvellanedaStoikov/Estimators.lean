import BptCore.Features.Ewma
import BptCore.Features.RegimeDetector
import BptCore.Strategy.AvellanedaStoikov.AvellanedaStoikovStrategy

/-!
# The estimators of the Avellaneda-Stoikov strategy

Variance, drift, arrival rate and regime of an instrument, which the signals of the strategy keep
next to everything else that they keep. Only ticks and trades feed them, whatever the strategy does
with its orders.

* **`Estimators`** — the four, with the time of the last trade.
* **`withEstimators`** — any signals, with the estimators among their state.
* **`MarketView`** — what the strategy knows of an instrument from its market data alone.
* **`lookup_step`** — a tick or a trade moves the view on, in the same way in any state.
* **`step_allVals`** — what ticks and trades keep, every callback keeps.
-/

namespace BptCore.Strategy.AvellanedaStoikov

open BptCore.Features

structure EstimatorConfig where
  volHalflifeS : ℚ
  driftHalflifeS : ℚ
  kappaHalflifeS : ℚ
  regime : RegimeConfig := {}

structure Estimators where
  ewmaVar : EwmaVariance
  ewmaDrift : EwmaDrift
  ewmaKappa : KappaEstimator
  regime : RegimeDetector
  lastTradeNs : Nat := 0
  deriving DecidableEq, Repr

namespace Estimators

def make (c : EstimatorConfig) : Estimators where
  ewmaVar := { ewma := { halflifeS := c.volHalflifeS } }
  ewmaDrift := { ewma := { halflifeS := c.driftHalflifeS } }
  ewmaKappa := { ewma := { halflifeS := c.kappaHalflifeS } }
  regime := { cfg := c.regime }

variable (num : ExpNumerics) (e : Estimators)

/-- What `on_bbo` does with a mid. -/
def onTick (mid : ℚ) (tsNs : Nat) : Estimators :=
  { e with
    ewmaVar := EwmaVariance.update num e.ewmaVar mid tsNs
    ewmaDrift := EwmaDrift.update num e.ewmaDrift mid tsNs
    regime := e.regime.update num.toNumerics mid }

/-- What `on_trade` does. -/
def onTrade (tsNs : Nat) : Estimators :=
  { e with ewmaKappa := e.ewmaKappa.update num tsNs, lastTradeNs := tsNs }

end Estimators

section Signals

variable {R : Type} (num : ExpNumerics) (c : EstimatorConfig) (S : Signals (Estimators × R))

/-- The signals `S`, which may look at the estimators, with the estimators as they are fed. -/
def withEstimators : Signals (Estimators × R) where
  make r := (.make c, (S.make r).2)
  onTrade sig tick := (sig.1.onTrade num tick.timestampNs, (S.onTrade sig tick).2)
  onOrderBook sig book := (sig.1, (S.onOrderBook sig book).2)
  onToxicityUpdate sig update := (sig.1, (S.onToxicityUpdate sig update).2)
  onTick sig tick :=
    let r := S.onTick sig tick
    ((sig.1.onTick num ((tick.bidPrice + tick.askPrice) / 2) tick.timestampNs, r.1.2), r.2)
  onFill sig tag rpt rpnl := (sig.1, (S.onFill sig tag rpt rpnl).2)
  quote sig netQty tick makerBps :=
    let r := S.quote sig netQty tick makerBps
    ((sig.1, r.1.2), r.2)
  suppressed := S.suppressed

end Signals

/-! ## The view of the market -/

/-- What is known of an instrument from its market data. -/
structure MarketView where
  symbol : String
  exchange : String
  lastMid : ℚ
  lastTickNs : Nat
  estimators : Estimators
  deriving DecidableEq, Repr

variable {R : Type}

def InstrumentState.view (st : InstrumentState (Estimators × R)) : MarketView where
  symbol := st.symbol
  exchange := st.exchange
  lastMid := st.lastMid
  lastTickNs := st.lastTickNs
  estimators := st.signals.1

namespace MarketView

variable (num : ExpNumerics) (v : MarketView)

def onTick (mid : ℚ) (tsNs : Nat) : MarketView :=
  { v with lastMid := mid, lastTickNs := tsNs, estimators := v.estimators.onTick num mid tsNs }

def onTrade (tsNs : Nat) : MarketView := { v with estimators := v.estimators.onTrade num tsNs }

/-- A tick or a trade as the instrument `id` sees it. -/
def next (stale : Bool) (id : Nat) (v : MarketView) : Callback → MarketView
  | .bbo tick =>
    if stale ∨ tick.instrumentId ≠ id ∨ tick.bidPrice ≤ 0 ∨ tick.askPrice ≤ 0 ∨
        tick.askPrice ≤ tick.bidPrice then v
    else v.onTick num ((tick.bidPrice + tick.askPrice) / 2) tick.timestampNs
  | .trade tick => if tick.instrumentId ≠ id then v else v.onTrade num tick.timestampNs
  | _ => v

end MarketView

/-! ## What orders leave alone -/

section Orders

variable (cfg : Config (Estimators × R)) (env : Surroundings)

@[simp] theorem view_setQuoteSide (st : InstrumentState (Estimators × R)) (side : OrderSide)
    (q : QuoteSide) : (st.setQuoteSide side q).view = st.view := by
  cases side <;> rfl

@[simp] theorem view_release (st : InstrumentState (Estimators × R)) (orderId : Nat) :
    (st.release orderId).view = st.view := by
  unfold InstrumentState.release
  split
  · rfl
  · split
    · rfl
    · split <;> rfl

theorem view_manageSide (w : Work (Estimators × R)) (side : OrderSide) (mid : ℚ)
    (atCap suppressed : Bool) (newPx effQty : ℚ) :
    (manageSide cfg env w side mid atCap suppressed newPx effQty).st.view = w.st.view := by
  rcases manageSide_cases cfg env w side mid atCap suppressed newPx effQty with
    h | ⟨orderId, -, h⟩ | ⟨orderId, q, -, -, -, -, h⟩ | ⟨-, -, -, h⟩
  · rw [h]
  · rw [h]
  · rw [h]
    exact view_setQuoteSide w.st side q
  · rw [h]
    dsimp only
    split
    · exact view_setQuoteSide w.st side _
    · rfl

theorem view_unwindAtMax (w : Work (Estimators × R)) (atMaxLong atMaxShort : Bool)
    (mid effQty : ℚ) :
    (unwindAtMax cfg env w atMaxLong atMaxShort mid effQty).st.view = w.st.view := by
  rcases unwindAtMax_cases cfg env w atMaxLong atMaxShort mid effQty with h | ⟨side, -, -, h⟩
  · rw [h]
  · rw [h, unwindSide]
    dsimp only
    split
    · rfl
    · rfl

theorem view_maybeRequote (w : Work (Estimators × R)) (netQty mid : ℚ) (equityE8 : Int)
    (quotes : QuoteTarget) :
    (maybeRequote cfg env w netQty mid equityE8 quotes).st.view = w.st.view := by
  unfold maybeRequote
  split
  · rfl
  · unfold requote
    dsimp only
    rw [view_unwindAtMax, view_manageSide, view_manageSide]
    rfl

variable {num : ExpNumerics} {c : EstimatorConfig} {S : Signals (Estimators × R)}
  (hsignals : cfg.signals = withEstimators num c S)
include hsignals

/-- A tick moves the view on, whatever is done about the quotes. -/
theorem view_tickWork (s : AvellanedaStoikov (Estimators × R))
    (st : InstrumentState (Estimators × R)) (tick : MdMarketData) :
    (s.tickWork cfg env st tick).st.view =
      st.view.onTick num ((tick.bidPrice + tick.askPrice) / 2) tick.timestampNs := by
  unfold tickWork
  rw [hsignals]
  dsimp only [withEstimators]
  split
  · split
    · rfl
    · rfl
  · split
    · rfl
    · rw [view_maybeRequote]
      rfl

theorem view_reportWork (w : Work (Estimators × R)) (tag : OrderTag) (rpt : ExecReport)
    (source : RejectSource) (prior after : ℚ) :
    (reportWork cfg env w tag rpt source prior after).st.view = w.st.view := by
  have hfill : (fillWork cfg env w tag rpt prior after).st.view = w.st.view := by
    unfold fillWork
    rw [hsignals]
    dsimp only [withEstimators]
    split
    · rfl
    · rfl
  have hbackoff : ∀ st : InstrumentState (Estimators × R),
      (backoff env st rpt.status source).view = st.view := by
    intro st
    unfold backoff
    split
    · rfl
    · split
      · rfl
      · rfl
  unfold reportWork
  dsimp only
  rw [hbackoff]
  by_cases hisFill : rpt.status.isFill = true
  · rw [if_pos hisFill]
    split
    · rw [view_release, hfill]
    · exact hfill
  · rw [if_neg hisFill]
    split
    · rw [view_release]
    · rfl

end Orders

/-! ## One callback -/

section Step

variable {num : ExpNumerics} {c : EstimatorConfig} {S : Signals (Estimators × R)}
  {cfg : Config (Estimators × R)} (hsignals : cfg.signals = withEstimators num c S)

/-- The view of an instrument of the strategy. -/
def viewOf (s : AvellanedaStoikov (Estimators × R)) (id : Nat) : Option MarketView :=
  (s.state.lookup id).map (·.view)

theorem viewOf_commit (s : AvellanedaStoikov (Estimators × R)) (id id' : Nat)
    (w : Work (Estimators × R)) :
    viewOf (s.commit id' w).1 id = if id = id' then some w.st.view else viewOf s id := by
  unfold commit viewOf
  dsimp only
  rw [Table.lookup_insert_eq]
  split
  · rfl
  · rfl

/-- An update of an instrument that comes to `g` on its view. -/
theorem viewOf_update (s : AvellanedaStoikov (Estimators × R)) (id id' : Nat)
    {f : InstrumentState (Estimators × R) → InstrumentState (Estimators × R)}
    {g : MarketView → MarketView} (hfg : ∀ st, (f st).view = g st.view) :
    viewOf (s.update id' f) id = if id = id' then (viewOf s id).map g else viewOf s id := by
  unfold AvellanedaStoikov.update viewOf
  cases hst : s.state.lookup id' with
  | none =>
    dsimp only
    split
    · next hid => rw [hid, hst]; rfl
    · rfl
  | some st =>
    dsimp only
    rw [Table.lookup_insert_eq]
    split
    · next hid => rw [hid, hst, Option.map_some, Option.map_some, Option.map_some, hfg]
    · rfl

include hsignals

/-- **A tick or a trade.** It moves the view on, and nothing else matters but whether the refdata is
stale. -/
theorem viewOf_step (s : AvellanedaStoikov (Estimators × R)) (id : Nat) (cb : Callback)
    (env : Surroundings) (hcb : (∃ tick, cb = .bbo tick) ∨ ∃ tick, cb = .trade tick) :
    viewOf (step cfg s (cb, env)).1 id =
        (viewOf s id).map (MarketView.next num s.refdataStale id · cb) ∧
      (step cfg s (cb, env)).1.refdataStale = s.refdataStale := by
  rcases hcb with ⟨tick, rfl⟩ | ⟨tick, rfl⟩
  · -- a tick that is taken finds its instrument
    show viewOf (s.onBbo cfg env tick).1 id = _ ∧ (s.onBbo cfg env tick).1.refdataStale = _
    unfold onBbo
    by_cases hstale : s.refdataStale = true
    · rw [if_pos hstale]
      simp [MarketView.next, hstale]
    · rw [if_neg hstale]
      cases hst : s.state.lookup tick.instrumentId with
      | none =>
        refine ⟨?_, rfl⟩
        by_cases hid : tick.instrumentId = id
        · rw [viewOf, ← hid, hst]
          rfl
        · dsimp only
          simp [MarketView.next, hid]
      | some st =>
        dsimp only
        by_cases hbad : tick.bidPrice ≤ 0 ∨ tick.askPrice ≤ 0 ∨ tick.askPrice ≤ tick.bidPrice
        · rw [if_pos hbad]
          simp [MarketView.next, hbad]
        · rw [if_neg hbad, viewOf_commit, view_tickWork cfg env hsignals]
          refine ⟨?_, rfl⟩
          by_cases hid : id = tick.instrumentId
          · rw [if_pos hid, viewOf, hid, hst]
            simp [MarketView.next, hstale, hbad]
          · have hne : tick.instrumentId ≠ id := fun heq => hid heq.symm
            rw [if_neg hid]
            simp [MarketView.next, hne]
  · show viewOf (s.onTrade cfg tick) id = _ ∧ _
    have hfg : ∀ st : InstrumentState (Estimators × R),
        InstrumentState.view { st with signals := cfg.signals.onTrade st.signals tick } =
          st.view.onTrade num tick.timestampNs := by
      intro st
      rw [hsignals]
      rfl
    refine ⟨?_, ?_⟩
    · unfold onTrade
      rw [viewOf_update s id tick.instrumentId
        (g := fun v => MarketView.onTrade num v tick.timestampNs) hfg]
      by_cases hid : id = tick.instrumentId
      · rw [if_pos hid]
        simp [MarketView.next, hid]
      · have hne : tick.instrumentId ≠ id := fun heq => hid heq.symm
        rw [if_neg hid]
        simp [MarketView.next, hne]
    · show (s.onTrade cfg tick).refdataStale = _
      unfold onTrade AvellanedaStoikov.update
      split
      · rfl
      · rfl

/-- Ticks and trades move the view of an instrument on, whatever else the run comes across. -/
theorem viewOf_exec (s : AvellanedaStoikov (Estimators × R)) (id : Nat)
    {events : List (Callback × Surroundings)}
    (hevents : ∀ e ∈ events, (∃ tick, e.1 = .bbo tick) ∨ ∃ tick, e.1 = .trade tick) :
    viewOf (Machine.exec (step cfg) s events) id =
      (viewOf s id).map fun v =>
        (events.map Prod.fst).foldl (MarketView.next num s.refdataStale id) v := by
  induction events generalizing s with
  | nil => exact Option.map_id'.symm
  | cons e events ih =>
    obtain ⟨hfirst, hrest⟩ := List.forall_mem_cons.mp hevents
    obtain ⟨hview, hstale⟩ := viewOf_step hsignals s id e.1 e.2 hfirst
    rw [Machine.exec_cons, ih (step cfg s e).1 hrest, hview, hstale, Option.map_map]
    rfl

/-! ## Every callback -/

/-- A property of the views of all instruments. -/
def AllViews (P : MarketView → Prop) (s : AvellanedaStoikov (Estimators × R)) : Prop :=
  s.state.AllVals fun st => P st.view

omit hsignals in
theorem AllViews.update {P : MarketView → Prop} {s : AvellanedaStoikov (Estimators × R)}
    (h : AllViews P s) (id : Nat)
    {f : InstrumentState (Estimators × R) → InstrumentState (Estimators × R)}
    (hf : ∀ st : InstrumentState (Estimators × R), P st.view → P (f st).view) :
    AllViews P (s.update id f) := by
  unfold AvellanedaStoikov.update
  split
  · exact h
  · next st hst => exact h.insert (hf st (h id st hst)) id

/-- **Every callback.** What holds of a new instrument and is kept by ticks and trades, holds of all
instruments. -/
theorem AllViews.step {P : MarketView → Prop} {s : AvellanedaStoikov (Estimators × R)}
    (h : AllViews P s)
    (hmake : ∀ r, P (makeInstrumentState cfg.signals r).view)
    (htick : ∀ v mid tsNs, P v → P (v.onTick num mid tsNs))
    (htrade : ∀ v tsNs, P v → P (v.onTrade num tsNs)) (e : Callback × Surroundings) :
    AllViews P (step cfg s e).1 := by
  obtain ⟨cb, env⟩ := e
  cases cb with
  | instrumentSnapshot resolved =>
    refine List.foldlRecOn (motive := fun t : Table Nat (InstrumentState (Estimators × R)) =>
      t.AllVals fun st => P st.view) resolved _ (Table.AllVals.empty _) ?_
    intro t ht r _
    exact ht.emplace (hmake r) _
  | instrumentDelta inst inUniverse updateType =>
    show AllViews P (s.onInstrumentDelta cfg inst inUniverse updateType)
    unfold onInstrumentDelta
    cases updateType with
    | ADD =>
      dsimp only
      split
      · exact Table.AllVals.emplace h (hmake inst) _
      · exact h
    | MODIFY => exact h
    | REMOVE => exact Table.AllVals.erase h _
  | bbo tick =>
    show AllViews P (s.onBbo cfg env tick).1
    unfold onBbo
    split
    · exact h
    · split
      · exact h
      · next st hst =>
        split
        · exact h
        · refine Table.AllVals.insert h ?_ _
          rw [view_tickWork cfg env hsignals]
          exact htick _ _ _ (h _ st hst)
  | trade tick =>
    refine AllViews.update h tick.instrumentId fun st hst => ?_
    rw [hsignals]
    exact htrade st.view tick.timestampNs hst
  | orderBook book =>
    refine AllViews.update h book.instrumentId fun st hst => ?_
    rw [hsignals]
    exact hst
  | toxicityUpdate update =>
    refine AllViews.update h update.instrumentId fun st hst => ?_
    rw [hsignals]
    exact hst
  | refdataStaleChanged stale =>
    show AllViews P (s.onRefdataStaleChanged env stale).1
    unfold AllViews
    rw [(s.onRefdataStaleChanged_rest env stale).1]
    exact h
  | execReport rpt source =>
    show AllViews P (s.onExecReport cfg env rpt source).1
    unfold onExecReport
    dsimp only
    split
    · exact h
    · split
      · exact h
      · next st hst =>
        refine Table.AllVals.insert h ?_ _
        rw [view_reportWork cfg env hsignals]
        exact h _ st hst
  | accountSnapshot snap =>
    show AllViews P (s.onAccountSnapshot snap).1
    unfold AllViews
    rw [s.onAccountSnapshot_state]
    exact h

end Step

end BptCore.Strategy.AvellanedaStoikov
