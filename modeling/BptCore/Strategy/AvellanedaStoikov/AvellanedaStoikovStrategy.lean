import BptCore.Lib.Machine
import BptCore.Strategy.AvellanedaStoikov.Quoting
import BptCore.Strategy.Strategy.Reconciler

/-!
# The Avellaneda-Stoikov strategy

The state of the strategy and its callbacks, one step each: market data, refdata, execution reports
and account snapshots. Reports are delivered by a callback of their own. The shutdown is left out.

* **`onBbo`**, **`onExecReport`**, **`onInstrumentSnapshot`**, **`onInstrumentDelta`**,
  **`onRefdataStaleChanged`**, **`onAccountSnapshot`** — the callbacks.
* **`step`** — any of them, with its surroundings.
-/

namespace BptCore.Strategy

inductive RejectSource where
  | EXCHANGE | GATEWAY | RISK
  deriving DecidableEq, Repr

open AvellanedaStoikov in
structure AvellanedaStoikov (Sig : Type) where
  state : Table Nat (InstrumentState Sig) := ∅
  positions : PositionTracker := {}
  desk : QuoteDesk
  refdataStale : Bool := false
  initialCcyEquityE8 : Table (Option ExchangeId × String) Int := ∅
  initialCcyEquityCaptured : Bool := false
  lastSnapshotQtyE8 : Table (Option ExchangeId × String) Int := ∅
  lastSnapshotNs : Nat := 0
  lastEquityE8 : Int := 0

namespace AvellanedaStoikov

/-- A call of the strategy. The snapshot brings the instruments that the universe resolves to, a
delta whether the universe asks for its instrument. -/
inductive Callback where
  | instrumentSnapshot (resolved : List ResolvedInstrument)
  | instrumentDelta (inst : ResolvedInstrument) (inUniverse : Bool) (updateType : DeltaUpdateType)
  | bbo (tick : MdMarketData)
  | trade (tick : MdTrade)
  | orderBook (book : MdOrderBook)
  | toxicityUpdate (update : ToxicityUpdate)
  | refdataStaleChanged (stale : Bool)
  | execReport (rpt : ExecReport) (source : RejectSource)
  | accountSnapshot (snap : AccountSnapshot)

variable {Sig : Type} (cfg : Config Sig) (env : Surroundings) (s : AvellanedaStoikov Sig)

/-! ## Refdata -/

/-- The universe is built anew, without a look at the handles it drops. -/
def onInstrumentSnapshot (resolved : List ResolvedInstrument) : AvellanedaStoikov Sig :=
  { s with
    state := resolved.foldl
      (fun t r => t.emplace r.instrument.instrumentId (makeInstrumentState cfg.signals r)) ∅
    positions := {}
    initialCcyEquityE8 := ∅
    initialCcyEquityCaptured := false }

def onInstrumentDelta (inst : ResolvedInstrument) (inUniverse : Bool)
    (updateType : DeltaUpdateType) : AvellanedaStoikov Sig :=
  match updateType with
  | .ADD =>
    if inUniverse then
      { s with
        state := s.state.emplace inst.instrument.instrumentId
          (makeInstrumentState cfg.signals inst) }
    else s
  | .MODIFY => s
  | .REMOVE => { s with state := s.state.erase inst.instrument.instrumentId }

/-! ## Work on one instrument -/

/-- What the work on the instrument leaves. -/
def commit (id : Nat) (w : Work Sig) : AvellanedaStoikov Sig × List Sent :=
  ({ s with state := s.state.insert id w.st, desk := w.desk }, w.sent)

def update (id : Nat) (f : InstrumentState Sig → InstrumentState Sig) : AvellanedaStoikov Sig :=
  match s.state.lookup id with
  | none => s
  | some st => { s with state := s.state.insert id (f st) }

def onTrade (tick : MdTrade) : AvellanedaStoikov Sig :=
  s.update tick.instrumentId fun st => { st with signals := cfg.signals.onTrade st.signals tick }

def onOrderBook (book : MdOrderBook) : AvellanedaStoikov Sig :=
  s.update book.instrumentId fun st =>
    { st with signals := cfg.signals.onOrderBook st.signals book }

def onToxicityUpdate (update : ToxicityUpdate) : AvellanedaStoikov Sig :=
  s.update update.instrumentId fun st =>
    { st with signals := cfg.signals.onToxicityUpdate st.signals update }

/-- A tick with the work it leads to: the cancels of a halt that begins, nothing while one lasts, or
the quotes when the pricer has some. -/
def tickWork (st : InstrumentState Sig) (tick : MdMarketData) : Work Sig :=
  let r := cfg.signals.onTick st.signals tick
  let st : InstrumentState Sig :=
    { st with
      signals := r.1
      lastMid := (tick.bidPrice + tick.askPrice) / 2
      lastTickNs := tick.timestampNs }
  let w : Work Sig := { desk := s.desk, st := st }
  if r.2.2 then
    if r.2.1 then w else cancelQuotes env w
  else
    let netQty := ofE8 (s.positions.netQty tick.instrumentId st.exchangeId)
    let q := cfg.signals.quote st.signals netQty tick env.makerBps
    let w : Work Sig := { w with st := { st with signals := q.1 } }
    match q.2.2 with
    | none => w
    | some quotes => maybeRequote cfg env w netQty q.2.1 s.lastEquityE8 quotes

def onBbo (tick : MdMarketData) : AvellanedaStoikov Sig × List Sent :=
  if s.refdataStale then (s, [])
  else
    match s.state.lookup tick.instrumentId with
    | none => (s, [])
    | some st =>
      if tick.bidPrice ≤ 0 ∨ tick.askPrice ≤ 0 ∨ tick.askPrice ≤ tick.bidPrice then (s, [])
      else s.commit tick.instrumentId (s.tickWork cfg env st tick)

/-- On the edge to stale, every quote is cancelled, instrument by instrument. -/
def onRefdataStaleChanged (stale : Bool) : AvellanedaStoikov Sig × List Sent :=
  if stale = s.refdataStale then (s, [])
  else
    let s := { s with refdataStale := stale }
    if stale then
      let r := (Table.vals s.state).foldl
        (fun r st =>
          let w := cancelQuotes env { desk := r.1, st := st }
          (w.desk, r.2 ++ w.sent))
        (s.desk, [])
      ({ s with desk := r.1 }, r.2)
    else (s, [])

/-- The edge to stale is a series of cancels: what each of them keeps is kept. -/
theorem onRefdataStaleChanged_desk {P : QuoteDesk → Prop}
    (hcancel : ∀ (d : QuoteDesk) handle, P d → P (d.sendCancel env handle).1) (h : P s.desk)
    (stale : Bool) : P (s.onRefdataStaleChanged env stale).1.desk := by
  unfold onRefdataStaleChanged
  split
  · exact h
  · dsimp only
    split
    · refine List.foldlRecOn (motive := fun r : QuoteDesk × List Sent => P r.1) _ _ h ?_
      intro r hr st _
      exact hcancel _ _ (hcancel _ _ hr)
    · exact h

theorem onRefdataStaleChanged_sent (stale : Bool) :
    ∀ c ∈ (s.onRefdataStaleChanged env stale).2, ∃ cancel, c = .cancel cancel := by
  have hcancels : ∀ (d : QuoteDesk) handle, ∀ c ∈ (d.sendCancel env handle).2,
      ∃ cancel, c = .cancel cancel := by
    intro d handle c hc
    obtain ⟨cancel, -, rfl⟩ := List.mem_map.mp hc
    exact ⟨cancel, rfl⟩
  unfold onRefdataStaleChanged
  split
  · exact fun c hc => absurd hc List.not_mem_nil
  · dsimp only
    split
    · refine List.foldlRecOn (motive := fun r : QuoteDesk × List Sent =>
        ∀ c ∈ r.2, ∃ cancel, c = .cancel cancel) _ _ (fun c hc => absurd hc List.not_mem_nil) ?_
      intro r hr st _ c hc
      rcases List.mem_append.mp hc with hc | hc
      · exact hr c hc
      · rcases List.mem_append.mp hc with hc | hc
        · exact hcancels _ _ c hc
        · exact hcancels _ _ c hc
    · exact fun c hc => absurd hc List.not_mem_nil

theorem onRefdataStaleChanged_rest (stale : Bool) :
    (s.onRefdataStaleChanged env stale).1.state = s.state ∧
      (s.onRefdataStaleChanged env stale).1.positions = s.positions := by
  unfold onRefdataStaleChanged
  split
  · exact ⟨rfl, rfl⟩
  · dsimp only
    split <;> exact ⟨rfl, rfl⟩

/-! ## Execution reports -/

/-- `pause_cooldown_s` in nanoseconds. -/
def pauseCooldownNs : Nat := (cfg.pauseCooldownS * 1000000000).floor.toNat

/-- The realized P&L of a position; one that is not held has none. -/
def realizedPnl (positions : PositionTracker) (id : Nat) (exchangeId : ExchangeId) : ℚ :=
  ((positions.get id exchangeId).getD {}).realizedPnl

/-- The fill takes the realized P&L below the threshold of the drawdown pause. -/
def drawdown (prior after : ℚ) : Bool :=
  decide (cfg.pauseBelowRpnlUsd < 0 ∧ after < cfg.pauseBelowRpnlUsd ∧
    prior ≥ cfg.pauseBelowRpnlUsd)

/-- The drawdown pause: counted from the host's clock. -/
def pause (w : Work Sig) : Work Sig :=
  cancelQuotes env
    { w with st := { w.st with pauseUntilNs := env.hostNs + pauseCooldownNs cfg } }

def fillWork (w : Work Sig) (tag : OrderTag) (rpt : ExecReport) (prior after : ℚ) : Work Sig :=
  let w :=
    { w with st := { w.st with signals := cfg.signals.onFill w.st.signals tag rpt (after - prior) } }
  if drawdown cfg prior after then pause cfg env w else w

/-- The backoff after an error of the exchange, and its end with an acknowledgement. -/
def backoff (st : InstrumentState Sig) (status : ExecStatus) (source : RejectSource) :
    InstrumentState Sig :=
  if status = .REJECTED ∧ source = .EXCHANGE then
    let errors := st.consecutiveExchangeErrors + 1
    let backoffS := if errors = 1 then 5 else if errors = 2 then 15 else 30
    { st with
      consecutiveExchangeErrors := errors
      rejectBackoffUntilNs := env.simNs + backoffS * 1000000000 }
  else if status = .ACKED then
    { st with consecutiveExchangeErrors := 0, rejectBackoffUntilNs := 0 }
  else st

/-- What a report does to the instrument of its order. -/
def reportWork (w : Work Sig) (tag : OrderTag) (rpt : ExecReport) (source : RejectSource)
    (prior after : ℚ) : Work Sig :=
  let w := if rpt.status.isFill then fillWork cfg env w tag rpt prior after else w
  let st := if rpt.status.terminal then w.st.release rpt.orderId else w.st
  { w with st := backoff env st rpt.status source }

def onExecReport (rpt : ExecReport) (source : RejectSource) : AvellanedaStoikov Sig × List Sent :=
  let s := { s with desk := s.desk.onExecReport env rpt }
  match s.desk.om.lookup.lookup rpt.orderId with
  -- an order that the manager did not send
  | none => (s, [])
  | some os =>
    match s.state.lookup os.instrumentId with
    | none => (s, [])
    | some st =>
      let positions :=
        if rpt.status.isFill then
          s.positions.onFill os.instrumentId st.exchangeId rpt.side rpt.filledQty rpt.price
        else s.positions
      let prior := realizedPnl s.positions os.instrumentId st.exchangeId
      let after := realizedPnl positions os.instrumentId st.exchangeId
      let tag := (s.desk.tags.lookup rpt.orderId).getD .quote
      let w := reportWork cfg env { desk := s.desk, st := st } tag rpt source prior after
      commit { s with positions := positions } os.instrumentId w

/-- The positions after a report of an order of the instrument. -/
def positionsAfter (rpt : ExecReport) (id : Nat) (exchangeId : ExchangeId) : PositionTracker :=
  if rpt.status.isFill then
    s.positions.onFill id exchangeId rpt.side rpt.filledQty rpt.price
  else s.positions

theorem lookup_onExecReport_instrumentId (rpt : ExecReport) :
    ((s.desk.onExecReport env rpt).om.lookup.lookup rpt.orderId).map (·.instrumentId) =
      (s.desk.om.lookup.lookup rpt.orderId).map (·.instrumentId) := by
  have hlookup : (s.desk.onExecReport env rpt).om.lookup.lookup rpt.orderId = _ :=
    s.desk.om.lookup_onExecReport rpt env.wallNs rpt.orderId
  rw [hlookup, if_pos rfl, Option.map_map]
  congr 1
  funext os
  show (OrderManager.applyReport os rpt env.wallNs).instrumentId = os.instrumentId
  unfold OrderManager.applyReport OrderManager.recordFill
  dsimp only
  split <;> rfl

/-- A report of an order without an instrument only touches its record. -/
theorem onExecReport_of_unknown {rpt : ExecReport} (source : RejectSource)
    (hunknown : ∀ os, s.desk.om.lookup.lookup rpt.orderId = some os →
      s.state.lookup os.instrumentId = none) :
    s.onExecReport cfg env rpt source = ({ s with desk := s.desk.onExecReport env rpt }, []) := by
  have hsame := s.lookup_onExecReport_instrumentId env rpt
  unfold onExecReport
  dsimp only
  cases hos' : (s.desk.onExecReport env rpt).om.lookup.lookup rpt.orderId with
  | none => rfl
  | some os' =>
    rw [hos'] at hsame
    obtain ⟨os, hos, hid⟩ := Option.map_eq_some_iff.mp hsame.symm
    have hst := hunknown os hos
    rw [hid] at hst
    dsimp only at hst ⊢
    rw [hst]

/-- Otherwise it is work on that instrument. -/
theorem onExecReport_of_lookup {rpt : ExecReport} (source : RejectSource) {os : OrderState}
    {st : InstrumentState Sig} (hos : s.desk.om.lookup.lookup rpt.orderId = some os)
    (hst : s.state.lookup os.instrumentId = some st) :
    s.onExecReport cfg env rpt source =
      commit
        { s with
          desk := s.desk.onExecReport env rpt
          positions := s.positionsAfter rpt os.instrumentId st.exchangeId }
        os.instrumentId
        (reportWork cfg env { desk := s.desk.onExecReport env rpt, st := st }
          ((s.desk.tags.lookup rpt.orderId).getD .quote) rpt source
          (realizedPnl s.positions os.instrumentId st.exchangeId)
          (realizedPnl (s.positionsAfter rpt os.instrumentId st.exchangeId) os.instrumentId
            st.exchangeId)) := by
  have hsame := s.lookup_onExecReport_instrumentId env rpt
  rw [hos] at hsame
  obtain ⟨os', hos', hid⟩ := Option.map_eq_some_iff.mp hsame
  unfold onExecReport
  dsimp only
  rw [hos']
  dsimp only
  rw [hid, hst]
  rfl

/-! ## Account snapshots -/

section Account

variable (ex : Option ExchangeId)

/-- The exchange's quantity of a spot instrument is what its base currency has gained since the
baseline; without a row or a baseline the symbol is dropped. -/
def spotView (currencies : Table String Int) (baseline : Table (Option ExchangeId × String) Int)
    (view : Table String Int) (st : InstrumentState Sig) : Table String Int :=
  if some st.exchangeId = ex ∧ st.instrumentType = .SPOT ∧ st.baseCcy ≠ "" then
    match currencies.lookup st.baseCcy, baseline.lookup (ex, st.baseCcy) with
    | some current, some initial => view.insert st.symbol (current - initial)
    | _, _ => view.erase st.symbol
  else view

def kDivergenceThresholdE8 : Int := 10000

/-- `symbol_map`. -/
def symbolMap : List (Nat × String) :=
  s.state.entries.filterMap fun e =>
    if some e.2.exchangeId = ex then some (e.1, e.2.symbol) else none

/-- Every divergence seeds the tracker with the exchange's view. -/
def seedAll (rows : Table String ExchangePositionRow) (divergences : List Divergence)
    (positions : PositionTracker) : PositionTracker :=
  divergences.foldl
    (fun t d =>
      t.seed d.instrumentId d.exchangeId d.exchangeNetQtyE8
        (((rows.lookup d.exchangeSymbol).map (·.avgEntryPrice)).getD 0))
    positions

/-- The rows of a map entered under the exchange. -/
def enterAll (rows : Table String Int) (t : Table (Option ExchangeId × String) Int) :
    Table (Option ExchangeId × String) Int :=
  rows.entries.foldl (fun t (e : Sigma fun _ => Int) => t.insert (ex, e.1) e.2) t

/-- The baseline of the session is that of the first snapshot, whichever exchange it is of. -/
def captureBaseline (currencies : Table String Int) : AvellanedaStoikov Sig :=
  if s.initialCcyEquityCaptured then s
  else
    { s with
      initialCcyEquityE8 := enterAll ex currencies s.initialCcyEquityE8
      initialCcyEquityCaptured := true }

@[simp] theorem captureBaseline_state (currencies : Table String Int) :
    (s.captureBaseline ex currencies).state = s.state := by
  unfold captureBaseline
  split <;> rfl

@[simp] theorem captureBaseline_positions (currencies : Table String Int) :
    (s.captureBaseline ex currencies).positions = s.positions := by
  unfold captureBaseline
  split <;> rfl

@[simp] theorem captureBaseline_desk (currencies : Table String Int) :
    (s.captureBaseline ex currencies).desk = s.desk := by
  unfold captureBaseline
  split <;> rfl

/-- The exchange's view of the instruments, by symbol. -/
def exchangeView (raw currencies : Table String Int) : Table String Int :=
  (Table.vals s.state).foldl (spotView ex currencies s.initialCcyEquityE8) raw

/-- The positions of the instruments on the exchange against its view. -/
def divergences (raw currencies : Table String Int) : List Divergence :=
  match ex with
  | none => []
  | some e =>
    reconcile s.positions (s.exchangeView ex raw currencies) e kDivergenceThresholdE8 (s.symbolMap ex)

end Account

/-- The strategy after the snapshot, and how many positions diverged. -/
def onAccountSnapshot (snap : AccountSnapshot) : AvellanedaStoikov Sig × Nat :=
  let ex := snap.exchangeId
  let raw := extractExchangePositions snap
  let currencies := extractExchangeCurrencyBalances snap
  let s :=
    { s with
      lastEquityE8 := snap.totalEquityE8
      lastSnapshotQtyE8 := enterAll ex raw s.lastSnapshotQtyE8
      lastSnapshotNs := snap.timestampNs }
  let s := s.captureBaseline ex currencies
  let found := s.divergences ex raw currencies
  ({ s with positions := seedAll (extractExchangePositionRows snap) found s.positions },
    found.length)

/-- A snapshot seeds positions, and touches neither instruments nor orders. -/
@[simp] theorem onAccountSnapshot_state (snap : AccountSnapshot) :
    (s.onAccountSnapshot snap).1.state = s.state := captureBaseline_state _ _ _

@[simp] theorem onAccountSnapshot_desk (snap : AccountSnapshot) :
    (s.onAccountSnapshot snap).1.desk = s.desk := captureBaseline_desk _ _ _

/-! ## One callback -/

def step (s : AvellanedaStoikov Sig) : Callback × Surroundings → AvellanedaStoikov Sig × List Sent
  | (.instrumentSnapshot resolved, _) => (s.onInstrumentSnapshot cfg resolved, [])
  | (.instrumentDelta inst inUniverse updateType, _) =>
    (s.onInstrumentDelta cfg inst inUniverse updateType, [])
  | (.bbo tick, env) => s.onBbo cfg env tick
  | (.trade tick, _) => (s.onTrade cfg tick, [])
  | (.orderBook book, _) => (s.onOrderBook cfg book, [])
  | (.toxicityUpdate update, _) => (s.onToxicityUpdate cfg update, [])
  | (.refdataStaleChanged stale, env) => s.onRefdataStaleChanged env stale
  | (.execReport rpt source, env) => s.onExecReport cfg env rpt source
  | (.accountSnapshot snap, _) => ((s.onAccountSnapshot snap).1, [])

/-! ## One swap -/

/-- A perpetual swap of bitcoin, of a hundredth a contract. -/
def swap : ResolvedInstrument where
  instrument :=
    { instrumentId := 102, symbol := "BTC-USDT-SWAP", exchange := "OKX", baseCurrency := "BTC"
      quoteCurrency := "USDT", type := .PERPETUAL, status := .ACTIVE, lotSize := 1 / 100
      tickSize := 1, contractSize := 1 / 100, expiryDate := 0, optionSide := .NA
      strikePrice := 0 }
  exchangeId := .OKX
  id_lt := by decide

/-- One bitcoin on either side of 101, up to two. -/
def swapConfig : Config Unit where
  signals := steadySignals ⟨100, 102⟩
  requoteThreshold := 1 / 1000
  pauseBelowRpnlUsd := 0
  pauseCooldownS := 0
  sizer := { orderQty := 1, maxInventory := 2 }
  venueExec := [.OKX]

/-- The gateway takes every order. -/
def calm : Surroundings where
  cache id := if id = 102 then some swap.instrument else none
  accepts _ := true
  makerBps := none
  simNs := 0
  wallNs := 0
  hostNs := 0

def swapTick (timestampNs : Nat) (bidPrice askPrice : ℚ) : MdMarketData where
  timestampNs := timestampNs
  instrumentId := 102
  bidPrice := bidPrice
  bidQty := 1
  askPrice := askPrice
  askQty := 1
  seqNum := 0

def swapReport (orderId : Nat) (status : ExecStatus) (side : OrderSide) (filledQty : Nat) :
    ExecReport where
  orderId := orderId
  exchangeOrderId := orderId
  exchangeId := .OKX
  instrumentId := 102
  status := status
  side := side
  orderType := .LIMIT
  price := 10000000000
  filledQty := filledQty
  remainingQty := 0
  rejectReason := .OK
  fee := 0
  feeCurrency := ""
  exchangeTsNs := 0
  localTsNs := 0

end AvellanedaStoikov

end BptCore.Strategy
