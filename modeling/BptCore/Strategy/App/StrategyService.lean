import BptCore.Lib.Machine
import BptCore.Messages
import BptCore.Strategy.Strategy.IStrategy

/-!
# The strategy service

`StrategyService` is the handler of every client of the bus. A message updates the service and is
passed to the strategy, unless trading is paused or halted and the handler looks at that: those of
the market data do. `StartupGate` walks through the startup sequence, from the reference data to the
first snapshot, at which the strategy is started. `RefdataStaleGate` watches the heartbeat of the
reference data.

* **`ServiceEvent`** — the handlers, the timers of the main loop, and the calls of the flatten
  path, in any order.
* **`StrategyService.step`** — what each does, and the orders that the strategy sends meanwhile.
-/

namespace BptCore.Strategy

/-! ## The two gates of the service -/

namespace StartupGate

inductive Phase where
  | WaitRefdata | WaitAccountSnapshots | WaitMdSnapshot | Active
  deriving DecidableEq, Repr

end StartupGate

structure StartupGate where
  phase : StartupGate.Phase := .WaitRefdata
  refdataReady : Bool := false
  accountsReadyMask : Nat := 0
  accountRequestsSent : Bool := false
  mdSubscribeSent : Bool := false
  deriving DecidableEq, Repr

namespace StartupGate

variable (g : StartupGate)

def isActive : Prop := g.phase = .Active

instance : Decidable g.isActive := inferInstanceAs (Decidable (_ = _))

/-- Without all configured exchanges the process is told to stop, and the gate stays. -/
def onRefdataReady (configuredMask exchangesLoaded : Nat) : StartupGate :=
  if configuredMask ≠ 0 ∧ exchangesLoaded &&& configuredMask ≠ configuredMask then g
  else { g with refdataReady := true }

def exchangeBit : Option ExchangeId → Nat
  | some .BINANCE => 0x01
  | some .OKX => 0x02
  | some .HYPERLIQUID => 0x04
  | some .DERIBIT => 0x08
  | some .ALL | none => 0

def onAccountSnapshot (exchange : Option ExchangeId) : StartupGate :=
  { g with accountsReadyMask := g.accountsReadyMask ||| exchangeBit exchange }

/-- The gate, and whether it starts the strategy. -/
def onRefdataSnapshotComplete : StartupGate × Bool :=
  if g.phase ≠ .WaitMdSnapshot then (g, false) else ({ g with phase := .Active }, true)

def tick (hasOrderGw : Bool) (configuredMask : Nat) : StartupGate :=
  match g.phase with
  | .WaitRefdata =>
    if g.refdataReady then
      { g with
        accountRequestsSent := g.accountRequestsSent || (hasOrderGw && configuredMask != 0)
        phase := .WaitAccountSnapshots }
    else g
  | .WaitAccountSnapshots =>
    if hasOrderGw = false ∨ g.accountsReadyMask &&& configuredMask = configuredMask then
      { g with mdSubscribeSent := true, phase := .WaitMdSnapshot }
    else g
  -- left by `onRefdataSnapshotComplete`, and not at all
  | .WaitMdSnapshot | .Active => g

end StartupGate

namespace RefdataStaleGate

/-- `RefdataStaleGate::State`: what an evaluation finds. -/
inductive Finding where
  | Ok | StartupTimedOut | GoneStale | Recovered
  deriving DecidableEq, Repr

end RefdataStaleGate

structure RefdataStaleGate where
  startupTimeoutNs : Nat := 60000000000
  staleThresholdNs : Nat := 25000000000
  startedAtNs : Nat := 0
  wasStale : Bool := false
  deriving DecidableEq, Repr

/-- `evaluate`. A heartbeat ahead of the clock is a fresh one. -/
def RefdataStaleGate.evaluate (g : RefdataStaleGate) (nowNs lastHeartbeatNs : Nat) :
    RefdataStaleGate × Finding :=
  if lastHeartbeatNs = 0 then
    if g.startedAtNs ≠ 0 ∧ u64Sub nowNs g.startedAtNs > g.startupTimeoutNs then
      (g, .StartupTimedOut)
    else (g, .Ok)
  else
    let currentlyStale := decide (lastHeartbeatNs ≤ nowNs) &&
      decide (nowNs - lastHeartbeatNs > g.staleThresholdNs)
    -- found again at every evaluation of a stale episode, not at its start only
    if currentlyStale then ({ g with wasStale := true }, .GoneStale)
    else if g.wasStale then ({ g with wasStale := false }, .Recovered)
    else (g, .Ok)

/-! ## The service -/

open Machine

structure ServiceConfig where
  configuredExchangesMask : Nat
  hasMd : Bool := true
  hasOrderGw : Bool := true
  mdStalenessThresholdMs : Nat
  warmStartStateDir : String := ""
  warmStartMaxAgeS : Nat := 0
  refdataStaleGate : RefdataStaleGate := {}

structure StrategyService (S : IStrategy) where
  strategy : S.State := S.initial
  startupGate : StartupGate := {}
  pricerReady : Bool := false
  tradingPaused : Bool := false
  tradingHalted : Bool := false
  lastMdHbRecvNs : Nat := 0
  lastGwHbRecvNs : Nat := 0
  lastLivenessCheckNs : Nat := 0
  refdataStaleGate : RefdataStaleGate
  lastRefdataCheckNs : Nat := 0
  currTickTsNs : Nat := 0

/-- A clock reading comes with the event, and so does the heartbeat that the refdata client has
seen last. The drains of `shutdown_flatten` poll the gateway, so its two calls interleave with the
other events. -/
inductive ServiceEvent where
  | mdServiceHeartbeat (nowNs : Nat)
  | bbo (tick : MdMarketData)
  | trade (tick : MdTrade)
  | orderBook (book : MdOrderBook)
  | refdataReady (exchangesLoaded : Nat)
  | refdataError
  | refdataSnapshotComplete (all : List Instrument) (saved : Option String)
  | refdataDelta (inst : Instrument) (updateType : DeltaUpdateType)
  | refdataGapDetected
  | volSurface (surface : VolSurface)
  | pricerReady
  | execReport (rpt : ExecReport)
  | ogHeartbeat (nowNs : Nat)
  | accountSnapshot (snap : AccountSnapshot)
  | toxicityUpdate (update : ToxicityUpdate)
  | consoleCommand (cmd : Nat)
  | startupTick
  | checkServiceLiveness (nowNs : Nat)
  | checkRefdataWatchdog (nowNs lastHeartbeatNs : Nat)
  /-- SIGUSR1, up to `shutdown_flatten`. -/
  | flattenRequested
  | shutdownFlatten
  | flattenTick

namespace StrategyService

variable {S : IStrategy} (cfg : ServiceConfig)

def init : StrategyService S := { refdataStaleGate := cfg.refdataStaleGate }

variable (s : StrategyService S)

/-- Trading is paused or halted. -/
def Stopped : Prop := s.tradingPaused = true ∨ s.tradingHalted = true

instance : Decidable s.Stopped := inferInstanceAs (Decidable (_ ∨ _))

/-- Calls of the strategy, one after the other. -/
def deliver (calls : List Callback) : StrategyService S × List SentOrder :=
  ({ s with strategy := exec S.handle s.strategy calls }, outputs S.handle s.strategy calls)

/-! ## The handlers -/

def onBbo (tick : MdMarketData) : StrategyService S × List SentOrder :=
  if s.Stopped then (s, [])
  else { s with currTickTsNs := tick.timestampNs }.deliver [.onBbo tick]

def onTrade (tick : MdTrade) : StrategyService S × List SentOrder :=
  if s.Stopped then (s, [])
  else { s with currTickTsNs := tick.timestampNs }.deliver [.onTrade tick]

def onOrderBook (book : MdOrderBook) : StrategyService S × List SentOrder :=
  if s.Stopped then (s, [])
  else { s with currTickTsNs := book.timestampNs }.deliver [.onOrderBook book]

/-- The calls of `on_refdata_snapshot_complete`: the snapshot, the saved state when there is a
directory for it, and the start when the gate was waiting for the snapshot. -/
def snapshotCalls (all : List Instrument) (saved : Option String) : List Callback :=
  .onInstrumentSnapshot all ::
    ((if cfg.warmStartStateDir = "" then [] else [.loadState saved cfg.warmStartMaxAgeS]) ++
      if s.startupGate.onRefdataSnapshotComplete.2 then [.start] else [])

def onRefdataSnapshotComplete (all : List Instrument) (saved : Option String) :
    StrategyService S × List SentOrder :=
  { s with startupGate := s.startupGate.onRefdataSnapshotComplete.1 }.deliver
    (s.snapshotCalls cfg all saved)

def onAccountSnapshot (snap : AccountSnapshot) : StrategyService S × List SentOrder :=
  { s with startupGate := s.startupGate.onAccountSnapshot snap.exchangeId }.deliver
    [.onAccountSnapshot snap]

def onConsoleCommand (cmd : Nat) : StrategyService S :=
  -- an unknown command is ignored, and a pause is not touched
  if cmd = 0x00 ∧ s.tradingHalted = false then { s with tradingHalted := true }
  else if cmd = 0x01 ∧ s.tradingHalted = true then { s with tradingHalted := false }
  else s

/-! ## The timers -/

/-- A heartbeat that was seen, and too long ago. -/
def heartbeatStale (hasClient : Bool) (lastRecvNs nowNs : Nat) : Prop :=
  hasClient = true ∧ lastRecvNs ≠ 0 ∧
    u64Sub nowNs lastRecvNs > cfg.mdStalenessThresholdMs * 1000000 % 2 ^ 64

instance (hasClient : Bool) (lastRecvNs nowNs : Nat) :
    Decidable (heartbeatStale cfg hasClient lastRecvNs nowNs) :=
  inferInstanceAs (Decidable (_ ∧ _ ∧ _))

/-- `check_service_liveness`, once a second: trading is paused while a heartbeat is stale. -/
def checkServiceLiveness (nowNs : Nat) : StrategyService S :=
  if u64Sub nowNs s.lastLivenessCheckNs < 1000000000 then s
  else
    { s with
      lastLivenessCheckNs := nowNs
      tradingPaused := decide (heartbeatStale cfg cfg.hasMd s.lastMdHbRecvNs nowNs ∨
        heartbeatStale cfg cfg.hasOrderGw s.lastGwHbRecvNs nowNs) }

/-- The calls of `check_refdata_watchdog`, once a second. -/
def watchdogCalls (nowNs lastHeartbeatNs : Nat) : List Callback :=
  if u64Sub nowNs s.lastRefdataCheckNs < 1000000000 then []
  else
    match (s.refdataStaleGate.evaluate nowNs lastHeartbeatNs).2 with
    | .GoneStale => [.onRefdataStaleChanged true]
    | .Recovered => [.onRefdataStaleChanged false]
    | .Ok | .StartupTimedOut => []

def checkRefdataWatchdog (nowNs lastHeartbeatNs : Nat) : StrategyService S × List SentOrder :=
  if u64Sub nowNs s.lastRefdataCheckNs < 1000000000 then (s, [])
  else
    { s with
      lastRefdataCheckNs := nowNs
      refdataStaleGate := (s.refdataStaleGate.evaluate nowNs lastHeartbeatNs).1 }.deliver
      (s.watchdogCalls nowNs lastHeartbeatNs)

/-- A call of the flatten path: its orders are unwinds. -/
def flatten (call : Callback) : StrategyService S × List SentOrder :=
  -- whatever the strategy sends from here closes a position
  ((s.deliver [call]).1, (s.deliver [call]).2.map fun o => { o with unwind := true })

/-! ## The step -/

def step (s : StrategyService S) : ServiceEvent → StrategyService S × List SentOrder
  | .mdServiceHeartbeat nowNs => ({ s with lastMdHbRecvNs := nowNs }, [])
  | .bbo tick => s.onBbo tick
  | .trade tick => s.onTrade tick
  | .orderBook book => s.onOrderBook book
  | .refdataReady exchangesLoaded =>
    ({ s with startupGate :=
        s.startupGate.onRefdataReady cfg.configuredExchangesMask exchangesLoaded }, [])
  | .refdataError => (s, [])
  | .refdataSnapshotComplete all saved => s.onRefdataSnapshotComplete cfg all saved
  | .refdataDelta inst updateType => s.deliver [.onInstrumentDelta inst updateType]
  | .refdataGapDetected => (s, [])
  -- from here on no handler looks at the two flags
  | .volSurface surface => s.deliver [.onVolSurface surface]
  | .pricerReady => ({ s with pricerReady := true }, [])
  | .execReport rpt => s.deliver [.onExecReport rpt]
  | .ogHeartbeat nowNs => ({ s with lastGwHbRecvNs := nowNs }, [])
  | .accountSnapshot snap => s.onAccountSnapshot snap
  | .toxicityUpdate update => s.deliver [.onToxicityUpdate update]
  | .consoleCommand cmd => (s.onConsoleCommand cmd, [])
  | .startupTick =>
    ({ s with startupGate := s.startupGate.tick cfg.hasOrderGw cfg.configuredExchangesMask }, [])
  | .checkServiceLiveness nowNs =>
    (if s.startupGate.isActive then s.checkServiceLiveness cfg nowNs else s, [])
  | .checkRefdataWatchdog nowNs lastHeartbeatNs => s.checkRefdataWatchdog nowNs lastHeartbeatNs
  | .flattenRequested => ({ s with tradingHalted := true }, [])
  | .shutdownFlatten => s.flatten .onShutdownFlatten
  | .flattenTick => s.flatten .onFlattenTick

end StrategyService

end BptCore.Strategy
