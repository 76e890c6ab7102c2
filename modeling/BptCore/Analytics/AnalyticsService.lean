import BptCore.Lib.Machine
import BptCore.Lib.Table
import BptCore.Messages

/-!
# The analytics service

What `AnalyticsService` makes of best bids and offers and of execution reports: every instrument has
a tracker of markouts, whose observations go on to the scorer. The tracker says how far the mid has
moved at three horizons after a fill: a tick is compared with every pending fill, and a fill whose
horizons are all marked is an observation. A tick comes with the timestamp of its message; a report
is stamped with the steady clock when it is handled.

* **`onFill`**, **`onTick`**, **`consume`** — the operations of the tracker.
* **`PendingFill.check`** — what a tick makes of one pending fill.
* **`onBbo`**, **`onExecReport`** — the handlers of the service.
* **`step`** — one event, with the observations for the scorer.
-/

namespace BptCore.Analytics

/-! ## The markout tracker -/

namespace MarkoutTracker

structure Config where
  horizon1Ns : Nat := 1000000000
  horizon2Ns : Nat := 5000000000
  horizon3Ns : Nat := 30000000000
  maxPending : Nat := 64

/-- A completed markout observation. -/
structure Observation where
  instrumentId : Nat
  fillTsNs : Nat
  /-- `1` for a buy, `-1` for a sell. -/
  sideSign : Int
  fillPrice : ℚ
  fillMid : ℚ
  markout1sBps : ℚ
  markout5sBps : ℚ
  markout30sBps : ℚ
  deriving DecidableEq, Repr

/-- The markout of a horizon, once it is logged. -/
structure Mark where
  bps : ℚ := 0
  logged : Bool := false

structure PendingFill where
  instrumentId : Nat
  fillTsNs : Nat
  sideSign : Int
  fillPrice : ℚ
  fillMid : ℚ
  mark1s : Mark := {}
  mark5s : Mark := {}
  mark30s : Mark := {}

end MarkoutTracker

structure MarkoutTracker where
  pending : List MarkoutTracker.PendingFill := []
  completed : List MarkoutTracker.Observation := []

namespace MarkoutTracker

variable (cfg : Config) (t : MarkoutTracker) (pf : PendingFill) (mid : ℚ) (nowNs : Nat)

def computeMarkoutBps : ℚ :=
  if pf.fillMid ≤ 0 then 0 else pf.sideSign * (mid - pf.fillMid) / pf.fillMid * 10000

/-- The oldest fill makes room when there are too many. -/
def onFill (instrumentId : Nat) (sideSign : Int) (fillPrice currentMid : ℚ) (fillTsNs : Nat) :
    MarkoutTracker :=
  { t with
    pending :=
      (if t.pending.length ≥ cfg.maxPending then t.pending.tail else t.pending) ++
        [{ instrumentId := instrumentId
           fillTsNs := fillTsNs
           sideSign := sideSign
           fillPrice := fillPrice
           fillMid := currentMid }] }

/-- A horizon is marked once, by the first tick that reaches it. -/
def Mark.check (m : Mark) (bps : ℚ) (reached : Bool) : Mark :=
  if m.logged = false ∧ reached then { bps := bps, logged := true } else m

/-- The time that has passed since the fill, as far as the two timestamps tell. -/
def PendingFill.elapsed : Nat :=
  if nowNs > pf.fillTsNs then nowNs - pf.fillTsNs else 0

/-- The horizons of a fill at a tick. -/
def PendingFill.check : PendingFill :=
  let elapsed := pf.elapsed nowNs
  let bps := computeMarkoutBps pf mid
  { pf with
    mark1s := pf.mark1s.check bps (elapsed ≥ cfg.horizon1Ns)
    mark5s := pf.mark5s.check bps (elapsed ≥ cfg.horizon2Ns)
    mark30s := pf.mark30s.check bps (elapsed ≥ cfg.horizon3Ns) }

def PendingFill.done : Bool := pf.mark1s.logged && pf.mark5s.logged && pf.mark30s.logged

def PendingFill.observation : Observation where
  instrumentId := pf.instrumentId
  fillTsNs := pf.fillTsNs
  sideSign := pf.sideSign
  fillPrice := pf.fillPrice
  fillMid := pf.fillMid
  markout1sBps := pf.mark1s.bps
  markout5sBps := pf.mark5s.bps
  markout30sBps := pf.mark30s.bps

/-- Every pending fill is checked, and those that are done are completed; the answer is how many. -/
def onTick : MarkoutTracker × Nat :=
  let checked := t.pending.map (PendingFill.check cfg · mid nowNs)
  let done := checked.filter PendingFill.done
  ({ pending := checked.filter fun pf => !pf.done
     completed := t.completed ++ done.map PendingFill.observation },
    done.length)

def consume : MarkoutTracker × List Observation := ({ t with completed := [] }, t.completed)

end MarkoutTracker

/-! ## The service -/

open MarkoutTracker

structure InstrumentState where
  lastMid : ℚ := 0
  tracker : MarkoutTracker := {}

structure AnalyticsService where
  state : Table Nat InstrumentState := ∅

/-- An event with its time: the timestamp of the tick, or the clock when the report is handled. For
a report, `first` is the instrument that comes first in the hash table, whose order is not
specified. -/
inductive Event where
  | bbo (instrumentId : Nat) (bid ask : ℚ) (timeNs : Nat)
  | execReport (rpt : ExecReport) (first : Nat) (timeNs : Nat)

/-- What the service reads of its settings. -/
structure Settings where
  markoutMaxPending : Nat := 64

/-- `mt_cfg_`. -/
def Settings.mtCfg (settings : Settings) : Config where
  horizon1Ns := 1000000000
  horizon2Ns := 5000000000
  horizon3Ns := 30000000000
  maxPending := settings.markoutMaxPending

namespace AnalyticsService

variable (settings : Settings) (s : AnalyticsService)

/-- `get_or_create`. -/
def getOrCreate (instrumentId : Nat) : InstrumentState := (s.state.lookup instrumentId).getD {}

def put (instrumentId : Nat) (st : InstrumentState) : AnalyticsService :=
  { state := s.state.insert instrumentId st }

/-- `state_.begin()->first`. -/
def begin (first : Nat) : Nat := if first ∈ s.state then first else s.state.keys.headD 0

/-- The first instrument stands in for the reports of exchanges that name none. -/
def route (first instrumentId : Nat) : Nat :=
  if instrumentId = 0 ∧ s.state.keys ≠ [] then s.begin first else instrumentId

def onBbo (instrumentId : Nat) (bid ask : ℚ) (timestampNs : Nat) :
    AnalyticsService × List (Nat × Observation) :=
  if bid ≤ 0 ∨ ask ≤ 0 ∨ ask ≤ bid then (s, [])
  else
    let mid := (bid + ask) / 2
    let st := s.getOrCreate instrumentId
    let ticked := st.tracker.onTick settings.mtCfg mid timestampNs
    if ticked.2 > 0 then
      let consumed := ticked.1.consume
      (s.put instrumentId { lastMid := mid, tracker := consumed.1 },
        consumed.2.map (instrumentId, ·))
    else (s.put instrumentId { lastMid := mid, tracker := ticked.1 }, [])

def onExecFill (first instrumentId : Nat) (sideSign : Int) (fillPrice : ℚ) (timestampNs : Nat) :
    AnalyticsService :=
  let key := s.route first instrumentId
  let st := s.getOrCreate key
  s.put key
    { st with
      tracker := st.tracker.onFill settings.mtCfg (if st.lastMid > 0 then instrumentId else 0) sideSign
        fillPrice st.lastMid timestampNs }

def sideSign (side : OrderSide) : Int := if side = .BUY then 1 else -1

def onExecReport (rpt : ExecReport) (first nowNs : Nat) : AnalyticsService :=
  let instId := s.route first rpt.instrumentId
  let s := s.put instId (s.getOrCreate instId)
  if rpt.status.isFill then
    s.onExecFill settings first instId (sideSign rpt.side) (ofE8 rpt.price) nowNs
  else s

def step (s : AnalyticsService) : Event → AnalyticsService × List (Nat × Observation)
  | .bbo instrumentId bid ask timeNs => s.onBbo settings instrumentId bid ask timeNs
  | .execReport rpt first timeNs => (s.onExecReport settings rpt first timeNs, [])

end AnalyticsService

end BptCore.Analytics
