import BptCore.Lib.Table
import BptCore.Refdata.RefdataMessages
import BptCore.Strategy.Strategy.IStrategy

/-!
# The refdata client and its instrument cache

The cache is the strategy's copy of the registry. A snapshot replaces it, deltas keep it up to date,
and their numbers tell whether one was missed. `AeronRefdataClient` feeds it from the two streams.
Snapshots are broadcast to all clients, so it takes those alone that carry the correlation id of its
own request.

* **`handleSnapshot`**, **`handleDelta`** — a message of either stream.
* **`ShowsGap`** — the deltas that the client resets its cache for.
* **`handleDelta_stale`**, **`handleDelta_gap`**, **`handleDelta_taken`** — what a delta does once
  there is a snapshot.
-/

namespace BptCore.Strategy.Refdata

/-! ## The instrument cache -/

open BptCore.Refdata

/-! ## Out of a message -/

def fromSbeType : Option Sbe.InstrumentType → InstrumentType
  | some .SPOT => .SPOT
  | some .FUTURE => .FUTURE
  | some .PERPETUAL => .PERPETUAL
  | some .OPTION => .OPTION
  | none => .SPOT

def fromSbeStatus : Option Sbe.InstrumentStatus → InstrumentStatus
  | some .ACTIVE => .ACTIVE
  | some .INACTIVE => .INACTIVE
  | some .HALTED => .HALTED
  | some .PRE_DELIVERY | none => .ACTIVE

def fromSbeOptionSide : Option Sbe.OptionSide → OptionSide
  | some .CALL => .CALL
  | some .PUT => .PUT
  | some .NA | none => .NA

/-- The one exchange whose name is cut off in a message. -/
def canonicalizeExchange (truncated : String) : String :=
  if truncated = "HYPERLIQ" then "HYPERLIQUID" else truncated

/-- The instrument that `apply_snapshot` and `apply_delta` make of the fields. -/
def ofBlock (b : InstrumentBlock) : Instrument where
  instrumentId := b.instrumentId
  symbol := b.symbol
  exchange := canonicalizeExchange b.exchange
  baseCurrency := b.baseCurrency
  quoteCurrency := b.quoteCurrency
  type := fromSbeType b.instrumentType
  status := fromSbeStatus b.status
  lotSize := b.lotSize
  tickSize := b.tickSize
  contractSize := b.contractSize
  expiryDate := b.expiryDate
  optionSide := fromSbeOptionSide b.optionSide
  strikePrice := b.strikePrice

/-! ## The cache -/

structure InstrumentCache where
  cache : Table Nat Instrument := ∅
  snapshotReceived : Bool := false
  snapshotSeqNum : Nat := 0
  /-- The number of the last delta, 0 while there was none. -/
  lastDeltaSeq : Nat := 0

namespace InstrumentCache

variable (c : InstrumentCache)

/-- The group of a snapshot, the first entry of an id counting. -/
def instrumentsOf (blocks : List InstrumentBlock) : Table Nat Instrument :=
  blocks.foldl (fun t b => Table.emplace b.instrumentId (ofBlock b) t) ∅

def applySnapshot (msg : RefDataSnapshot) : InstrumentCache where
  cache := instrumentsOf msg.instruments
  snapshotReceived := true
  snapshotSeqNum := msg.snapshotSeqNum
  lastDeltaSeq := 0

/-- The switch over the update type. -/
def applyUpdate (cache : Table Nat Instrument) (msg : RefDataDelta) : Table Nat Instrument :=
  match msg.updateType with
  | none => cache
  | some .ADD | some .MODIFY =>
    cache.insert msg.instrument.instrumentId (ofBlock msg.instrument)
  | some .REMOVE => cache.erase msg.instrument.instrumentId

/-- The cache, and `false` for a gap. -/
def applyDelta (msg : RefDataDelta) : InstrumentCache × Bool :=
  let seq := msg.deltaSeqNum
  if seq ≤ c.snapshotSeqNum then (c, true)
  -- the first delta after the snapshot is not compared with anything
  else if c.lastDeltaSeq > 0 ∧ seq ≠ c.lastDeltaSeq + 1 then (c, false)
  else ({ c with lastDeltaSeq := seq, cache := applyUpdate c.cache msg }, true)

/-- `reset`: the cache is as at the start. -/
def reset : InstrumentCache := {}

def get (instrumentId : Nat) : Option Instrument := c.cache.lookup instrumentId

def getAll : List Instrument := Table.vals c.cache

end InstrumentCache

/-! ## The client -/

open BptCore.Refdata

/-- What the client calls on its way: the handler, and the caches of fees and funding rates, which
forget an instrument that is removed. -/
inductive RefdataCall where
  | snapshotComplete (all : List Instrument)
  | delta (inst : Instrument) (updateType : Sbe.DeltaUpdateType)
  | gapDetected
  | removeRates (instrumentId : Nat)

structure AeronRefdataClient where
  cache : InstrumentCache := {}
  correlationId : Nat := 0
  lastHeartbeatNs : Nat := 0

namespace AeronRefdataClient

variable (c : AeronRefdataClient)

/-- The client, and the request it sends. -/
def subscribe (correlationId : Nat) (filters : List CanonicalFilter) :
    AeronRefdataClient × RefdataRequest :=
  ({ c with correlationId := correlationId },
    { correlationId := correlationId, canonicalFilters := filters })

/-- `handle_snapshot_fragment`. -/
def handleSnapshot (msg : RefDataSnapshot) : AeronRefdataClient × List RefdataCall :=
  if msg.correlationId ≠ c.correlationId then (c, [])
  else
    let cache := InstrumentCache.applySnapshot msg
    ({ c with cache := cache }, [.snapshotComplete cache.getAll])

/-- The calls that follow an update. The handler hears of an instrument that is then in the cache. -/
def updateCalls (cache : InstrumentCache) (instrumentId : Nat)
    (updateType : Sbe.DeltaUpdateType) : List RefdataCall :=
  (if updateType = .REMOVE then [.removeRates instrumentId] else []) ++
    match cache.get instrumentId with
    | some inst => [.delta inst updateType]
    | none => []

/-- `handle_delta_fragment`. -/
def handleDelta (msg : RefDataDelta) : AeronRefdataClient × List RefdataCall :=
  -- discarded until there is a snapshot
  if c.cache.snapshotReceived = false then (c, [])
  else
    match msg.updateType with
    | none =>
      -- whether the number of a heartbeat fits is not looked at
      ({ c with lastHeartbeatNs := msg.timestampNs, cache := (c.cache.applyDelta msg).1 }, [])
    | some updateType =>
      let (cache, ok) := c.cache.applyDelta msg
      if ok = false then ({ c with cache := InstrumentCache.reset }, [.gapDetected])
      else
        ({ c with cache := cache }, updateCalls cache msg.instrument.instrumentId updateType)

variable {c} in
theorem handleSnapshot_own {msg : RefDataSnapshot} (h : msg.correlationId = c.correlationId) :
    c.handleSnapshot msg = ({ c with cache := InstrumentCache.applySnapshot msg },
      [.snapshotComplete (InstrumentCache.applySnapshot msg).getAll]) :=
  if_neg (not_not.mpr h)

variable {c} in
theorem handleSnapshot_other {msg : RefDataSnapshot} (h : msg.correlationId ≠ c.correlationId) :
    c.handleSnapshot msg = (c, []) :=
  if_pos h

/-- The delta is newer than the snapshot and does not follow the one before. -/
def ShowsGap (msg : RefDataDelta) : Prop :=
  msg.updateType ≠ none ∧ c.cache.snapshotSeqNum < msg.deltaSeqNum ∧ 0 < c.cache.lastDeltaSeq ∧
    msg.deltaSeqNum ≠ c.cache.lastDeltaSeq + 1

instance (msg : RefDataDelta) : Decidable (c.ShowsGap msg) := inferInstanceAs (Decidable (_ ∧ _))

variable {c} {msg : RefDataDelta}

theorem gapDetected_notMem_updateCalls (cache : InstrumentCache) (instrumentId : Nat)
    (updateType : Sbe.DeltaUpdateType) :
    RefdataCall.gapDetected ∉ updateCalls cache instrumentId updateType := by
  unfold updateCalls
  intro hgap
  rcases List.mem_append.mp hgap with hrates | hdelta
  · split at hrates
    · simp at hrates
    · cases hrates
  · split at hdelta
    · simp at hdelta
    · cases hdelta

theorem handleDelta_discarded (h : c.cache.snapshotReceived = false) :
    c.handleDelta msg = (c, []) :=
  if_pos h

/-- An update that is not newer than the snapshot still has its calls made. -/
theorem handleDelta_staleUpdate (hreceived : c.cache.snapshotReceived = true)
    {updateType : Sbe.DeltaUpdateType} (hupdate : msg.updateType = some updateType)
    (h : msg.deltaSeqNum ≤ c.cache.snapshotSeqNum) :
    c.handleDelta msg = (c, updateCalls c.cache msg.instrument.instrumentId updateType) := by
  have happly : c.cache.applyDelta msg = (c.cache, true) := if_pos h
  unfold handleDelta
  rw [if_neg (by simp [hreceived]), hupdate]
  dsimp only
  rw [happly]
  exact if_neg (by simp)

/-- An update, or none, that is not newer than the snapshot. -/
theorem handleDelta_stale (hreceived : c.cache.snapshotReceived = true)
    (h : msg.deltaSeqNum ≤ c.cache.snapshotSeqNum) :
    (c.handleDelta msg).1.cache = c.cache ∧ RefdataCall.gapDetected ∉ (c.handleDelta msg).2 := by
  cases hupdate : msg.updateType with
  | none =>
    have happly : c.cache.applyDelta msg = (c.cache, true) := if_pos h
    unfold handleDelta
    rw [if_neg (by simp [hreceived]), hupdate]
    dsimp only
    rw [happly]
    exact ⟨rfl, List.not_mem_nil⟩
  | some updateType =>
    rw [handleDelta_staleUpdate hreceived hupdate h]
    exact ⟨rfl, gapDetected_notMem_updateCalls _ _ _⟩

theorem handleDelta_gap (hreceived : c.cache.snapshotReceived = true) (h : c.ShowsGap msg) :
    c.handleDelta msg = ({ c with cache := InstrumentCache.reset }, [.gapDetected]) := by
  obtain ⟨hupdate, hnewer, hlast, hnext⟩ := h
  have happly : c.cache.applyDelta msg = (c.cache, false) := by
    unfold InstrumentCache.applyDelta
    dsimp only
    rw [if_neg (not_le.mpr hnewer), if_pos ⟨hlast, hnext⟩]
  unfold handleDelta
  rw [if_neg (by simp [hreceived])]
  cases hcase : msg.updateType with
  | none => exact absurd hcase hupdate
  | some updateType =>
    dsimp only
    rw [happly]
    exact if_pos rfl

theorem handleDelta_nextUpdate (hreceived : c.cache.snapshotReceived = true)
    {updateType : Sbe.DeltaUpdateType} (hupdate : msg.updateType = some updateType)
    (hnewer : c.cache.snapshotSeqNum < msg.deltaSeqNum)
    (hnext : c.cache.lastDeltaSeq = 0 ∨ msg.deltaSeqNum = c.cache.lastDeltaSeq + 1) :
    let cache := { c.cache with
      lastDeltaSeq := msg.deltaSeqNum
      cache := InstrumentCache.applyUpdate c.cache.cache msg }
    c.handleDelta msg =
      ({ c with cache := cache }, updateCalls cache msg.instrument.instrumentId updateType) := by
  have hfits : ¬(c.cache.lastDeltaSeq > 0 ∧ msg.deltaSeqNum ≠ c.cache.lastDeltaSeq + 1) := by
    omega
  have happly : c.cache.applyDelta msg = ({ c.cache with
      lastDeltaSeq := msg.deltaSeqNum
      cache := InstrumentCache.applyUpdate c.cache.cache msg }, true) := by
    unfold InstrumentCache.applyDelta
    dsimp only
    rw [if_neg (not_le.mpr hnewer), if_neg hfits]
  unfold handleDelta
  rw [if_neg (by simp [hreceived]), hupdate]
  dsimp only
  rw [happly]
  exact if_neg (by simp)

/-- Everything else is taken: an update goes into the cache, a heartbeat leaves the instruments
alone whether its number fits or not. -/
theorem handleDelta_taken (hreceived : c.cache.snapshotReceived = true)
    (hnewer : c.cache.snapshotSeqNum < msg.deltaSeqNum) (h : ¬ c.ShowsGap msg) :
    let out := c.handleDelta msg
    out.1.cache.cache = InstrumentCache.applyUpdate c.cache.cache msg ∧
      out.1.cache.snapshotReceived = true ∧
      out.1.cache.snapshotSeqNum = c.cache.snapshotSeqNum ∧ RefdataCall.gapDetected ∉ out.2 := by
  cases hupdate : msg.updateType with
  | none =>
    have happly : c.cache.applyDelta msg =
        if c.cache.lastDeltaSeq > 0 ∧ msg.deltaSeqNum ≠ c.cache.lastDeltaSeq + 1 then
          (c.cache, false)
        else ({ c.cache with
          lastDeltaSeq := msg.deltaSeqNum
          cache := InstrumentCache.applyUpdate c.cache.cache msg }, true) :=
      if_neg (not_le.mpr hnewer)
    have hkeep : InstrumentCache.applyUpdate c.cache.cache msg = c.cache.cache := by
      unfold InstrumentCache.applyUpdate
      rw [hupdate]
    unfold handleDelta
    dsimp only
    rw [if_neg (by simp [hreceived]), hupdate]
    dsimp only
    rw [happly]
    split
    · exact ⟨hkeep.symm, hreceived, rfl, List.not_mem_nil⟩
    · exact ⟨rfl, hreceived, rfl, List.not_mem_nil⟩
  | some updateType =>
    have hnext : c.cache.lastDeltaSeq = 0 ∨ msg.deltaSeqNum = c.cache.lastDeltaSeq + 1 := by
      by_contra hgap
      exact h ⟨by simp [hupdate], hnewer, by omega, by omega⟩
    dsimp only
    rw [handleDelta_nextUpdate hreceived hupdate hnewer hnext]
    exact ⟨rfl, hreceived, rfl, gapDetected_notMem_updateCalls _ _ _⟩

theorem snapshotComplete_notMem_handleDelta (c : AeronRefdataClient) (msg : RefDataDelta) :
    ∀ call ∈ (c.handleDelta msg).2, ∀ all, call ≠ .snapshotComplete all := by
  rintro call hcall all rfl
  unfold handleDelta updateCalls at hcall
  split at hcall
  · cases hcall
  · split at hcall
    · cases hcall
    · dsimp only at hcall
      split at hcall
      · simp at hcall
      · rcases List.mem_append.mp hcall with hrates | hdelta
        · split at hrates
          · simp at hrates
          · cases hrates
        · split at hdelta
          · simp at hdelta
          · cases hdelta

/-- No message of the delta stream changes the correlation id. -/
theorem handleDelta_correlationId (c : AeronRefdataClient) (msg : RefDataDelta) :
    (c.handleDelta msg).1.correlationId = c.correlationId := by
  unfold handleDelta
  split
  · rfl
  · split
    · rfl
    · dsimp only
      split <;> rfl

end AeronRefdataClient

end BptCore.Strategy.Refdata
