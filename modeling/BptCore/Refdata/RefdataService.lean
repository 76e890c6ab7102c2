import BptCore.Lib.Table
import BptCore.Refdata.RefdataMessages

/-!
# The instrument registry and the refdata service

The registry holds the instruments as the refdata service has them from the venues, by uid. The
service keeps it up to date, publishes every change of it as a delta with a number, and the whole of
it as a snapshot that carries the number of the last delta. The listing polls, the requests and the
timers are all served by the one main loop.

* **`add`**, **`remove`**, **`updateIfChanged`** — the writes of the registry.
* **`Instrument.block`** — the fields that both messages carry of an instrument.
* **`publishDelta`**, **`publishHeartbeat`** — each takes the next number.
* **`RefdataSnapshotPublisher.publish`** — the instruments that a request asks for.
* **`handleRequest`**, **`republishSnapshot`** — a snapshot for one client, and the periodic one.
-/

namespace BptCore.Refdata

/-! ## The instrument registry -/

inductive InstrumentType where
  | SPOT | PERP | FUTURE | OPTION | UNKNOWN
  deriving DecidableEq, Repr

inductive InstrumentStatus where
  | ACTIVE | DELISTED | HALTED | UNKNOWN
  deriving DecidableEq, Repr

/-- `model::Instrument`. -/
structure Instrument where
  instUid : Nat
  venue : String
  venueSymbol : String
  instType : InstrumentType
  base : String
  quote : String
  tickSize : ℚ
  lotSize : ℚ
  contractMultiplier : ℚ
  status : InstrumentStatus
  expiryTimestamp : Option Nat := none
  strikePrice : Option ℚ := none
  deriving DecidableEq, Repr

/-! ## Into a message -/

/-- `to_sbe_type`; `none` is the null value. -/
def toSbeType : InstrumentType → Option Sbe.InstrumentType
  | .SPOT => some .SPOT
  | .FUTURE => some .FUTURE
  | .PERP => some .PERPETUAL
  | .OPTION => some .OPTION
  | .UNKNOWN => none

def toSbeStatus : InstrumentStatus → Option Sbe.InstrumentStatus
  | .ACTIVE => some .ACTIVE
  | .HALTED => some .HALTED
  | .DELISTED => some .INACTIVE
  | .UNKNOWN => none

/-- The Gregorian date, as year, month and day, of a day since 1970-01-01. Years begin with March
and come in eras of 400. -/
def civilDate (day : Nat) : Nat × Nat × Nat :=
  let z := day + 719468
  let era := z / 146097
  let dayOfEra := z % 146097
  let yearOfEra := (dayOfEra - dayOfEra / 1460 + dayOfEra / 36524 - dayOfEra / 146096) / 365
  let dayOfYear := dayOfEra - (365 * yearOfEra + yearOfEra / 4 - yearOfEra / 100)
  let mp := (5 * dayOfYear + 2) / 153
  let month := if mp < 10 then mp + 3 else mp - 9
  let year := yearOfEra + era * 400
  (if month ≤ 2 then year + 1 else year, month, dayOfYear - (153 * mp + 2) / 5 + 1)

def nsToYyyymmdd (ns : Nat) : Nat :=
  let (year, month, day) := civilDate (ns / 1000000000 / 86400)
  year * 10000 + month * 100 + day

def Instrument.block (inst : Instrument) : InstrumentBlock where
  instrumentId := inst.instUid
  symbol := putStr 24 inst.venueSymbol
  exchange := putStr 8 inst.venue
  baseCurrency := putStr 8 inst.base
  quoteCurrency := putStr 8 inst.quote
  instrumentType := toSbeType inst.instType
  status := toSbeStatus inst.status
  lotSize := inst.lotSize
  tickSize := inst.tickSize
  contractSize := inst.contractMultiplier
  expiryDate := (inst.expiryTimestamp.map nsToYyyymmdd).getD 0
  optionSide := some .NA
  strikePrice := inst.strikePrice.getD 0

/-! ## The registry -/

/-- `instruments_by_uid_`: every instrument is under its uid. -/
structure InstrumentRegistry where
  instrumentsByUid : Table Nat Instrument
  keyed : ∀ uid inst, instrumentsByUid.lookup uid = some inst → inst.instUid = uid

namespace InstrumentRegistry

def empty : InstrumentRegistry where
  instrumentsByUid := ∅
  keyed uid inst h := by simp at h

variable (r : InstrumentRegistry)

def add (inst : Instrument) : InstrumentRegistry where
  instrumentsByUid := r.instrumentsByUid.insert inst.instUid inst
  keyed uid inst' h := by
    rw [Table.lookup_insert_eq] at h
    split at h
    · next huid => cases h; exact huid.symm
    · exact r.keyed uid inst' h

def update (inst : Instrument) : InstrumentRegistry := r.add inst

def remove (instUid : Nat) : InstrumentRegistry where
  instrumentsByUid := r.instrumentsByUid.erase instUid
  keyed uid inst h := by
    rw [Table.lookup_erase_eq] at h
    split at h
    · cases h
    · exact r.keyed uid inst h

/-- The fields that `update_if_changed` compares. -/
def SameContent (existing inst : Instrument) : Prop :=
  existing.tickSize = inst.tickSize ∧ existing.lotSize = inst.lotSize ∧
    existing.contractMultiplier = inst.contractMultiplier ∧ existing.status = inst.status ∧
    existing.expiryTimestamp = inst.expiryTimestamp ∧ existing.strikePrice = inst.strikePrice

instance (existing inst : Instrument) : Decidable (SameContent existing inst) :=
  inferInstanceAs (Decidable (_ ∧ _))

/-- The registry, and whether the instrument is new or has changed. -/
def updateIfChanged (inst : Instrument) : InstrumentRegistry × Bool :=
  match r.instrumentsByUid.lookup inst.instUid with
  | none => (r.add inst, true)
  | some existing => if SameContent existing inst then (r, false) else (r.add inst, true)

/-- The instruments, in the order of `for_each`. -/
def getAll : List Instrument := Table.vals r.instrumentsByUid

end InstrumentRegistry

/-! ## The refdata service -/

namespace RefdataSnapshotPublisher

/-- An exchange name of the filter that fills the array may be cut off. -/
def venueMatchesFilterExchange (venue filterExchange : String) : Bool :=
  filterExchange = "" || venue = filterExchange ||
    (filterExchange.length == 8 && decide (venue.length > 8) &&
      venue.toList.take 8 == filterExchange.toList)

/-- `matches`. Without a filter every instrument does; the canonical filters go first. -/
def matchesFilter (inst : Instrument) (req : RefdataRequest) : Bool :=
  if req.canonicalFilters ≠ [] then
    req.canonicalFilters.any fun f =>
      inst.base == f.baseCurrency && inst.quote == f.quoteCurrency &&
        toSbeType inst.instType == f.instrumentType &&
        venueMatchesFilterExchange inst.venue f.exchange
  else if req.instruments ≠ [] then
    req.instruments.any fun f =>
      (f.symbol = "" || inst.venueSymbol = f.symbol) &&
        venueMatchesFilterExchange inst.venue f.exchange
  else true

/-- The most entries that a group can count. -/
def kMaxGroupCount : Nat := 65534

def snapshot (registry : InstrumentRegistry) (request : RefdataRequest) (seqStart nowNs : Nat) :
    RefDataSnapshot where
  correlationId := request.correlationId
  snapshotSeqNum := seqStart
  timestampNs := nowNs
  instruments := (registry.getAll.filter fun inst => matchesFilter inst request).map Instrument.block

/-- Writing more entries than a group counts throws, and nothing is published. -/
def publish (registry : InstrumentRegistry) (request : RefdataRequest) (seqStart nowNs : Nat) :
    Option RefDataSnapshot :=
  let msg := snapshot registry request seqStart nowNs
  if msg.instruments.length > kMaxGroupCount then none else some msg

end RefdataSnapshotPublisher

/-- The registry, and the sequence of the delta publisher. -/
structure RefdataService where
  registry : InstrumentRegistry := .empty
  seq : Nat := 0

namespace RefdataService

variable (s : RefdataService)

/-! ## The delta stream -/

def publishDelta (updateType : Sbe.DeltaUpdateType) (inst : Instrument) (nowNs : Nat) :
    RefdataService × RefDataDelta :=
  ({ s with seq := s.seq + 1 },
    { deltaSeqNum := s.seq + 1
      timestampNs := nowNs
      updateType := some updateType
      instrument := inst.block })

/-- The fields of an instrument are all zero in a heartbeat. -/
def publishHeartbeat (nowNs : Nat) : RefdataService × RefDataDelta :=
  ({ s with seq := s.seq + 1 },
    { deltaSeqNum := s.seq + 1
      timestampNs := nowNs
      updateType := none
      instrument :=
        { instrumentId := 0, symbol := "", exchange := "", baseCurrency := "", quoteCurrency := ""
          instrumentType := some .SPOT, status := some .ACTIVE, lotSize := 0, tickSize := 0
          contractSize := 0, expiryDate := 0, optionSide := some .CALL, strikePrice := 0 } })

/-- The write to the registry that goes with a delta. -/
def writeRegistry (updateType : Sbe.DeltaUpdateType) (inst : Instrument) : RefdataService :=
  { s with registry := match updateType with
    | .ADD => s.registry.add inst
    | .MODIFY => s.registry.update inst
    | .REMOVE => s.registry.remove inst.instUid }

/-- A change of the registry, published as `on_instrument_delta` does. -/
def changeInstrument (updateType : Sbe.DeltaUpdateType) (inst : Instrument) (nowNs : Nat) :
    RefdataService × RefDataDelta :=
  (s.writeRegistry updateType inst).publishDelta updateType inst nowNs

/-- One instrument of `fetchInstrumentListing`: published when it has changed. -/
def refreshInstrument (inst : Instrument) (nowNs : Nat) : RefdataService × List RefDataDelta :=
  let (registry, changed) := s.registry.updateIfChanged inst
  let s := { s with registry := registry }
  if changed then
    let (s, delta) := s.publishDelta .MODIFY inst nowNs
    (s, [delta])
  else (s, [])

/-- The deltas of all instruments, after the mapping was loaded anew. -/
def republishInstruments (nowNs : Nat) :
    RefdataService → List Instrument → RefdataService × List RefDataDelta
  | s, [] => (s, [])
  | s, inst :: insts =>
    let (s, delta) := s.publishDelta .MODIFY inst nowNs
    let out := republishInstruments nowNs s insts
    (out.1, delta :: out.2)

def refreshMapping (nowNs : Nat) : RefdataService × List RefDataDelta :=
  republishInstruments nowNs s s.registry.getAll

/-! ## The snapshot stream -/

def handleRequest (request : RefdataRequest) (nowNs : Nat) : Option RefDataSnapshot :=
  RefdataSnapshotPublisher.publish s.registry request s.seq nowNs

/-- Every 30 seconds, for clients that have come late. -/
def republishSnapshot (nowNs : Nat) : Option RefDataSnapshot :=
  let emptyReq : RefdataRequest := {}
  RefdataSnapshotPublisher.publish s.registry emptyReq s.seq nowNs

end RefdataService

end BptCore.Refdata
