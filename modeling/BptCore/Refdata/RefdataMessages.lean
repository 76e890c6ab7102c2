import Mathlib.Data.Rat.Defs

/-!
# The messages of the reference data

The two streams of the refdata service: snapshots of all instruments, and numbered deltas of one
each. A heartbeat is a delta without an update. `none` is the null value of a wire enumeration, and
a character array is the string that its reader gets back from it.
-/

namespace BptCore.Refdata

namespace Sbe

inductive InstrumentType where
  | SPOT | FUTURE | PERPETUAL | OPTION
  deriving DecidableEq, Repr

inductive InstrumentStatus where
  | ACTIVE | INACTIVE | HALTED | PRE_DELIVERY
  deriving DecidableEq, Repr

inductive OptionSide where
  | CALL | PUT | NA
  deriving DecidableEq, Repr

inductive DeltaUpdateType where
  | ADD | MODIFY | REMOVE
  deriving DecidableEq, Repr

end Sbe

/-- `put_str`: the array holds `n` characters, and is read up to the first null. -/
def putStr (n : Nat) (src : String) : String :=
  String.ofList ((src.toList.take n).takeWhile fun c => c ≠ Char.ofNat 0)

/-- The fields of an instrument, which a snapshot has for each and a delta for one. -/
structure InstrumentBlock where
  instrumentId : Nat
  symbol : String
  exchange : String
  baseCurrency : String
  quoteCurrency : String
  instrumentType : Option Sbe.InstrumentType
  status : Option Sbe.InstrumentStatus
  lotSize : ℚ
  tickSize : ℚ
  contractSize : ℚ
  expiryDate : Nat
  optionSide : Option Sbe.OptionSide
  strikePrice : ℚ
  deriving DecidableEq, Repr

structure RefDataSnapshot where
  correlationId : Nat
  snapshotSeqNum : Nat
  timestampNs : Nat
  instruments : List InstrumentBlock
  deriving DecidableEq, Repr

structure RefDataDelta where
  deltaSeqNum : Nat
  timestampNs : Nat
  updateType : Option Sbe.DeltaUpdateType
  instrument : InstrumentBlock
  deriving DecidableEq, Repr

structure InstrumentFilter where
  symbol : String
  exchange : String
  deriving DecidableEq, Repr

structure CanonicalFilter where
  baseCurrency : String
  quoteCurrency : String
  instrumentType : Option Sbe.InstrumentType
  exchange : String
  deriving DecidableEq, Repr

/-- `RefdataRequest`, which value-initialises to the defaults. -/
structure RefdataRequest where
  correlationId : Nat := 0
  instruments : List InstrumentFilter := []
  canonicalFilters : List CanonicalFilter := []
  deriving DecidableEq, Repr

end BptCore.Refdata
