import BptCore.Messages
import BptCore.Strategy.Order.Requests

/-!
# The strategy interface

`IStrategy` is what the service drives: one callback for each kind of message, and the calls of
the flatten path. A strategy is a state and its answer to every callback, which are the orders it
asks `send_new_order` for.

* **`Callback`** — the virtual functions, with their arguments.
* **`IStrategy`** — an implementation. It says of itself on which callbacks it sends, and carries
  the proof.
-/

namespace BptCore.Strategy

/-! ## The messages -/

structure MdMarketData where
  timestampNs : Nat
  instrumentId : Nat
  bidPrice : ℚ
  bidQty : ℚ
  askPrice : ℚ
  askQty : ℚ
  seqNum : Nat
  deriving Repr

inductive TradeSide where
  | BUY | SELL
  deriving DecidableEq, Repr

structure MdTrade where
  timestampNs : Nat
  instrumentId : Nat
  price : ℚ
  qty : ℚ
  side : TradeSide
  seqNum : Nat
  deriving Repr

/-- The levels of either side are pairs of a price and a quantity. -/
structure MdOrderBook where
  timestampNs : Nat
  instrumentId : Nat
  seqNum : Nat
  bids : List (ℚ × ℚ)
  asks : List (ℚ × ℚ)
  deriving Repr

inductive OptionSide where
  | CALL | PUT | NA
  deriving DecidableEq, Repr

/-- One entry of the group `points` of a `VolSurface`. -/
structure VolPoint where
  instrumentId : Nat
  expiryDate : Nat
  strikePrice : ℚ
  optionSide : OptionSide
  impliedVol : ℚ
  forwardPrice : ℚ
  timeToExpiry : ℚ
  bidIv : ℚ
  askIv : ℚ
  bidPrice : ℚ
  askPrice : ℚ
  delta : ℚ
  gamma : ℚ
  vega : ℚ
  theta : ℚ
  deriving Repr

structure VolSurface where
  timestampNs : Nat
  exchangeId : Option ExchangeId
  underlying : String
  seqNum : Nat
  points : List VolPoint
  deriving Repr

/-- One entry of the group `positions` of an `AccountSnapshot`. -/
structure AccountPosition where
  exchangeSymbol : String
  netQtyE8 : Int
  avgEntryPriceE8 : Int
  unrealizedPnlE8 : Int
  deriving Repr

/-- One entry of the group `currencyBalances` of an `AccountSnapshot`. -/
structure CurrencyBalance where
  ccy : String
  equityE8 : Int
  availableBalanceE8 : Int
  deriving Repr

structure AccountSnapshot where
  exchangeId : Option ExchangeId
  correlationId : Nat
  timestampNs : Nat
  availableBalanceE8 : Int
  totalEquityE8 : Int
  positions : List AccountPosition
  currencyBalances : List CurrencyBalance
  deriving Repr

/-- The statistics of one side of a `ToxicityUpdate`; `none` is a NaN. -/
structure SideToxicity where
  markout1sBps : Option ℚ
  markout5sBps : Option ℚ
  markout30sBps : Option ℚ
  adverseRate : Option ℚ
  sampleCount : Nat
  toxicityScore : Option ℚ
  fillRate : Option ℚ
  ttfMs : Option ℚ
  deriving Repr

structure ToxicityUpdate where
  instrumentId : Nat
  timestampNs : Nat
  bid : SideToxicity
  ask : SideToxicity
  deriving Repr

inductive InstrumentType where
  | SPOT | FUTURE | PERPETUAL | OPTION
  deriving DecidableEq, Repr

inductive InstrumentStatus where
  | ACTIVE | INACTIVE | HALTED
  deriving DecidableEq, Repr

structure Instrument where
  instrumentId : Nat
  symbol : String
  exchange : String
  baseCurrency : String
  quoteCurrency : String
  type : InstrumentType
  status : InstrumentStatus
  lotSize : ℚ
  tickSize : ℚ
  contractSize : ℚ
  expiryDate : Nat
  optionSide : OptionSide
  strikePrice : ℚ
  deriving Repr

inductive DeltaUpdateType where
  | ADD | MODIFY | REMOVE
  deriving DecidableEq, Repr

/-- `to_exchange_id`. -/
def toExchangeId (name : String) : Option ExchangeId :=
  if name = "BINANCE" then some .BINANCE
  else if name = "OKX" then some .OKX
  else if name = "HYPERLIQUID" then some .HYPERLIQUID
  else if name = "DERIBIT" then some .DERIBIT
  else none

/-! ## The callbacks -/

/-- A call of a virtual function of `IStrategy`. An instrument snapshot comes with `get_all()` of
the cache, a load with what the saved file held. -/
inductive Callback where
  | start
  | onInstrumentSnapshot (all : List Instrument)
  | onInstrumentDelta (inst : Instrument) (updateType : DeltaUpdateType)
  | onBbo (tick : MdMarketData)
  | onTrade (tick : MdTrade)
  | onOrderBook (book : MdOrderBook)
  | onVolSurface (surface : VolSurface)
  | onExecReport (rpt : ExecReport)
  | onToxicityUpdate (update : ToxicityUpdate)
  | onRefdataStaleChanged (stale : Bool)
  | onAccountSnapshot (snap : AccountSnapshot)
  | loadState (contents : Option String) (maxAgeS : Nat)
  | onShutdownFlatten
  | onFlattenTick

/-- A call of `send_new_order`; `unwind` marks those that the flatten path of the strategy makes. -/
structure SentOrder where
  request : NewOrderRequest
  unwind : Bool := false
  deriving DecidableEq, Repr

/-- An implementation of `IStrategy`. -/
structure IStrategy where
  State : Type
  initial : State
  /-- The callback: the state it leaves, and its calls of `send_new_order`. -/
  handle : State → Callback → State × List SentOrder
  /-- The strategy's own condition for sending an order, other than an unwind, on a callback. -/
  sends : State → Callback → Prop
  sends_iff : ∀ s c, sends s c ↔ ∃ o ∈ (handle s c).2, o.unwind = false

end BptCore.Strategy
