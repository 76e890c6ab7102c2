import BptCore.Messages
import Mathlib.Data.Fin.VecNotation

/-!
# Orders, fills and market records of the backtest engine

The engine's own order and fill types, and the two records of the replay stream. Quantities and
prices, doubles in the source, are exact rationals. The engine names an order by the decimal
rendering of the strategy's id, which the model keeps as the number.
-/

namespace BptCore.Backtester

/-- `matching::OrderType`: the wire's two types, and the maker-only one. -/
inductive MatchType where
  | MARKET | LIMIT | POST_ONLY
  deriving DecidableEq, Repr

inductive LiquidityRole where
  | MAKER | TAKER
  deriving DecidableEq, Repr

structure OpenOrder where
  orderId : Nat
  clientOrderId : Nat
  exchange : String
  symbol : String
  type : MatchType
  side : OrderSide
  price : ℚ
  quantity : ℚ
  filledQty : ℚ := 0
  submittedTs : Nat := 0
  /-- A slot for the order was placed in the level's queue. -/
  queueSeeded : Bool := false
  rejected : Bool := false
  deriving DecidableEq, Repr

structure FillReport where
  orderId : Nat
  clientOrderId : Nat
  exchange : String
  symbol : String
  orderType : MatchType
  side : OrderSide
  liquidityRole : LiquidityRole
  originalQty : ℚ
  orderPrice : ℚ
  lastFillQty : ℚ
  lastFillPrice : ℚ
  cumulativeFillQty : ℚ
  isFullyFilled : Bool
  simulationTs : Nat
  deriving DecidableEq, Repr

abbrev kOrderBookDepth : Nat := 5

/-- An L2 snapshot: bids best first, asks best first, absent levels 0. -/
structure OrderBookRecord where
  timestampNs : Nat
  exchange : String
  symbol : String
  bidPx : Fin kOrderBookDepth → ℚ
  bidSz : Fin kOrderBookDepth → ℚ
  askPx : Fin kOrderBookDepth → ℚ
  askSz : Fin kOrderBookDepth → ℚ

/-- A trade print; the side is the taker's. -/
structure TradeRecord where
  timestampNs : Nat
  price : ℚ
  quantity : ℚ
  side : OrderSide
  exchange : String
  symbol : String

inductive MarketEvent where
  | orderBook (ob : OrderBookRecord)
  | trade (t : TradeRecord)

def MarketEvent.timestampNs : MarketEvent → Nat
  | orderBook ob => ob.timestampNs
  | trade t => t.timestampNs

/-- The levels of one side with their sizes, best first. -/
def OrderBookRecord.levels (book : OrderBookRecord) (side : OrderSide) : List (ℚ × ℚ) :=
  match side with
  | .BUY => (List.finRange kOrderBookDepth).map fun i => (book.bidPx i, book.bidSz i)
  | .SELL => (List.finRange kOrderBookDepth).map fun i => (book.askPx i, book.askSz i)

/-- The side that an order trades against. -/
def opposite : OrderSide → OrderSide
  | .BUY => .SELL
  | .SELL => .BUY

/-- The best price of one side. -/
def OrderBookRecord.touch (book : OrderBookRecord) (side : OrderSide) : ℚ :=
  match side with
  | .BUY => book.bidPx 0
  | .SELL => book.askPx 0

/-- The tolerance of quantities, `1e-12`. -/
def kQtyTol : ℚ := 1 / 1000000000000

/-- The tolerance of prices, `1e-9`. -/
def kPriceTol : ℚ := 1 / 1000000000

end BptCore.Backtester
