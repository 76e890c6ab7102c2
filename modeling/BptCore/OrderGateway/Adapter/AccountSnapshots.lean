import BptCore.OrderGateway.Adapter.WireDecimal

/-!
# The account snapshots of the adapters

What `fetch_account_snapshot` makes of the venues' answers. All four venues give the open positions,
each in the unit of the venue; OKX and Deribit give the balances by currency, of which the OKX
adapter passes on those above zero.
-/

namespace BptCore.OrderGateway

structure AccountPosition where
  exchangeSymbol : String
  netQtyE8 : Int
  avgEntryPriceE8 : Int
  unrealizedPnlE8 : Int
  deriving DecidableEq, Repr

structure CurrencyBalance where
  ccy : String
  equityE8 : Int
  availableBalanceE8 : Int
  deriving DecidableEq, Repr

structure AccountSnapshotData where
  exchangeId : ExchangeId
  correlationId : Nat
  timestampNs : Nat
  availableBalanceE8 : Int
  totalEquityE8 : Int
  positions : List AccountPosition
  currencyBalances : List CurrencyBalance

/-- A currency of the account, by a code of at most eight characters. A number that is absent or
empty is 0. -/
structure VenueBalance where
  ccy : String
  eq : ℚ
  availBal : ℚ
  deriving DecidableEq, Repr

structure VenuePosition where
  symbol : String
  qty : ℚ
  avgPrice : ℚ
  unrealizedPnl : ℚ
  deriving DecidableEq, Repr

/-- What a venue answers. -/
structure AccountResponse where
  availableBalance : ℚ
  totalEquity : ℚ
  balances : List VenueBalance
  positions : List VenuePosition

/-- Whether an adapter passes a currency on. -/
def passesBalance (exchange : ExchangeId) (b : VenueBalance) : Bool :=
  match exchange with
  | .OKX => decide (b.eq > 0 ∧ b.ccy ≠ "")
  | .DERIBIT => true
  | .ALL | .BINANCE | .HYPERLIQUID => false

def balanceRow (b : VenueBalance) : CurrencyBalance where
  ccy := b.ccy
  equityE8 := roundE8 b.eq
  availableBalanceE8 := roundE8 b.availBal

/-- The quantity is the venue's, be it of base currency or of contracts. -/
def positionRow (p : VenuePosition) : AccountPosition where
  exchangeSymbol := p.symbol
  netQtyE8 := roundE8 p.qty
  avgEntryPriceE8 := roundE8 p.avgPrice
  unrealizedPnlE8 := roundE8 p.unrealizedPnl

def fetchAccountSnapshot (exchange : ExchangeId) (response : AccountResponse)
    (correlationId nowNs : Nat) : AccountSnapshotData where
  exchangeId := exchange
  correlationId := correlationId
  timestampNs := nowNs
  availableBalanceE8 := roundE8 response.availableBalance
  totalEquityE8 := roundE8 response.totalEquity
  positions := (response.positions.filter fun p => p.qty ≠ 0).map positionRow
  currencyBalances := (response.balances.filter (passesBalance exchange)).map balanceRow

end BptCore.OrderGateway
