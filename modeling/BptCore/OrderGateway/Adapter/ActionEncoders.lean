import BptCore.Common.Util.Json
import BptCore.Lib.DecimalText
import BptCore.Lib.Rounding
import BptCore.Lib.Table
import BptCore.OrderGateway.Adapter.OrderAdapter
import Mathlib.Data.List.Infix

/-!
# The action encoders

What the OKX, Binance and Deribit adapters put on the wire for a new order: an operation with one
argument, the parameters of a query, and a call of `private/buy` or `private/sell`. Decimals are
texts with six places on OKX and Binance and numbers on Deribit; the doubles are exact here.
-/

namespace BptCore.OrderGateway

open Common (Json JsonObject)

/-- `kExecInstPostOnly`. -/
def kExecInstPostOnly : Nat := 0x01

/-- `std::to_string` of a double: six places. -/
def stdToString (x : ℚ) : String := DecimalText.print 6 (round (x * 10 ^ 6))

/-- An order as the encoders take it. The symbol is the instrument id on OKX and the instrument
name on Deribit, where the client id is the label. -/
structure OrderSpec where
  symbol : String
  side : OrderSide
  orderType : OrderType
  tif : TimeInForce
  priceE8 : Int
  quantityE8 : Nat
  cloid : String
  deriving DecidableEq, Repr

/-- With the instructions that OKX and Binance take too. -/
structure FlaggedOrderSpec extends OrderSpec where
  execInst : Nat := 0
  deriving DecidableEq, Repr

/-- What `do_send_new_order_blocking` passes of the request. -/
def NewOrderRequest.spec (req : NewOrderRequest) (cloid : String) : OrderSpec where
  symbol := req.exchangeSymbol
  side := req.side
  orderType := req.orderType
  tif := req.tif
  priceE8 := req.price
  quantityE8 := req.quantity
  cloid := cloid

/-- The instructions with it. -/
def NewOrderRequest.flaggedSpec (req : NewOrderRequest) (cloid : String) : FlaggedOrderSpec where
  toOrderSpec := req.spec cloid
  execInst := req.execInst

namespace OKXActionEncoder

/-- `ContractSizes`: the base currency of one contract, which the venue keeps positive. -/
structure ContractSizes where
  sizes : Table String ℚ
  positive : sizes.AllVals (0 < ·)

/-- Of an instrument that is not listed, 1. -/
def ContractSizes.ctVal (c : ContractSizes) (instId : String) : ℚ := (c.sizes.lookup instId).getD 1

def sideStr : OrderSide → String
  | .BUY => "buy"
  | .SELL => "sell"

def ordTypeStr (orderType : OrderType) (execInst : Nat) : String :=
  if orderType = .MARKET then "market"
  else if execInst &&& kExecInstPostOnly ≠ 0 then "post_only"
  else "limit"

def sizeToContracts (quantityE8 : Nat) (instId : String) (contractSizes : ContractSizes) : String :=
  stdToString (ofE8 quantityE8 / contractSizes.ctVal instId)

def tdModeFor (instId : String) : String :=
  if "-SWAP".toList <:+: instId.toList ∨ "-FUTURES".toList <:+: instId.toList then "cross" else "cash"

/-- The argument of the operation; the time in force is not looked at. -/
def orderArg (spec : FlaggedOrderSpec) (instIdCodes : Table String Int)
    (contractSizes : ContractSizes) : JsonObject :=
  [("instId", Json.str spec.symbol)] ++
    (match instIdCodes.lookup spec.symbol with
      | some code => [("instIdCode", .num code)]
      | none => []) ++
    [("tdMode", .str (tdModeFor spec.symbol)),
      ("side", .str (sideStr spec.side)),
      ("ordType", .str (ordTypeStr spec.orderType spec.execInst)),
      ("sz", .str (sizeToContracts spec.quantityE8 spec.symbol contractSizes)),
      ("clOrdId", .str spec.cloid)] ++
    if spec.orderType = .MARKET then []
    else [("px", .str (stdToString (ofE8 spec.priceE8)))]

def buildOrderAction (spec : FlaggedOrderSpec) (reqId : Nat) (instIdCodes : Table String Int)
    (contractSizes : ContractSizes) : JsonObject :=
  [("id", .str ("r" ++ toString reqId)), ("op", .str "order"),
    ("args", .arr [.obj (orderArg spec instIdCodes contractSizes)])]

end OKXActionEncoder

namespace BinanceActionEncoder

def sideStr : OrderSide → String
  | .BUY => "BUY"
  | .SELL => "SELL"

def typeStr (orderType : OrderType) (execInst : Nat) : String :=
  if orderType = .MARKET then "MARKET"
  else if execInst &&& kExecInstPostOnly ≠ 0 then "LIMIT_MAKER"
  else "LIMIT"

def tifStr : TimeInForce → String
  | .IOC => "IOC"
  | .FOK => "FOK"
  | .GTC => "GTC"

/-- The keys and values of the query. -/
def buildNewOrderParams (spec : FlaggedOrderSpec) : List (String × String) :=
  [("symbol", spec.symbol), ("side", sideStr spec.side),
    ("type", typeStr spec.orderType spec.execInst),
    ("quantity", stdToString (ofE8 spec.quantityE8)), ("newClientOrderId", spec.cloid)] ++
    if spec.orderType = .MARKET then []
    else [("timeInForce", tifStr spec.tif), ("price", stdToString (ofE8 spec.priceE8))]

end BinanceActionEncoder

namespace DeribitActionEncoder

def typeStr : OrderType → String
  | .MARKET => "market"
  | .LIMIT => "limit"

def tifStr : TimeInForce → String
  | .IOC => "immediate_or_cancel"
  | .FOK => "fill_or_kill"
  | .GTC => "good_til_cancelled"

/-- The tick of options: 0.0001 below 0.005, and 0.0005. -/
def tickForOptionPrice (price : ℚ) : ℚ := if price < ofE8 500000 then ofE8 10000 else ofE8 50000

def isOption (instrumentName : String) : Bool :=
  match instrumentName.toList.reverse with
  | last :: dash :: _ => (last == 'C' || last == 'P') && dash == '-'
  | _ => false

/-- The price that is sent: that of an option is put on a tick. -/
def wirePrice (spec : OrderSpec) : ℚ :=
  let price := ofE8 spec.priceE8
  if isOption spec.symbol then
    let tick := tickForOptionPrice price
    roundAway (price / tick) * tick
  else price

def orderParams (spec : OrderSpec) : JsonObject :=
  [("instrument_name", Json.str spec.symbol), ("amount", .num (ofE8 spec.quantityE8)),
    ("type", .str (typeStr spec.orderType)), ("label", .str spec.cloid)] ++
    if spec.orderType = .MARKET then []
    else [("price", .num (wirePrice spec)), ("time_in_force", .str (tifStr spec.tif))]

def buildNewOrderMsg (spec : OrderSpec) (reqId : Nat) : JsonObject :=
  [("jsonrpc", .str "2.0"), ("id", .num reqId),
    ("method", .str (if spec.side = .BUY then "private/buy" else "private/sell")),
    ("params", .obj (orderParams spec))]

end DeribitActionEncoder

end BptCore.OrderGateway
