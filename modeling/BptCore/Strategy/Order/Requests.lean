import BptCore.Messages

/-!
# What the strategy sends

`NewOrderRequest` is what a strategy asks of its order manager, in natural units. The others
cross the `IOrderGatewayClient` boundary, prices and quantities in fixed point.
-/

namespace BptCore.Strategy

/-- An `exchangeId` of `none` is the enumeration's `NULL_VALUE`. -/
structure NewOrderRequest where
  instrumentId : Nat
  exchangeId : Option ExchangeId
  side : OrderSide
  type : OrderType
  tif : TimeInForce
  price : ℚ
  qty : ℚ
  postOnly : Bool := false
  deriving DecidableEq, Repr

structure OutboundNewOrder where
  orderId : Nat
  exchangeId : ExchangeId
  instrumentId : Nat
  side : OrderSide
  orderType : OrderType
  tif : TimeInForce
  price : Int
  quantity : Nat
  execInst : Nat
  exchangeSymbol : String
  deriving DecidableEq, Repr

structure CancelOrderRequest where
  orderId : Nat
  exchangeId : ExchangeId
  instrumentId : Nat
  deriving DecidableEq, Repr

structure ModifyOrderRequest where
  orderId : Nat
  exchangeId : ExchangeId
  instrumentId : Nat
  newPrice : Int
  newQuantity : Nat
  deriving DecidableEq, Repr

end BptCore.Strategy
