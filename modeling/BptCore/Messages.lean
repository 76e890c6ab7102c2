import Mathlib.Algebra.Order.Field.Rat
import Mathlib.Tactic.Linarith

/-!
# Wire enumerations and the execution report

The enumerations of the message schema and the one record every component of the trading
stack exchanges, `ExecReport`. Prices and quantities are integers at the fixed-point scale
`1e8`; where the code goes through a double to divide by that scale, the model computes the
exact rational.
-/

namespace BptCore

/-- `ExchangeId`: `ALL` is the kill switch's wildcard, never a venue. -/
inductive ExchangeId where
  | ALL | BINANCE | OKX | HYPERLIQUID | DERIBIT
  deriving DecidableEq, Repr

namespace ExchangeId

/-- The enumerator's wire value. -/
def value : ExchangeId → Nat
  | ALL => 0
  | BINANCE => 1
  | OKX => 2
  | HYPERLIQUID => 3
  | DERIBIT => 4

theorem value_injective : Function.Injective value := by
  intro a b h
  cases a <;> cases b <;> first | rfl | exact absurd h (by decide)

end ExchangeId

inductive ExecStatus where
  | ACKED | FILLED | PARTIAL | REJECTED | CANCELLED
  deriving DecidableEq, Repr

namespace ExecStatus

/-- The statuses after which the venue has nothing more to say about an order. -/
def terminal (s : ExecStatus) : Bool := s == FILLED || s == CANCELLED || s == REJECTED

/-- The statuses that carry a fill. -/
def isFill (s : ExecStatus) : Bool := s == FILLED || s == PARTIAL

end ExecStatus

inductive OrderSide where
  | BUY | SELL
  deriving DecidableEq, Repr

/-- The quantity signed by the side that trades it. -/
def OrderSide.signed (side : OrderSide) (qty : Int) : Int :=
  match side with
  | .BUY => qty
  | .SELL => -qty

inductive OrderType where
  | MARKET | LIMIT
  deriving DecidableEq, Repr

inductive TimeInForce where
  | GTC | IOC | FOK
  deriving DecidableEq, Repr

inductive RejectReason where
  | OK | INVALID_PRICE | INVALID_QTY | INSUFFICIENT_BALANCE | RATE_LIMITED | EXCHANGE_ERROR
  | RISK_REJECTED | DUPLICATE_ORDER_ID | NULL_VALUE
  deriving DecidableEq, Repr

/-- `kScale`: the fixed-point scale of prices and quantities. -/
def kScale : ℚ := 100000000

/-- A fixed-point integer as the decimal it stands for. -/
def ofE8 (n : Int) : ℚ := n / kScale

@[simp] theorem ofE8_zero : ofE8 0 = 0 := by
  rw [ofE8, Int.cast_zero, zero_div]

theorem kScale_pos : 0 < kScale := by decide +kernel

theorem ofE8_mul_kScale (n : Int) : ofE8 n * kScale = n := by
  rw [ofE8, div_mul_cancel₀ _ kScale_pos.ne']

theorem ofE8_lt_iff {m n : Int} : ofE8 m < ofE8 n ↔ m < n := by
  rw [ofE8, ofE8, div_lt_div_iff_of_pos_right kScale_pos, Int.cast_lt]

theorem ofE8_le_iff {m n : Int} : ofE8 m ≤ ofE8 n ↔ m ≤ n := by
  rw [← not_lt, ofE8_lt_iff, not_lt]

theorem ofE8_injective : Function.Injective ofE8 := fun _ _ h =>
  le_antisymm (ofE8_le_iff.mp h.le) (ofE8_le_iff.mp h.ge)

theorem ofE8_nonneg_iff {n : Int} : 0 ≤ ofE8 n ↔ 0 ≤ n := by
  rw [← ofE8_zero, ofE8_le_iff]

theorem ofE8_nonpos_iff {n : Int} : ofE8 n ≤ 0 ↔ n ≤ 0 := by
  rw [← ofE8_zero, ofE8_le_iff]

theorem ofE8_eq_zero_iff {n : Int} : ofE8 n = 0 ↔ n = 0 := by
  rw [← ofE8_zero, ofE8_injective.eq_iff]

theorem ofE8_pos {n : Nat} : 0 < ofE8 n ↔ 0 < n := by
  rw [← ofE8_zero, ofE8_lt_iff]
  exact Int.natCast_pos

theorem ofE8_neg (n : Int) : ofE8 (-n) = -ofE8 n := by
  rw [ofE8, ofE8, Int.cast_neg, neg_div]

theorem ofE8_add (m n : Int) : ofE8 (m + n) = ofE8 m + ofE8 n := by
  rw [ofE8, Int.cast_add, add_div]
  rfl

theorem ofE8_sub (m n : Int) : ofE8 (m - n) = ofE8 m - ofE8 n := by
  rw [Int.sub_eq_add_neg, ofE8_add, ofE8_neg, sub_eq_add_neg]

theorem ofE8_max (m n : Nat) : ofE8 (max m n : Nat) = max (ofE8 m) (ofE8 n) := by
  rcases le_total m n with h | h
  · rw [max_eq_right h, max_eq_right (ofE8_le_iff.mpr (Int.ofNat_le.mpr h))]
  · rw [max_eq_left h, max_eq_left (ofE8_le_iff.mpr (Int.ofNat_le.mpr h))]

/-- What the gateway publishes to the strategies on every change of an order. -/
structure ExecReport where
  orderId : Nat
  exchangeOrderId : Nat
  exchangeId : ExchangeId
  instrumentId : Nat
  status : ExecStatus
  side : OrderSide
  orderType : OrderType
  price : Int
  filledQty : Nat
  remainingQty : Nat
  rejectReason : RejectReason
  fee : Int
  feeCurrency : String
  exchangeTsNs : Nat
  localTsNs : Nat
  deriving DecidableEq, Repr

/-- `a - b` on 64-bit unsigned integers. -/
def u64Sub (a b : Nat) : Nat := (a + 2 ^ 64 - b) % 2 ^ 64

theorem u64Sub_of_le {a b : Nat} (ha : a < 2 ^ 64) (hle : b ≤ a) : u64Sub a b = a - b := by
  unfold u64Sub
  omega

end BptCore
