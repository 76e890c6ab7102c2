import BptCore.OrderGateway.Adapter.OrderAdapter
import BptCore.OrderGateway.Adapter.WireDecimal

/-!
# The Hyperliquid reconciler

An order whose placement response was lost is looked for in what the venue reports afterwards,
its open orders and its recent fills. The venue echoes no client id, so the match is by shape.

* **`Candidate`** — what is known of the order.
* **`openOrderMatches`**, **`userFillMatches`** — whether an entry of either report has its shape.
* **`tryMatch`** — what the reports say of the order; **`tryMatch_userFill`** bounds the quantity of
  a matched fill.
-/

namespace BptCore.OrderGateway

structure Candidate where
  clientOrderId : Nat
  instrumentId : Nat
  side : OrderSide
  orderType : OrderType
  priceE8 : Int
  quantityE8 : Nat
  exchangeSymbol : String
  sentNs : Nat
  deriving DecidableEq, Repr

/-- An entry of `/info openOrders`. A field is `none` when it is absent, is no string, or is no
number where one is read. -/
structure HyperliquidOpenOrder where
  coin : Option String
  side : Option String
  sz : Option ℚ
  limitPx : Option ℚ
  oid : Option Nat
  deriving DecidableEq, Repr

/-- An entry of `/info userFills`. -/
structure HyperliquidUserFill where
  coin : Option String
  side : Option String
  px : Option ℚ
  sz : Option ℚ
  fee : Option ℚ
  /-- Milliseconds of the venue's clock. -/
  time : Option Nat
  oid : Option Nat
  deriving DecidableEq, Repr

inductive MatchKind where
  | None | OpenOrder | UserFill | Ambiguous
  deriving DecidableEq, Repr

structure MatchResult where
  kind : MatchKind := .None
  exchOid : Nat := 0
  fillPriceE8 : Int := 0
  fillFeeE8 : Int := 0
  fillQtyE8 : Nat := 0
  fillTimeNs : Nat := 0
  deriving DecidableEq, Repr

namespace HyperliquidReconciler

/-- `side_matches`: "B" is a buy, any other string a sell. -/
def sideMatches (side : Option String) (expected : OrderSide) : Bool :=
  match side with
  | none => false
  | some s => if s = "B" then expected = .BUY else expected = .SELL

/-- `to_e8(parse_decimal_string(..))`: 0 for what does not parse. -/
def decimalE8 (d : Option ℚ) : Int := roundE8 (d.getD 0)

def openOrderMatches (o : HyperliquidOpenOrder) (c : Candidate) (priceTickE8 : Int) : Bool :=
  o.coin.getD "" = c.exchangeSymbol && sideMatches o.side c.side &&
    decimalE8 o.sz = (c.quantityE8 : Int) &&
    (decimalE8 o.limitPx - c.priceE8).natAbs ≤ priceTickE8.toNat

def userFillMatches (o : HyperliquidUserFill) (c : Candidate) (priceTickE8 : Int) : Bool :=
  o.coin.getD "" = c.exchangeSymbol && sideMatches o.side c.side &&
    (match o.time with
      | none => false
      -- one second for the skew between the venue's clock and ours
      | some ms => c.sentNs ≤ ms * 1000000 + 1000000000) &&
    (decimalE8 o.px - c.priceE8).natAbs ≤ priceTickE8.toNat &&
    0 < decimalE8 o.sz && decimalE8 o.sz ≤ (c.quantityE8 : Int)

/-- A fill goes before a resting order; two of either kind decide nothing. -/
def tryMatch (c : Candidate) (openOrders : List HyperliquidOpenOrder)
    (userFills : List HyperliquidUserFill) (priceTickE8 : Int) : MatchResult :=
  let fills := userFills.filter (userFillMatches · c priceTickE8)
  let orders := openOrders.filter (openOrderMatches · c priceTickE8)
  if 1 < fills.length ∨ 1 < orders.length then { kind := .Ambiguous }
  else
    match fills with
    | fill :: _ =>
      { kind := .UserFill
        exchOid := fill.oid.getD 0
        fillPriceE8 := decimalE8 fill.px
        fillFeeE8 := decimalE8 fill.fee
        fillQtyE8 := (decimalE8 fill.sz).toNat
        fillTimeNs := fill.time.getD 0 * 1000000 }
    | [] =>
      match orders with
      | order :: _ => { kind := .OpenOrder, exchOid := order.oid.getD 0 }
      | [] => {}

/-- A matched fill has a quantity, and no more than the order asked for. -/
theorem tryMatch_userFill {c : Candidate} {openOrders : List HyperliquidOpenOrder}
    {userFills : List HyperliquidUserFill} {priceTickE8 : Int}
    (h : (tryMatch c openOrders userFills priceTickE8).kind = .UserFill) :
    0 < (tryMatch c openOrders userFills priceTickE8).fillQtyE8 ∧
      (tryMatch c openOrders userFills priceTickE8).fillQtyE8 ≤ c.quantityE8 := by
  unfold tryMatch at h ⊢
  dsimp only at h ⊢
  split at h
  · cases h
  next hfew =>
    rw [if_neg hfew]
    cases hfills : userFills.filter (userFillMatches · c priceTickE8) with
    | nil =>
      simp only [hfills] at h
      split at h <;> cases h
    | cons fill rest =>
      have hfill : fill ∈ userFills.filter (userFillMatches · c priceTickE8) := by
        rw [hfills]
        exact List.mem_cons_self
      have hmatch := (List.mem_filter.mp hfill).2
      simp only [userFillMatches, Bool.and_eq_true, decide_eq_true_eq] at hmatch
      obtain ⟨⟨-, hpos⟩, hle⟩ := hmatch
      show 0 < (decimalE8 fill.sz).toNat ∧ (decimalE8 fill.sz).toNat ≤ c.quantityE8
      omega

end HyperliquidReconciler

end BptCore.OrderGateway
