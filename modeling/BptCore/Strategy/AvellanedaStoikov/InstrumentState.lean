import BptCore.Strategy.AvellanedaStoikov.QuoteDesk
import BptCore.Strategy.Strategy.PositionTracker

/-!
# The instruments of the Avellaneda-Stoikov strategy

The state that the strategy keeps of an instrument, its sizing, and what suppresses its quotes. The
estimators of the market (variance, drift, arrival rate, regime, book, fair value, order flow,
volatility gate, markouts, toxicity) and the pricer over them are `Signals`: a state that market
data and fills feed, and what is read off it.
-/

namespace BptCore.Strategy

namespace AvellanedaStoikov

/-- An instrument of the universe. Its id is made of a canonical id of 32 bits, times 100, and the
exchange. -/
structure ResolvedInstrument where
  instrument : Instrument
  exchangeId : ExchangeId
  id_lt : instrument.instrumentId < 2 ^ 56

structure QuoteTarget where
  bid : ℚ
  ask : ℚ
  deriving DecidableEq, Repr

/-- The estimators of an instrument with what is read off them, over their state. -/
structure Signals (Sig : Type) where
  make : ResolvedInstrument → Sig
  onTrade : Sig → MdTrade → Sig
  onOrderBook : Sig → MdOrderBook → Sig
  onToxicityUpdate : Sig → ToxicityUpdate → Sig
  /-- A tick, and whether the volatility gate is halted before and after it. -/
  onTick : Sig → MdMarketData → Sig × Bool × Bool
  /-- A fill of an order of this tag, with the P&L that it realized. -/
  onFill : Sig → OrderTag → ExecReport → ℚ → Sig
  /-- The fair value for a net quantity and a maker fee, and the quotes when there are some. -/
  quote : Sig → ℚ → MdMarketData → Option ℚ → Sig × ℚ × Option QuoteTarget
  /-- Whether drift, trend, toxicity, queue, markout or order flow speak against a bid, and against
  an ask, at these quotes, inventory bound and quantity. -/
  suppressed : Sig → QuoteTarget → ℚ → ℚ → Bool × Bool

/-- No estimators: the same quotes on every tick. -/
def steadySignals (quotes : QuoteTarget) : Signals Unit where
  make _ := ()
  onTrade _ _ := ()
  onOrderBook _ _ := ()
  onToxicityUpdate _ _ := ()
  onTick _ _ := ((), false, false)
  onFill _ _ _ _ := ()
  quote _ _ _ _ := ((), (quotes.bid + quotes.ask) / 2, some quotes)
  suppressed _ _ _ _ := (false, false)

/-! ## Sizing -/

def minNotionalUsd (venue : String) : ℚ := if venue = "HYPERLIQUID" then 10 else 0

def bumpQtyForMinNotional (qty price lotSize minNotionalUsd : ℚ) : ℚ :=
  if minNotionalUsd ≤ 0 ∨ price ≤ 0 ∨ lotSize ≤ 0 then qty
  else
    let minQty := minNotionalUsd * (105 / 100) / price
    max qty ((minQty / lotSize).ceil * lotSize)

structure Sizer where
  orderQty : ℚ
  orderQtyFraction : ℚ := 0
  orderQtyMin : ℚ := 0
  maxInventory : ℚ
  maxInventoryFraction : ℚ := 0

namespace Sizer

variable (z : Sizer)

def effectiveQty (lastMid lotSize : ℚ) (equityE8 : Int) (exchange : String) : ℚ :=
  let qty :=
    if z.orderQtyFraction > 0 ∧ equityE8 > 0 ∧ lastMid > 0 then
      let floorQty := if z.orderQtyMin > 0 then z.orderQtyMin else lotSize
      max floorQty (z.orderQtyFraction * ofE8 equityE8 / lastMid)
    else z.orderQty
  bumpQtyForMinNotional qty lastMid lotSize (minNotionalUsd exchange)

def effectiveMaxInventory (lastMid : ℚ) (equityE8 : Int) : ℚ :=
  if z.maxInventoryFraction > 0 ∧ equityE8 > 0 ∧ lastMid > 0 then
    z.maxInventoryFraction * ofE8 equityE8 / lastMid
  else z.maxInventory

end Sizer

/-! ## Instrument state -/

/-- One side's resting quote: the handle, its price, and the mid at which it was placed. -/
structure QuoteSide where
  handle : Option Nat := none
  lastPrice : ℚ := 0
  placedMid : ℚ := 0
  deriving DecidableEq, Repr

/-- The handles of an instrument. -/
inductive Slot where
  | bid | ask | unwind
  deriving DecidableEq, Repr

/-- The slot that an order is kept in. -/
def Slot.ofOrder (tag : OrderTag) (side : OrderSide) : Slot :=
  match tag, side with
  | .quote, .BUY => bid
  | .quote, .SELL => ask
  | .unwindNormal, _ => unwind

structure InstrumentState (Sig : Type) where
  instrumentId : Nat
  symbol : String
  exchange : String
  exchangeId : ExchangeId
  instrumentType : InstrumentType
  baseCcy : String
  tickSize : ℚ
  lotSize : ℚ
  bid : QuoteSide := {}
  ask : QuoteSide := {}
  hUnwind : Option Nat := none
  lastMid : ℚ := 0
  lastTickNs : Nat := 0
  consecutiveExchangeErrors : Nat := 0
  rejectBackoffUntilNs : Nat := 0
  pauseUntilNs : Nat := 0
  signals : Sig

variable {Sig : Type} (S : Signals Sig)

/-- `make_instrument_state`. -/
def makeInstrumentState (r : ResolvedInstrument) : InstrumentState Sig where
  instrumentId := r.instrument.instrumentId
  symbol := r.instrument.symbol
  exchange := r.instrument.exchange
  exchangeId := r.exchangeId
  instrumentType := r.instrument.type
  baseCcy := r.instrument.baseCurrency
  tickSize := r.instrument.tickSize
  lotSize := r.instrument.lotSize
  signals := S.make r

namespace InstrumentState

variable (st : InstrumentState Sig)

def handle : Slot → Option Nat
  | .bid => st.bid.handle
  | .ask => st.ask.handle
  | .unwind => st.hUnwind

def quoteSide : OrderSide → QuoteSide
  | .BUY => st.bid
  | .SELL => st.ask

def setQuoteSide (side : OrderSide) (q : QuoteSide) : InstrumentState Sig :=
  match side with
  | .BUY => { st with bid := q }
  | .SELL => { st with ask := q }

/-- A report ended the order: the handle that holds it is reset. -/
def release (orderId : Nat) : InstrumentState Sig :=
  if st.bid.handle = some orderId then { st with bid := { st.bid with handle := none } }
  else if st.ask.handle = some orderId then { st with ask := { st.ask with handle := none } }
  else if st.hUnwind = some orderId then { st with hUnwind := none }
  else st

@[simp] theorem handle_setQuoteSide (side : OrderSide) (q : QuoteSide) (slot : Slot) :
    (st.setQuoteSide side q).handle slot =
      if slot = .ofOrder .quote side then q.handle else st.handle slot := by
  cases side <;> cases slot <;> rfl

@[simp] theorem setQuoteSide_instrumentId (side : OrderSide) (q : QuoteSide) :
    (st.setQuoteSide side q).instrumentId = st.instrumentId := by
  cases side <;> rfl

@[simp] theorem setQuoteSide_exchangeId (side : OrderSide) (q : QuoteSide) :
    (st.setQuoteSide side q).exchangeId = st.exchangeId := by
  cases side <;> rfl

theorem handle_quoteSide (side : OrderSide) :
    (st.quoteSide side).handle = st.handle (.ofOrder .quote side) := by
  cases side <;> rfl

@[simp] theorem release_instrumentId (orderId : Nat) :
    (st.release orderId).instrumentId = st.instrumentId := by
  unfold release
  split
  · rfl
  · split
    · rfl
    · split <;> rfl

@[simp] theorem release_exchangeId (orderId : Nat) :
    (st.release orderId).exchangeId = st.exchangeId := by
  unfold release
  split
  · rfl
  · split
    · rfl
    · split <;> rfl

/-- An order in one slot at most is in none afterwards, and the other handles stay. -/
theorem handle_release {orderId : Nat} {own : Slot}
    (hown : ∀ slot, st.handle slot = some orderId → slot = own) (slot : Slot) :
    (st.release orderId).handle slot =
      if st.handle slot = some orderId then none else st.handle slot := by
  by_cases hslot : st.handle slot = some orderId
  · rw [if_pos hslot]
    obtain rfl := hown slot hslot
    have hother : ∀ slot', slot' ≠ slot → st.handle slot' ≠ some orderId :=
      fun slot' hne h => hne (hown slot' h)
    unfold release
    cases slot with
    | bid =>
      have hbid : st.bid.handle = some orderId := hslot
      rw [if_pos hbid]
      rfl
    | ask =>
      have hbid : st.bid.handle ≠ some orderId := hother .bid (by decide)
      have hask : st.ask.handle = some orderId := hslot
      rw [if_neg hbid, if_pos hask]
      rfl
    | unwind =>
      have hbid : st.bid.handle ≠ some orderId := hother .bid (by decide)
      have hask : st.ask.handle ≠ some orderId := hother .ask (by decide)
      have hunwind : st.hUnwind = some orderId := hslot
      rw [if_neg hbid, if_neg hask, if_pos hunwind]
      rfl
  · rw [if_neg hslot]
    unfold release
    split
    · next hbid =>
      cases slot with
      | bid => exact absurd hbid hslot
      | ask | unwind => rfl
    · split
      · next hask =>
        cases slot with
        | ask => exact absurd hask hslot
        | bid | unwind => rfl
      · split
        · next hunwind =>
          cases slot with
          | unwind => exact absurd hunwind hslot
          | bid | ask => rfl
        · rfl

end InstrumentState

end AvellanedaStoikov

end BptCore.Strategy
