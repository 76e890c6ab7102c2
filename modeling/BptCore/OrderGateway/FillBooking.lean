import BptCore.Lib.Machine
import BptCore.OrderGateway.Adapter.ExecDecoder

/-!
# What the fills of an order add up to

`PnlTracker` and the strategies' position books add up the filled quantity of every PARTIAL and
FILLED event. This module follows one order of any venue through the messages about it, adding
up what its decoder emits next to what the venue executed.

* **`FillTally`**, **`FillTally.step`** — the two sums, message after message.
* **`fills_booked_exactly_iff`** — when the filled quantities add up to the venue's cumulative
  quantity and every fill carries what remains.
* **`notional_booked_exactly_iff`** — when price times filled quantity adds up to the notional
  executed.
-/

namespace BptCore.OrderGateway

open Machine

/-- A venue message, with the order's cumulative filled quantity after it and the price of what
was newly executed. -/
structure FillReport where
  message : VenueMessage
  cumulative : Nat
  execPrice : Int
  recvNs : Nat := 0

structure FillTally where
  decoder : ExecDecoder
  /-- The cumulative filled quantity at the venue. -/
  cumulative : Nat := 0
  /-- The sum of the filled quantities of the emitted fills. -/
  booked : Nat := 0
  /-- Every emitted fill carried the order quantity less the cumulative quantity. -/
  remainingExact : Bool := true
  /-- Execution price times quantity, summed, at scale `1e16`. -/
  executedNotional : Int := 0
  /-- Event price times filled quantity, summed over the emitted fills, at scale `1e16`. -/
  bookedNotional : Int := 0

namespace FillTally

/-- The PARTIAL and FILLED events among those emitted. -/
def fillsOf (ev? : Option ExecEvent) : List ExecEvent :=
  ev?.toList.filter fun ev => ev.status.isFill

def step (o : VenueOrder) (t : FillTally) (r : FillReport) : FillTally × List ExecEvent :=
  let out := t.decoder.decode r.message r.recvNs
  let fills := fillsOf out.2
  ({ decoder := out.1
     cumulative := r.cumulative
     booked := t.booked + (fills.map fun ev => ev.filledQty).sum
     remainingExact := t.remainingExact &&
       fills.all fun ev => ev.remainingQty == o.quantity - r.cumulative
     executedNotional := t.executedNotional + r.execPrice * (r.cumulative - t.cumulative : Nat)
     bookedNotional := t.bookedNotional +
       (fills.map fun ev => ev.price * (ev.filledQty : Int)).sum },
   out.2.toList)

/-- The message describes the order, whose cumulative quantity does not fall and stays within
the order's. -/
def Truthful (o : VenueOrder) (t : FillTally) (r : FillReport) : Prop :=
  t.decoder.Describes o t.cumulative r.cumulative r.message ∧
    t.cumulative ≤ r.cumulative ∧ r.cumulative ≤ o.quantity

instance (o : VenueOrder) (t : FillTally) (r : FillReport) : Decidable (t.Truthful o r) :=
  inferInstanceAs (Decidable (_ ∧ _ ∧ _))

/-- The decoder knows the order as far as it is filled. -/
def Tracked (o : VenueOrder) (t : FillTally) : Prop :=
  t.decoder.Knows o t.cumulative ∧ t.cumulative ≤ o.quantity

variable {o : VenueOrder} {t : FillTally} {r : FillReport}

theorem Tracked.step (h : t.Tracked o) (hr : t.Truthful o r) :
    (FillTally.step o t r).1.Tracked o :=
  ⟨h.1.decode hr.1 hr.2.1 r.recvNs, hr.2.2⟩

theorem fillsOf_of_yields_none {venue : ExchangeId} {price : Int} {recvNs : Nat}
    {ev? : Option ExecEvent} (h : Yields o venue price recvNs none ev?) : fillsOf ev? = [] := by
  cases ev? with
  | none => rfl
  | some ev =>
    have hfill : ev.status.isFill = false := h ev rfl
    simp [fillsOf, hfill]

theorem fillsOf_of_yields_some {venue : ExchangeId} {price : Int} {recvNs q rem : Nat}
    {ev? : Option ExecEvent} (h : Yields o venue price recvNs (some (q, rem)) ev?) :
    ∃ ev, fillsOf ev? = [ev] ∧ CarriesFill o venue price recvNs q rem ev := by
  obtain ⟨ev, rfl, hev⟩ := h
  exact ⟨ev, by simp [fillsOf, hev.isFill], hev⟩

/-- A message that makes no fill leaves the sums of the events alone. -/
theorem step_of_no_fill (h : t.Tracked o) (hr : t.Truthful o r)
    (hwire : wireFill o t.cumulative r.cumulative r.message = none) :
    (step o t r).1.booked = t.booked ∧
      (step o t r).1.remainingExact = t.remainingExact ∧
      (step o t r).1.bookedNotional = t.bookedNotional := by
  have hyields := ExecDecoder.decode_yields h.1 hr.1 hr.2.1 r.recvNs
  rw [hwire] at hyields
  -- whatever was emitted, such as an ACKED, is no fill
  have hfills := fillsOf_of_yields_none hyields
  simp [step, hfills]

/-- A fill is added as the message has it. -/
theorem step_of_fill {q rem : Nat} (h : t.Tracked o) (hr : t.Truthful o r)
    (hwire : wireFill o t.cumulative r.cumulative r.message = some (q, rem)) :
    (step o t r).1.booked = t.booked + q ∧
      (step o t r).1.remainingExact =
        (t.remainingExact && (rem == o.quantity - r.cumulative)) ∧
      (step o t r).1.bookedNotional = t.bookedNotional + wirePrice r.message * q := by
  have hyields := ExecDecoder.decode_yields h.1 hr.1 hr.2.1 r.recvNs
  rw [hwire] at hyields
  obtain ⟨ev, hfills, hev⟩ := fillsOf_of_yields_some hyields
  simp [step, hfills, hev.filledQty, hev.remainingQty, hev.price]

/-! ## Quantities -/

/-- The emitted fills add up to the venue's cumulative quantity, and each carried what
remained. -/
def QuantityExact (t : FillTally) : Prop :=
  t.booked = t.cumulative ∧ t.remainingExact = true

instance (t : FillTally) : Decidable t.QuantityExact := inferInstanceAs (Decidable (_ ∧ _))

/-- The messages that add exactly the newly filled quantity. One that carries the cumulative
quantity does so when nothing was filled before; one that carries a slice of an OKX order tells
what remains only then; one that yields no fill must bring nothing new. -/
def AddsNew (o : VenueOrder) (t : FillTally) (r : FillReport) : Prop :=
  match r.message with
  | .binanceReport m =>
    if m.execType = "TRADE" then t.cumulative = 0 else r.cumulative = t.cumulative
  | .binanceResponse m _ _ _ =>
    if m.status = "FILLED" ∨ m.status = "PARTIALLY_FILLED" then t.cumulative = 0
    else r.cumulative = t.cumulative
  | .okxOrderAck _ => r.cumulative = t.cumulative
  | .okxOrderItem m =>
    if m.px.isSome ∧ (m.state = "partially_filled" ∨ m.state = "filled") then t.cumulative = 0
    else r.cumulative = t.cumulative
  | .deribitNotification m =>
    if (m.orderState = some "open" ∧ 0 < r.cumulative) ∨ m.orderState = some "filled" then
      t.cumulative = 0
    else r.cumulative = t.cumulative
  | .deribitResponse m =>
    if m.orderState = some "filled" then t.cumulative = 0 ∧ r.cumulative = o.quantity
    else r.cumulative = t.cumulative
  | .hyperliquidFill _ => True

/-- What the fill of a message must be for the quantities to stay exact. -/
def ExactFill (o : VenueOrder) (cum cum' : Nat) : Option (Nat × Nat) → Prop
  | none => cum' = cum
  | some (q, rem) => cum + q = cum' ∧ rem = o.quantity - cum'

theorem exactFill_cumulative {cum cum' : Nat} :
    ExactFill o cum cum' (some (cum', o.quantity - cum')) ↔ cum = 0 := by
  simp only [ExactFill, and_true]
  omega

theorem exactFill_wireFill_iff (hle : t.cumulative ≤ r.cumulative)
    (hfit : r.cumulative ≤ o.quantity) :
    ExactFill o t.cumulative r.cumulative (wireFill o t.cumulative r.cumulative r.message) ↔
      AddsNew o t r := by
  unfold wireFill AddsNew
  cases r.message with
  | binanceReport m =>
    dsimp only
    split
    · exact exactFill_cumulative
    · exact Iff.rfl
  | binanceResponse m orderId side orderType =>
    dsimp only
    split
    · exact exactFill_cumulative
    · exact Iff.rfl
  | okxOrderAck m => exact Iff.rfl
  | okxOrderItem m =>
    dsimp only
    split
    · -- the slice is right, what remains is only so on the first fill
      simp only [ExactFill]
      omega
    · exact Iff.rfl
  | deribitNotification m =>
    dsimp only
    split
    · exact exactFill_cumulative
    · exact Iff.rfl
  | deribitResponse m =>
    dsimp only
    split
    · simp only [ExactFill]
      omega
    · exact Iff.rfl
  | hyperliquidFill m =>
    dsimp only
    split
    · simp only [ExactFill, and_true, iff_true]
      omega
    · simp only [ExactFill, iff_true]
      omega

/-- **The step lemma.** -/
theorem QuantityExact.step_iff (h : t.Tracked o) (hr : t.Truthful o r) (hexact : t.QuantityExact) :
    (FillTally.step o t r).1.QuantityExact ↔ AddsNew o t r := by
  -- what was booked so far is the cumulative quantity, so the fill alone decides
  rw [← exactFill_wireFill_iff hr.2.1 hr.2.2]
  obtain ⟨hbooked, hremaining⟩ := hexact
  show _ = r.cumulative ∧ _ ↔ _
  cases hwire : wireFill o t.cumulative r.cumulative r.message with
  | none =>
    obtain ⟨hb, hrem, -⟩ := step_of_no_fill h hr hwire
    rw [hb, hrem, hbooked, hremaining, ExactFill]
    simp only [and_true]
    exact eq_comm
  | some qr =>
    obtain ⟨hb, hrem, -⟩ := step_of_fill h hr hwire
    rw [hb, hrem, hbooked, hremaining, ExactFill]
    simp only [Bool.true_and, beq_iff_eq]

namespace TwoPartialFills

def order : VenueOrder where
  orderId := 1
  clientOrderId := "G1"
  exchangeOrderId := 5
  side := .BUY
  quantity := 100000000
  orderId_ne_zero := by decide
  quantity_pos := by decide

def binance : ExecDecoder := .binance (({} : BinanceExecDecoder).registerOrder "G1" 1)

def binanceReport (cumulative : Nat) : FillReport where
  message := .binanceReport
    { eventType := "executionReport", execType := "TRADE", clientOrderId := "G1", orderId := 5
      side := "BUY", orderType := "LIMIT", price := 100, cumulativeQty := ofE8 cumulative
      quantity := ofE8 100000000, commission := 0, commissionAsset := "BNB"
      transactionTime := 1 }
  cumulative := cumulative
  execPrice := 10000000000

def binanceReports : List FillReport := [binanceReport 40000000, binanceReport 100000000]

def hyperliquid : ExecDecoder :=
  .hyperliquid (({} : HyperliquidExecDecoder).registerOrder 5 1 100000000)

def hyperliquidFill (slice cumulative : Nat) : FillReport where
  message := .hyperliquidFill
    { oid := 5, side := "B", px := 100, sz := ofE8 slice, fee := 0, time := none }
  cumulative := cumulative
  execPrice := 10000000000

def hyperliquidFills : List FillReport :=
  [hyperliquidFill 40000000 40000000, hyperliquidFill 60000000 100000000]

end TwoPartialFills

/-- The emitted fills add up to the notional executed. -/
def NotionalExact (t : FillTally) : Prop := t.bookedNotional = t.executedNotional

instance (t : FillTally) : Decidable t.NotionalExact := inferInstanceAs (Decidable (_ = _))

/-- The messages that book what was executed. Binance and Deribit book the cumulative quantity:
at the order price, which is 0 for a market order on Binance; at the order price or, for want of
one, the average price on Deribit. OKX books the slice at the order price. Only Hyperliquid books
it at the price it was executed at. A message that yields no fill must bring no notional. -/
def PaysBooked (o : VenueOrder) (t : FillTally) (r : FillReport) : Prop :=
  let slice : Nat := r.cumulative - t.cumulative
  match r.message with
  | .binanceReport m =>
    if m.execType = "TRADE" then truncE8 m.price * r.cumulative = r.execPrice * slice
    else slice = 0 ∨ r.execPrice = 0
  | .binanceResponse m _ _ _ =>
    if m.status = "FILLED" ∨ m.status = "PARTIALLY_FILLED" then
      truncE8 m.price * r.cumulative = r.execPrice * slice
    else slice = 0 ∨ r.execPrice = 0
  | .okxOrderAck _ => slice = 0 ∨ r.execPrice = 0
  | .okxOrderItem m =>
    match m.px with
    | some px =>
      if m.state = "partially_filled" ∨ m.state = "filled" then
        slice = 0 ∨ r.execPrice = truncE8 px
      else slice = 0 ∨ r.execPrice = 0
    | none => slice = 0 ∨ r.execPrice = 0
  | .deribitNotification m =>
    if (m.orderState = some "open" ∧ 0 < r.cumulative) ∨ m.orderState = some "filled" then
      truncE8 ((m.price.orElse fun _ => m.averagePrice).getD 0) * r.cumulative =
        r.execPrice * slice
    else slice = 0 ∨ r.execPrice = 0
  | .deribitResponse m =>
    if m.orderState = some "filled" then
      truncE8 (m.averagePrice.getD 0) * r.cumulative = r.execPrice * slice
    else slice = 0 ∨ r.execPrice = 0
  | .hyperliquidFill m =>
    if t.cumulative < o.quantity then slice = 0 ∨ r.execPrice = truncE8 m.px
    else slice = 0 ∨ r.execPrice = 0

/-- What the fill of a message must be for the notional to stay exact. -/
def ExactNotional (price executed : Int) : Option (Nat × Nat) → Prop
  | none => executed = 0
  | some (q, _) => price * q = executed

theorem exactNotional_none {price execPrice : Int} {slice : Nat} :
    ExactNotional price (execPrice * slice) none ↔ slice = 0 ∨ execPrice = 0 := by
  rw [ExactNotional, Int.mul_eq_zero, Int.natCast_eq_zero]
  exact or_comm

/-- A slice is booked right when nothing is in it or its price is the execution price. -/
theorem exactNotional_slice {price execPrice : Int} {slice rem : Nat} :
    ExactNotional price (execPrice * slice) (some (slice, rem)) ↔
      slice = 0 ∨ execPrice = price := by
  show price * slice = execPrice * slice ↔ _
  constructor
  · intro h
    -- a slice of something can be divided out
    rcases Nat.eq_zero_or_pos slice with hzero | hpos
    · exact Or.inl hzero
    · exact Or.inr (Int.eq_of_mul_eq_mul_right (by omega) h).symm
  · rintro (rfl | rfl)
    · simp
    · rfl

theorem exactNotional_wireFill_iff :
    ExactNotional (wirePrice r.message) (r.execPrice * (r.cumulative - t.cumulative : Nat))
        (wireFill o t.cumulative r.cumulative r.message) ↔ PaysBooked o t r := by
  unfold wireFill wirePrice PaysBooked
  cases r.message with
  | binanceReport m =>
    dsimp only
    split
    · exact Iff.rfl
    · exact exactNotional_none
  | binanceResponse m orderId side orderType =>
    dsimp only
    split
    · exact Iff.rfl
    · exact exactNotional_none
  | okxOrderAck m => exact exactNotional_none
  | okxOrderItem m =>
    cases hpx : m.px with
    | none =>
      simp only [hpx, Option.isSome_none, Bool.false_eq_true, false_and, if_false]
      exact exactNotional_none
    | some px =>
      simp only [hpx, Option.isSome_some, true_and, Option.getD_some]
      split
      · exact exactNotional_slice
      · exact exactNotional_none
  | deribitNotification m =>
    dsimp only
    split
    · exact Iff.rfl
    · exact exactNotional_none
  | deribitResponse m =>
    dsimp only
    split
    · exact Iff.rfl
    · exact exactNotional_none
  | hyperliquidFill m =>
    dsimp only
    split
    · exact exactNotional_slice
    · exact exactNotional_none

/-- **The step lemma.** -/
theorem NotionalExact.step_iff (h : t.Tracked o) (hr : t.Truthful o r) (hexact : t.NotionalExact) :
    (FillTally.step o t r).1.NotionalExact ↔ PaysBooked o t r := by
  -- again the fill alone decides: both sums grow from equal ones
  rw [← exactNotional_wireFill_iff]
  rw [NotionalExact] at hexact
  show _ = t.executedNotional + r.execPrice * (r.cumulative - t.cumulative : Nat) ↔ _
  cases hwire : wireFill o t.cumulative r.cumulative r.message with
  | none =>
    obtain ⟨-, -, hbooked⟩ := step_of_no_fill h hr hwire
    rw [hbooked, hexact, ExactNotional]
    omega
  | some qr =>
    obtain ⟨-, -, hbooked⟩ := step_of_fill h hr hwire
    rw [hbooked, hexact, ExactNotional]
    omega

namespace PriceImprovement

open TwoPartialFills (order binance binanceReport)

def okx : ExecDecoder := .okx (({} : OKXExecDecoder).registerOrder "G1" 1)

def okxFilled (px : ℚ) : FillReport where
  message := .okxOrderItem
    { clOrdId := "G1", ordId := 5, side := "buy", ordType := "limit", px := some px
      instId := "BTC-USDT", fillSz := 1, sz := 1, fee := 0, feeCcy := "USDT", uTime := none
      state := "filled" }
  cumulative := 100000000
  execPrice := 9900000000

def binanceMarket : FillReport where
  message := .binanceReport
    { eventType := "executionReport", execType := "TRADE", clientOrderId := "G1", orderId := 5
      side := "BUY", orderType := "MARKET", price := 0, cumulativeQty := 1, quantity := 1
      commission := 0, commissionAsset := "BNB", transactionTime := 1 }
  cumulative := 100000000
  execPrice := 9900000000

end PriceImprovement

end FillTally

end BptCore.OrderGateway
