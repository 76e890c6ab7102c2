import BptCore.Strategy.AvellanedaStoikov.InstrumentState

/-!
# Quoting

What the Avellaneda-Stoikov strategy does with its orders on a tick: a quote on either side that is
placed, moved or taken off, and an order that unwinds inventory at its bound. The functions work on
the desk and on one instrument.

* **`manageSide`** — one side's quote.
* **`sendUnwind`** — the unwind at the bound.
* **`maybeRequote`** — both sides and the unwind.
-/

namespace BptCore.Strategy

namespace AvellanedaStoikov

/-- What the strategy is configured with. The volatility gate, the markouts and the other signals
have their parameters in `signals`. -/
structure Config (Sig : Type) where
  signals : Signals Sig
  requoteThreshold : ℚ
  pauseBelowRpnlUsd : ℚ
  pauseCooldownS : ℚ
  sizer : Sizer
  /-- The exchanges of `venue_exec_` that are enabled. -/
  venueExec : List ExchangeId

/-- The desk and an instrument, with the calls of the gateway. -/
structure Work (Sig : Type) where
  desk : QuoteDesk
  st : InstrumentState Sig
  sent : List Sent := []

variable {Sig : Type} (cfg : Config Sig) (env : Surroundings)

/-- `send_limit_order`. -/
def sendLimitOrder (d : QuoteDesk) (st : InstrumentState Sig) (side : OrderSide) (price qty : ℚ) :
    QuoteDesk × Option Nat × List Sent :=
  if st.exchangeId ∈ cfg.venueExec then
    d.sendQuote env st.instrumentId st.exchangeId side price qty .quote
  else (d, none, [])

/-- `send_unwind_order`: an IOC limit order 20 bps through the mid. -/
def sendUnwindOrder (d : QuoteDesk) (st : InstrumentState Sig) (side : OrderSide) (mid qty : ℚ) :
    QuoteDesk × Option Nat × List Sent :=
  if st.exchangeId ∈ cfg.venueExec then
    let crossFactor : ℚ := 1 + 20 / 10000
    d.sendNewOrder env
      { instrumentId := st.instrumentId, exchangeId := some st.exchangeId, side := side
        type := .LIMIT, tif := .IOC
        price := match side with
          | .BUY => mid * crossFactor
          | .SELL => mid / crossFactor
        qty := qty }
      .unwindNormal
  else (d, none, [])

/-- How far the mid has moved against a quote since it was placed. -/
def adverseMove (side : OrderSide) (mid placedMid : ℚ) : ℚ :=
  match side with
  | .BUY => (mid - placedMid) / placedMid
  | .SELL => (placedMid - mid) / placedMid

/-- The quote of one side: cancelled, moved or placed. A handle that is set stays set until a report
ends its order, so that nothing is placed on a cancel. -/
def manageSide (w : Work Sig) (side : OrderSide) (mid : ℚ) (atCap suppressed : Bool)
    (newPx effQty : ℚ) : Work Sig :=
  let q := w.st.quoteSide side
  match q.handle with
  | some orderId =>
    if w.desk.live (some orderId) then
      let adverse := q.placedMid > 0 ∧ adverseMove side mid q.placedMid > cfg.requoteThreshold
      let stale := q.lastPrice > 0 ∧ |newPx - q.lastPrice| / q.lastPrice > cfg.requoteThreshold
      if atCap ∨ adverse ∨ suppressed then
        let r := w.desk.sendCancel env (some orderId)
        { w with desk := r.1, sent := w.sent ++ r.2 }
      else if stale then
        { w with
          st := w.st.setQuoteSide side { q with lastPrice := newPx, placedMid := mid }
          sent := w.sent ++ w.desk.modifyQuote env (some orderId) newPx effQty }
      else w
    else w
  | none =>
    if atCap ∨ suppressed then w
    else
      let r := sendLimitOrder cfg env w.desk w.st side newPx effQty
      { desk := r.1
        st := match r.2.1 with
          | some id => w.st.setQuoteSide side ⟨some id, newPx, mid⟩
          | none => w.st
        sent := w.sent ++ r.2.2 }

/-- The inventory unwind, when none is under way. -/
def unwindSide (w : Work Sig) (side : OrderSide) (mid effQty : ℚ) : Work Sig :=
  let r := sendUnwindOrder cfg env w.desk w.st side mid effQty
  { desk := r.1
    st := match r.2.1 with
      | some id => { w.st with hUnwind := some id }
      | none => w.st
    sent := w.sent ++ r.2.2 }

def unwindAtMax (w : Work Sig) (atMaxLong atMaxShort : Bool) (mid effQty : ℚ) : Work Sig :=
  if w.st.hUnwind = none then
    if atMaxLong then unwindSide cfg env w .SELL mid effQty
    else if atMaxShort then unwindSide cfg env w .BUY mid effQty
    else w
  else w

/-- `inventory_bid` and `inventory_ask`. -/
def inventoryBid (netQty maxInv : ℚ) : Bool := decide (netQty ≥ maxInv)

def inventoryAsk (netQty maxInv : ℚ) : Bool := decide (netQty ≤ -maxInv)

/-- `pause_active`: the pause against the time of the last tick. -/
def pauseActive (st : InstrumentState Sig) : Bool :=
  decide (st.pauseUntilNs > 0 ∧ st.lastTickNs < st.pauseUntilNs)

/-- `maybe_requote`, from the backoff on. -/
def requote (w : Work Sig) (netQty mid : ℚ) (equityE8 : Int) (quotes : QuoteTarget) : Work Sig :=
  let effQty := cfg.sizer.effectiveQty w.st.lastMid w.st.lotSize equityE8 w.st.exchange
  let maxInv := cfg.sizer.effectiveMaxInventory w.st.lastMid equityE8
  let signal := cfg.signals.suppressed w.st.signals quotes maxInv effQty
  let pause := pauseActive w.st
  let atMaxLong := inventoryBid netQty maxInv
  let atMaxShort := inventoryAsk netQty maxInv
  let w := manageSide cfg env w .BUY mid atMaxLong (signal.1 || pause) quotes.bid effQty
  let w := manageSide cfg env w .SELL mid atMaxShort (signal.2 || pause) quotes.ask effQty
  unwindAtMax cfg env w atMaxLong atMaxShort mid effQty

/-- After an exchange error quotes wait for the end of the backoff. -/
def maybeRequote (w : Work Sig) (netQty mid : ℚ) (equityE8 : Int) (quotes : QuoteTarget) :
    Work Sig :=
  if w.st.rejectBackoffUntilNs > 0 ∧ env.simNs < w.st.rejectBackoffUntilNs then w
  else
    requote cfg env { w with st := { w.st with rejectBackoffUntilNs := 0 } } netQty mid equityE8
      quotes

/-- The cancels of a halt, of a pause and of stale refdata. -/
def cancelQuotes (w : Work Sig) : Work Sig :=
  let bid := w.desk.sendCancel env w.st.bid.handle
  let ask := bid.1.sendCancel env w.st.ask.handle
  { w with desk := ask.1, sent := w.sent ++ bid.2 ++ ask.2 }

/-! ## What the steps come to -/

/-- A send goes through the desk, or the venue is off. -/
theorem sendLimitOrder_cases (d : QuoteDesk) (st : InstrumentState Sig) (side : OrderSide)
    (price qty : ℚ) :
    sendLimitOrder cfg env d st side price qty = (d, none, []) ∨
      sendLimitOrder cfg env d st side price qty =
        d.sendQuote env st.instrumentId st.exchangeId side price qty .quote := by
  unfold sendLimitOrder
  split
  · exact .inr rfl
  · exact .inl rfl

/-- What is done about a side: nothing, a cancel, a modify, or a new quote in an empty slot. The
last two are for a side that is neither at its bound nor suppressed. -/
theorem manageSide_cases (w : Work Sig) (side : OrderSide) (mid : ℚ) (atCap suppressed : Bool)
    (newPx effQty : ℚ) :
    manageSide cfg env w side mid atCap suppressed newPx effQty = w ∨
    (∃ orderId, w.st.handle (.ofOrder .quote side) = some orderId ∧
      manageSide cfg env w side mid atCap suppressed newPx effQty =
        { w with
          desk := (w.desk.sendCancel env (some orderId)).1
          sent := w.sent ++ (w.desk.sendCancel env (some orderId)).2 }) ∨
    (∃ orderId q, w.st.handle (.ofOrder .quote side) = some orderId ∧ q.handle = some orderId ∧
      atCap = false ∧ suppressed = false ∧
      manageSide cfg env w side mid atCap suppressed newPx effQty =
        { w with
          st := w.st.setQuoteSide side q
          sent := w.sent ++ w.desk.modifyQuote env (some orderId) newPx effQty }) ∨
    (w.st.handle (.ofOrder .quote side) = none ∧ atCap = false ∧ suppressed = false ∧
      manageSide cfg env w side mid atCap suppressed newPx effQty =
        { desk := (sendLimitOrder cfg env w.desk w.st side newPx effQty).1
          st := match (sendLimitOrder cfg env w.desk w.st side newPx effQty).2.1 with
            | some id => w.st.setQuoteSide side ⟨some id, newPx, mid⟩
            | none => w.st
          sent := w.sent ++ (sendLimitOrder cfg env w.desk w.st side newPx effQty).2.2 }) := by
  generalize hout : manageSide cfg env w side mid atCap suppressed newPx effQty = out
  rw [← InstrumentState.handle_quoteSide]
  unfold manageSide at hout
  dsimp only at hout
  cases hhandle : (w.st.quoteSide side).handle with
  | some orderId =>
    rw [hhandle] at hout
    dsimp only at hout
    split at hout
    · split at hout
      · exact .inr (.inl ⟨orderId, rfl, hout.symm⟩)
      · next hcalm =>
        simp only [not_or, Bool.not_eq_true] at hcalm
        split at hout
        · exact .inr (.inr (.inl ⟨orderId, _, rfl, rfl, hcalm.1, hcalm.2.2, hout.symm⟩))
        · exact .inl hout.symm
    · exact .inl hout.symm
  | none =>
    rw [hhandle] at hout
    dsimp only at hout
    split at hout
    · exact .inl hout.symm
    · next hcalm =>
      simp only [not_or, Bool.not_eq_true] at hcalm
      exact .inr (.inr (.inr ⟨rfl, hcalm.1, hcalm.2, hout.symm⟩))

/-- An unwind is sent when none is under way, against the side that is at its bound. -/
theorem unwindAtMax_cases (w : Work Sig) (atMaxLong atMaxShort : Bool) (mid effQty : ℚ) :
    unwindAtMax cfg env w atMaxLong atMaxShort mid effQty = w ∨
      ∃ side, w.st.hUnwind = none ∧ (side = .SELL ∧ atMaxLong ∨ side = .BUY ∧ atMaxShort) ∧
        unwindAtMax cfg env w atMaxLong atMaxShort mid effQty =
          unwindSide cfg env w side mid effQty := by
  unfold unwindAtMax
  split
  · next hnone =>
    split
    · next hlong => exact .inr ⟨.SELL, hnone, .inl ⟨rfl, hlong⟩, rfl⟩
    · split
      · next hshort => exact .inr ⟨.BUY, hnone, .inr ⟨rfl, hshort⟩, rfl⟩
      · exact .inl rfl
  · exact .inl rfl

end AvellanedaStoikov

end BptCore.Strategy
